import Mathlib.Data.Fintype.Card
import Mathlib.Logic.Relation

/-!
# Depth-first search with a visited set

A search goes from a node to the nodes it holds, and reports what it finds on the way. Some nodes
carry a mark: a node whose mark has been seen is not entered again, which is what ends the search on
a cyclic graph. A node without a mark is entered each time it is met, and leads only to nodes of
smaller rank until a marked one comes.

The nodes are met along labels (a path, for example), and a finding may show the label it was made
at. What is found does not depend on it: `exists_visit` says that the search ends, and
`mem_findings_iff` that it finds what the reachable nodes hold, and nothing else.
-/

namespace DepthFirst

structure Search (Node Mark Label Finding : Type) where
  mark : Node → Option Mark
  /-- What is found at the node itself, to be reported at the label it was met under. -/
  found : Node → List (Label → Finding)
  /-- The nodes to go on to, in order, with the step their labels take. -/
  next : Node → List (Node × (Label → Label))
  mark_inj : ∀ {a b : Node} {m : Mark}, mark a = some m → mark b = some m → a = b
  exists_rank : ∃ rank : Node → ℕ, ∀ {a : Node}, mark a = none → ∀ b ∈ next a, rank b.1 < rank a

structure Progress (Mark Finding : Type) where
  seen : Finset Mark
  findings : List Finding

variable {Node Mark Label Finding : Type}

namespace Progress

/-- Everything seen and found before is there after. -/
def Extends (p q : Progress Mark Finding) : Prop :=
  p.seen ⊆ q.seen ∧ p.findings ⊆ q.findings

theorem Extends.refl (p : Progress Mark Finding) : p.Extends p :=
  ⟨Finset.Subset.refl _, List.Subset.refl _⟩

theorem Extends.trans {p q r : Progress Mark Finding} (hpq : p.Extends q) (hqr : q.Extends r) :
    p.Extends r :=
  ⟨Finset.Subset.trans hpq.1 hqr.1, List.Subset.trans hpq.2 hqr.2⟩

def add (p : Progress Mark Finding) (findings : List Finding) : Progress Mark Finding :=
  { p with findings := p.findings ++ findings }

def enter [DecidableEq Mark] (p : Progress Mark Finding) (m : Mark) : Progress Mark Finding :=
  { p with seen := insert m p.seen }

theorem extends_add (p : Progress Mark Finding) (findings : List Finding) :
    p.Extends (p.add findings) :=
  ⟨Finset.Subset.refl _, List.subset_append_left _ _⟩

theorem extends_enter [DecidableEq Mark] (p : Progress Mark Finding) (m : Mark) :
    p.Extends (p.enter m) :=
  ⟨Finset.subset_insert _ _, List.Subset.refl _⟩

end Progress

namespace Search

variable [DecidableEq Mark] (S : Search Node Mark Label Finding)

/-- The findings of a node at a label. -/
def foundAt (node : Node) (label : Label) : List Finding := (S.found node).map fun f ↦ f label

/-- Search from a node; `none` if the recursion goes deeper than the fuel. -/
def visit : ℕ → Node → Label → Progress Mark Finding → Option (Progress Mark Finding)
  | 0, _, _, _ => none
  | fuel + 1, node, label, p =>
    let descend (p : Progress Mark Finding) :=
      (S.next node).foldlM (fun p child ↦ visit fuel child.1 (child.2 label) p)
        (p.add (S.foundAt node label))
    match S.mark node with
    | none => descend p
    | some m => if m ∈ p.seen then some p else descend (p.enter m)

/-- Search from a node with nothing seen so far. -/
def run (fuel : ℕ) (root : Node) (label : Label) : Option (List Finding) :=
  (S.visit fuel root label ⟨∅, []⟩).map Progress.findings

/-- One node leads to the other. -/
def Follows (a b : Node) : Prop := ∃ step, (b, step) ∈ S.next a

def Reaches : Node → Node → Prop := Relation.ReflTransGen S.Follows

variable {S}

/-! ### The steps of one visit -/

/-- The nodes a visit goes on to, one after another. -/
def descent (S : Search Node Mark Label Finding) (fuel : ℕ) (label : Label)
    (children : List (Node × (Label → Label))) (p : Progress Mark Finding) :
    Option (Progress Mark Finding) :=
  children.foldlM (fun p child ↦ S.visit fuel child.1 (child.2 label) p) p

@[simp] theorem descent_nil (fuel : ℕ) (label : Label) (p : Progress Mark Finding) :
    descent S fuel label [] p = some p := rfl

theorem descent_cons_eq_some {fuel : ℕ} {label : Label} {child : Node × (Label → Label)}
    {children : List (Node × (Label → Label))} {p q : Progress Mark Finding} :
    descent S fuel label (child :: children) p = some q ↔
      ∃ mid, S.visit fuel child.1 (child.2 label) p = some mid ∧
        descent S fuel label children mid = some q := by
  rw [descent, List.foldlM_cons]
  exact Option.bind_eq_some_iff

theorem visit_plain {fuel : ℕ} {node : Node} {label : Label} {p : Progress Mark Finding}
    (hmark : S.mark node = none) :
    S.visit (fuel + 1) node label p =
      descent S fuel label (S.next node) (p.add (S.foundAt node label)) := by
  rw [visit]
  simp only [hmark]
  rfl

theorem visit_seen {fuel : ℕ} {node : Node} {label : Label} {p : Progress Mark Finding} {m : Mark}
    (hmark : S.mark node = some m) (hseen : m ∈ p.seen) :
    S.visit (fuel + 1) node label p = some p := by
  rw [visit]
  simp only [hmark, if_pos hseen]

theorem visit_fresh {fuel : ℕ} {node : Node} {label : Label} {p : Progress Mark Finding} {m : Mark}
    (hmark : S.mark node = some m) (hfresh : m ∉ p.seen) :
    S.visit (fuel + 1) node label p =
      descent S fuel label (S.next node) ((p.enter m).add (S.foundAt node label)) := by
  rw [visit]
  simp only [hmark, if_neg hfresh]
  rfl

/-- What a visit that returns has done: passed by a node it has seen, or entered the node and gone
through the ones it holds. -/
theorem visit_cases {fuel : ℕ} {node : Node} {label : Label} {p q : Progress Mark Finding}
    (hvisit : S.visit fuel node label p = some q) :
    (∃ m ∈ p.seen, S.mark node = some m ∧ q = p) ∨
    ∃ fuel' p', fuel = fuel' + 1 ∧
      descent S fuel' label (S.next node) (p'.add (S.foundAt node label)) = some q ∧
      (S.mark node = none ∧ p' = p ∨
        ∃ m, S.mark node = some m ∧ m ∉ p.seen ∧ p' = p.enter m) := by
  obtain _ | fuel := fuel
  · rw [visit] at hvisit
    exact absurd hvisit (by simp)
  · rcases hmark : S.mark node with _ | m
    · rw [visit_plain hmark] at hvisit
      exact Or.inr ⟨fuel, p, rfl, hvisit, Or.inl ⟨rfl, rfl⟩⟩
    · by_cases hseen : m ∈ p.seen
      · rw [visit_seen hmark hseen] at hvisit
        exact Or.inl ⟨m, hseen, rfl, (Option.some.inj hvisit).symm⟩
      · rw [visit_fresh hmark hseen] at hvisit
        exact Or.inr ⟨fuel, p.enter m, rfl, hvisit, Or.inr ⟨m, rfl, hseen, rfl⟩⟩

/-! ### What a visit adds -/

theorem descent_extends {fuel : ℕ}
    (hvisit : ∀ {node : Node} {label : Label} {p q : Progress Mark Finding},
      S.visit fuel node label p = some q → p.Extends q)
    {label : Label} {children : List (Node × (Label → Label))} {p q : Progress Mark Finding}
    (hdescent : descent S fuel label children p = some q) : p.Extends q := by
  induction children generalizing p with
  | nil =>
    rw [descent_nil] at hdescent
    rw [← Option.some.inj hdescent]
    exact .refl p
  | cons child children ih =>
    obtain ⟨mid, hmid, hrest⟩ := descent_cons_eq_some.mp hdescent
    exact (hvisit hmid).trans (ih hrest)

theorem visit_extends {fuel : ℕ} {node : Node} {label : Label} {p q : Progress Mark Finding}
    (hvisit : S.visit fuel node label p = some q) : p.Extends q := by
  induction fuel generalizing node label p q with
  | zero => exact absurd hvisit (by simp [visit])
  | succ fuel ih =>
    rcases visit_cases hvisit with ⟨_, _, _, rfl⟩ | ⟨fuel', p', hfuel, hdescent, hentered⟩
    · exact .refl q
    · obtain rfl : fuel = fuel' := by omega
      have hrest := (p'.extends_add (S.foundAt node label)).trans (descent_extends ih hdescent)
      rcases hentered with ⟨_, rfl⟩ | ⟨m, _, _, rfl⟩
      · exact hrest
      · exact (p.extends_enter m).trans hrest

/-- Everything in `q` was in `p` already, or a node the search reaches from `node` holds it. -/
def Sound (S : Search Node Mark Label Finding) (node : Node) (p q : Progress Mark Finding) : Prop :=
  ∀ x ∈ q.findings, x ∈ p.findings ∨
    ∃ reached, S.Reaches node reached ∧ ∃ f ∈ S.found reached, ∃ label, x = f label

theorem descent_sound {fuel : ℕ} {node : Node}
    (hvisit : ∀ {node : Node} {label : Label} {p q : Progress Mark Finding},
      S.visit fuel node label p = some q → Sound S node p q)
    {label : Label} {children : List (Node × (Label → Label))}
    (hchildren : ∀ child ∈ children, S.Follows node child.1) {p q : Progress Mark Finding}
    (hdescent : descent S fuel label children p = some q) : Sound S node p q := by
  induction children generalizing p with
  | nil =>
    rw [descent_nil] at hdescent
    rw [← Option.some.inj hdescent]
    exact fun x hx ↦ Or.inl hx
  | cons child children ih =>
    obtain ⟨mid, hmid, hrest⟩ := descent_cons_eq_some.mp hdescent
    intro x hx
    rcases ih (fun child hchild ↦ hchildren child (.tail _ hchild)) hrest x hx with hx | hx
    · rcases hvisit hmid x hx with hx | ⟨reached, hreaches, hx⟩
      · exact Or.inl hx
      · exact Or.inr ⟨reached, .head (hchildren child (.head _)) hreaches, hx⟩
    · exact Or.inr hx

theorem visit_sound {fuel : ℕ} {node : Node} {label : Label} {p q : Progress Mark Finding}
    (hvisit : S.visit fuel node label p = some q) : Sound S node p q := by
  induction fuel generalizing node label p q with
  | zero => exact absurd hvisit (by simp [visit])
  | succ fuel ih =>
    rcases visit_cases hvisit with ⟨_, _, _, rfl⟩ | ⟨fuel', p', hfuel, hdescent, hentered⟩
    · exact fun x hx ↦ Or.inl hx
    · obtain rfl : fuel = fuel' := by omega
      have hkept : p'.findings = p.findings := by
        rcases hentered with ⟨_, rfl⟩ | ⟨m, _, _, rfl⟩ <;> rfl
      have hsound := descent_sound ih (fun child hchild ↦ ⟨child.2, hchild⟩) hdescent
      intro x hx
      rcases hsound x hx with hx | hx
      · rw [Progress.add, List.mem_append, hkept, foundAt, List.mem_map] at hx
        rcases hx with hx | ⟨f, hf, rfl⟩
        · exact Or.inl hx
        · exact Or.inr ⟨node, .refl, f, hf, label, rfl⟩
      · exact Or.inr hx

/-! ### What a visit leaves to do -/

/-- What is found at the node has been reported, at some label. -/
def Reported (S : Search Node Mark Label Finding) (q : Progress Mark Finding) (node : Node) : Prop :=
  ∀ f ∈ S.found node, ∃ label, f label ∈ q.findings

/-- Nothing is left to do at the node: it has been seen, or it is reported and nothing is left to do
at the nodes it holds. -/
inductive Settled (S : Search Node Mark Label Finding) (q : Progress Mark Finding) : Node → Prop
  | seen {node : Node} {m : Mark} (hmark : S.mark node = some m) (hseen : m ∈ q.seen) :
    Settled S q node
  | plain {node : Node} (hmark : S.mark node = none) (hreported : Reported S q node)
    (hnext : ∀ child, S.Follows node child → Settled S q child) : Settled S q node

/-- Each node seen since `p` is reported, with nothing left to do at the nodes it holds. -/
def Covers (S : Search Node Mark Label Finding) (p q : Progress Mark Finding) : Prop :=
  ∀ node m, S.mark node = some m → m ∈ q.seen → m ∉ p.seen →
    Reported S q node ∧ ∀ child, S.Follows node child → Settled S q child

omit [DecidableEq Mark] in
theorem Reported.mono {q r : Progress Mark Finding} {node : Node} (hreported : Reported S q node)
    (hqr : q.Extends r) : Reported S r node := by
  intro f hf
  obtain ⟨label, hmem⟩ := hreported f hf
  exact ⟨label, hqr.2 hmem⟩

omit [DecidableEq Mark] in
theorem Settled.mono {q r : Progress Mark Finding} {node : Node} (hsettled : Settled S q node)
    (hqr : q.Extends r) : Settled S r node := by
  induction hsettled with
  | seen hmark hseen => exact .seen hmark (hqr.1 hseen)
  | plain hmark hreported _ ih => exact .plain hmark (hreported.mono hqr) ih

omit [DecidableEq Mark] in
theorem covers_refl (p : Progress Mark Finding) : Covers S p p :=
  fun _ _ _ hseen hfresh ↦ absurd hseen hfresh

theorem Covers.trans {p q r : Progress Mark Finding} (hpq : Covers S p q) (hqr : Covers S q r)
    (hextends : q.Extends r) : Covers S p r := by
  intro node m hmark hseen hfresh
  by_cases hmid : m ∈ q.seen
  · obtain ⟨hreported, hnext⟩ := hpq node m hmark hmid hfresh
    exact ⟨hreported.mono hextends, fun child hchild ↦ (hnext child hchild).mono hextends⟩
  · exact hqr node m hmark hseen hmid

theorem descent_settles {fuel : ℕ}
    (hvisit : ∀ {node : Node} {label : Label} {p q : Progress Mark Finding},
      S.visit fuel node label p = some q → Settled S q node ∧ Covers S p q)
    {label : Label} {children : List (Node × (Label → Label))} {p q : Progress Mark Finding}
    (hdescent : descent S fuel label children p = some q) :
    (∀ child ∈ children, Settled S q child.1) ∧ Covers S p q := by
  induction children generalizing p with
  | nil =>
    rw [descent_nil] at hdescent
    rw [← Option.some.inj hdescent]
    exact ⟨by simp, covers_refl p⟩
  | cons child children ih =>
    obtain ⟨mid, hmid, hrest⟩ := descent_cons_eq_some.mp hdescent
    have hextends : mid.Extends q := descent_extends visit_extends hrest
    obtain ⟨hsettled, hcovers⟩ := ih hrest
    obtain ⟨hchild, hfirst⟩ := hvisit hmid
    refine ⟨fun other hother ↦ ?_, hfirst.trans hcovers hextends⟩
    rcases List.mem_cons.mp hother with rfl | hother
    · exact hchild.mono hextends
    · exact hsettled other hother

/-- A visit leaves nothing to do at its node, nor at any node it has marked on the way. -/
theorem visit_settles {fuel : ℕ} {node : Node} {label : Label} {p q : Progress Mark Finding}
    (hvisit : S.visit fuel node label p = some q) : Settled S q node ∧ Covers S p q := by
  induction fuel generalizing node label p q with
  | zero => exact absurd hvisit (by simp [visit])
  | succ fuel ih =>
    rcases visit_cases hvisit with ⟨m, hseen, hmark, rfl⟩ | ⟨fuel', p', hfuel, hdescent, hentered⟩
    · exact ⟨.seen hmark hseen, covers_refl q⟩
    · obtain rfl : fuel = fuel' := by omega
      obtain ⟨hchildren, hcovers⟩ := descent_settles ih hdescent
      have hextends := descent_extends visit_extends hdescent
      have hreported : Reported S q node := by
        intro f hf
        refine ⟨label, hextends.2 ?_⟩
        exact List.mem_append_right _ (List.mem_map.mpr ⟨f, hf, rfl⟩)
      have hnext : ∀ child, S.Follows node child → Settled S q child :=
        fun child ⟨step, hstep⟩ ↦ hchildren (child, step) hstep
      rcases hentered with ⟨hmark, rfl⟩ | ⟨m, hmark, hfresh, rfl⟩
      · exact ⟨.plain hmark hreported hnext, hcovers⟩
      · have hm : m ∈ q.seen := hextends.1 (Finset.mem_insert_self m p.seen)
        refine ⟨.seen hmark hm, fun other m' hmark' hseen' hfresh' ↦ ?_⟩
        by_cases hsame : m' = m
        · obtain rfl : other = node := S.mark_inj hmark' (hsame ▸ hmark)
          exact ⟨hreported, hnext⟩
        · refine hcovers other m' hmark' hseen' fun hmem ↦ ?_
          rcases Finset.mem_insert.mp hmem with rfl | hmem
          · exact hsame rfl
          · exact hfresh' hmem

/-! ### Enough fuel -/

theorem descent_mono {fuel fuel' : ℕ}
    (hvisit : ∀ {node : Node} {label : Label} {p q : Progress Mark Finding},
      S.visit fuel node label p = some q → S.visit fuel' node label p = some q)
    {label : Label} {children : List (Node × (Label → Label))} {p q : Progress Mark Finding}
    (hdescent : descent S fuel label children p = some q) :
    descent S fuel' label children p = some q := by
  induction children generalizing p with
  | nil => exact hdescent
  | cons child children ih =>
    obtain ⟨mid, hmid, hrest⟩ := descent_cons_eq_some.mp hdescent
    exact descent_cons_eq_some.mpr ⟨mid, hvisit hmid, ih hrest⟩

theorem visit_succ {fuel : ℕ} {node : Node} {label : Label} {p q : Progress Mark Finding}
    (hvisit : S.visit fuel node label p = some q) : S.visit (fuel + 1) node label p = some q := by
  induction fuel generalizing node label p q with
  | zero => exact absurd hvisit (by simp [visit])
  | succ fuel ih =>
    rcases visit_cases hvisit with ⟨m, hseen, hmark, rfl⟩ | ⟨fuel', p', hfuel, hdescent, hentered⟩
    · exact visit_seen hmark hseen
    · obtain rfl : fuel = fuel' := by omega
      rcases hentered with ⟨hmark, rfl⟩ | ⟨m, hmark, hfresh, rfl⟩
      · rw [visit_plain hmark]
        exact descent_mono ih hdescent
      · rw [visit_fresh hmark hfresh]
        exact descent_mono ih hdescent

theorem visit_mono {fuel fuel' : ℕ} (hle : fuel ≤ fuel') {node : Node} {label : Label}
    {p q : Progress Mark Finding} (hvisit : S.visit fuel node label p = some q) :
    S.visit fuel' node label p = some q := by
  induction hle with
  | refl => exact hvisit
  | step _ ih => exact visit_succ ih

theorem run_mono {fuel fuel' : ℕ} (hle : fuel ≤ fuel') {root : Node} {label : Label}
    {findings : List Finding} (hrun : S.run fuel root label = some findings) :
    S.run fuel' root label = some findings := by
  rw [run, Option.map_eq_some_iff] at hrun ⊢
  obtain ⟨q, hvisit, hfindings⟩ := hrun
  exact ⟨q, visit_mono hle hvisit, hfindings⟩

section Returns

variable [Fintype Mark]

theorem card_compl_le_of_extends {p q : Progress Mark Finding} (hextends : p.Extends q) :
    q.seenᶜ.card ≤ p.seenᶜ.card :=
  Finset.card_le_card (Finset.compl_subset_compl.mpr hextends.1)

theorem card_compl_enter_lt {p : Progress Mark Finding} {m : Mark} (hfresh : m ∉ p.seen) :
    (p.enter m).seenᶜ.card < p.seenᶜ.card := by
  refine Finset.card_lt_card (Finset.compl_ssubset_compl.mpr ?_)
  exact Finset.ssubset_insert hfresh

theorem descent_returns {bound : ℕ} (label : Label) (children : List (Node × (Label → Label)))
    (hvisit : ∀ child ∈ children, ∀ (label : Label) (p : Progress Mark Finding),
      p.seenᶜ.card ≤ bound → ∃ fuel q, S.visit fuel child.1 label p = some q)
    {p : Progress Mark Finding} (hp : p.seenᶜ.card ≤ bound) :
    ∃ fuel q, descent S fuel label children p = some q := by
  induction children generalizing p with
  | nil => exact ⟨0, p, rfl⟩
  | cons child children ih =>
    obtain ⟨fuel, mid, hmid⟩ := hvisit child (.head _) (child.2 label) p hp
    have hle : mid.seenᶜ.card ≤ bound := (card_compl_le_of_extends (visit_extends hmid)).trans hp
    obtain ⟨fuel', q, hq⟩ := ih (fun child hchild ↦ hvisit child (.tail _ hchild)) hle
    refine ⟨max fuel fuel', q, descent_cons_eq_some.mpr ⟨mid, ?_, ?_⟩⟩
    · exact visit_mono (le_max_left _ _) hmid
    · exact descent_mono (visit_mono (le_max_right _ _)) hq

/-- A search comes to an end: entering a marked node leaves fewer marks to see, and entering any
other node leads to nodes of smaller rank. -/
theorem visit_returns (node : Node) (label : Label) (p : Progress Mark Finding) :
    ∃ fuel q, S.visit fuel node label p = some q := by
  obtain ⟨rankOf, hrankOf⟩ := S.exists_rank
  induction hbound : p.seenᶜ.card using Nat.strong_induction_on
    generalizing node label p with
  | _ bound ihSeen =>
  induction hrank : rankOf node using Nat.strong_induction_on generalizing node label p with
  | _ rank ihRank =>
  rcases hmark : S.mark node with _ | m
  · obtain ⟨fuel, q, hq⟩ := descent_returns (S := S) label (S.next node)
      (p := p.add (S.foundAt node label)) (fun child hchild label p hp ↦ by
        rcases hp.lt_or_eq with hlt | heq
        · exact ihSeen _ hlt child.1 label p rfl
        · exact ihRank _ (hrank ▸ hrankOf hmark child hchild) child.1 label p heq rfl) hbound.le
    exact ⟨fuel + 1, q, (visit_plain hmark).trans hq⟩
  · by_cases hseen : m ∈ p.seen
    · exact ⟨1, p, visit_seen hmark hseen⟩
    · have hlt : (p.enter m).seenᶜ.card < bound := hbound ▸ card_compl_enter_lt hseen
      obtain ⟨fuel, q, hq⟩ := descent_returns (S := S) label (S.next node)
        (p := (p.enter m).add (S.foundAt node label))
        (fun child _ label p hp ↦ ihSeen _ (hp.trans_lt hlt) child.1 label p rfl) le_rfl
      exact ⟨fuel + 1, q, (visit_fresh hmark hseen).trans hq⟩

/-- The search returns, and with more fuel it returns the same. -/
theorem exists_run (S : Search Node Mark Label Finding) (root : Node) (label : Label) :
    ∃ fuel findings, ∀ fuel', fuel ≤ fuel' → S.run fuel' root label = some findings := by
  obtain ⟨fuel, q, hq⟩ := visit_returns (S := S) root label ⟨∅, []⟩
  refine ⟨fuel, q.findings, fun fuel' hle ↦ run_mono hle ?_⟩
  rw [run, hq, Option.map_some]

end Returns

/-! ### What a search finds -/

omit [DecidableEq Mark] in
/-- If nothing is left to do at a node, nothing is left to do at the nodes it reaches. -/
theorem Settled.reported {q : Progress Mark Finding} (hcovers : Covers S ⟨∅, []⟩ q)
    {node reached : Node} (hreaches : S.Reaches node reached) (hsettled : Settled S q node) :
    Reported S q reached := by
  have hopen : ∀ {node : Node}, Settled S q node →
      Reported S q node ∧ ∀ child, S.Follows node child → Settled S q child := by
    intro node hsettled
    cases hsettled with
    | seen hmark hseen => exact hcovers _ _ hmark hseen (Finset.notMem_empty _)
    | plain _ hreported hnext => exact ⟨hreported, hnext⟩
  induction hreaches using Relation.ReflTransGen.head_induction_on with
  | refl => exact (hopen hsettled).1
  | head hfollows _ ih => exact ih ((hopen hsettled).2 _ hfollows)

variable {fuel : ℕ} {root : Node} {label : Label} {findings : List Finding}

/-- Whatever a reachable node holds is reported, at some label. -/
theorem exists_mem_findings (hrun : S.run fuel root label = some findings) {node : Node}
    (hreaches : S.Reaches root node) {f : Label → Finding} (hf : f ∈ S.found node) :
    ∃ label', f label' ∈ findings := by
  rw [run, Option.map_eq_some_iff] at hrun
  obtain ⟨q, hvisit, rfl⟩ := hrun
  obtain ⟨hsettled, hcovers⟩ := visit_settles hvisit
  exact hsettled.reported hcovers hreaches f hf

/-- Whatever is reported is held by a reachable node. -/
theorem reaches_of_mem_findings (hrun : S.run fuel root label = some findings) {x : Finding}
    (hx : x ∈ findings) :
    ∃ node, S.Reaches root node ∧ ∃ f ∈ S.found node, ∃ label', x = f label' := by
  rw [run, Option.map_eq_some_iff] at hrun
  obtain ⟨q, hvisit, rfl⟩ := hrun
  exact (visit_sound hvisit x hx).resolve_left List.not_mem_nil

/-- A search reports something just when a reachable node holds something. -/
theorem findings_ne_nil_iff (hrun : S.run fuel root label = some findings) :
    findings ≠ [] ↔ ∃ node, S.Reaches root node ∧ S.found node ≠ [] := by
  constructor
  · intro hne
    obtain ⟨x, hx⟩ := List.exists_mem_of_ne_nil _ hne
    obtain ⟨node, hreaches, f, hf, -⟩ := reaches_of_mem_findings hrun hx
    exact ⟨node, hreaches, List.ne_nil_of_mem hf⟩
  · rintro ⟨node, hreaches, hne⟩
    obtain ⟨f, hf⟩ := List.exists_mem_of_ne_nil _ hne
    obtain ⟨label', hmem⟩ := exists_mem_findings hrun hreaches hf
    exact List.ne_nil_of_mem hmem

end Search

end DepthFirst
