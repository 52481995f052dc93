import Mathlib.Algebra.BigOperators.Group.Finset.Basic
import Mathlib.Algebra.Order.BigOperators.Group.Finset
import ThrevoActions.Interleaving.Program

/-!
# Concurrent calls over a shared state

A machine runs any number of calls over one shared state. A call is a program started by a
request; a step of the machine either starts another call, lets one call perform its next
operation, or lets the environment move on its own (`drift`: time passing, for instance). The
order in which calls are scheduled is arbitrary, so a statement about every reachable
configuration is a statement about every interleaving.

## The log

Every performed operation is logged with its caller and with the shared state before and after
it. The log determines what each call did so far (`historyOf`), and this is where the two levels
of reasoning meet: a `Contract` is proved of each program on its own, and `Reachable.issued` then
says that every logged operation was issued lawfully with respect to the history of its own
caller, whatever the other calls did in between. Global facts follow by `Reachable.log_induction`.
-/

namespace Interleaving

variable {S : Signature} {ε σ ρ α : Type}

/-- One performed operation: who performed it, what was answered, and the shared state around
it. -/
structure Entry (S : Signature) (ε σ : Type) where
  caller : ℕ
  event : Event S ε
  before : σ
  after : σ

/-- All performed operations, newest first. -/
abbrev Log (S : Signature) (ε σ : Type) := List (Entry S ε σ)

/-- What call `i` did, according to the log. -/
def historyOf : Log S ε σ → ℕ → History S ε
  | [], _ => []
  | e :: log, i => if e.caller = i then e.event :: historyOf log i else historyOf log i

@[simp] theorem historyOf_nil (i : ℕ) : historyOf ([] : Log S ε σ) i = [] := rfl

@[simp] theorem historyOf_cons_self (e : Entry S ε σ) (log : Log S ε σ) :
    historyOf (e :: log) e.caller = e.event :: historyOf log e.caller := if_pos rfl

theorem historyOf_cons_of_ne {e : Entry S ε σ} {i : ℕ} (h : e.caller ≠ i) (log : Log S ε σ) :
    historyOf (e :: log) i = historyOf log i := if_neg h

theorem mem_historyOf {log : Log S ε σ} {i : ℕ} {ev : Event S ε} :
    ev ∈ historyOf log i ↔ ∃ e ∈ log, e.caller = i ∧ e.event = ev := by
  induction log with
  | nil => simp
  | cons e log ih =>
    rw [historyOf]
    by_cases hc : e.caller = i
    · simp [hc, ih, eq_comm]
    · simp [hc, ih]

/-- A logged operation has a log before it. -/
theorem exists_suffix_of_mem {β : Type} {x : β} {l : List β} (h : x ∈ l) : ∃ xs, x :: xs <:+ l := by
  obtain ⟨front, xs, rfl⟩ := List.append_of_mem h
  exact ⟨xs, List.suffix_append _ _⟩

theorem historyOf_suffix {log log' : Log S ε σ} (h : log <:+ log') (i : ℕ) :
    historyOf log i <:+ historyOf log' i := by
  induction log' with
  | nil =>
    obtain rfl := List.suffix_nil.mp h
    exact List.suffix_refl _
  | cons e log' ih =>
    rcases List.suffix_cons_iff.mp h with rfl | h'
    · exact List.suffix_refl _
    · rw [historyOf]
      split_ifs
      · exact (ih h').trans (List.suffix_cons _ _)
      · exact ih h'

/-- Of two logged operations one precedes the other, or they are one. -/
theorem suffix_trichotomy {β : Type} {x y : β} {xs ys l : List β} (hx : x :: xs <:+ l)
    (hy : y :: ys <:+ l) : x :: xs = y :: ys ∨ x :: xs <:+ ys ∨ y :: ys <:+ xs := by
  rcases List.suffix_or_suffix_of_suffix hx hy with h | h
  · rcases List.suffix_cons_iff.mp h with heq | h
    · exact Or.inl heq
    · exact Or.inr (Or.inl h)
  · rcases List.suffix_cons_iff.mp h with heq | h
    · exact Or.inl heq.symm
    · exact Or.inr (Or.inr h)

/-- What precedes the end of a list belongs to its front. -/
theorem suffix_of_not_mem {β : Type} {x : β} {xs front rest : List β} (h : x :: xs <:+ front ++ rest)
    (hx : x ∉ front) : x :: xs <:+ rest := by
  induction front with
  | nil => exact h
  | cons y front ih =>
    rcases List.suffix_cons_iff.mp h with heq | h
    · exact absurd (List.cons.inj heq).1 (List.ne_of_not_mem_cons hx)
    · exact ih h (List.not_mem_of_not_mem_cons hx)

/-- If every element satisfying `p` is preceded by one of its own that satisfies `q`, with no other
`p` in between, then `p` holds at most as often as `q`. -/
theorem countP_le_of_preceded {β : Type} {p q : β → Bool} {l : List β}
    (h : ∀ x past, x :: past <:+ l → p x = true →
      ∃ between y older, past = between ++ y :: older ∧ q y = true ∧
        ∀ z ∈ between ++ [y], p z = false) :
    l.countP p ≤ l.countP q := by
  induction hlength : l.length using Nat.strong_induction_on generalizing l with
  | _ n ih =>
    cases l with
    | nil => exact Nat.le_refl _
    | cons x past =>
      have hshorter : ∀ older : List β, older <:+ past → older.countP p ≤ older.countP q := by
        intro older hsuffix
        refine ih older.length ?_ (fun x' past' hx' ↦ ?_) rfl
        · rw [← hlength, List.length_cons]
          exact Nat.lt_succ_of_le hsuffix.length_le
        · exact h x' past' ((hx'.trans hsuffix).trans (List.suffix_cons _ _))
      by_cases hx : p x = true
      · obtain ⟨between, y, older, rfl, hy, hbetween⟩ := h x past (List.suffix_refl _) hx
        have holder := hshorter older ⟨between ++ [y], by simp⟩
        have hnone : (between ++ [y]).countP p = 0 := by
          rw [List.countP_eq_zero]
          intro z hz
          rw [hbetween z hz]
          exact Bool.false_ne_true
        have hq : older.countP q + 1 ≤ (between ++ y :: older).countP q := by
          rw [List.countP_append, List.countP_cons_of_pos hy]
          omega
        have hqx := (List.sublist_cons_self x (between ++ y :: older)).countP_le (p := q)
        rw [List.append_cons] at hq hqx ⊢
        rw [List.countP_cons_of_pos hx, List.countP_append, hnone]
        omega
      · rw [List.countP_cons_of_neg hx]
        exact (hshorter past (List.suffix_refl _)).trans (List.sublist_cons_self x past).countP_le

/-- Every event of a history was logged, after what precedes it in the history. -/
theorem exists_entry_of_suffix {log : Log S ε σ} {i : ℕ} {ev : Event S ε} {past : History S ε}
    (h : ev :: past <:+ historyOf log i) :
    ∃ e older, e :: older <:+ log ∧ e.caller = i ∧ e.event = ev ∧ historyOf older i = past := by
  induction log with
  | nil => simp at h
  | cons e log ih =>
    by_cases hcaller : e.caller = i
    · rw [historyOf, if_pos hcaller] at h
      rcases List.suffix_cons_iff.mp h with heq | h
      · obtain ⟨rfl, rfl⟩ := List.cons.inj heq
        exact ⟨e, log, List.suffix_refl _, hcaller, rfl, rfl⟩
      · obtain ⟨e', older, hsuffix, hrest⟩ := ih h
        exact ⟨e', older, hsuffix.trans (List.suffix_cons _ _), hrest⟩
    · rw [historyOf_cons_of_ne hcaller] at h
      obtain ⟨e', older, hsuffix, hrest⟩ := ih h
      exact ⟨e', older, hsuffix.trans (List.suffix_cons _ _), hrest⟩

/-- The newest event of a history was logged after the rest of it. -/
theorem exists_entry_of_historyOf {log : Log S ε σ} {i : ℕ} {ev : Event S ε} {past : History S ε}
    (h : historyOf log i = ev :: past) :
    ∃ e older, e :: older <:+ log ∧ e.caller = i ∧ e.event = ev ∧ historyOf older i = past :=
  exists_entry_of_suffix (h ▸ List.suffix_refl (historyOf log i))

/-- What a call does that had done nothing yet when `x` was logged comes after `x`. -/
theorem suffix_of_historyOf_eq_nil {log older past : Log S ε σ} {x e : Entry S ε σ} {i : ℕ}
    (hx : x :: older <:+ log) (hnone : historyOf (x :: older) i = []) (he : e :: past <:+ log)
    (hcaller : e.caller = i) : x :: older <:+ past := by
  rcases suffix_trichotomy hx he with heq | h | h
  · rw [heq, ← hcaller, historyOf_cons_self] at hnone
    cases hnone
  · exact h
  · have hhistory := historyOf_suffix (h.trans (List.suffix_cons x older)) i
    rw [hnone, ← hcaller, historyOf_cons_self] at hhistory
    simp at hhistory

/-- Counting over a log is counting over the histories of its callers. -/
theorem countP_eq_sum_historyOf (p : Event S ε → Bool) {log : Log S ε σ} {n : ℕ}
    (hn : ∀ e ∈ log, e.caller < n) :
    log.countP (fun e ↦ p e.event) = ∑ i ∈ Finset.range n, (historyOf log i).countP p := by
  induction log with
  | nil => simp
  | cons e log ih =>
    have hcaller : e.caller ∈ Finset.range n :=
      Finset.mem_range.mpr (hn e List.mem_cons_self)
    have hrest : ∀ i ∈ (Finset.range n).erase e.caller,
        (historyOf (e :: log) i).countP p = (historyOf log i).countP p := by
      intro i hi
      rw [historyOf_cons_of_ne (Finset.ne_of_mem_erase hi).symm]
    rw [List.countP_cons, ih fun e' he' ↦ hn e' (List.mem_cons_of_mem _ he'),
      ← Finset.add_sum_erase _ _ hcaller, ← Finset.add_sum_erase _ _ hcaller,
      Finset.sum_congr rfl hrest, historyOf_cons_self, List.countP_cons]
    omega

/-- What happens at most as often as something else in every history does so in the log. -/
theorem countP_le_of_historyOf {p q : Event S ε → Bool} {log : Log S ε σ}
    (hle : ∀ i, (historyOf log i).countP p ≤ (historyOf log i).countP q) :
    log.countP (fun e ↦ p e.event) ≤ log.countP (fun e ↦ q e.event) := by
  obtain ⟨n, hn⟩ : ∃ n, ∀ e ∈ log, e.caller < n := by
    refine ⟨(log.map Entry.caller).sum + 1, fun e he ↦ ?_⟩
    exact Nat.lt_succ_of_le (List.le_sum_of_mem (List.mem_map_of_mem he))
  rw [countP_eq_sum_historyOf p hn, countP_eq_sum_historyOf q hn]
  exact Finset.sum_le_sum fun i _ ↦ hle i

/-! ## Machines and their configurations -/

/-- The shared state, the calls started so far with what is left of each, and the log. -/
structure Config (S : Signature) (ε σ ρ α : Type) where
  shared : σ
  calls : List (ρ × Program S ε α)
  log : Log S ε σ

/-- Programs started by requests of type `ρ`, operations acting on a shared state of type `σ`,
and moves of the environment, which may depend on what the calls are about to do. -/
structure Machine (S : Signature) (ε σ ρ α : Type) where
  program : ρ → Program S ε α
  exec : σ → (o : S.Op) → Except ε (S.Ans o) → σ → Prop
  drift : Config S ε σ ρ α → σ → Prop

/-- Nothing started yet. -/
def Config.initial (s : σ) : Config S ε σ ρ α := ⟨s, [], []⟩

inductive Step (M : Machine S ε σ ρ α) : Config S ε σ ρ α → Config S ε σ ρ α → Prop
  /-- A new call starts. -/
  | spawn (c : Config S ε σ ρ α) (q : ρ) :
      Step M c { c with calls := c.calls ++ [(q, M.program q)] }
  /-- Call `i` performs its next operation. -/
  | act (c : Config S ε σ ρ α) (i : ℕ) {q : ρ} {o : S.Op}
      {next : Except ε (S.Ans o) → Program S ε α} (r : Except ε (S.Ans o)) (s' : σ) :
      c.calls[i]? = some (q, .call o next) → M.exec c.shared o r s' →
      Step M c ⟨s', c.calls.set i (q, next r), ⟨i, ⟨o, r⟩, c.shared, s'⟩ :: c.log⟩
  /-- The environment moves. -/
  | drift (c : Config S ε σ ρ α) (s' : σ) : M.drift c s' →
      Step M c { c with shared := s' }

/-- The configurations some interleaving reaches from the shared state `s`. -/
inductive Reachable (M : Machine S ε σ ρ α) (s : σ) : Config S ε σ ρ α → Prop
  | initial : Reachable M s (Config.initial s)
  | step {c c' : Config S ε σ ρ α} : Reachable M s c → Step M c c' → Reachable M s c'

namespace Reachable

variable {M : Machine S ε σ ρ α} {s : σ} {c : Config S ε σ ρ α}

/-- Every logged operation was answered as the shared state at that moment prescribes. -/
theorem exec (hc : Reachable M s c) {e : Entry S ε σ} (he : e ∈ c.log) :
    M.exec e.before e.event.op e.event.answer e.after := by
  induction hc with
  | initial => cases he
  | step _ hstep ih =>
    cases hstep with
    | spawn => exact ih he
    | act i r s' _ hexec =>
      rcases List.mem_cons.mp he with rfl | he
      · exact hexec
      · exact ih he
    | drift => exact ih he

/-- A call that performed something was started before. -/
theorem caller_lt (hc : Reachable M s c) {e : Entry S ε σ} (he : e ∈ c.log) :
    e.caller < c.calls.length := by
  induction hc with
  | initial => cases he
  | step _ hstep ih =>
    cases hstep with
    | spawn => simpa using Nat.lt_succ_of_lt (ih he)
    | act i r s' hi _ =>
      rw [List.length_set]
      rcases List.mem_cons.mp he with rfl | he
      · exact (List.getElem?_eq_some_iff.mp hi).1
      · exact ih he
    | drift => exact ih he

/-- Every logged operation was performed in a reachable configuration, and led to one. -/
theorem at_entry (hc : Reachable M s c) {e : Entry S ε σ} {past : Log S ε σ}
    (he : e :: past <:+ c.log) :
    (∃ c', Reachable M s c' ∧ c'.log = past ∧ c'.shared = e.before) ∧
      ∃ c', Reachable M s c' ∧ c'.log = e :: past ∧ c'.shared = e.after := by
  induction hc with
  | initial => simp [Config.initial] at he
  | @step c c' hc hstep ih =>
    cases hstep with
    | spawn => exact ih he
    | act i r s' hi hexec =>
      rcases List.suffix_cons_iff.mp he with heq | he
      · obtain ⟨rfl, rfl⟩ := List.cons.inj heq
        exact ⟨⟨c, hc, rfl, rfl⟩, _, hc.step (.act c i r s' hi hexec), rfl, rfl⟩
      · exact ih he
    | drift => exact ih he

/-- **Every call executes its program**, with the history the log ascribes to it. -/
theorem executes {legal : (o : S.Op) → Except ε (S.Ans o) → Prop}
    (hlegal : ∀ s o r s', M.exec s o r s' → legal o r) (hc : Reachable M s c) {i : ℕ} {q : ρ}
    {p : Program S ε α} (hi : c.calls[i]? = some (q, p)) :
    Executes legal (M.program q) [] p (historyOf c.log i) := by
  induction hc generalizing i q p with
  | initial => simp [Config.initial] at hi
  | @step c c' hc hstep ih =>
    cases hstep with
    | spawn q' =>
      rcases Nat.lt_or_ge i c.calls.length with hlt | hge
      · exact ih (by rwa [List.getElem?_append_left hlt] at hi)
      · rw [List.getElem?_append_right hge, List.getElem?_singleton] at hi
        split_ifs at hi with hz
        cases hi
        have hnil : historyOf c.log i = [] := by
          rw [List.eq_nil_iff_forall_not_mem]
          intro ev hev
          obtain ⟨e, he, rfl, -⟩ := mem_historyOf.mp hev
          exact absurd (caller_lt hc he) (by omega)
        rw [hnil]
        exact .refl
    | act j r s' hj hexec =>
      by_cases hij : j = i
      · subst hij
        obtain ⟨hlt, -⟩ := List.getElem?_eq_some_iff.mp hj
        rw [List.getElem?_set_self hlt] at hi
        cases hi
        rw [historyOf, if_pos rfl]
        exact .step (ih hj) (hlegal _ _ _ _ hexec)
      · rw [List.getElem?_set_ne hij] at hi
        rw [historyOf, if_neg hij]
        exact ih hi
    | drift => exact ih hi

section Contracts

variable {C : Contract S ε} {Q : ρ → History S ε → Except ε α → Prop}

/-- **What is left of every call meets its contract** after the history the log ascribes to it. -/
theorem meets (hlegal : ∀ s o r s', M.exec s o r s' → C.legal o r)
    (hprogram : ∀ q, (M.program q).Meets C (Q q) []) (hc : Reachable M s c) {i : ℕ} {q : ρ}
    {p : Program S ε α} (hi : c.calls[i]? = some (q, p)) :
    p.Meets C (Q q) (historyOf c.log i) :=
  (hprogram q).executes (executes hlegal hc hi)

/-- **Every logged operation was issued lawfully**, judged by what its own caller had done. -/
theorem issued (hlegal : ∀ s o r s', M.exec s o r s' → C.legal o r)
    (hprogram : ∀ q, (M.program q).Meets C (Q q) []) (hc : Reachable M s c)
    {e : Entry S ε σ} {past : Log S ε σ} (he : e :: past <:+ c.log) :
    C.issues (historyOf past e.caller) e.event.op := by
  induction hc with
  | initial => simp [Config.initial] at he
  | @step c c' hc hstep ih =>
    cases hstep with
    | spawn => exact ih he
    | act i r s' hi hexec =>
      rcases List.suffix_cons_iff.mp he with heq | he
      · obtain ⟨rfl, rfl⟩ := List.cons.inj heq
        exact (meets hlegal hprogram hc hi).1
      · exact ih he
    | drift => exact ih he

/-- The same, for every event of the history of one call. -/
theorem issued_historyOf (hlegal : ∀ s o r s', M.exec s o r s' → C.legal o r)
    (hprogram : ∀ q, (M.program q).Meets C (Q q) []) (hc : Reachable M s c) {i : ℕ}
    {ev : Event S ε} {past : History S ε} (hev : ev :: past <:+ historyOf c.log i) :
    C.issues past ev.op := by
  obtain ⟨e, older, he, rfl, rfl, rfl⟩ := exists_entry_of_suffix hev
  exact issued hlegal hprogram hc he

/-- Starting a call and working on one leave the requests made before. -/
theorem requests_step {c c' : Config S ε σ ρ α} (hstep : Step M c c') {q : ρ}
    (hq : q ∈ c.calls.map Prod.fst) : q ∈ c'.calls.map Prod.fst := by
  cases hstep with
  | spawn q' =>
    rw [List.map_append]
    exact List.mem_append_left _ hq
  | act i r s' hi _ =>
    obtain ⟨j, hj⟩ := List.mem_iff_getElem?.mp hq
    rw [List.getElem?_map] at hj
    refine List.mem_of_getElem? (i := j) ?_
    rw [List.map_set, List.getElem?_set, List.getElem?_map]
    split_ifs with hij hlt
    · rw [← hij, hi] at hj
      exact hj
    · exact absurd (List.getElem?_eq_some_iff.mp hi).1 (by simpa using hlt)
    · exact hj
  | drift => exact hq

/-- **Induction along the log.** A property of log and shared state that holds initially, that
every lawfully issued operation preserves and that the environment preserves, holds of every
reachable configuration. The step cases may use what is already known of reachable
configurations. It is enough that the programs started so far meet the contract. -/
theorem log_induction_of {good : ρ → Prop}
    (hlegal : ∀ s o r s', M.exec s o r s' → C.legal o r)
    (hprogram : ∀ q, good q → (M.program q).Meets C (Q q) []) {P : Log S ε σ → σ → Prop}
    (hinit : P [] s)
    (hact : ∀ c : Config S ε σ ρ α, Reachable M s c → ∀ i o r s',
      C.issues (historyOf c.log i) o → M.exec c.shared o r s' → P c.log c.shared →
      P (⟨i, ⟨o, r⟩, c.shared, s'⟩ :: c.log) s')
    (hdrift : ∀ c : Config S ε σ ρ α, Reachable M s c → ∀ s', M.drift c s' →
      P c.log c.shared → P c.log s')
    (hc : Reachable M s c) (hgood : ∀ q ∈ c.calls.map Prod.fst, good q) : P c.log c.shared := by
  induction hc with
  | initial => exact hinit
  | @step c c' hc hstep ih =>
    have hP := ih fun q hq ↦ hgood q (requests_step hstep hq)
    cases hstep with
    | spawn => exact hP
    | act i r s' hi hexec =>
      have hq := hgood _ (requests_step (.act c i r s' hi hexec)
        (List.mem_map_of_mem (List.mem_of_getElem? hi)))
      have hmeets := (hprogram _ hq).executes (executes hlegal hc hi)
      exact hact c hc i _ r s' hmeets.1 hexec hP
    | drift s' hd => exact hdrift c hc s' hd hP

/-- Induction along the log, where every program meets the contract. -/
theorem log_induction (hlegal : ∀ s o r s', M.exec s o r s' → C.legal o r)
    (hprogram : ∀ q, (M.program q).Meets C (Q q) []) {P : Log S ε σ → σ → Prop} (hinit : P [] s)
    (hact : ∀ c : Config S ε σ ρ α, Reachable M s c → ∀ i o r s',
      C.issues (historyOf c.log i) o → M.exec c.shared o r s' → P c.log c.shared →
      P (⟨i, ⟨o, r⟩, c.shared, s'⟩ :: c.log) s')
    (hdrift : ∀ c : Config S ε σ ρ α, Reachable M s c → ∀ s', M.drift c s' →
      P c.log c.shared → P c.log s')
    (hc : Reachable M s c) : P c.log c.shared :=
  log_induction_of hlegal (fun q (_ : True) ↦ hprogram q) hinit hact hdrift hc fun _ _ ↦ trivial

end Contracts

end Reachable

end Interleaving
