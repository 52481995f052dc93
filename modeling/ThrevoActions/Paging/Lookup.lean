import ThrevoActions.Interleaving.Program

/-!
# Looking one entry up in a paged list

A lookup reads the pages of a list one after another, each from the last entry of the page before,
and lets at most one entry correlate. Only a page that reports no more pages ends it: then either no
entry correlated, or the one that did is retrieved by itself and has to be confirmed. A lookup that
uses up its bound, that is given a page without a next cursor, or that meets a second correlating
entry concludes nothing.

Pages are read by a program, so every page may differ from what was read before. What a lookup
concludes is therefore stated of the pages it was given (`Concludes`), and `search_meets` says that
it concludes what they say and nothing else.
-/

namespace Paging

open Interleaving Interleaving.Program

structure Page (α : Type) where
  items : List α
  hasMore : Bool

/-- A lookup over entries `α` with identifiers `ι`, of which objects `β` are retrieved. -/
structure Lookup (S : Signature) (ε ι α β : Type) where
  readPage : Option ι → Program S ε (Page α)
  retrieve : ι → Program S ε β
  idOf : α → ι
  /-- The entry carries the correlation that is looked for. -/
  correlates : α → Except ε Bool
  /-- A correlating entry is what is looked for, as far as the list shows. -/
  accepts : α → Except ε Bool
  /-- The object retrieved for an entry is that entry, and what is looked for. -/
  confirms : α → β → Except ε Bool
  inconsistent : ε
  mismatched : ε
  exceeded : ε

namespace Lookup

variable {S : Signature} {ε ι α β : Type}

/-- Go through the entries of a page, with the correlating entry found so far. -/
def scan (L : Lookup S ε ι α β) (found : Option α) : List α → Except ε (Option α)
  | [] => .ok found
  | candidate :: rest => do
    let correlates ← L.correlates candidate
    if correlates = false then L.scan found rest
    else
    match found with
    | some _ => throw L.inconsistent
    | none =>
      let accepted ← L.accepts candidate
      if accepted = false then throw L.inconsistent else L.scan (some candidate) rest

/-- After the last page: the object of the entry that was found. -/
def settle (L : Lookup S ε ι α β) : Option α → Program S ε (Option β)
  | none => pure none
  | some item => do
    let observed ← L.retrieve (L.idOf item)
    let confirmed ← orRaise (L.confirms item observed)
    if confirmed = false then throw L.mismatched else return some observed

variable [DecidableEq ι]

/-- Read at most so many pages, the next one from `after` on, with the entry found so far. -/
def search (L : Lookup S ε ι α β) : ℕ → Option ι → Option α → Program S ε (Option β)
  | 0, _, _ => throw L.exceeded
  | bound + 1, after, found => do
    let page ← L.readPage after
    let found ← orRaise (L.scan found page.items)
    if page.hasMore = false then L.settle found
    else
    match page.items.getLast? with
    | none => throw L.exceeded
    | some last =>
      if some (L.idOf last) = after then throw L.exceeded
      else L.search bound (some (L.idOf last)) found

/-! ## What pages say -/

/-- The entries of all pages. -/
def entries (pages : List (Page α)) : List α := pages.flatMap Page.items

/-- The pages go on to one that reports no more pages, and no further. -/
def ReadOn (pages : List (Page α)) : Prop :=
  ∃ earlier last, pages = earlier ++ [last] ∧ (∀ page ∈ earlier, page.hasMore = true) ∧
    last.hasMore = false

omit [DecidableEq ι]

/-- No entry correlates. -/
def Nothing (L : Lookup S ε ι α β) (items : List α) : Prop :=
  ∀ item ∈ items, L.correlates item = .ok false

/-- Exactly one entry correlates, `item`. -/
def Only (L : Lookup S ε ι α β) (items : List α) (item : α) : Prop :=
  ∃ before after, items = before ++ item :: after ∧ L.correlates item = .ok true ∧
    L.Nothing (before ++ after)

/-- What pages and retrieved objects allow to conclude: an object that is the only correlating
entry of a list read to its end, or that a list read to its end has none. -/
inductive Concludes (L : Lookup S ε ι α β) (pages : List (Page α)) (retrieved : List (ι × β)) :
    Option β → Prop
  | found {item : α} {observed : β} (hread : ReadOn pages) (honly : L.Only (entries pages) item)
      (hretrieved : retrieved = [(L.idOf item, observed)])
      (hconfirmed : L.confirms item observed = .ok true) : Concludes L pages retrieved (some observed)
  | absent (hread : ReadOn pages) (hnothing : L.Nothing (entries pages)) :
      Concludes L pages retrieved none

theorem not_readOn {pages : List (Page α)} (hmore : ∀ page ∈ pages, page.hasMore = true) :
    ¬ReadOn pages := by
  rintro ⟨earlier, last, rfl, -, hlast⟩
  rw [hmore last (List.mem_append_right _ List.mem_cons_self)] at hlast
  cases hlast

theorem Only.not_nothing {L : Lookup S ε ι α β} {items : List α} {item : α}
    (honly : L.Only items item) : ¬L.Nothing items := by
  obtain ⟨before, after, rfl, hcorrelates, -⟩ := honly
  intro hnothing
  have hnot := hnothing item (List.mem_append_right _ List.mem_cons_self)
  rw [hcorrelates] at hnot
  cases hnot

/-- A list has one only entry that correlates. -/
theorem Only.unique {L : Lookup S ε ι α β} {items : List α} {item item' : α}
    (honly : L.Only items item) (honly' : L.Only items item') : item = item' := by
  obtain ⟨before, after, rfl, -, hnothing⟩ := honly
  obtain ⟨before', after', heq, hcorrelates', -⟩ := honly'
  have hmem : item' ∈ before ++ item :: after := by
    rw [heq]
    exact List.mem_append_right _ List.mem_cons_self
  rw [List.mem_append, List.mem_cons] at hmem
  by_contra hne
  have hmem' : item' ∈ before ++ after := by
    rw [List.mem_append]
    rcases hmem with h | rfl | h
    · exact Or.inl h
    · exact absurd rfl hne
    · exact Or.inr h
  have hnot := hnothing item' hmem'
  rw [hcorrelates'] at hnot
  cases hnot

/-! ## Going through the entries -/

/-- What has been found among the entries gone through. -/
def Tallied (L : Lookup S ε ι α β) (items : List α) : Option α → Prop
  | none => L.Nothing items
  | some item => L.Only items item

/-- One of the judgements on entries and objects raises the error. -/
def Raises (L : Lookup S ε ι α β) (failure : ε) : Prop :=
  (∃ item, L.correlates item = .error failure) ∨ (∃ item, L.accepts item = .error failure) ∨
    ∃ item observed, L.confirms item observed = .error failure

theorem Nothing.concat {L : Lookup S ε ι α β} {items : List α} {candidate : α}
    (hnothing : L.Nothing items) (hcandidate : L.correlates candidate = .ok false) :
    L.Nothing (items ++ [candidate]) := by
  intro item hitem
  rcases List.mem_append.mp hitem with h | h
  · exact hnothing item h
  · rw [List.mem_singleton.mp h]
    exact hcandidate

/-- An entry that does not correlate changes nothing of what has been found. -/
theorem Tallied.concat {L : Lookup S ε ι α β} {items : List α} {found : Option α} {candidate : α}
    (htallied : L.Tallied items found) (hcandidate : L.correlates candidate = .ok false) :
    L.Tallied (items ++ [candidate]) found := by
  cases found with
  | none => exact Nothing.concat htallied hcandidate
  | some item =>
    obtain ⟨before, after, rfl, hcorrelates, hnothing⟩ := htallied
    refine ⟨before, after ++ [candidate], by simp, hcorrelates, ?_⟩
    rw [← List.append_assoc]
    exact hnothing.concat hcandidate

/-- Going through a page either adds its entries to what has been found, or raises; it raises only
when some entry correlates, or an entry cannot be judged. -/
theorem scan_cases (L : Lookup S ε ι α β) {seen : List α} {found : Option α}
    (htallied : L.Tallied seen found) (items : List α) :
    (∃ found', L.scan found items = .ok found' ∧ L.Tallied (seen ++ items) found') ∨
      ∃ failure, L.scan found items = .error failure ∧
        (failure = L.inconsistent ∨ L.Raises failure) ∧ ¬L.Nothing (seen ++ items) := by
  induction items generalizing seen found with
  | nil =>
    refine Or.inl ⟨found, rfl, ?_⟩
    rw [List.append_nil]
    exact htallied
  | cons candidate rest ih =>
    have happend : seen ++ candidate :: rest = (seen ++ [candidate]) ++ rest := by simp
    have hnot : L.correlates candidate ≠ .ok false → ¬L.Nothing (seen ++ candidate :: rest) :=
      fun hne hnothing ↦ hne (hnothing candidate (List.mem_append_right _ List.mem_cons_self))
    cases hcorrelates : L.correlates candidate with
    | error failure =>
      have hscan : L.scan found (candidate :: rest) = .error failure := by
        cases found <;> rw [scan, hcorrelates] <;> rfl
      exact Or.inr ⟨failure, hscan, Or.inr (Or.inl ⟨candidate, hcorrelates⟩),
        hnot (by rw [hcorrelates]; simp)⟩
    | ok correlates =>
      cases correlates with
      | false =>
        rw [happend]
        have hscan : L.scan found (candidate :: rest) = L.scan found rest := by
          cases found <;> rw [scan, hcorrelates] <;> rfl
        rw [hscan]
        exact ih (htallied.concat hcorrelates)
      | true =>
        have hsome := hnot (by rw [hcorrelates]; simp)
        cases found with
        | some item =>
          have hscan : L.scan (some item) (candidate :: rest) = .error L.inconsistent := by
            rw [scan, hcorrelates]
            rfl
          exact Or.inr ⟨L.inconsistent, hscan, Or.inl rfl, hsome⟩
        | none =>
          cases haccepted : L.accepts candidate with
          | error failure =>
            have hscan : L.scan none (candidate :: rest) = .error failure := by
              rw [scan, hcorrelates]
              simp only [haccepted]
              rfl
            exact Or.inr ⟨failure, hscan, Or.inr (Or.inr (Or.inl ⟨candidate, haccepted⟩)), hsome⟩
          | ok accepted =>
            cases accepted with
            | false =>
              have hscan : L.scan none (candidate :: rest) = .error L.inconsistent := by
                rw [scan, hcorrelates]
                simp only [haccepted]
                rfl
              exact Or.inr ⟨L.inconsistent, hscan, Or.inl rfl, hsome⟩
            | true =>
              have hscan : L.scan none (candidate :: rest) = L.scan (some candidate) rest := by
                rw [scan, hcorrelates]
                simp only [haccepted]
                rfl
              rw [hscan, happend]
              have htallied' : L.Tallied (seen ++ [candidate]) (some candidate) := by
                refine ⟨seen, [], rfl, hcorrelates, ?_⟩
                rw [List.append_nil]
                exact htallied
              exact ih htallied'

/-! ## Searching -/

/-- How the histories of a lookup's programs show how often a page was asked for, which pages were
read and which objects were retrieved, in order, and that every error is an `expected` one. -/
structure Shown (L : Lookup S ε ι α β) (C : Contract S ε) (askedOf : History S ε → ℕ)
    (pagesOf : History S ε → List (Page α)) (retrievedOf : History S ε → List (ι × β))
    (expected : ε → Prop) : Prop where
  readPage : ∀ (h : History S ε) (after : Option ι), (L.readPage after).Meets C (fun h' r ↦
    askedOf h' = askedOf h + 1 ∧ retrievedOf h' = retrievedOf h ∧ match r with
      | .ok page => pagesOf h' = pagesOf h ++ [page]
      | .error failure => pagesOf h' = pagesOf h ∧ expected failure) h
  retrieve : ∀ (h : History S ε) (id : ι), (L.retrieve id).Meets C (fun h' r ↦
    askedOf h' = askedOf h ∧ pagesOf h' = pagesOf h ∧ match r with
      | .ok observed => retrievedOf h' = retrievedOf h ++ [(id, observed)]
      | .error failure => retrievedOf h' = retrievedOf h ∧ expected failure) h
  raises : ∀ failure, L.Raises failure → expected failure
  inconsistent : expected L.inconsistent
  mismatched : expected L.mismatched
  exceeded : expected L.exceeded

/-- What a lookup that asked for a page `asked` times, and was given `pages` and `retrieved`, makes
of them: it returns only what they allow to conclude, and it raises only when they allow no
conclusion. -/
structure Outcome (L : Lookup S ε ι α β) (expected : ε → Prop) (bound asked : ℕ)
    (pages : List (Page α)) (retrieved : List (ι × β)) (r : Except ε (Option β)) : Prop where
  within : asked ≤ bound
  concluded : ∀ conclusion, r = .ok conclusion → L.Concludes pages retrieved conclusion
  refused : ∀ failure, r = .error failure →
    expected failure ∧ ∀ conclusion, ¬L.Concludes pages retrieved conclusion

theorem Outcome.of_concludes {L : Lookup S ε ι α β} {expected : ε → Prop} {bound asked : ℕ}
    {pages : List (Page α)} {retrieved : List (ι × β)} {conclusion : Option β}
    (hwithin : asked ≤ bound) (hconcludes : L.Concludes pages retrieved conclusion) :
    L.Outcome expected bound asked pages retrieved (.ok conclusion) := by
  refine ⟨hwithin, fun conclusion' h ↦ ?_, fun _ h ↦ (by cases h)⟩
  rw [← Except.ok.inj h]
  exact hconcludes

theorem Outcome.of_failure {L : Lookup S ε ι α β} {expected : ε → Prop} {bound asked : ℕ}
    {pages : List (Page α)} {retrieved : List (ι × β)} {failure : ε}
    (hwithin : asked ≤ bound)
    (hfailure : expected failure)
    (hnone : ∀ conclusion, ¬L.Concludes pages retrieved conclusion) :
    L.Outcome expected bound asked pages retrieved (.error failure) := by
  refine ⟨hwithin, fun _ h ↦ (by cases h), fun failure' h ↦ ?_⟩
  rw [← Except.error.inj h]
  exact ⟨hfailure, hnone⟩

/-- Nothing is concluded of pages that do not go on to a last one. -/
theorem not_concludes_of_not_readOn {L : Lookup S ε ι α β} {pages : List (Page α)}
    {retrieved : List (ι × β)} (hread : ¬ReadOn pages) (conclusion : Option β) :
    ¬L.Concludes pages retrieved conclusion := by
  rintro (⟨h, -, -, -⟩ | ⟨h, -⟩) <;> exact hread h

/-- Nothing is concluded of an entry that correlates as long as no object is retrieved for it. -/
theorem not_concludes_of_unretrieved {L : Lookup S ε ι α β} {pages : List (Page α)}
    (hsome : ¬L.Nothing (entries pages)) (conclusion : Option β) :
    ¬L.Concludes pages [] conclusion := by
  rintro (⟨-, -, hretrieved, -⟩ | ⟨-, hnothing⟩)
  · cases hretrieved
  · exact hsome hnothing

section Meets

variable {L : Lookup S ε ι α β} {C : Contract S ε} {askedOf : History S ε → ℕ}
  {pagesOf : History S ε → List (Page α)} {retrievedOf : History S ε → List (ι × β)} {expected : ε → Prop}

/-- After the last page the object of the only correlating entry decides. -/
theorem settle_meets (hshown : L.Shown C askedOf pagesOf retrievedOf expected) {bound : ℕ}
    {found : Option α} {h : History S ε} (hwithin : askedOf h ≤ bound)
    (hread : ReadOn (pagesOf h)) (htallied : L.Tallied (entries (pagesOf h)) found)
    (hretrieved : retrievedOf h = []) :
    (L.settle found).Meets C
      (fun h' r ↦ L.Outcome expected bound (askedOf h') (pagesOf h') (retrievedOf h') r) h := by
  cases found with
  | none => exact Outcome.of_concludes hwithin (.absent hread htallied)
  | some item =>
    have hsome : ¬L.Nothing (entries (pagesOf h)) := Only.not_nothing htallied
    refine Meets.bind_of (hshown.retrieve h _) (fun h' failure _ hfailed ↦ ?_)
      fun h' observed _ hanswered ↦ ?_
    · obtain ⟨hasked, hpages, hnone, hexpected⟩ := hfailed
      rw [hasked, hpages, hnone, hretrieved]
      exact Outcome.of_failure hwithin hexpected
        (not_concludes_of_unretrieved hsome)
    · obtain ⟨hasked, hpages, hobserved⟩ := hanswered
      dsimp only at hobserved
      rw [hretrieved, List.nil_append] at hobserved
      have hunconfirmed : L.confirms item observed ≠ .ok true → ∀ conclusion,
          ¬L.Concludes (pagesOf h') (retrievedOf h') conclusion := by
        rintro hne conclusion (⟨-, honly, hretrieved', hconfirmed⟩ | ⟨-, hnothing⟩)
        · rw [hpages] at honly
          have hsame := honly.unique htallied
          rw [hobserved] at hretrieved'
          injection hretrieved' with hpair _
          injection hpair with _ hobject
          rw [hsame, ← hobject] at hconfirmed
          exact hne hconfirmed
        · rw [hpages] at hnothing
          exact hsome hnothing
      rw [← hasked] at hwithin
      refine Meets.orRaise_bind (fun failure hfailure ↦ ?_) fun confirmed hconfirmed ↦ ?_
      · refine Outcome.of_failure hwithin ?_
          (hunconfirmed (by rw [hfailure]; simp))
        exact hshown.raises failure (Or.inr (Or.inr ⟨item, observed, hfailure⟩))
      · by_cases hfalse : confirmed = false
        · rw [if_pos hfalse]
          refine Outcome.of_failure hwithin hshown.mismatched (hunconfirmed ?_)
          rw [hconfirmed, hfalse]
          simp
        · rw [if_neg hfalse]
          rw [Bool.not_eq_false] at hfalse
          refine Outcome.of_concludes hwithin (.found ?_ ?_ hobserved (hfalse ▸ hconfirmed))
          · rw [hpages]
            exact hread
          · rw [hpages]
            exact htallied

variable [DecidableEq ι]

/-- **A lookup concludes what its pages say, and nothing else.** The induction is on the pages it
may still read; all pages read so far report more. -/
theorem search_meets (hshown : L.Shown C askedOf pagesOf retrievedOf expected) {bound : ℕ} (n : ℕ)
    {after : Option ι} {found : Option α} {h : History S ε}
    (hwithin : askedOf h + n ≤ bound)
    (hmore : ∀ page ∈ pagesOf h, page.hasMore = true)
    (htallied : L.Tallied (entries (pagesOf h)) found) (hretrieved : retrievedOf h = []) :
    (L.search n after found).Meets C
      (fun h' r ↦ L.Outcome expected bound (askedOf h') (pagesOf h') (retrievedOf h') r) h := by
  induction n generalizing after found h with
  | zero =>
    exact Outcome.of_failure hwithin hshown.exceeded
      (not_concludes_of_not_readOn (not_readOn hmore))
  | succ n ih =>
    refine Meets.bind_of (hshown.readPage h after) (fun h' failure _ hfailed ↦ ?_)
      fun h' page _ hanswered ↦ ?_
    · obtain ⟨hasked, -, hpages, hexpected⟩ := hfailed
      rw [hpages]
      exact Outcome.of_failure (by omega) hexpected
        (not_concludes_of_not_readOn (not_readOn hmore))
    · obtain ⟨hasked, hkept, hpages⟩ := hanswered
      rw [hretrieved] at hkept
      have hwithin' : askedOf h' + n ≤ bound := by omega
      have hentries : entries (pagesOf h') = entries (pagesOf h) ++ page.items := by
        rw [hpages, entries, entries, List.flatMap_append, List.flatMap_singleton]
      rcases L.scan_cases htallied page.items with ⟨found', hscan, htallied'⟩ |
        ⟨failure, hscan, hfailure, hsome⟩
      · rw [← hentries] at htallied'
        refine Meets.orRaise_bind (fun failure hfailure ↦ ?_) fun found'' hfound'' ↦ ?_
        · rw [hscan] at hfailure
          cases hfailure
        · rw [hscan] at hfound''
          cases hfound''
          by_cases hlast : page.hasMore = false
          · rw [if_pos hlast]
            refine settle_meets hshown (by omega) ?_ htallied' hkept
            exact ⟨pagesOf h, page, hpages, hmore, hlast⟩
          · rw [if_neg hlast]
            rw [Bool.not_eq_false] at hlast
            have hmore' : ∀ page ∈ pagesOf h', page.hasMore = true := by
              rw [hpages]
              intro page' hpage'
              rcases List.mem_append.mp hpage' with hmem | hmem
              · exact hmore page' hmem
              · rw [List.mem_singleton.mp hmem]
                exact hlast
            have hexceeded : L.Outcome expected bound (askedOf h') (pagesOf h') (retrievedOf h')
                (.error L.exceeded) :=
              Outcome.of_failure (by omega) hshown.exceeded
                (not_concludes_of_not_readOn (not_readOn hmore'))
            split
            · exact hexceeded
            · split
              · exact hexceeded
              · exact ih hwithin' hmore' htallied' hkept
      · rw [← hentries] at hsome
        refine Meets.orRaise_bind (fun failure' hfailure' ↦ ?_) fun found' hfound' ↦ ?_
        · rw [hscan] at hfailure'
          cases hfailure'
          rw [hkept]
          refine Outcome.of_failure (by omega) ?_ (not_concludes_of_unretrieved hsome)
          rcases hfailure with hfailure | hfailure
          · rw [hfailure]
            exact hshown.inconsistent
          · exact hshown.raises failure hfailure
        · rw [hscan] at hfound'
          cases hfound'

end Meets

end Lookup

end Paging
