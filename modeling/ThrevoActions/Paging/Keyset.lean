import Mathlib.Data.List.Sort

/-!
# Keyset pagination

Rows in the order of their keys, page by page: each page starts after the last key of the page
before (`page`), and asks for one row more than it returns to find out whether there are others. If
no two rows have one key, following the cursors comes to an end, and the pages together are the rows
in order (`exists_pages`).
-/

namespace Keyset

variable {α κ : Type} [LinearOrder κ] (key : α → κ)

/-- The row comes after the cursor, if there is one. -/
def after (cursor : Option κ) (row : α) : Bool := cursor.all fun last ↦ last < key row

/-- The rows after a cursor, in the order of their keys. -/
def ordered (rows : List α) (cursor : Option κ) : List α :=
  (rows.filter (after key cursor)).mergeSort fun row row' ↦ key row ≤ key row'

/-- The first `limit` rows after the cursor, and the cursor after them if there are more. -/
def page (rows : List α) (limit : ℕ) (cursor : Option κ) : List α × Option κ :=
  let fetched := (ordered key rows cursor).take (limit + 1)
  (fetched.take limit,
    if limit < fetched.length then (fetched.take limit).getLast?.map key else none)

/-- The pages from a cursor on, to the last. -/
inductive Pages (rows : List α) (limit : ℕ) : Option κ → List (List α) → Prop
  | last {cursor : Option κ} (hlast : (page key rows limit cursor).2 = none) :
    Pages rows limit cursor [(page key rows limit cursor).1]
  | more {cursor : Option κ} {next : κ} {pages : List (List α)}
    (hnext : (page key rows limit cursor).2 = some next)
    (hpages : Pages rows limit (some next) pages) :
    Pages rows limit cursor ((page key rows limit cursor).1 :: pages)

variable {key} {rows : List α} {limit : ℕ}

theorem ordered_perm (rows : List α) (cursor : Option κ) :
    (ordered key rows cursor).Perm (rows.filter (after key cursor)) := List.mergeSort_perm _ _

/-- Rows with distinct keys are strictly ordered. -/
theorem ordered_pairwise (hkeys : (rows.map key).Nodup) (cursor : Option κ) :
    (ordered key rows cursor).Pairwise fun row row' ↦ key row < key row' := by
  have hle : (ordered key rows cursor).Pairwise fun row row' ↦
      decide (key row ≤ key row') = true := by
    refine List.pairwise_mergeSort (fun a b c hab hbc ↦ ?_) (fun a b ↦ ?_) _
    · rw [decide_eq_true_eq] at hab hbc ⊢
      exact hab.trans hbc
    · rw [Bool.or_eq_true, decide_eq_true_eq, decide_eq_true_eq]
      exact le_total _ _
  have hne : (ordered key rows cursor).Pairwise fun row row' ↦ key row ≠ key row' := by
    rw [← List.pairwise_map, ← List.nodup_iff_pairwise_ne]
    refine ((ordered_perm rows cursor).map key).nodup_iff.mpr ?_
    exact hkeys.sublist (List.filter_sublist.map key)
  refine (hle.and hne).imp fun h ↦ lt_of_le_of_ne (of_decide_eq_true h.1) h.2

/-- Two strictly ordered lists of the same rows are one. -/
theorem eq_of_perm {xs ys : List α} (hperm : xs.Perm ys)
    (hxs : xs.Pairwise fun row row' ↦ key row < key row')
    (hys : ys.Pairwise fun row row' ↦ key row < key row') : xs = ys := by
  refine List.Perm.eq_of_pairwise (fun a b _ _ hab hba ↦ ?_) hxs hys hperm
  exact absurd hba hab.asymm

/-- After a row of the order come the rows that follow it there. -/
theorem ordered_after (hkeys : (rows.map key).Nodup) {cursor : Option κ} {items rest : List α}
    {last : α} (hsplit : ordered key rows cursor = items ++ last :: rest) :
    ordered key rows (some (key last)) = rest := by
  have hsorted := ordered_pairwise hkeys cursor
  rw [hsplit, List.pairwise_append, List.pairwise_cons] at hsorted
  obtain ⟨-, ⟨hrest, hsorted⟩, hitems⟩ := hsorted
  refine eq_of_perm ?_ (ordered_pairwise hkeys _) hsorted
  have hfilter : (ordered key rows cursor).filter (after key (some (key last))) = rest := by
    have hbefore : items.filter (after key (some (key last))) = [] := by
      refine List.filter_eq_nil_iff.mpr fun row hrow ↦ ?_
      have hlt := hitems row hrow last List.mem_cons_self
      simpa [after] using hlt.le
    have hafter : rest.filter (after key (some (key last))) = rest := by
      refine List.filter_eq_self.mpr fun row hrow ↦ ?_
      simpa [after] using hrest row hrow
    rw [hsplit, List.filter_append, hbefore, List.filter_cons_of_neg, hafter, List.nil_append]
    simp [after]
  -- what comes after the row comes after the cursor
  have hwithin : ∀ row, after key (some (key last)) row = true → after key cursor row = true := by
    intro row hrow
    have hmem : last ∈ rows.filter (after key cursor) := by
      rw [← (ordered_perm rows cursor).mem_iff, hsplit]
      exact List.mem_append_right _ List.mem_cons_self
    have hlast := (List.mem_filter.mp hmem).2
    cases cursor with
    | none => rfl
    | some first =>
      rw [after, Option.all_some, decide_eq_true_eq] at hlast hrow ⊢
      exact hlast.trans hrow
  have hrows : (rows.filter (after key cursor)).filter (after key (some (key last))) =
      rows.filter (after key (some (key last))) := by
    rw [List.filter_filter]
    refine List.filter_congr fun row _ ↦ ?_
    cases hrow : after key (some (key last)) row with
    | false => rfl
    | true => rw [hwithin row hrow, Bool.and_self]
  refine (ordered_perm rows (some (key last))).trans ?_
  rw [← hrows]
  exact (((ordered_perm rows cursor).filter _).symm.trans (List.Perm.of_eq hfilter))

theorem page_fst (rows : List α) (limit : ℕ) (cursor : Option κ) :
    (page key rows limit cursor).1 = (ordered key rows cursor).take limit := by
  rw [page, List.take_take, Nat.min_eq_left (Nat.le_succ limit)]

theorem page_snd (rows : List α) (limit : ℕ) (cursor : Option κ) :
    (page key rows limit cursor).2 =
      if limit < (ordered key rows cursor).length then
        ((ordered key rows cursor).take limit).getLast?.map key
      else none := by
  rw [page, List.take_take, Nat.min_eq_left (Nat.le_succ limit), List.length_take]
  exact if_congr (by omega) rfl rfl

/-- **Following the cursors** comes to an end, and the pages together are the rows in order. -/
theorem exists_pages (hkeys : (rows.map key).Nodup) (hlimit : 0 < limit) (cursor : Option κ) :
    ∃ pages, Pages key rows limit cursor pages ∧ pages.flatten = ordered key rows cursor := by
  induction hlength : (ordered key rows cursor).length using Nat.strong_induction_on
    generalizing cursor with
  | _ n ih =>
    by_cases hmore : limit < (ordered key rows cursor).length
    · obtain ⟨items, last, hitems⟩ : ∃ items last,
          (ordered key rows cursor).take limit = items ++ [last] := by
        refine ⟨_, _, (List.dropLast_append_getLast (List.ne_nil_of_length_pos ?_)).symm⟩
        rw [List.length_take]
        omega
      have hsplit : ordered key rows cursor =
          items ++ last :: (ordered key rows cursor).drop limit := by
        rw [List.append_cons, ← hitems, List.take_append_drop]
      have hrest := ordered_after hkeys hsplit
      have hnext : (page key rows limit cursor).2 = some (key last) := by
        rw [page_snd, if_pos hmore, hitems, List.getLast?_concat, Option.map_some]
      have hshorter : (ordered key rows (some (key last))).length < n := by
        rw [hrest, List.length_drop]
        omega
      obtain ⟨pages, hpages, hflatten⟩ := ih _ hshorter (some (key last)) rfl
      refine ⟨_, .more hnext hpages, ?_⟩
      rw [List.flatten_cons, hflatten, hrest, page_fst, List.take_append_drop]
    · refine ⟨_, .last ?_, ?_⟩
      · rw [page_snd, if_neg hmore]
      · rw [List.flatten_singleton, page_fst, List.take_of_length_le (not_lt.mp hmore)]

end Keyset
