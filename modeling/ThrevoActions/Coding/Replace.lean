import Mathlib.Data.List.Basic
import Mathlib.Data.List.Infix

/-!
# Replacing a part of a text

Occurrences of `old` are replaced from the left, and one is passed over as a whole. The recursion is
on the text, with the number of letters of the last occurrence still to be passed over.
-/

namespace Replace

variable {α : Type} [DecidableEq α]

/-- Replaces after passing over `skip` letters. -/
def replaceFrom (old new : List α) : ℕ → List α → List α
  | _, [] => []
  | skip + 1, _ :: text => replaceFrom old new skip text
  | 0, c :: text =>
    if old <+: c :: text then new ++ replaceFrom old new (old.length - 1) text
    else c :: replaceFrom old new 0 text

/-- Every occurrence of `old` becomes `new`. -/
def replaceAll (old new text : List α) : List α := replaceFrom old new 0 text

variable {old new : List α}

theorem replaceFrom_append (s t : List α) :
    replaceFrom old new s.length (s ++ t) = replaceFrom old new 0 t := by
  induction s with
  | nil => rfl
  | cons c s ih => rw [List.length_cons, List.cons_append, replaceFrom, ih]

@[simp] theorem replaceAll_nil : replaceAll old new [] = [] := rfl

theorem replaceAll_cons_of_not {c : α} {text : List α} (h : ¬ old <+: c :: text) :
    replaceAll old new (c :: text) = c :: replaceAll old new text := by
  rw [replaceAll, replaceFrom, if_neg h]
  rfl

/-- An occurrence in front is replaced. -/
theorem replaceAll_append_of_pos (h : old ≠ []) (text : List α) :
    replaceAll old new (old ++ text) = new ++ replaceAll old new text := by
  cases old with
  | nil => exact absurd rfl h
  | cons c old =>
    rw [List.cons_append, replaceAll, replaceFrom,
      if_pos (List.cons_append ▸ List.prefix_append _ _), List.length_cons, Nat.add_sub_cancel,
      replaceFrom_append]
    rfl

/-- A text without the first letter of `old` stays as it is. -/
theorem replaceAll_append_of_notMem {c : α} {s : List α} (h : c ∉ s) (text : List α) :
    replaceAll (c :: old) new (s ++ text) = s ++ replaceAll (c :: old) new text := by
  induction s with
  | nil => rfl
  | cons d s ih =>
    rw [List.mem_cons, not_or] at h
    have hd : ¬ c :: old <+: d :: (s ++ text) := fun hprefix ↦
      h.1 (List.cons_prefix_cons.mp hprefix).1
    rw [List.cons_append, replaceAll_cons_of_not hd, ih h.2]
    rfl

end Replace
