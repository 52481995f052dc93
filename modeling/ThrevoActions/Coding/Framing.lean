import Mathlib.Data.List.Basic
import Mathlib.Data.Set.Function

/-!
# Length-prefixed framing

A field is framed by a code word of its length. If no code word of a length continues another, the
fields can be told apart: frames one after another, with anything behind them, determine the fields
and the rest (`frames_append_inj`). Which lengths have code words is a parameter, as a code of fixed
width has them only below a bound.
-/

namespace Framing

variable {α : Type}

/-- No code word of a number in `D` begins another. -/
def PrefixFree (D : Set ℕ) (code : ℕ → List α) : Prop :=
  ∀ m ∈ D, ∀ n ∈ D, ∀ s t, code m ++ s = code n ++ t → m = n

/-- A field behind the code word of its length. -/
def frame (code : ℕ → List α) (field : List α) : List α := code field.length ++ field

def frames (code : ℕ → List α) (fields : List (List α)) : List α := fields.flatMap (frame code)

@[simp] theorem frames_nil (code : ℕ → List α) : frames code [] = [] := rfl

@[simp] theorem frames_cons (code : ℕ → List α) (field : List α) (fields : List (List α)) :
    frames code (field :: fields) = frame code field ++ frames code fields := rfl

variable {D : Set ℕ} {code : ℕ → List α}

/-- A frame can be read off whatever begins with it. -/
theorem frame_append_inj (hcode : PrefixFree D code) {x y s t : List α} (hx : x.length ∈ D)
    (hy : y.length ∈ D) (h : frame code x ++ s = frame code y ++ t) : x = y ∧ s = t := by
  rw [frame, frame, List.append_assoc, List.append_assoc] at h
  have hlength : x.length = y.length := hcode _ hx _ hy _ _ h
  rw [hlength] at h
  exact List.append_inj (List.append_cancel_left h) hlength

theorem frames_append_inj (hcode : PrefixFree D code) {xs ys : List (List α)} {s t : List α}
    (hlength : xs.length = ys.length) (hxs : ∀ x ∈ xs, x.length ∈ D) (hys : ∀ y ∈ ys, y.length ∈ D)
    (h : frames code xs ++ s = frames code ys ++ t) : xs = ys ∧ s = t := by
  induction xs generalizing ys with
  | nil =>
    obtain rfl := List.length_eq_zero_iff.mp hlength.symm
    exact ⟨rfl, h⟩
  | cons x xs ih =>
    obtain ⟨y, ys, rfl⟩ := List.exists_cons_of_length_eq_add_one hlength.symm
    rw [frames_cons, frames_cons, List.append_assoc, List.append_assoc] at h
    obtain ⟨rfl, hrest⟩ := frame_append_inj hcode (hxs x (.head _)) (hys y (.head _)) h
    obtain ⟨rfl, rfl⟩ := ih (Nat.succ.inj hlength) (fun x hx ↦ hxs x (.tail _ hx))
      (fun y hy ↦ hys y (.tail _ hy)) hrest
    exact ⟨rfl, rfl⟩

/-- As many fields are framed alike only if they are the same. -/
theorem frames_inj (hcode : PrefixFree D code) {xs ys : List (List α)}
    (hlength : xs.length = ys.length) (hxs : ∀ x ∈ xs, x.length ∈ D) (hys : ∀ y ∈ ys, y.length ∈ D)
    (h : frames code xs = frames code ys) : xs = ys :=
  (frames_append_inj hcode hlength hxs hys (congrArg (· ++ []) h)).1

/-- Code words of one width. -/
theorem prefixFree_of_length {width : ℕ} (hlength : ∀ n, (code n).length = width)
    (hinj : Set.InjOn code D) : PrefixFree D code := by
  intro m hm n hn s t h
  exact hinj hm hn (List.append_inj h ((hlength m).trans (hlength n).symm)).1

/-- What stands before the first terminator is determined. -/
theorem eq_of_append_terminator {terminator : α} {x y s t : List α} (hx : terminator ∉ x)
    (hy : terminator ∉ y) (h : x ++ terminator :: s = y ++ terminator :: t) : x = y := by
  induction x generalizing y with
  | nil =>
    rcases y with _ | ⟨b, y⟩
    · rfl
    · exact absurd (List.mem_cons.mpr (Or.inl (List.cons.inj h).1)) hy
  | cons a x ih =>
    rcases y with _ | ⟨b, y⟩
    · exact absurd (List.mem_cons.mpr (Or.inl (List.cons.inj h).1.symm)) hx
    · obtain ⟨rfl, hrest⟩ := List.cons.inj h
      rw [ih (fun hmem ↦ hx (.tail _ hmem)) (fun hmem ↦ hy (.tail _ hmem)) hrest]

/-- Numerals that end with a sign that is not in them. -/
theorem prefixFree_of_terminated {digits : ℕ → List α} {terminator : α}
    (hdigits : ∀ n, terminator ∉ digits n) (hinj : Function.Injective digits) :
    PrefixFree Set.univ fun n ↦ digits n ++ [terminator] := by
  intro m _ n _ s t h
  simp only [List.append_assoc, List.singleton_append] at h
  exact hinj (eq_of_append_terminator (hdigits m) (hdigits n) h)

end Framing
