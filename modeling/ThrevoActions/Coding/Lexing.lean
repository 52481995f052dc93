import Mathlib.Data.List.Basic

/-!
# Lexing

A lexer takes a part off the front of a text and gives the tokens of that part, none for what stands
between tokens. If every part it takes is proper, then any bound that is at least the length of the
text gives all its tokens (`run_eq`), and the tokens of a text are those of its first part and those
of the rest (`tokens_of_step`).
-/

namespace Lexing

variable {α τ : Type}

/-- The tokens of at most that many parts. -/
def run (step : List α → Option (List τ × List α)) : ℕ → List α → List τ
  | 0, _ => []
  | bound + 1, text =>
    match step text with
    | none => []
    | some (ts, rest) => ts ++ run step bound rest

def tokens (step : List α → Option (List τ × List α)) (text : List α) : List τ :=
  run step text.length text

/-- Every part that is taken off shortens the text. -/
def Shortens (step : List α → Option (List τ × List α)) : Prop :=
  ∀ text ts rest, step text = some (ts, rest) → rest.length < text.length

variable {step : List α → Option (List τ × List α)}

theorem Shortens.nil (h : Shortens step) : step [] = none := by
  cases hstep : step [] with
  | none => rfl
  | some part => exact absurd (h [] part.1 part.2 hstep) (Nat.not_lt_zero _)

theorem run_nil (h : Shortens step) (bound : ℕ) : run step bound [] = [] := by
  cases bound with
  | zero => rfl
  | succ bound => rw [run, h.nil]

/-- Enough parts are as good as more. -/
theorem run_eq (h : Shortens step) {bound bound' : ℕ} {text : List α}
    (hbound : text.length ≤ bound) (hbound' : text.length ≤ bound') :
    run step bound text = run step bound' text := by
  induction bound generalizing text bound' with
  | zero =>
    rw [List.length_eq_zero_iff.mp (Nat.le_zero.mp hbound), run_nil h, run_nil h]
  | succ bound ih =>
    cases bound' with
    | zero => rw [List.length_eq_zero_iff.mp (Nat.le_zero.mp hbound'), run_nil h, run_nil h]
    | succ bound' =>
      rw [run, run]
      cases hstep : step text with
      | none => rfl
      | some part =>
        have hshort := h text part.1 part.2 hstep
        dsimp only
        rw [ih (by omega) (by omega : part.2.length ≤ bound')]

/-- Part by part. -/
theorem tokens_of_step (h : Shortens step) {text rest : List α} {ts : List τ}
    (hstep : step text = some (ts, rest)) : tokens step text = ts ++ tokens step rest := by
  have hshort := h text ts rest hstep
  obtain ⟨bound, hbound⟩ : ∃ bound, text.length = bound + 1 := ⟨text.length - 1, by omega⟩
  rw [tokens, hbound, run, hstep]
  dsimp only
  rw [tokens, run_eq h (by omega : rest.length ≤ bound) (Nat.le_refl _)]

end Lexing
