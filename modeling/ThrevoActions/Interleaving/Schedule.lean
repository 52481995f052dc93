import ThrevoActions.Interleaving.Machine

/-!
# Following a schedule

A deterministic environment (`Oracle`) turns a machine into something that can be run: a schedule
says which call takes the next turn, the oracle answers. Every configuration reached that way is
reachable (`Reachable.follow`), so a concrete interleaving is exhibited by evaluating its schedule.
-/

namespace Interleaving

variable {S : Signature} {ε σ ρ α τ : Type}

/-- One turn of a schedule: start a call, let a call perform its next operation, or let the
environment move in the way `τ` names. -/
inductive Turn (ρ τ : Type)
  | spawn (q : ρ)
  | act (i : ℕ)
  | drift (d : τ)

/-- A deterministic environment of a machine. -/
structure Oracle (M : Machine S ε σ ρ α) (τ : Type) where
  answer : σ → (o : S.Op) → Except ε (S.Ans o) × σ
  answer_sound : ∀ s o, M.exec s o (answer s o).1 (answer s o).2
  move : Config S ε σ ρ α → τ → Option σ
  move_sound : ∀ c d s', move c d = some s' → M.drift c s'

namespace Config

variable {M : Machine S ε σ ρ α}

/-- Call `i`, about to continue as `p`, performs its next operation, if there is one. -/
def perform (A : Oracle M τ) (c : Config S ε σ ρ α) (i : ℕ) (q : ρ) :
    Program S ε α → Config S ε σ ρ α
  | .ret _ => c
  | .raise _ => c
  | .call o next =>
    ⟨(A.answer c.shared o).2, c.calls.set i (q, next (A.answer c.shared o).1),
      ⟨i, ⟨o, (A.answer c.shared o).1⟩, c.shared, (A.answer c.shared o).2⟩ :: c.log⟩

/-- The configuration after one turn. A turn nothing can be done with changes nothing. -/
def turn (A : Oracle M τ) (c : Config S ε σ ρ α) : Turn ρ τ → Config S ε σ ρ α
  | .spawn q => { c with calls := c.calls ++ [(q, M.program q)] }
  | .act i =>
    match c.calls[i]? with
    | none => c
    | some (q, p) => c.perform A i q p
  | .drift d =>
    match A.move c d with
    | none => c
    | some s' => { c with shared := s' }

/-- The configuration after a schedule. -/
def follow (A : Oracle M τ) (c : Config S ε σ ρ α) (turns : List (Turn ρ τ)) :
    Config S ε σ ρ α :=
  turns.foldl (turn A) c

end Config

variable {M : Machine S ε σ ρ α} {s : σ} {c : Config S ε σ ρ α}

theorem Reachable.turn (A : Oracle M τ) (hc : Reachable M s c) (t : Turn ρ τ) :
    Reachable M s (c.turn A t) := by
  cases t with
  | spawn q => exact hc.step (.spawn c q)
  | act i =>
    rw [Config.turn]
    split
    · exact hc
    · rename_i q p hi
      cases p with
      | ret a => exact hc
      | raise e => exact hc
      | call o next => exact hc.step (.act c i _ _ hi (A.answer_sound c.shared o))
  | drift d =>
    rw [Config.turn]
    split
    · exact hc
    · rename_i s' hs'
      exact hc.step (.drift c s' (A.move_sound c d s' hs'))

/-- **Following a schedule stays within the reachable configurations.** -/
theorem Reachable.follow (A : Oracle M τ) (hc : Reachable M s c) (turns : List (Turn ρ τ)) :
    Reachable M s (c.follow A turns) := by
  induction turns generalizing c with
  | nil => exact hc
  | cons t turns ih => exact ih (hc.turn A t)

end Interleaving
