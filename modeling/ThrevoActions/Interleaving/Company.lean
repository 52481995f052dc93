import ThrevoActions.Interleaving.Program

/-!
# Programs in company

A program that shares a state with others relies on what they leave alone, and in turn guarantees
something with every operation of its own. `Company` says which changes the others may make between
two operations of the program (`rely`), what an operation does to the state (`exec`), and what each
operation has to guarantee. `Program.Upholds` is the weakest precondition in such company: it is
computed by recursion on the program, the state standing for whatever has been learnt of it.
-/

namespace Interleaving

/-- What a program may expect of the others, what its operations do, and what it owes. -/
structure Company (S : Signature) (ε σ : Type) where
  rely : σ → σ → Prop
  exec : σ → (o : S.Op) → Except ε (S.Ans o) → σ → Prop
  guarantee : σ → σ → Prop

variable {S : Signature} {ε σ α β : Type} {E : Company S ε σ}

namespace Program

/-- From state `s` on, whatever the others do in between, every operation of the program keeps the
guarantee, and however it ends, `Q` holds of the ending and of the state then. -/
def Upholds (E : Company S ε σ) : Program S ε α → (Except ε α → σ → Prop) → σ → Prop
  | .ret a, Q, s => Q (.ok a) s
  | .raise e, Q, s => Q (.error e) s
  | .call o next, Q, s =>
      ∀ s', E.rely s s' → ∀ r s'', E.exec s' o r s'' →
        E.guarantee s' s'' ∧ (next r).Upholds E Q s''

theorem upholds_bind {p : Program S ε α} {f : α → Program S ε β} {Q : Except ε β → σ → Prop}
    {s : σ} :
    (p >>= f).Upholds E Q s ↔ p.Upholds E (fun r s' ↦
      match r with
      | .ok a => (f a).Upholds E Q s'
      | .error e => Q (.error e) s') s := by
  induction p generalizing s with
  | ret a => exact Iff.rfl
  | raise e => exact Iff.rfl
  | call o next ih =>
    refine forall_congr' fun s' ↦ forall_congr' fun _ ↦ forall_congr' fun r ↦
      forall_congr' fun s'' ↦ forall_congr' fun _ ↦ and_congr Iff.rfl (ih r)

theorem upholds_attempt {p : Program S ε α} {Q : Except ε (Except ε α) → σ → Prop} {s : σ} :
    p.attempt.Upholds E Q s ↔ p.Upholds E (fun r s' ↦ Q (.ok r) s') s := by
  induction p generalizing s with
  | ret a => exact Iff.rfl
  | raise e => exact Iff.rfl
  | call o next ih =>
    refine forall_congr' fun s' ↦ forall_congr' fun _ ↦ forall_congr' fun r ↦
      forall_congr' fun s'' ↦ forall_congr' fun _ ↦ and_congr Iff.rfl (ih r)

namespace Upholds

theorem imp {p : Program S ε α} {Q Q' : Except ε α → σ → Prop} {s : σ} (hp : p.Upholds E Q s)
    (hQ : ∀ r s', Q r s' → Q' r s') : p.Upholds E Q' s := by
  induction p generalizing s with
  | ret a => exact hQ _ _ hp
  | raise e => exact hQ _ _ hp
  | call o next ih =>
    intro s' hs' r s'' hexec
    obtain ⟨hguarantee, hnext⟩ := hp s' hs' r s'' hexec
    exact ⟨hguarantee, ih r hnext⟩

/-- The rule for one operation followed by the rest of the program. -/
theorem perform_bind {o : S.Op} {f : S.Ans o → Program S ε β} {Q : Except ε β → σ → Prop} {s : σ}
    (h : ∀ s', E.rely s s' → ∀ r s'', E.exec s' o r s'' → E.guarantee s' s'' ∧
      ((∀ e, r = .error e → Q (.error e) s'') ∧ ∀ a, r = .ok a → (f a).Upholds E Q s'')) :
    (perform o >>= f).Upholds E Q s := by
  rw [upholds_bind]
  intro s' hs' r s'' hexec
  obtain ⟨hguarantee, herror, hok⟩ := h s' hs' r s'' hexec
  refine ⟨hguarantee, ?_⟩
  cases r with
  | error e => exact herror e rfl
  | ok a => exact hok a rfl

theorem raiseIf_bind {condition : Prop} [Decidable condition] {e : ε} {f : Unit → Program S ε β}
    {Q : Except ε β → σ → Prop} {s : σ} (hraise : condition → Q (.error e) s)
    (hpass : ¬condition → (f ()).Upholds E Q s) : (raiseIf condition e >>= f).Upholds E Q s := by
  rw [raiseIf, upholds_bind]
  by_cases hc : condition
  · rw [if_pos hc]
    exact hraise hc
  · rw [if_neg hc]
    exact hpass hc

theorem orRaise_bind {r : Except ε α} {f : α → Program S ε β} {Q : Except ε β → σ → Prop} {s : σ}
    (herror : ∀ e, r = .error e → Q (.error e) s)
    (hok : ∀ a, r = .ok a → (f a).Upholds E Q s) : (orRaise r >>= f).Upholds E Q s := by
  rw [upholds_bind]
  cases r with
  | error e => exact herror e rfl
  | ok a => exact hok a rfl

/-- A program that is about to perform an operation can wait for it. -/
theorem wait (htrans : ∀ {s s' s''}, E.rely s s' → E.rely s' s'' → E.rely s s'') {o : S.Op}
    {next : Except ε (S.Ans o) → Program S ε α} {Q : Except ε α → σ → Prop} {s s' : σ}
    (hp : (Program.call o next).Upholds E Q s) (hs' : E.rely s s') :
    (Program.call o next).Upholds E Q s' :=
  fun s'' hs'' ↦ hp s'' (htrans hs' hs'')

end Upholds

end Program

end Interleaving
