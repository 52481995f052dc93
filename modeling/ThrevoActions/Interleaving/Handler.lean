import ThrevoActions.Interleaving.Program

/-!
# Programs over other programs

A program over one signature runs over another once every operation of the first is carried out by
a program over the second (`Program.handle`). What the program meets over the first signature it
meets over the second, provided its handler keeps the two histories related (`Meets.handle`).

`Program.Only` is the static part of a contract: which operations a program is confined to, and what
it can return, whatever is answered.
-/

namespace Interleaving

namespace Program

variable {S T : Signature} {ε α β : Type}

/-! ## Confinement -/

/-- Whatever is answered, the program performs only operations that are `good`, and returns only
what `P` allows. -/
def Only (good : S.Op → Prop) (P : α → Prop) : Program S ε α → Prop
  | .ret a => P a
  | .raise _ => True
  | .call o next => good o ∧ ∀ r, (next r).Only good P

namespace Only

variable {good : S.Op → Prop} {P : α → Prop} {P' : β → Prop}

theorem pure {a : α} (ha : P a) : (pure a : Program S ε α).Only good P := ha

theorem throw {e : ε} : (throw e : Program S ε α).Only good P := True.intro

theorem imp {good' : S.Op → Prop} {Q : α → Prop} {p : Program S ε α} (hp : p.Only good P)
    (hgood : ∀ o, good o → good' o) (hP : ∀ a, P a → Q a) : p.Only good' Q := by
  induction p with
  | ret a => exact hP a hp
  | raise e => exact True.intro
  | call o next ih => exact ⟨hgood o hp.1, fun r ↦ ih r (hp.2 r)⟩

theorem bind {p : Program S ε α} {f : α → Program S ε β} (hp : p.Only good P)
    (hf : ∀ a, P a → (f a).Only good P') : (p >>= f).Only good P' := by
  induction p with
  | ret a => exact hf a hp
  | raise e => exact True.intro
  | call o next ih => exact ⟨hp.1, fun r ↦ ih r (hp.2 r)⟩

theorem perform {o : S.Op} (ho : good o) :
    (Program.perform o : Program S ε (S.Ans o)).Only good fun _ ↦ True := by
  refine ⟨ho, fun r ↦ ?_⟩
  cases r <;> exact True.intro

theorem await {o : S.Op} {f : S.Ans o → Program S ε β} (ho : good o)
    (hf : ∀ a, (f a).Only good P') : (Program.perform o >>= f).Only good P' :=
  (perform ho).bind fun a _ ↦ hf a

/-- A subprogram whose errors are caught. -/
theorem attempt {p : Program S ε α} (hp : p.Only good P) :
    p.attempt.Only good fun r ↦ ∀ a, r = .ok a → P a := by
  induction p with
  | ret a =>
    intro a' ha'
    cases ha'
    exact hp
  | raise e =>
    intro a ha
    cases ha
  | call o next ih => exact ⟨hp.1, fun r ↦ ih r (hp.2 r)⟩

theorem raiseIf {condition : Prop} [Decidable condition] {e : ε} {f : Unit → Program S ε β}
    (hpass : ¬condition → (f ()).Only good P') : (raiseIf condition e >>= f).Only good P' := by
  rw [Program.raiseIf]
  by_cases hc : condition
  · rw [if_pos hc]
    exact True.intro
  · rw [if_neg hc]
    exact hpass hc

theorem orRaise {r : Except ε α} {f : α → Program S ε β}
    (hok : ∀ a, r = .ok a → (f a).Only good P') : (orRaise r >>= f).Only good P' := by
  cases r with
  | error e => exact True.intro
  | ok a => exact hok a rfl

/-- A confined program issues nothing its contract does not allow. -/
theorem meets {C : Contract S ε} {p : Program S ε α} {h : History S ε} (hp : p.Only good P)
    (hissues : ∀ h' o, h <:+ h' → good o → C.issues h' o) :
    p.Meets C (fun h' r ↦ h <:+ h' ∧ ∀ a, r = .ok a → P a) h := by
  induction p generalizing h with
  | ret a =>
    refine ⟨List.suffix_refl h, fun a' ha' ↦ ?_⟩
    cases ha'
    exact hp
  | raise e =>
    refine ⟨List.suffix_refl h, fun a ha ↦ ?_⟩
    cases ha
  | call o next ih =>
    refine ⟨hissues h o (List.suffix_refl h) hp.1, fun r _ ↦ ?_⟩
    refine Meets.imp (h := ⟨o, r⟩ :: h) (ih r (hp.2 r) fun h' o' hsuffix ↦ ?_) fun h' r' _ hQ ↦ ?_
    · exact hissues h' o' ((List.suffix_cons _ _).trans hsuffix)
    · exact ⟨(List.suffix_cons _ _).trans hQ.1, hQ.2⟩

/-- What a program returns after some history it returns after any. -/
theorem of_meets {p : Program S ε α} {h : History S ε}
    (hp : p.Meets free (fun _ r ↦ ∀ a, r = .ok a → P a) h) : p.Only (fun _ ↦ True) P := by
  induction p generalizing h with
  | ret a => exact hp a rfl
  | raise e => exact True.intro
  | call o next ih => exact ⟨True.intro, fun r ↦ ih r (hp.2 r True.intro)⟩

theorem and {P P' : α → Prop} {p : Program S ε α} (hp : p.Only good P)
    (hp' : p.Only (fun _ ↦ True) P') : p.Only good fun a ↦ P a ∧ P' a := by
  induction p with
  | ret a => exact ⟨hp, hp'⟩
  | raise e => exact True.intro
  | call o next ih => exact ⟨hp.1, fun r ↦ ih r (hp.2 r) (hp'.2 r)⟩

end Only

/-- What a program meets without a contract, it meets under any. -/
theorem Meets.and_free {C : Contract S ε} {p : Program S ε α}
    {Q Q' : History S ε → Except ε α → Prop} {h : History S ε} (hp : p.Meets C Q h)
    (hp' : p.Meets free Q' h) : p.Meets C (fun h' r ↦ Q h' r ∧ Q' h' r) h := by
  induction p generalizing h with
  | ret a => exact ⟨hp, hp'⟩
  | raise e => exact ⟨hp, hp'⟩
  | call o next ih => exact ⟨hp.1, fun r hr ↦ ih r (hp.2 r hr) (hp'.2 r True.intro)⟩

/-! ## Handlers -/

/-- Carry out every operation by the program its handler gives for it. -/
def handle (handler : (o : S.Op) → Program T ε (S.Ans o)) : Program S ε α → Program T ε α
  | .ret a => .ret a
  | .raise e => .raise e
  | .call o next => (handler o).attempt >>= fun r ↦ (next r).handle handler

/-- The rule for a handled program: the relation `R` between the history of the operations and the
history of what carried them out is an invariant. -/
theorem Meets.handle {C : Contract T ε} {A : Contract S ε}
    {handler : (o : S.Op) → Program T ε (S.Ans o)} {R : History S ε → History T ε → Prop}
    {Q : History S ε → Except ε α → Prop} {p : Program S ε α} {g : History S ε} {h : History T ε}
    (hp : p.Meets A Q g) (hR : R g h)
    (hhandler : ∀ o g h, R g h → A.issues g o →
      (handler o).Meets C (fun h' r ↦ A.legal o r ∧ R (⟨o, r⟩ :: g) h') h) :
    (p.handle handler).Meets C (fun h' r ↦ ∃ g', R g' h' ∧ Q g' r) h := by
  induction p generalizing g h with
  | ret a => exact ⟨g, hR, hp⟩
  | raise e => exact ⟨g, hR, hp⟩
  | call o next ih =>
    refine Meets.attempt_bind_of (hhandler o g h hR hp.1) fun h' r _ hcarried ↦ ?_
    exact ih r (hp.2 r hcarried.1) hcarried.2

/-- A program whose operations are carried out by confined programs is confined. -/
theorem Only.handle {good : T.Op → Prop} {goodOp : S.Op → Prop} {P : α → Prop}
    {handler : (o : S.Op) → Program T ε (S.Ans o)} {p : Program S ε α} (hp : p.Only goodOp P)
    (hhandler : ∀ o, goodOp o → (handler o).Only good fun _ ↦ True) :
    (p.handle handler).Only good P := by
  induction p with
  | ret a => exact hp
  | raise e => exact True.intro
  | call o next ih => exact (hhandler o hp.1).attempt.bind fun r _ ↦ ih r (hp.2 r)

end Program

end Interleaving
