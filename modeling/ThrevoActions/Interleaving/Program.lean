import Mathlib.Data.List.Basic

/-!
# Programs that perform one atomic operation at a time

A program is the tree of operations it may still perform: it returns, it raises, or it performs
an operation of its signature and continues with whatever answer comes back. An operation may
itself answer by raising, so every continuation receives an `Except`. Nothing is said about where
answers come from; the module `Interleaving.Machine` lets several programs share a state.

## Reasoning about one program

What a program did so far is its *history*, the list of its answered operations with the newest
first. A `Contract` says which answers are legal and which operations may be issued after which
history, and `Meets` is the weakest precondition of a program under a contract: every operation
it can reach is issued lawfully, and every way it can end satisfies the postcondition. Both the
contract and the postcondition speak about the whole history, so a fact established once (an
answer received, a check made) stays available to the end of the proof.
-/

namespace Interleaving

/-- A signature of atomic operations: `Ans o` is the type of the normal answers to `o`. -/
structure Signature where
  Op : Type
  Ans : Op → Type

/-- An operation together with the answer it received. -/
structure Event (S : Signature) (ε : Type) where
  op : S.Op
  answer : Except ε (S.Ans op)

/-- The answered operations of one program, newest first. -/
abbrev History (S : Signature) (ε : Type) := List (Event S ε)

/-- A program over the signature `S` that raises errors of type `ε`. -/
inductive Program (S : Signature) (ε α : Type) where
  | ret (a : α)
  | raise (e : ε)
  | call (o : S.Op) (next : Except ε (S.Ans o) → Program S ε α)

namespace Program

variable {S : Signature} {ε α β : Type}

/-- Sequential composition. A raised error skips everything that follows. -/
def bind : Program S ε α → (α → Program S ε β) → Program S ε β
  | .ret a, f => f a
  | .raise e, _ => .raise e
  | .call o next, f => .call o fun r ↦ (next r).bind f

/-- Run to the end and return how it ended, normally or by raising. -/
def attempt : Program S ε α → Program S ε (Except ε α)
  | .ret a => .ret (.ok a)
  | .raise e => .ret (.error e)
  | .call o next => .call o fun r ↦ (next r).attempt

/-- The program that has already ended as `r` says. -/
def orRaise : Except ε α → Program S ε α
  | .ok a => .ret a
  | .error e => .raise e

/-- Perform one operation and return its answer; an error in the answer is raised. -/
def perform (o : S.Op) : Program S ε (S.Ans o) := .call o orRaise

/-- Raise `e` if the condition holds, and go on otherwise. -/
def raiseIf (condition : Prop) [Decidable condition] (e : ε) : Program S ε Unit :=
  if condition then .raise e else .ret ()

instance : Monad (Program S ε) where
  pure := .ret
  bind := bind

instance : MonadExcept ε (Program S ε) where
  throw := .raise
  tryCatch p handler := p.attempt.bind fun
    | .ok a => .ret a
    | .error e => handler e

theorem bind_ret (p : Program S ε α) : p.bind .ret = p := by
  induction p with
  | ret a => rfl
  | raise e => rfl
  | call o next ih => exact congrArg (call o) (funext fun r ↦ ih r)

theorem bind_assoc {γ : Type} (p : Program S ε α) (f : α → Program S ε β)
    (g : β → Program S ε γ) : (p.bind f).bind g = p.bind fun a ↦ (f a).bind g := by
  induction p with
  | ret a => rfl
  | raise e => rfl
  | call o next ih => exact congrArg (call o) (funext fun r ↦ ih r)

instance : LawfulMonad (Program S ε) :=
  LawfulMonad.mk' (Program S ε) bind_ret (fun _ _ ↦ rfl) bind_assoc

end Program

/-! ## Executions of a single program -/

section Executions

variable {S : Signature} {ε α : Type}

/-- `Executes legal p h q h'`: started as `p` after history `h`, the program can be left as `q`
after history `h'`, every answer on the way being legal. -/
inductive Executes (legal : (o : S.Op) → Except ε (S.Ans o) → Prop)
    (p : Program S ε α) (h : History S ε) : Program S ε α → History S ε → Prop
  | refl : Executes legal p h p h
  | step {o : S.Op} {next : Except ε (S.Ans o) → Program S ε α} {h' : History S ε}
      {r : Except ε (S.Ans o)} : Executes legal p h (.call o next) h' → legal o r →
      Executes legal p h (next r) (⟨o, r⟩ :: h')

/-- A complete execution of `p` with history `h` that ends as `r`. -/
def Finishes (legal : (o : S.Op) → Except ε (S.Ans o) → Prop) (p : Program S ε α)
    (h : History S ε) (r : Except ε α) : Prop :=
  Executes legal p [] (.orRaise r) h

theorem Executes.suffix {legal : (o : S.Op) → Except ε (S.Ans o) → Prop}
    {p q : Program S ε α} {h h' : History S ε} (hx : Executes legal p h q h') : h <:+ h' := by
  induction hx with
  | refl => exact List.suffix_refl h
  | step _ _ ih => exact ih.trans (List.suffix_cons _ _)

/-- Executions differ in what they count as legal only. -/
theorem Executes.of_history {legal legal' : (o : S.Op) → Except ε (S.Ans o) → Prop}
    {p q : Program S ε α} {h h' : History S ε} (hx : Executes legal p h q h')
    (hlegal : ∀ ev ∈ h', legal' ev.op ev.answer) : Executes legal' p h q h' := by
  induction hx with
  | refl => exact .refl
  | step _ _ ih =>
    refine .step (ih fun ev hev ↦ hlegal ev (List.mem_cons_of_mem _ hev)) ?_
    exact hlegal _ List.mem_cons_self

/-- Every answer on the way was legal. -/
theorem Executes.legal {legal : (o : S.Op) → Except ε (S.Ans o) → Prop} {p q : Program S ε α}
    {h h' : History S ε} (hx : Executes legal p h q h') (hh : ∀ ev ∈ h, legal ev.op ev.answer) :
    ∀ ev ∈ h', legal ev.op ev.answer := by
  induction hx with
  | refl => exact hh
  | step _ hr ih =>
    intro ev hev
    rcases List.mem_cons.mp hev with rfl | hev
    · exact hr
    · exact ih ev hev

/-- What is left of a program, and its history, after at most `n` operations answered by a given
environment. -/
def Program.replay (answer : History S ε → (o : S.Op) → Except ε (S.Ans o)) :
    ℕ → Program S ε α → History S ε → Program S ε α × History S ε
  | n + 1, .call o next, h => replay answer n (next (answer h o)) (⟨o, answer h o⟩ :: h)
  | _, p, h => (p, h)

/-- Replaying is one of the executions, if the environment answers legally. -/
theorem Executes.replay {legal : (o : S.Op) → Except ε (S.Ans o) → Prop}
    {answer : History S ε → (o : S.Op) → Except ε (S.Ans o)}
    (hlegal : ∀ h o, legal o (answer h o)) (n : ℕ) {p q : Program S ε α} {h h' : History S ε}
    (hx : Executes legal p h q h') :
    Executes legal p h (q.replay answer n h').1 (q.replay answer n h').2 := by
  induction n generalizing q h' with
  | zero => cases q <;> exact hx
  | succ n ih =>
    cases q with
    | ret a => exact hx
    | raise e => exact hx
    | call o next => exact ih (.step hx (hlegal h' o))

/-- How a program has ended, if it has. -/
def Program.ending : Program S ε α → Option (Except ε α)
  | .ret a => some (.ok a)
  | .raise e => some (.error e)
  | .call _ _ => none

theorem Program.exists_orRaise {p : Program S ε α} (h : p.ending.isSome = true) :
    ∃ r, p = .orRaise r := by
  cases p with
  | ret a => exact ⟨.ok a, rfl⟩
  | raise e => exact ⟨.error e, rfl⟩
  | call o next => cases h

theorem Program.exists_ret {p : Program S ε α} (h : p.ending.any Except.isOk = true) :
    ∃ a, p = .ret a := by
  cases p with
  | ret a => exact ⟨a, rfl⟩
  | raise e => cases h
  | call o next => cases h

end Executions

/-! ## Contracts and weakest preconditions -/

/-- Which answers are legal, and which operations may be issued after which history. -/
structure Contract (S : Signature) (ε : Type) where
  legal : (o : S.Op) → Except ε (S.Ans o) → Prop
  issues : History S ε → S.Op → Prop

namespace Program

variable {S : Signature} {ε α β : Type} {C : Contract S ε}

/-- The weakest precondition: from history `h` on, every operation the program reaches is issued
lawfully, and however it ends, `Q` holds of the final history and of the ending. -/
def Meets (C : Contract S ε) : Program S ε α → (History S ε → Except ε α → Prop) →
    History S ε → Prop
  | .ret a, Q, h => Q h (.ok a)
  | .raise e, Q, h => Q h (.error e)
  | .call o next, Q, h =>
      C.issues h o ∧ ∀ r, C.legal o r → (next r).Meets C Q (⟨o, r⟩ :: h)

@[simp] theorem meets_pure {a : α} {Q : History S ε → Except ε α → Prop} {h : History S ε} :
    Meets C (pure a : Program S ε α) Q h ↔ Q h (.ok a) := Iff.rfl

@[simp] theorem meets_throw {e : ε} {Q : History S ε → Except ε α → Prop} {h : History S ε} :
    Meets C (throw e : Program S ε α) Q h ↔ Q h (.error e) := Iff.rfl

@[simp] theorem meets_orRaise {r : Except ε α} {Q : History S ε → Except ε α → Prop}
    {h : History S ε} : Meets C (orRaise r) Q h ↔ Q h r := by
  cases r <;> rfl

theorem meets_perform {o : S.Op} {Q : History S ε → Except ε (S.Ans o) → Prop}
    {h : History S ε} :
    Meets C (perform o) Q h ↔ C.issues h o ∧ ∀ r, C.legal o r → Q (⟨o, r⟩ :: h) r := by
  simp [perform, Meets]

/-- Weakening the postcondition, with the knowledge that the history only grew. -/
theorem Meets.imp {p : Program S ε α} {Q Q' : History S ε → Except ε α → Prop}
    {h : History S ε} (hp : p.Meets C Q h)
    (hQ : ∀ h' r, h <:+ h' → Q h' r → Q' h' r) : p.Meets C Q' h := by
  induction p generalizing h with
  | ret a => exact hQ h _ (List.suffix_refl h) hp
  | raise e => exact hQ h _ (List.suffix_refl h) hp
  | call o next ih =>
    refine ⟨hp.1, fun r hr ↦ ih r (hp.2 r hr) fun h' r' hsuf hq ↦ ?_⟩
    exact hQ h' r' ((List.suffix_cons _ _).trans hsuf) hq

theorem meets_bind {p : Program S ε α} {f : α → Program S ε β}
    {Q : History S ε → Except ε β → Prop} {h : History S ε} :
    Meets C (p >>= f) Q h ↔ p.Meets C (fun h' r ↦
      match r with
      | .ok a => (f a).Meets C Q h'
      | .error e => Q h' (.error e)) h := by
  induction p generalizing h with
  | ret a => exact Iff.rfl
  | raise e => exact Iff.rfl
  | call o next ih => exact and_congr Iff.rfl (forall_congr' fun r ↦ forall_congr' fun _ ↦ ih r)

theorem meets_attempt {p : Program S ε α} {Q : History S ε → Except ε (Except ε α) → Prop}
    {h : History S ε} :
    Meets C p.attempt Q h ↔ p.Meets C (fun h' r ↦ Q h' (.ok r)) h := by
  induction p generalizing h with
  | ret a => exact Iff.rfl
  | raise e => exact Iff.rfl
  | call o next ih => exact and_congr Iff.rfl (forall_congr' fun r ↦ forall_congr' fun _ ↦ ih r)

/-- The rule for one operation followed by the rest of the program. -/
theorem Meets.perform_bind {o : S.Op} {f : S.Ans o → Program S ε β}
    {Q : History S ε → Except ε β → Prop} {h : History S ε} (hissue : C.issues h o)
    (herror : ∀ e, C.legal o (.error e) → Q (⟨o, .error e⟩ :: h) (.error e))
    (hok : ∀ a, C.legal o (.ok a) → (f a).Meets C Q (⟨o, .ok a⟩ :: h)) :
    Meets C (perform o >>= f) Q h := by
  rw [meets_bind, meets_perform]
  refine ⟨hissue, fun r hr ↦ ?_⟩
  cases r with
  | error e => exact herror e hr
  | ok a => exact hok a hr

/-- The rule for one operation whose errors are caught. -/
theorem Meets.attempt_perform_bind {o : S.Op} {f : Except ε (S.Ans o) → Program S ε β}
    {Q : History S ε → Except ε β → Prop} {h : History S ε} (hissue : C.issues h o)
    (hnext : ∀ r, C.legal o r → (f r).Meets C Q (⟨o, r⟩ :: h)) :
    Meets C ((perform o).attempt >>= f) Q h := by
  rw [meets_bind, meets_attempt, meets_perform]
  exact ⟨hissue, hnext⟩

/-- The rule for a subprogram whose errors are caught. -/
theorem Meets.attempt_bind_of {p : Program S ε α} {f : Except ε α → Program S ε β}
    {P : History S ε → Except ε α → Prop} {Q : History S ε → Except ε β → Prop}
    {h : History S ε} (hp : p.Meets C P h)
    (hnext : ∀ h' r, h <:+ h' → P h' r → (f r).Meets C Q h') :
    Meets C (p.attempt >>= f) Q h := by
  rw [meets_bind, meets_attempt]
  exact hp.imp hnext

/-- The rule for a guard: the rest of the program runs only if the guard let it. -/
theorem Meets.raiseIf_bind {condition : Prop} [Decidable condition] {e : ε}
    {f : Unit → Program S ε β} {Q : History S ε → Except ε β → Prop} {h : History S ε}
    (hraise : condition → Q h (.error e)) (hpass : ¬condition → (f ()).Meets C Q h) :
    Meets C (raiseIf condition e >>= f) Q h := by
  rw [raiseIf, meets_bind]
  by_cases hc : condition
  · rw [if_pos hc]
    exact hraise hc
  · rw [if_neg hc]
    exact hpass hc

/-- The rule for a computation that performs nothing but may raise. -/
theorem Meets.orRaise_bind {r : Except ε α} {f : α → Program S ε β}
    {Q : History S ε → Except ε β → Prop} {h : History S ε}
    (herror : ∀ e, r = .error e → Q h (.error e))
    (hok : ∀ a, r = .ok a → (f a).Meets C Q h) : Meets C (orRaise r >>= f) Q h := by
  rw [meets_bind, meets_orRaise]
  cases r with
  | error e => exact herror e rfl
  | ok a => exact hok a rfl

/-- The rule for a subprogram whose own specification is already known. -/
theorem Meets.bind_of {p : Program S ε α} {f : α → Program S ε β}
    {P : History S ε → Except ε α → Prop} {Q : History S ε → Except ε β → Prop}
    {h : History S ε} (hp : p.Meets C P h)
    (herror : ∀ h' e, h <:+ h' → P h' (.error e) → Q h' (.error e))
    (hok : ∀ h' a, h <:+ h' → P h' (.ok a) → (f a).Meets C Q h') :
    Meets C (p >>= f) Q h := by
  rw [meets_bind]
  refine hp.imp fun h' r hsuf hP ↦ ?_
  cases r with
  | error e => exact herror h' e hsuf hP
  | ok a => exact hok h' a hsuf hP

/-- Two postconditions proved apart hold together. -/
theorem Meets.and {p : Program S ε α} {Q Q' : History S ε → Except ε α → Prop}
    {h : History S ε} (hp : p.Meets C Q h) (hp' : p.Meets C Q' h) :
    p.Meets C (fun h' r ↦ Q h' r ∧ Q' h' r) h := by
  induction p generalizing h with
  | ret a => exact ⟨hp, hp'⟩
  | raise e => exact ⟨hp, hp'⟩
  | call o next ih => exact ⟨hp.1, fun r hr ↦ ih r (hp.2 r hr) (hp'.2 r hr)⟩

/-- A program looks at answers only, not at its history: what it meets after the history `h`, it
meets in any larger context that allows as much. -/
theorem Meets.frame {C' : Contract S ε} {p : Program S ε α}
    {Q Q' : History S ε → Except ε α → Prop} {h : History S ε} (hp : p.Meets C Q h)
    (start : History S ε) (hissues : ∀ h o, C.issues h o → C'.issues (h ++ start) o)
    (hlegal : ∀ o r, C'.legal o r → C.legal o r) (hQ : ∀ h r, Q h r → Q' (h ++ start) r) :
    p.Meets C' Q' (h ++ start) := by
  induction p generalizing h with
  | ret a => exact hQ h _ hp
  | raise e => exact hQ h _ hp
  | call o next ih =>
    exact ⟨hissues h o hp.1, fun r hr ↦ ih r (hp.2 r (hlegal o r hr))⟩

/-- The postcondition may rely on every event having been issued lawfully. -/
theorem Meets.traced {p : Program S ε α} {Q : History S ε → Except ε α → Prop} {h : History S ε}
    (hp : p.Meets C Q h) (hh : ∀ ev past, ev :: past <:+ h → C.issues past ev.op) :
    p.Meets C (fun h' r ↦ Q h' r ∧ ∀ ev past, ev :: past <:+ h' → C.issues past ev.op) h := by
  induction p generalizing h with
  | ret a => exact ⟨hp, hh⟩
  | raise e => exact ⟨hp, hh⟩
  | call o next ih =>
    refine ⟨hp.1, fun r hr ↦ ih r (hp.2 r hr) fun ev past hev ↦ ?_⟩
    rcases List.suffix_cons_iff.mp hev with heq | hev
    · obtain ⟨rfl, rfl⟩ := List.cons.inj heq
      exact hp.1
    · exact hh ev past hev

/-- **Soundness along an execution.** What is left of a program still meets its contract. -/
theorem Meets.executes {p q : Program S ε α} {Q : History S ε → Except ε α → Prop}
    {h h' : History S ε} (hp : p.Meets C Q h) (hx : Executes C.legal p h q h') :
    q.Meets C Q h' := by
  induction hx with
  | refl => exact hp
  | step _ hr ih => exact ih.2 _ hr

/-- Every event of an execution was issued lawfully. -/
theorem Meets.issued {p q : Program S ε α} {Q : History S ε → Except ε α → Prop}
    {h : History S ε} (hp : p.Meets C Q []) (hx : Executes C.legal p [] q h) {ev : Event S ε}
    {past : History S ε} (hev : ev :: past <:+ h) : C.issues past ev.op := by
  induction hx with
  | refl => simp at hev
  | step hx _ ih =>
    rcases List.suffix_cons_iff.mp hev with heq | hev
    · obtain ⟨rfl, rfl⟩ := List.cons.inj heq
      exact (hp.executes hx).1
    · exact ih hev

/-- Every complete execution satisfies the postcondition. -/
theorem Meets.finishes {p : Program S ε α} {Q : History S ε → Except ε α → Prop}
    {h : History S ε} {r : Except ε α} (hp : p.Meets C Q []) (hx : Finishes C.legal p h r) :
    Q h r :=
  meets_orRaise.mp (hp.executes hx)

/-! ## What a program returns -/

/-- A contract that asks for nothing and promises nothing. -/
def free : Contract S ε := ⟨fun _ _ ↦ True, fun _ _ ↦ True⟩

theorem meets_free (p : Program S ε α) (h : History S ε) : p.Meets free (fun _ _ ↦ True) h := by
  induction p generalizing h with
  | ret a => exact True.intro
  | raise e => exact True.intro
  | call o next ih => exact ⟨True.intro, fun r _ ↦ ih r _⟩

/-- What a program meets under a contract that allows every answer, it meets without a contract. -/
theorem Meets.freed {p : Program S ε α} {Q : History S ε → Except ε α → Prop} {h : History S ε}
    (hp : p.Meets C Q h) (hlegal : ∀ o r, C.legal o r) : p.Meets free Q h := by
  induction p generalizing h with
  | ret a => exact hp
  | raise e => exact hp
  | call o next ih => exact ⟨trivial, fun r _ ↦ ih r (hp.2 r (hlegal o r))⟩

/-- Whatever is answered, `P` holds of what the program returns, if it returns. -/
def Returns (p : Program S ε α) (P : History S ε → α → Prop) (h : History S ε) : Prop :=
  p.Meets free (fun h' r ↦ h <:+ h' ∧ ∀ a, r = .ok a → P h' a) h

namespace Returns

variable {P : History S ε → α → Prop} {Q : History S ε → β → Prop} {h : History S ε}

theorem pure {a : α} (hP : P h a) : (pure a : Program S ε α).Returns P h :=
  ⟨List.suffix_refl h, fun _ heq ↦ Except.ok.inj heq ▸ hP⟩

theorem throw {e : ε} : (throw e : Program S ε α).Returns P h := ⟨List.suffix_refl h, nofun⟩

theorem bind {p : Program S ε α} {f : α → Program S ε β} (hp : p.Returns P h)
    (hnext : ∀ h' a, h <:+ h' → P h' a → (f a).Returns Q h') : (p >>= f).Returns Q h := by
  refine Meets.bind_of hp (fun h' e _ hP ↦ ⟨hP.1, nofun⟩) fun h' a _ hP ↦ ?_
  exact (hnext h' a hP.1 (hP.2 a rfl)).imp fun h'' r _ hQ ↦ ⟨hP.1.trans hQ.1, hQ.2⟩

theorem perform {o : S.Op} {f : S.Ans o → Program S ε β}
    (hnext : ∀ a, (f a).Returns Q (⟨o, .ok a⟩ :: h)) : (perform o >>= f).Returns Q h := by
  refine Meets.perform_bind True.intro (fun e _ ↦ ⟨List.suffix_cons _ _, nofun⟩) fun a _ ↦ ?_
  exact (hnext a).imp fun h' r _ hQ ↦ ⟨(List.suffix_cons _ _).trans hQ.1, hQ.2⟩

/-- One operation whose errors are caught. -/
theorem attempt {o : S.Op} {f : Except ε (S.Ans o) → Program S ε β}
    (hnext : ∀ r, (f r).Returns Q (⟨o, r⟩ :: h)) :
    ((Program.perform o).attempt >>= f).Returns Q h := by
  refine Meets.attempt_perform_bind True.intro fun r _ ↦ ?_
  exact (hnext r).imp fun h' r' _ hQ ↦ ⟨(List.suffix_cons _ _).trans hQ.1, hQ.2⟩

theorem raiseIf {condition : Prop} [Decidable condition] {e : ε} {f : Unit → Program S ε β}
    (hpass : ¬condition → (f ()).Returns Q h) : (raiseIf condition e >>= f).Returns Q h :=
  Meets.raiseIf_bind (fun _ ↦ ⟨List.suffix_refl h, nofun⟩) hpass

theorem orRaise {r : Except ε α} {f : α → Program S ε β}
    (hok : ∀ a, r = .ok a → (f a).Returns Q h) : (orRaise r >>= f).Returns Q h :=
  Meets.orRaise_bind (fun _ _ ↦ ⟨List.suffix_refl h, nofun⟩) hok

theorem imp {p : Program S ε α} {P' : History S ε → α → Prop} (hp : p.Returns P h)
    (hP : ∀ h' a, h <:+ h' → P h' a → P' h' a) : p.Returns P' h :=
  Meets.imp hp fun h' _ hsuffix hQ ↦ ⟨hQ.1, fun a ha ↦ hP h' a hsuffix (hQ.2 a ha)⟩

/-- What is returned at the end of a complete execution, and that its answers were legal. -/
theorem finishes {legal : (o : S.Op) → Except ε (S.Ans o) → Prop} {p : Program S ε α} {a : α}
    (hp : p.Returns P []) (hx : Finishes legal p h (.ok a)) :
    P h a ∧ ∀ ev ∈ h, legal ev.op ev.answer := by
  have hfree : Finishes (fun _ _ ↦ True) p h (.ok a) :=
    Executes.of_history hx fun _ _ ↦ True.intro
  exact ⟨(Meets.finishes hp hfree).2 a rfl, Executes.legal hx nofun⟩

/-- Whatever else a program does, it returns something. -/
theorem any (p : Program S ε α) (h : History S ε) : p.Returns (fun _ _ ↦ True) h := by
  refine Meets.imp (meets_free p h) fun h' r hsuffix _ ↦ ⟨hsuffix, fun _ _ ↦ True.intro⟩

end Returns

/-! ## What a program may do -/

/-- Some execution with legal answers performs an event of kind `E`. -/
def May (legal : (o : S.Op) → Except ε (S.Ans o) → Prop) (E : Event S ε → Prop) :
    Program S ε α → Prop
  | .ret _ => False
  | .raise _ => False
  | .call o next => ∃ r, legal o r ∧ (E ⟨o, r⟩ ∨ (next r).May legal E)

section May

variable {legal : (o : S.Op) → Except ε (S.Ans o) → Prop} {E : Event S ε → Prop}

@[simp] theorem may_pure {a : α} : (pure a : Program S ε α).May legal E ↔ False := Iff.rfl

@[simp] theorem may_throw {e : ε} : (throw e : Program S ε α).May legal E ↔ False := Iff.rfl

theorem may_raiseIf_bind {condition : Prop} [Decidable condition] {e : ε}
    {f : Unit → Program S ε β} :
    (raiseIf condition e >>= f).May legal E ↔ ¬condition ∧ (f ()).May legal E := by
  rw [raiseIf]
  by_cases hc : condition
  · rw [if_pos hc]
    exact iff_of_false id fun h ↦ h.1 hc
  · rw [if_neg hc]
    exact (and_iff_right hc).symm

/-- An operation with one legal answer. -/
theorem may_perform_bind {o : S.Op} {a : S.Ans o} {f : S.Ans o → Program S ε β}
    (hlegal : ∀ r, legal o r ↔ r = .ok a) :
    (perform o >>= f).May legal E ↔ E ⟨o, .ok a⟩ ∨ (f a).May legal E := by
  constructor
  · rintro ⟨r, hr, hmay⟩
    rw [(hlegal r).mp hr] at hmay
    exact hmay
  · intro hmay
    exact ⟨.ok a, (hlegal _).mpr rfl, hmay⟩

end May

end Program

end Interleaving
