import ThrevoActions.Interleaving.Program

/-!
# Disguised answers

What a program does with an answer may depend on a part of it only. A `Disguise` replaces answers,
by hiding a part of them for instance, and a program is indifferent to it if after every answer it
goes on exactly as it would after the disguised one. An indifferent program ends in the same way
when it is run on disguised answers throughout (`Indifferent.executes`), so what it returns carries
nothing of what the disguise hides, and two of its executions that look the same in disguise end the
same way.

Indifference may be relative to what answers are to be expected: `expects` says which answers can
come after which history.
-/

namespace Interleaving

/-- A way to disguise answers, and which answers are to be expected after which history. -/
structure Disguise (S : Signature) (ε : Type) where
  hide : (o : S.Op) → Except ε (S.Ans o) → Except ε (S.Ans o)
  expects : History S ε → (o : S.Op) → Except ε (S.Ans o) → Prop

variable {S : Signature} {ε α β : Type}

/-- The event with its answer disguised. -/
def Disguise.event (D : Disguise S ε) (ev : Event S ε) : Event S ε := ⟨ev.op, D.hide ev.op ev.answer⟩

/-- The history with its answers disguised. -/
def Disguise.history (D : Disguise S ε) (h : History S ε) : History S ε := h.map D.event

/-- Every answer of the history was to be expected. -/
def Disguise.Expected (D : Disguise S ε) (h : History S ε) : Prop :=
  ∀ ev past, ev :: past <:+ h → D.expects past ev.op ev.answer

theorem Disguise.Expected.of_cons {D : Disguise S ε} {ev : Event S ε} {h : History S ε}
    (hexpected : D.Expected (ev :: h)) : D.expects h ev.op ev.answer ∧ D.Expected h :=
  ⟨hexpected ev h (List.suffix_refl _), fun ev' past hev' ↦
    hexpected ev' past (hev'.trans (List.suffix_cons ev h))⟩

namespace Program

/-- From history `h` on, the program goes on after every answer to be expected as it would after
the disguised one. -/
def Indifferent (D : Disguise S ε) : Program S ε α → History S ε → Prop
  | .ret _, _ => True
  | .raise _, _ => True
  | .call o next, h => ∀ r, D.expects h o r →
      next (D.hide o r) = next r ∧ (next r).Indifferent D (⟨o, r⟩ :: h)

namespace Indifferent

variable {D : Disguise S ε} {h : History S ε}

theorem pure (a : α) (h : History S ε) : (pure a : Program S ε α).Indifferent D h := trivial

theorem throw (e : ε) (h : History S ε) : (throw e : Program S ε α).Indifferent D h := trivial

/-- The rule for a subprogram that is known to return something satisfying `P`. -/
theorem bind_of {p : Program S ε α} {f : α → Program S ε β} {P : History S ε → α → Prop}
    (hp : p.Indifferent D h) (hreturns : p.Returns P h)
    (hnext : ∀ h' a, P h' a → (f a).Indifferent D h') : (p >>= f).Indifferent D h := by
  have hends : p.Meets free (fun h' r ↦ ∀ a, r = .ok a → P h' a) h :=
    Meets.imp hreturns fun _ _ _ hQ ↦ hQ.2
  induction p generalizing h with
  | ret a => exact hnext h a (hends a rfl)
  | raise e => exact trivial
  | call o next ih =>
    intro r hr
    obtain ⟨hsame, hrest⟩ := hp r hr
    have hends' := hends.2 r trivial
    refine ⟨congrArg (fun q ↦ q.bind f) hsame, ih r hrest ?_ hends'⟩
    exact Meets.imp hends' fun h' r' hsuffix hQ ↦ ⟨hsuffix, hQ⟩

theorem bind {p : Program S ε α} {f : α → Program S ε β} (hp : p.Indifferent D h)
    (hnext : ∀ h' a, (f a).Indifferent D h') : (p >>= f).Indifferent D h :=
  bind_of hp (Returns.any p h) fun h' a _ ↦ hnext h' a

theorem attempt {p : Program S ε α} (hp : p.Indifferent D h) : p.attempt.Indifferent D h := by
  induction p generalizing h with
  | ret a => exact trivial
  | raise e => exact trivial
  | call o next ih =>
    intro r hr
    obtain ⟨hsame, hrest⟩ := hp r hr
    exact ⟨congrArg Program.attempt hsame, ih r hrest⟩

/-- The rule for a subprogram whose errors are caught. -/
theorem attempt_bind_of {p : Program S ε α} {f : Except ε α → Program S ε β}
    {P : History S ε → α → Prop} (hp : p.Indifferent D h) (hreturns : p.Returns P h)
    (herror : ∀ h' e, (f (.error e)).Indifferent D h')
    (hok : ∀ h' a, P h' a → (f (.ok a)).Indifferent D h') :
    (p.attempt >>= f).Indifferent D h := by
  refine bind_of hp.attempt (P := fun h' r ↦ ∀ a, r = .ok a → P h' a) ?_ fun h' r hr ↦ ?_
  · refine meets_attempt.mpr (Meets.imp hreturns fun h' r _ hQ ↦ ⟨hQ.1, ?_⟩)
    intro r' hr' a ha
    exact hQ.2 a ((Except.ok.inj hr').trans ha)
  · cases r with
    | ok a => exact hok h' a (hr a rfl)
    | error e => exact herror h' e

/-- An operation whose answer is not disguised. -/
theorem perform {o : S.Op} (ho : ∀ r, D.hide o r = r) (h : History S ε) :
    (perform o).Indifferent D h := by
  intro r _
  refine ⟨congrArg orRaise (ho r), ?_⟩
  cases r <;> exact trivial

theorem perform_bind {o : S.Op} {f : S.Ans o → Program S ε β} (ho : ∀ r, D.hide o r = r)
    (hnext : ∀ a, (f a).Indifferent D (⟨o, .ok a⟩ :: h)) :
    (Program.perform o >>= f).Indifferent D h := by
  intro r _
  refine ⟨congrArg (fun r ↦ (orRaise r).bind f) (ho r), ?_⟩
  cases r with
  | ok a => exact hnext a
  | error e => exact trivial

theorem attempt_perform_bind {o : S.Op} {f : Except ε (S.Ans o) → Program S ε β}
    (ho : ∀ r, D.hide o r = r) (hnext : ∀ r, (f r).Indifferent D (⟨o, r⟩ :: h)) :
    ((Program.perform o).attempt >>= f).Indifferent D h := by
  intro r _
  refine ⟨congrArg (fun r ↦ ((orRaise r).attempt).bind f) (ho r), ?_⟩
  cases r <;> exact hnext _

theorem raiseIf_bind {condition : Prop} [Decidable condition] {e : ε}
    {f : Unit → Program S ε β} (hpass : ¬condition → (f ()).Indifferent D h) :
    (raiseIf condition e >>= f).Indifferent D h := by
  rw [raiseIf]
  by_cases hc : condition
  · rw [if_pos hc]
    exact trivial
  · rw [if_neg hc]
    exact hpass hc

theorem orRaise_bind {r : Except ε α} {f : α → Program S ε β}
    (hok : ∀ a, (f a).Indifferent D h) : (orRaise r >>= f).Indifferent D h := by
  cases r with
  | ok a => exact hok a
  | error e => exact trivial

/-- **An indifferent program runs on disguised answers as on the true ones.** -/
theorem executes {legal : (o : S.Op) → Except ε (S.Ans o) → Prop} {p q : Program S ε α}
    (hp : p.Indifferent D []) (hx : Executes legal p [] q h) (hexpected : D.Expected h) :
    q.Indifferent D h ∧ Executes (fun _ _ ↦ True) p [] q (D.history h) := by
  induction hx with
  | refl => exact ⟨hp, .refl⟩
  | @step o next h r _ _ ih =>
    obtain ⟨hexpects, hexpected⟩ := hexpected.of_cons
    obtain ⟨hcall, hexecutes⟩ := ih hexpected
    obtain ⟨hsame, hnext⟩ := hcall r hexpects
    refine ⟨hnext, ?_⟩
    rw [← hsame]
    exact .step hexecutes trivial

end Indifferent

end Program

/-- What is left of a program is determined by its history. -/
theorem Executes.unique {legal legal' : (o : S.Op) → Except ε (S.Ans o) → Prop}
    {p q q' : Program S ε α} {h : History S ε} (hx : Executes legal p [] q h)
    (hx' : Executes legal' p [] q' h) : q = q' := by
  induction hx generalizing q' with
  | refl =>
    cases hx'
    rfl
  | @step o next h r hx _ ih =>
    cases hx' with
    | step hx' _ =>
      cases ih hx'
      rfl

end Interleaving
