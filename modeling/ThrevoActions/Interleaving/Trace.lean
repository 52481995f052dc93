import ThrevoActions.Interleaving.Program

/-!
# The visible part of a history

Often only some operations of a program matter. `visibleEvents` is what is left of a history when
the others are hidden, and `Program.Shows` the weakest precondition that looks at nothing else: it
is computed by recursion on the program, with the visible events so far as its only state.
-/

namespace Interleaving

variable {S : Signature} {ε α β : Type} {visible : S.Op → Bool}

/-- The visible events of a history, newest first. -/
def visibleEvents (visible : S.Op → Bool) (h : History S ε) : History S ε :=
  h.filter fun ev ↦ visible ev.op

theorem mem_visibleEvents {h : History S ε} {ev : Event S ε} :
    ev ∈ visibleEvents visible h ↔ ev ∈ h ∧ visible ev.op = true := List.mem_filter

/-- The visible events after one more operation. -/
def showEvent (visible : S.Op → Bool) (ev : Event S ε) (w : History S ε) : History S ε :=
  if visible ev.op then ev :: w else w

theorem showEvent_of_visible {o : S.Op} (ho : visible o = true) (r : Except ε (S.Ans o))
    (w : History S ε) : showEvent visible ⟨o, r⟩ w = ⟨o, r⟩ :: w := if_pos ho

theorem showEvent_of_hidden {o : S.Op} (ho : visible o = false) (r : Except ε (S.Ans o))
    (w : History S ε) : showEvent visible ⟨o, r⟩ w = w := if_neg (by simp [ho])

theorem visibleEvents_cons (ev : Event S ε) (h : History S ε) :
    visibleEvents visible (ev :: h) = showEvent visible ev (visibleEvents visible h) :=
  List.filter_cons

namespace Program

/-- From the visible events `w` on, `Q` holds of the visible events and of the ending, whatever is
answered. -/
def Shows (visible : S.Op → Bool) : Program S ε α → (History S ε → Except ε α → Prop) →
    History S ε → Prop
  | .ret a, Q, w => Q w (.ok a)
  | .raise e, Q, w => Q w (.error e)
  | .call o next, Q, w => ∀ r, (next r).Shows visible Q (showEvent visible ⟨o, r⟩ w)

variable {Q : History S ε → Except ε β → Prop} {w : History S ε}

theorem shows_bind {p : Program S ε α} {f : α → Program S ε β} :
    Shows visible (p >>= f) Q w ↔ p.Shows visible (fun w' r ↦
      match r with
      | .ok a => (f a).Shows visible Q w'
      | .error e => Q w' (.error e)) w := by
  induction p generalizing w with
  | ret a => exact Iff.rfl
  | raise e => exact Iff.rfl
  | call o next ih => exact forall_congr' fun r ↦ ih r

theorem shows_attempt {p : Program S ε α} {Q : History S ε → Except ε (Except ε α) → Prop} :
    Shows visible p.attempt Q w ↔ p.Shows visible (fun w' r ↦ Q w' (.ok r)) w := by
  induction p generalizing w with
  | ret a => exact Iff.rfl
  | raise e => exact Iff.rfl
  | call o next ih => exact forall_congr' fun r ↦ ih r

namespace Shows

theorem imp {p : Program S ε α} {Q Q' : History S ε → Except ε α → Prop}
    (hp : p.Shows visible Q w) (hQ : ∀ w' r, Q w' r → Q' w' r) : p.Shows visible Q' w := by
  induction p generalizing w with
  | ret a => exact hQ w _ hp
  | raise e => exact hQ w _ hp
  | call o next ih => exact fun r ↦ ih r (hp r)

/-- A subprogram whose own visible events are known. -/
theorem bind_of {p : Program S ε α} {f : α → Program S ε β} {P : History S ε → Except ε α → Prop}
    (hp : p.Shows visible P w) (herror : ∀ w' e, P w' (.error e) → Q w' (.error e))
    (hok : ∀ w' a, P w' (.ok a) → (f a).Shows visible Q w') : (p >>= f).Shows visible Q w := by
  rw [shows_bind]
  refine hp.imp fun w' r hP ↦ ?_
  cases r with
  | error e => exact herror w' e hP
  | ok a => exact hok w' a hP

/-- The same for one whose errors are caught. -/
theorem attempt_of {p : Program S ε α} {f : Except ε α → Program S ε β}
    {P : History S ε → Except ε α → Prop} (hp : p.Shows visible P w)
    (hnext : ∀ w' r, P w' r → (f r).Shows visible Q w') :
    (p.attempt >>= f).Shows visible Q w := by
  rw [shows_bind, shows_attempt]
  exact hp.imp hnext

/-- One operation. -/
theorem perform {o : S.Op} {f : S.Ans o → Program S ε β}
    (herror : ∀ e, Q (showEvent visible ⟨o, .error e⟩ w) (.error e))
    (hok : ∀ a, (f a).Shows visible Q (showEvent visible ⟨o, .ok a⟩ w)) :
    (Program.perform o >>= f).Shows visible Q w := by
  rw [shows_bind]
  intro r
  cases r with
  | error e => exact herror e
  | ok a => exact hok a

/-- One operation that is visible. -/
theorem shown {o : S.Op} {f : S.Ans o → Program S ε β} (ho : visible o = true)
    (herror : ∀ e, Q (⟨o, .error e⟩ :: w) (.error e))
    (hok : ∀ a, (f a).Shows visible Q (⟨o, .ok a⟩ :: w)) :
    (Program.perform o >>= f).Shows visible Q w := by
  refine perform (fun e ↦ ?_) fun a ↦ ?_
  · rw [showEvent_of_visible ho]
    exact herror e
  · rw [showEvent_of_visible ho]
    exact hok a

/-- One operation that is hidden. -/
theorem hidden {o : S.Op} {f : S.Ans o → Program S ε β} (ho : visible o = false)
    (herror : ∀ e, Q w (.error e)) (hok : ∀ a, (f a).Shows visible Q w) :
    (Program.perform o >>= f).Shows visible Q w := by
  refine perform (fun e ↦ ?_) fun a ↦ ?_
  · rw [showEvent_of_hidden ho]
    exact herror e
  · rw [showEvent_of_hidden ho]
    exact hok a

/-- One operation that is hidden and whose errors are caught. -/
theorem attempt_hidden {o : S.Op} {f : Except ε (S.Ans o) → Program S ε β}
    (ho : visible o = false) (hnext : ∀ r, (f r).Shows visible Q w) :
    ((Program.perform o).attempt >>= f).Shows visible Q w := by
  rw [shows_bind, shows_attempt]
  intro r
  rw [showEvent_of_hidden ho]
  cases r with
  | error e => exact hnext (.error e)
  | ok a => exact hnext (.ok a)

theorem raiseIf {condition : Prop} [Decidable condition] {e : ε} {f : Unit → Program S ε β}
    (hraise : condition → Q w (.error e)) (hpass : ¬condition → (f ()).Shows visible Q w) :
    (raiseIf condition e >>= f).Shows visible Q w := by
  rw [Program.raiseIf, shows_bind]
  by_cases hc : condition
  · rw [if_pos hc]
    exact hraise hc
  · rw [if_neg hc]
    exact hpass hc

theorem orRaise {r : Except ε α} {f : α → Program S ε β}
    (herror : ∀ e, r = .error e → Q w (.error e))
    (hok : ∀ a, r = .ok a → (f a).Shows visible Q w) : (orRaise r >>= f).Shows visible Q w := by
  rw [shows_bind]
  cases r with
  | error e => exact herror e rfl
  | ok a => exact hok a rfl

/-- What a program shows, told of its whole history. -/
theorem meets {p : Program S ε α} {Q : History S ε → Except ε α → Prop} {h : History S ε}
    (hp : p.Shows visible Q (visibleEvents visible h)) :
    p.Meets free (fun h' r ↦ Q (visibleEvents visible h') r) h := by
  induction p generalizing h with
  | ret a => exact hp
  | raise e => exact hp
  | call o next ih =>
    refine ⟨trivial, fun r _ ↦ ih r ?_⟩
    rw [visibleEvents_cons]
    exact hp r

end Shows

end Program

end Interleaving
