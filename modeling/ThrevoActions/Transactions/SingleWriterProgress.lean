import ThrevoActions.Transactions.SingleWriter

/-!
# A single writer never deadlocks

Only the connection that has the lock keeps the others waiting, and it never waits itself: it comes
to the end of its transaction, whatever its statements are answered. After every interleaving, the
connections can therefore be brought to the ends of their calls one after the other
(`calls_end`).
-/

namespace SingleWriter

open Interleaving

variable {D ε A C W : Type} {X : Dialect D ε} [DecidableEq W] {calls : C → Call X A} {d₀ : D}
  {s s' s'' : System X W C A} {v w : W} {c : C} {p : Connected X A}

namespace System

/-- No other connection has the lock. -/
def Free (s : System X W C A) (w : W) : Prop := ∀ v d, s.writer = some (v, d) → v = w

omit [DecidableEq W] in
theorem free_of_writer (h : s.writer = none) (w : W) : s.Free w := by
  intro v d hwriter
  rw [h] at hwriter
  cases hwriter

theorem Free.release (h : s.Free w) : (s.release w).Free w := by
  rw [System.release]
  split_ifs
  · exact free_of_writer rfl w
  · exact h

/-- A statement of a connection that does not wait for the lock is answered. -/
theorem Free.exec (h : s.Free w) {o : X.Statement} (hbegin : o = .begin → s.working w = none) :
    ∃ r s', s.exec w o = some (r, s') ∧ s'.Free w ∧ s'.running = s.running ∧
      s'.ended = s.ended := by
  cases o with
  | begin =>
    rw [System.exec]
    cases hwriter : s.writer with
    | none =>
      refine ⟨_, _, rfl, fun v d heq ↦ ?_, rfl, rfl⟩
      cases heq
      rfl
    | some writer =>
      obtain ⟨v, d⟩ := writer
      cases h v d hwriter
      cases (working_eq_some.mpr hwriter).symm.trans (hbegin rfl)
  | query q =>
    rw [System.exec]
    cases hworking : s.working w with
    | none => exact ⟨_, s, rfl, h, rfl, rfl⟩
    | some d =>
      dsimp only
      cases hperform : X.perform q s.now d with
      | error e => exact ⟨_, s, rfl, h, rfl, rfl⟩
      | ok answered =>
        refine ⟨_, _, rfl, fun v d heq ↦ ?_, rfl, rfl⟩
        cases heq
        rfl
  | commit =>
    rw [System.exec]
    cases hworking : s.working w with
    | none => exact ⟨_, s, rfl, h, rfl, rfl⟩
    | some d => exact ⟨_, _, rfl, free_of_writer rfl w, rfl, rfl⟩
  | rollback => exact ⟨_, _, rfl, h.release, release_running, release_ended⟩

/-- What advancing some connections does to the calls: none begins, and those that end are
answered. -/
structure Settles (s s' : System X W C A) : Prop where
  running : ∀ v, s'.running v = none ∨ (s'.running v).map Prod.fst = (s.running v).map Prod.fst
  ended : s.ended <:+ s'.ended
  answered : ∀ v c, (s.running v).map Prod.fst = some c → s'.running v = none →
    ∃ r, (c, r) ∈ s'.ended

omit [DecidableEq W] in
theorem Settles.refl (s : System X W C A) : s.Settles s where
  running _ := .inr rfl
  ended := List.suffix_rfl
  answered v c hsome hnone := by
    rw [hnone] at hsome
    cases hsome

omit [DecidableEq W] in
theorem Settles.trans (h : s.Settles s') (h' : s'.Settles s'') : s.Settles s'' where
  running v := by
    rcases h'.running v with hnone | hsame
    · exact .inl hnone
    · rcases h.running v with hended | hbefore
      · rw [hended] at hsame
        exact .inl (Option.map_eq_none_iff.mp hsame)
      · exact .inr (hsame.trans hbefore)
  ended := h.ended.trans h'.ended
  answered v c hsome hnone := by
    rcases h.running v with hended | hsame
    · obtain ⟨r, hr⟩ := h.answered v c hsome hended
      exact ⟨r, h'.ended.subset hr⟩
    · exact h'.answered v c (hsame.trans hsome) hnone

/-- The call of a connection goes on, or ends. -/
theorem settles_goOn (hrunning : s.running w = some (c, p)) (hsame : s'.running = s.running)
    (hended : s'.ended = s.ended) (q : Connected X A) : s.Settles (s'.goOn w c q) := by
  have hother : ∀ {v call}, v ≠ w → Function.update s'.running w call v = s.running v := by
    intro v call hv
    rw [Function.update_of_ne hv, hsame]
  rw [goOn]
  cases hending : q.ending with
  | none =>
    refine ⟨fun v ↦ .inr ?_, hended ▸ List.suffix_rfl, fun v c' hsome hnone ↦ ?_⟩
    · by_cases hv : v = w
      · subst hv
        have hself : (Function.update s'.running v (some (c, q)) v).map Prod.fst = some c := by
          rw [Function.update_self]
          rfl
        rw [hrunning]
        exact hself
      · exact congrArg (Option.map Prod.fst) (hother hv)
    · have hnone : Function.update s'.running w (some (c, q)) v = none := hnone
      by_cases hv : v = w
      · subst hv
        rw [Function.update_self] at hnone
        cases hnone
      · rw [← hother hv, hnone] at hsome
        cases hsome
  | some r =>
    refine ⟨fun v ↦ ?_, hended ▸ List.suffix_cons _ _, fun v c' hsome hnone ↦ ?_⟩
    · by_cases hv : v = w
      · exact .inl (hv ▸ Function.update_self _ _ _)
      · exact .inr (congrArg (Option.map Prod.fst) (hother hv))
    · by_cases hv : v = w
      · subst hv
        rw [hrunning] at hsome
        cases hsome
        exact ⟨r, List.mem_cons_self⟩
      · have hnone : Function.update s'.running w none v = none := hnone
        rw [← hother hv, hnone] at hsome
        cases hsome

/-- The lock is as free as it was when a call goes on. -/
theorem Free.goOn (h : s.Free w) (c : C) (q : Connected X A) : (s.goOn w c q).Free w := by
  rw [System.goOn]
  cases q.ending with
  | none => exact h
  | some r => exact h.release

theorem run_append (events later : List (W × Event ε C)) :
    s.run calls (events ++ later) = (s.run calls events).run calls later :=
  List.foldl_append

end System

/-! ## The ends of calls -/

/-- The statement that a call performs next. -/
def nextStatement : Connected X A → Option X.Statement
  | .call o _ => some o
  | .ret _ | .raise _ => none

omit [DecidableEq W] in
/-- A call takes the lock once, when it has no transaction. -/
theorem Position.of_begin {contents : D} {working : Option D} {call : Call X A}
    (h : Position contents working call p) (hbegin : nextStatement p = some .begin) :
    working = none := by
  cases h with
  | opening hworking => exact hworking
  | reading hworking => exact hworking
  | failing => cases hbegin
  | within hworking hruns =>
    rename_i rest d
    cases rest with
    | ret exit => cases exit <;> cases hbegin
    | raise e => cases hbegin
    | query q next =>
      rw [orRollback_query] at hbegin
      cases hbegin

/-- A connection that nobody keeps from the lock comes to the end of its call. -/
theorem Sound.settles (h : Sound calls d₀ s) (hfree : s.Free w)
    (hrunning : s.running w = some (c, p)) :
    ∃ events : List (W × Event ε C), (∀ event ∈ events, event.2 = .advance) ∧
      s.Settles (s.run calls events) ∧ (s.run calls events).Free w ∧
      (s.run calls events).running w = none := by
  have hposition := h.running w c p hrunning
  induction p generalizing s with
  | ret a => cases hposition.ending
  | raise e => cases hposition.ending
  | call o next ih =>
    have hbegin : o = .begin → s.working w = none := by
      rintro rfl
      exact hposition.of_begin rfl
    obtain ⟨r, s₁, hexec, hfree₁, hrunning₁, hended₁⟩ := hfree.exec hbegin
    have hstep : s.step w calls .advance = s₁.goOn w c (next r) := by
      rw [System.step, hrunning]
      show s.advance w c (.call o next) = _
      rw [System.advance, hexec]
    have hsettles := System.settles_goOn hrunning hrunning₁ hended₁ (next r)
    have hfree₂ := hfree₁.goOn c (next r)
    cases hending : (next r).ending with
    | some ending =>
      have hidle : (s₁.goOn w c (next r)).running w = none := by
        rw [System.goOn, hending]
        exact Function.update_self _ _ _
      refine ⟨[(w, .advance)], List.forall_mem_singleton.mpr rfl, ?_⟩
      show s.Settles (s.step w calls .advance) ∧ (s.step w calls .advance).Free w ∧
        (s.step w calls .advance).running w = none
      rw [hstep]
      exact ⟨hsettles, hfree₂, hidle⟩
    | none =>
      have hgoes : (s₁.goOn w c (next r)).running w = some (c, next r) := by
        rw [System.goOn, hending]
        exact Function.update_self _ _ _
      have hsound : Sound calls d₀ (s₁.goOn w c (next r)) := hstep ▸ h.step .advance
      obtain ⟨events, hadvances, hrest, hfree', hidle⟩ :=
        ih r hsound hfree₂ hgoes (hsound.running w c _ hgoes)
      refine ⟨(w, .advance) :: events, List.forall_mem_cons.mpr ⟨rfl, hadvances⟩, ?_⟩
      show s.Settles ((s.step w calls .advance).run calls events) ∧
        ((s.step w calls .advance).run calls events).Free w ∧
        ((s.step w calls .advance).run calls events).running w = none
      rw [hstep]
      exact ⟨hsettles.trans hrest, hfree', hidle⟩

/-- Nobody has the lock once the only connection that may have it has no call. -/
theorem Sound.writer_eq_none (h : Sound calls d₀ s) (hfree : s.Free w)
    (hidle : s.running w = none) : s.writer = none := by
  cases hwriter : s.writer with
  | none => rfl
  | some writer =>
    obtain ⟨v, d⟩ := writer
    cases hfree v d hwriter
    cases (System.working_eq_some.mpr hwriter).symm.trans (h.idle w hidle)

/-- One after the other, connections come to the ends of their calls. -/
theorem Sound.settles_all (h : Sound calls d₀ s) (hwriter : s.writer = none) (ws : List W) :
    ∃ events : List (W × Event ε C), (∀ event ∈ events, event.2 = .advance) ∧
      s.Settles (s.run calls events) ∧ ∀ w ∈ ws, (s.run calls events).running w = none := by
  induction ws generalizing s with
  | nil => exact ⟨[], List.forall_mem_nil _, .refl s, List.forall_mem_nil _⟩
  | cons w ws ih =>
    have hfirst : ∃ events : List (W × Event ε C), (∀ event ∈ events, event.2 = .advance) ∧
        s.Settles (s.run calls events) ∧ (s.run calls events).Free w ∧
        (s.run calls events).running w = none := by
      cases hrunning : s.running w with
      | none =>
        exact ⟨[], List.forall_mem_nil _, .refl s, System.free_of_writer hwriter w, hrunning⟩
      | some call => exact h.settles (System.free_of_writer hwriter w) hrunning
    obtain ⟨events, hadvances, hsettles, hfree, hidle⟩ := hfirst
    have hsound := h.run events
    obtain ⟨later, hadvances', hsettles', hidle'⟩ := ih hsound (hsound.writer_eq_none hfree hidle)
    refine ⟨events ++ later, List.forall_mem_append.mpr ⟨hadvances, hadvances'⟩, ?_⟩
    rw [System.run_append]
    refine ⟨hsettles.trans hsettles', List.forall_mem_cons.mpr ⟨?_, hidle'⟩⟩
    rcases hsettles'.running w with hnone | hsame
    · exact hnone
    · rw [hidle] at hsame
      exact Option.map_eq_none_iff.mp hsame

/-- **No deadlock.** After every interleaving, the connections can be advanced in such an order
that each of them comes to the end of its call, which is answered. -/
theorem calls_end (calls : C → Call X A) (d₀ : D) (events : List (W × Event ε C)) (ws : List W) :
    ∃ later : List (W × Event ε C), (∀ event ∈ later, event.2 = .advance) ∧
      ((System.initial d₀).run calls events).Settles
        ((System.initial d₀).run calls (events ++ later)) ∧
      ∀ w ∈ ws, ((System.initial d₀).run calls (events ++ later)).running w = none := by
  have hsound : Sound calls d₀ ((System.initial d₀ : System X W C A).run calls events) :=
    sound_initial.run events
  -- the connection that has the lock, if there is one, goes first
  have hwriter : ∃ first : List (W × Event ε C), (∀ event ∈ first, event.2 = .advance) ∧
      ((System.initial d₀).run calls events).Settles
        (((System.initial d₀).run calls events).run calls first) ∧
      (((System.initial d₀).run calls events).run calls first).writer = none := by
    cases hwriter : ((System.initial d₀ : System X W C A).run calls events).writer with
    | none => exact ⟨[], List.forall_mem_nil _, .refl _, hwriter⟩
    | some writer =>
      obtain ⟨v, d⟩ := writer
      have hfree : ((System.initial d₀ : System X W C A).run calls events).Free v := by
        intro u d' hu
        rw [hwriter] at hu
        cases hu
        rfl
      cases hrunning : ((System.initial d₀ : System X W C A).run calls events).running v with
      | none => exact ⟨[], List.forall_mem_nil _, .refl _, hsound.writer_eq_none hfree hrunning⟩
      | some call =>
        obtain ⟨first, hadvances, hsettles, hfree', hidle⟩ := hsound.settles hfree hrunning
        exact ⟨first, hadvances, hsettles, (hsound.run first).writer_eq_none hfree' hidle⟩
  obtain ⟨first, hadvances, hsettles, hnone⟩ := hwriter
  obtain ⟨later, hadvances', hsettles', hidle⟩ := (hsound.run first).settles_all hnone ws
  refine ⟨first ++ later, List.forall_mem_append.mpr ⟨hadvances, hadvances'⟩, ?_⟩
  rw [System.run_append, System.run_append]
  exact ⟨hsettles.trans hsettles', hidle⟩

end SingleWriter
