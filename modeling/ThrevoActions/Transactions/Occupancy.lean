import ThrevoActions.Transactions.Consistency

/-!
# One occupant of a place

A row may occupy a place. Let every place have an advisory lock, and let a session make a row occupy
a place only while it holds that lock and sees no other occupant (`Entitled`). Then no place has two
occupants, in what is committed as in what any session sees (`Exclusive`). What carries this is that
an occupation which is not committed is a claim, and its session holds the lock of the place: a
commit of another session brings no occupant to a place whose lock it does not hold.

The same lock can guard other rows. A session that changes a guarded row only under the lock of a
vacant place does not change it while one row occupies the place: the commit that brings the change
finds the place vacant or vacates it (`Exclusive.guarded`). Two places may share a lock.
-/

namespace Transactions

variable {W K L P ε : Type} {R : K → Type}

/-- Which place a row occupies, which place guards a row, and the lock of a place. -/
structure Places (K : Type) (R : K → Type) (L P : Type) where
  occupies : (k : K) → R k → Option P
  guards : K → Option P
  lockOf : P → L

namespace Database

variable [DecidableEq K] {rules : Rules R ε} {places : Places K R L P} {db db' : Database W R L}
  {good : Database W R L → Sigma R → Prop} {v w : W} {k k' : K} {p : P}

/-- The row with key `k` occupies the place. -/
def Occupies (places : Places K R L P) (rows : AList R) (k : K) (p : P) : Prop :=
  ∃ r, rows.lookup k = some r ∧ places.occupies k r = some p

/-- No place is occupied twice. -/
def Single (places : Places K R L P) (rows : AList R) : Prop :=
  ∀ p k k', Occupies places rows k p → Occupies places rows k' p → k = k'

/-- The session has made the row occupy the place, and has not committed that. -/
def Claims (places : Places K R L P) (db : Database W R L) (w : W) (k : K) (p : P) : Prop :=
  Occupies places (db.writes w) k p ∧ ¬Occupies places db.rows k p

/-- The session may write the row: a place that it takes is occupied by that row already, or is
locked by the session and vacant. -/
def Entitled (places : Places K R L P) (w : W) (db : Database W R L) (row : Sigma R) : Prop :=
  (∀ p, places.occupies row.1 row.2 = some p → Occupies places (db.view w) row.1 p ∨
    db.advisory (places.lockOf p) = some w ∧
      ∀ k, Occupies places (db.view w) k p → k = row.1) ∧
  ∀ p, places.guards row.1 = some p → (db.view w).lookup row.1 = none ∨
    db.advisory (places.lockOf p) = some w ∧ ∀ k, ¬Occupies places (db.view w) k p

/-- A row that has left a place does not return to it. -/
def NoReturn (rules : Rules R ε) (places : Places K R L P) : Prop :=
  ∀ {k p old new new'}, rules.Evolves k (some old) (some new) → places.occupies k old = some p →
    places.occupies k new ≠ some p → rules.Evolves k (some new) (some new') →
    places.occupies k new' ≠ some p

structure Exclusive (places : Places K R L P) (db : Database W R L) : Prop where
  claimed : ∀ {w k p}, db.Claims places w k p → db.advisory (places.lockOf p) = some w
  rows : Single places db.rows
  views : ∀ w, Single places (db.view w)
  /-- A guarded row is written under the lock of its place, which is vacated with it. -/
  guarded : ∀ {w k p r}, (db.writes w).lookup k = some r → places.guards k = some p →
    db.rows.lookup k = none ∨ db.advisory (places.lockOf p) = some w ∧
      ∀ k', Occupies places db.rows k' p → ¬Occupies places (db.view w) k' p

theorem exclusive_empty : (empty : Database W R L).Exclusive places := by
  have hvacant : ∀ {k p}, ¬Occupies places (∅ : AList R) k p := by
    rintro k p ⟨r, hr, -⟩
    cases hr
  constructor
  · intro w k p h
    exact absurd h.1 hvacant
  · intro p k k' h
    exact absurd h hvacant
  · intro w p k k' h
    exact absurd h hvacant
  · intro w k p r hr
    cases hr

theorem occupied_view : Occupies places (db.view w) k p ↔ Occupies places (db.writes w) k p ∨
    (db.writes w).lookup k = none ∧ Occupies places db.rows k p := by
  cases hwritten : (db.writes w).lookup k with
  | none =>
    rw [Occupies, Occupies, lookup_view_of_not_written hwritten, hwritten]
    simp [Occupies]
  | some r =>
    rw [Occupies, Occupies, lookup_view_of_written hwritten, hwritten]
    simp

namespace Exclusive

/-- Without its lock, a session sees no occupant of a place but the committed one. -/
theorem occupied_rows (h : db.Exclusive places) (hlock : db.advisory (places.lockOf p) ≠ some w)
    (hk : Occupies places (db.view w) k p) : Occupies places db.rows k p := by
  rcases occupied_view.mp hk with hwritten | ⟨-, hrows⟩
  · by_contra hrows
    exact hlock (h.claimed ⟨hwritten, hrows⟩)
  · exact hrows

variable [DecidableEq W]

/-- With the lock of a place, a session sees no occupant come from the commit of another. -/
theorem occupied_commit (h : db.Exclusive places)
    (hlock : db.advisory (places.lockOf p) = some w) (hne : w ≠ v)
    (hk : Occupies places ((db.commit v).view w) k p) : Occupies places (db.view w) k p := by
  have hv : db.advisory (places.lockOf p) ≠ some v := by
    rw [hlock]
    exact fun hw ↦ hne (Option.some.inj hw)
  rw [occupied_view, writes_commit, writes_rollback_of_ne hne, rows_commit] at hk
  rw [occupied_view]
  exact hk.imp_right fun hview ↦ ⟨hview.1, h.occupied_rows hv hview.2⟩

/-- Without it, a session sees after the commit of another what that one has seen before. -/
theorem occupied_commit_of_unlocked (h : db.Exclusive places) (hc : db.Consistent rules)
    (hlock : db.advisory (places.lockOf p) ≠ some w) (hne : w ≠ v)
    (hk : Occupies places ((db.commit v).view w) k p) : Occupies places (db.view v) k p := by
  rw [occupied_view, writes_commit, writes_rollback_of_ne hne, rows_commit] at hk
  rcases hk with hwritten | ⟨-, hview⟩
  · obtain ⟨r, hr, -⟩ := id hwritten
    refine occupied_view.mpr (Or.inr ⟨hc.not_written (hc.locked hr) hne.symm, ?_⟩)
    exact h.occupied_rows hlock (occupied_view.mpr (Or.inl hwritten))
  · exact hview

theorem rollback (h : db.Exclusive places) (w : W) : (db.rollback w).Exclusive places := by
  have hwrites : ∀ {v k r}, ((db.rollback w).writes v).lookup k = some r →
      v ≠ w ∧ (db.writes v).lookup k = some r := by
    intro v k r hwritten
    by_cases hv : v = w
    · rw [hv, writes_rollback_self] at hwritten
      cases hwritten
    · rw [writes_rollback_of_ne hv] at hwritten
      exact ⟨hv, hwritten⟩
  constructor
  · rintro v k p ⟨⟨r, hr, hp⟩, hrows⟩
    obtain ⟨hv, hr⟩ := hwrites hr
    exact advisory_rollback_eq_some.mpr ⟨h.claimed ⟨⟨r, hr, hp⟩, hrows⟩, hv⟩
  · exact h.rows
  · intro v
    by_cases hv : v = w
    · rw [hv, view_rollback_self]
      exact h.rows
    · rw [view_rollback_of_ne hv]
      exact h.views v
  · intro v k p r hr hp
    obtain ⟨hv, hr⟩ := hwrites hr
    rw [view_rollback_of_ne hv]
    exact (h.guarded hr hp).imp_right fun hguard ↦
      ⟨advisory_rollback_eq_some.mpr ⟨hguard.1, hv⟩, hguard.2⟩

theorem commit (h : db.Exclusive places) (hc : db.Consistent rules) (v : W) :
    (db.commit v).Exclusive places := by
  have hwrites : ∀ {w k r}, ((db.commit v).writes w).lookup k = some r →
      w ≠ v ∧ (db.writes w).lookup k = some r ∧
        (db.commit v).rows.lookup k = db.rows.lookup k := by
    intro w k r hwritten
    by_cases hw : w = v
    · rw [hw, writes_commit, writes_rollback_self] at hwritten
      cases hwritten
    · rw [writes_commit, writes_rollback_of_ne hw] at hwritten
      exact ⟨hw, hwritten, hc.lookup_commit (hc.locked hwritten) hw⟩
  constructor
  · rintro w k p ⟨⟨r, hr, hp⟩, hrows⟩
    obtain ⟨hw, hr, hsame⟩ := hwrites hr
    rw [advisory_commit, advisory_rollback_eq_some]
    rw [Occupies, hsame] at hrows
    exact ⟨h.claimed ⟨⟨r, hr, hp⟩, hrows⟩, hw⟩
  · exact h.views v
  · intro w p k k' hk hk'
    by_cases hw : w = v
    · rw [hw, view, writes_commit, writes_rollback_self, AList.empty_union, rows_commit] at hk hk'
      exact h.views v p k k' hk hk'
    · by_cases hlock : db.advisory (places.lockOf p) = some w
      · exact h.views w p k k' (h.occupied_commit hlock hw hk) (h.occupied_commit hlock hw hk')
      · exact h.views v p k k' (h.occupied_commit_of_unlocked hc hlock hw hk)
          (h.occupied_commit_of_unlocked hc hlock hw hk')
  · intro w k p r hr hp
    obtain ⟨hw, hr, hsame⟩ := hwrites hr
    rw [hsame, advisory_commit, advisory_rollback_eq_some]
    refine (h.guarded hr hp).imp_right fun hguard ↦ ⟨⟨hguard.1, hw⟩, fun k' hk' hview ↦ ?_⟩
    have hunlocked : db.advisory (places.lockOf p) ≠ some v := by
      rw [hguard.1]
      exact fun hv ↦ hw (Option.some.inj hv)
    exact hguard.2 k' (h.occupied_rows hunlocked hk') (h.occupied_commit hguard.1 hw hview)

/-- Who sees an occupant after a row was written. -/
theorem occupied_write {r : R k} (hk : Occupies places ((db.write w k r).view w) k' p) :
    (k' = k ∧ places.occupies k r = some p) ∨ Occupies places (db.view w) k' p := by
  obtain ⟨r', hr', hp⟩ := hk
  by_cases hkk : k' = k
  · subst hkk
    rw [lookup_view_write_self] at hr'
    cases hr'
    exact Or.inl ⟨rfl, hp⟩
  · rw [lookup_view_write_of_ne hkk] at hr'
    exact Or.inr ⟨r', hr', hp⟩

theorem write (h : db.Exclusive places) (hc : db.Consistent rules) (hleaves : NoReturn rules places)
    {r submitted : R k} (hguard : rules.guard k ((db.view w).lookup k) submitted = .ok r)
    (hentitled : Entitled places w db ⟨k, r⟩) : (db.write w k r).Exclusive places := by
  have hwrites : ∀ {v k' r'}, ((db.write w k r).writes v).lookup k' = some r' →
      (∃ hk : k = k', v = w ∧ hk ▸ r = r') ∨ (db.writes v).lookup k' = some r' := by
    intro v k' r' hwritten
    by_cases hk : k' = k
    · subst hk
      by_cases hv : v = w
      · subst hv
        rw [writes_write_self, AList.lookup_insert] at hwritten
        exact Or.inl ⟨rfl, rfl, Option.some.inj hwritten⟩
      · rw [writes_write_of_ne hv] at hwritten
        exact Or.inr hwritten
    · rw [lookup_writes_write_of_ne hk] at hwritten
      exact Or.inr hwritten
  -- What `w` has vacated stays vacated.
  have hvacated : ∀ {p}, (∀ k', Occupies places db.rows k' p → ¬Occupies places (db.view w) k' p) →
      ∀ k', Occupies places db.rows k' p → ¬Occupies places ((db.write w k r).view w) k' p := by
    intro p hvacated k' hrows hview
    rcases occupied_write hview with ⟨rfl, hp⟩ | hview
    · obtain ⟨old, hold, hpold⟩ := id hrows
      have hseen := hc.view_evolves w k'
      cases hnew : (db.view w).lookup k' with
      | none =>
        rw [hold, hnew] at hseen
        cases hseen.isSome rfl
      | some new =>
        rw [hold, hnew] at hseen
        rw [hnew] at hguard
        refine hleaves hseen hpold (fun hpnew ↦ hvacated k' hrows ⟨new, hnew, hpnew⟩) ?_ hp
        exact .single ⟨submitted, r, hguard, rfl⟩
    · exact hvacated k' hrows hview
  constructor
  · rintro v k' p ⟨⟨r', hr', hp⟩, hrows⟩
    rcases hwrites hr' with ⟨rfl, rfl, rfl⟩ | hr'
    · rcases hentitled.1 p hp with hview | ⟨hlock, -⟩
      · rcases occupied_view.mp hview with hwritten | ⟨-, hcommitted⟩
        · exact h.claimed ⟨hwritten, hrows⟩
        · exact absurd hcommitted hrows
      · exact hlock
    · exact h.claimed ⟨⟨r', hr', hp⟩, hrows⟩
  · exact h.rows
  · intro v p k₁ k₂ h₁ h₂
    by_cases hv : v = w
    · subst hv
      have hnew : ∀ {k'}, places.occupies k r = some p → Occupies places (db.view v) k' p →
          k' = k := by
        intro k' hp hk'
        rcases hentitled.1 p hp with hview | ⟨-, hvacant⟩
        · exact h.views v p k' k hk' hview
        · exact hvacant k' hk'
      rcases occupied_write h₁ with ⟨hk₁, hp⟩ | h₁
      · rcases occupied_write h₂ with ⟨hk₂, -⟩ | h₂
        · exact hk₁.trans hk₂.symm
        · exact hk₁.trans (hnew hp h₂).symm
      · rcases occupied_write h₂ with ⟨hk₂, hp⟩ | h₂
        · exact (hnew hp h₁).trans hk₂.symm
        · exact h.views v p k₁ k₂ h₁ h₂
    · rw [view_write_of_ne hv] at h₁ h₂
      exact h.views v p k₁ k₂ h₁ h₂
  · intro v k' p r' hr' hp
    by_cases hv : v = w
    · subst hv
      rcases hwrites hr' with ⟨rfl, -, rfl⟩ | hr'
      · rcases hentitled.2 p hp with hnone | ⟨hlock, hvacant⟩
        · rw [lookup_view, Option.or_eq_none_iff] at hnone
          exact Or.inl hnone.2
        · exact Or.inr ⟨hlock, hvacated fun k' _ ↦ hvacant k'⟩
      · exact (h.guarded hr' hp).imp_right fun hguarded ↦ ⟨hguarded.1, hvacated hguarded.2⟩
    · rw [writes_write_of_ne hv] at hr'
      rw [view_write_of_ne hv]
      exact h.guarded hr' hp

variable [DecidableEq L]

theorem move (h : db.Exclusive places) (hc : db.Consistent rules) (hleaves : NoReturn rules places)
    (hmove : rules.Move w (Entitled places w) db db') : db'.Exclusive places := by
  cases hmove with
  | begin | abort => exact ⟨h.claimed, h.rows, h.views, h.guarded⟩
  | work _ hwork =>
    cases hwork with
    | share | lock => exact ⟨h.claimed, h.rows, h.views, h.guarded⟩
    | @take l hmay =>
      have htaken : ∀ {v l'}, db.advisory l' = some v → (db.take w l).advisory l' = some v := by
        intro v l' hadvisory
        by_cases hl : l' = l
        · subst hl
          rcases advisory_of_mayTake hmay with hnone | hw
          · rw [hnone] at hadvisory
            cases hadvisory
          · rw [← hadvisory, hw]
            exact Function.update_self _ _ _
        · exact (Function.update_of_ne hl _ _).trans hadvisory
      refine ⟨fun hclaim ↦ htaken (h.claimed hclaim), h.rows, h.views, fun hr hp ↦ ?_⟩
      exact (h.guarded hr hp).imp_right fun hguard ↦ ⟨htaken hguard.1, hguard.2⟩
    | write _ hguard hentitled => exact h.write hc hleaves hguard hentitled
  | commit _ => exact h.commit hc w
  | rollback => exact h.rollback w

theorem moves (h : db.Exclusive places) (hc : db.Consistent rules) (hleaves : NoReturn rules places)
    (hmoves : rules.Moves w (Entitled places w) db db') : db'.Exclusive places := by
  induction hmoves with
  | refl => exact h
  | tail hmoves hmove ih => exact ih.move (hc.moves hmoves) hleaves hmove

/-- With the lock of a place, a session sees no occupant come from what others do. -/
theorem occupied_move (h : db.Exclusive places) (hlock : db.advisory (places.lockOf p) = some w)
    (hne : w ≠ v) (hmove : rules.Move v good db db') (hk : Occupies places (db'.view w) k p) :
    Occupies places (db.view w) k p := by
  cases hmove with
  | begin | abort => exact hk
  | work _ hwork =>
    cases hwork with
    | take | share | lock => exact hk
    | write =>
      rw [view_write_of_ne hne] at hk
      exact hk
  | commit => exact h.occupied_commit hlock hne hk
  | rollback =>
    rw [view_rollback_of_ne hne] at hk
    exact hk

end Exclusive

/-! ## The others -/

/-- What a session can rely on: besides what is its own, that nobody comes to a place it has
locked. -/
structure Unrivalled (places : Places K R L P) (w : W) (db db' : Database W R L) : Prop
    extends Undisturbed w db db' where
  vacant : ∀ {p k}, db.advisory (places.lockOf p) = some w → Occupies places (db'.view w) k p →
    Occupies places (db.view w) k p

namespace Unrivalled

theorem refl (w : W) (db : Database W R L) : Unrivalled places w db db :=
  { Undisturbed.refl w db with vacant := fun _ h ↦ h }

theorem trans {db'' : Database W R L} (h : Unrivalled places w db db')
    (h' : Unrivalled places w db' db'') : Unrivalled places w db db'' :=
  { h.toUndisturbed.trans h'.toUndisturbed with
    vacant := fun hlock hk ↦ h.vacant hlock (h'.vacant ((h.advisory _).mpr hlock) hk) }

end Unrivalled

end Database

end Transactions
