import Mathlib.Order.Basic
import ThrevoActions.Transactions.Database

/-!
# What every statement keeps

A row that is written but not committed is locked by its writer, and locks are held by open
transactions only (`Consistent`). Hence what others do between two statements of a session leaves
alone what the session has written and locked (`Undisturbed`). A committed row never disappears, and
its versions follow each other by changes that the rules of its table let through (`Evolves`), in
whatever order the statements of the sessions are executed.
-/

namespace Transactions

variable {W K L ε : Type} {R : K → Type}

namespace Rules

variable (rules : Rules R ε) (k : K)

/-- The rules let the row be created, or be changed, so. -/
def Changes (old new : Option (R k)) : Prop :=
  ∃ submitted r, rules.guard k old submitted = .ok r ∧ new = some r

/-- The row comes from the other one by changes that the rules let through. -/
abbrev Evolves : Option (R k) → Option (R k) → Prop := Relation.ReflTransGen (rules.Changes k)

variable {rules k}

/-- What the rules keep with every change, they keep. -/
theorem Evolves.invariant {P : Option (R k) → Prop} {old new : Option (R k)}
    (h : rules.Evolves k old new) (hold : P old)
    (hstep : ∀ old submitted r, P old → rules.guard k old submitted = .ok r → P (some r)) :
    P new := by
  induction h with
  | refl => exact hold
  | tail _ hchange ih =>
    obtain ⟨submitted, r, hguard, rfl⟩ := hchange
    exact hstep _ submitted r ih hguard

/-- A row does not disappear. -/
theorem Evolves.isSome {old new : Option (R k)} (h : rules.Evolves k old new)
    (hold : old.isSome = true) : new.isSome = true :=
  h.invariant (P := fun row ↦ row.isSome = true) hold fun _ _ _ _ _ ↦ rfl

end Rules

namespace Database

variable {rules : Rules R ε} {good : Database W R L → Sigma R → Prop}
  {db db' : Database W R L} {v w : W} {k : K}

/-! ## Locks -/

section Locks

variable [DecidableEq W]

theorem writes_rollback_self : (db.rollback w).writes w = ∅ := Function.update_self _ _ _

theorem writes_rollback_of_ne (h : v ≠ w) : (db.rollback w).writes v = db.writes v :=
  Function.update_of_ne h _ _

theorem writer_rollback_eq_some :
    (db.rollback w).writer k = some v ↔ db.writer k = some v ∧ v ≠ w := by
  rw [rollback]
  dsimp only
  by_cases h : db.writer k = some w
  · rw [if_pos h, h]
    exact iff_of_false (by simp) fun hv ↦ hv.2 (Option.some.inj hv.1).symm
  · rw [if_neg h]
    exact ⟨fun hv ↦ ⟨hv, fun hvw ↦ h (hvw ▸ hv)⟩, And.left⟩

theorem advisory_rollback_eq_some {l : L} :
    (db.rollback w).advisory l = some v ↔ db.advisory l = some v ∧ v ≠ w := by
  rw [rollback]
  dsimp only
  by_cases h : db.advisory l = some w
  · rw [if_pos h, h]
    exact iff_of_false (by simp) fun hv ↦ hv.2 (Option.some.inj hv.1).symm
  · rw [if_neg h]
    exact ⟨fun hv ↦ ⟨hv, fun hvw ↦ h (hvw ▸ hv)⟩, And.left⟩

theorem status_rollback_of_ne (h : v ≠ w) : (db.rollback w).status v = db.status v :=
  Function.update_of_ne h _ _

theorem writer_of_mayRead (h : db.mayRead w k = true) :
    db.writer k = none ∨ db.writer k = some w := of_decide_eq_true h

theorem writer_of_mayWrite (h : db.mayWrite w k = true) :
    db.writer k = none ∨ db.writer k = some w := by
  rw [mayWrite, Bool.and_eq_true] at h
  exact writer_of_mayRead h.1

theorem advisory_of_mayTake {l : L} (h : db.mayTake w l = true) :
    db.advisory l = none ∨ db.advisory l = some w := of_decide_eq_true h

end Locks

/-! ## Views -/

variable [DecidableEq K]

theorem lookup_view : (db.view w).lookup k = ((db.writes w).lookup k).or (db.rows.lookup k) := by
  rw [view]
  cases hwritten : (db.writes w).lookup k with
  | none =>
    rw [AList.lookup_union_right (AList.lookup_eq_none.mp hwritten)]
    rfl
  | some r =>
    have hmem : k ∈ db.writes w := AList.lookup_isSome.mp (by rw [hwritten]; rfl)
    rw [AList.lookup_union_left hmem, hwritten]
    rfl

theorem lookup_view_of_written {r : R k} (h : (db.writes w).lookup k = some r) :
    (db.view w).lookup k = some r := by
  rw [lookup_view, h]
  rfl

theorem lookup_view_of_not_written (h : (db.writes w).lookup k = none) :
    (db.view w).lookup k = db.rows.lookup k := by
  rw [lookup_view, h]
  rfl

/-! ## Consistency -/

/-- What is written and not committed is locked by its writer and comes from the committed version,
and only open transactions hold locks. -/
structure Consistent (rules : Rules R ε) (db : Database W R L) : Prop where
  locked : ∀ {w k r}, (db.writes w).lookup k = some r → db.writer k = some w
  evolved : ∀ {w k r}, (db.writes w).lookup k = some r →
    rules.Evolves k (db.rows.lookup k) (some r)
  writer_open : ∀ {w k}, db.writer k = some w → db.status w ≠ .idle
  advisory_open : ∀ {w l}, db.advisory l = some w → db.status w ≠ .idle

theorem consistent_empty : (empty : Database W R L).Consistent rules := by
  constructor
  · intro w k r h
    cases h
  · intro w k r h
    cases h
  · intro w k h
    cases h
  · intro w l h
    cases h

namespace Consistent

/-- What a session sees comes from what is committed. -/
theorem view_evolves (h : db.Consistent rules) (w : W) (k : K) :
    rules.Evolves k (db.rows.lookup k) ((db.view w).lookup k) := by
  cases hwritten : (db.writes w).lookup k with
  | none => rw [lookup_view_of_not_written hwritten]
  | some r =>
    rw [lookup_view_of_written hwritten]
    exact h.evolved hwritten

/-- No other session has written a row that a session has locked. -/
theorem not_written (h : db.Consistent rules) (hwriter : db.writer k = some w) (hne : v ≠ w) :
    (db.writes v).lookup k = none := by
  cases hwritten : (db.writes v).lookup k with
  | none => rfl
  | some r =>
    have hlocked := h.locked hwritten
    rw [hwriter] at hlocked
    exact absurd (Option.some.inj hlocked).symm hne

end Consistent

/-! ## The others -/

/-- What a session can rely on while others execute statements: its own transaction, what it has
written and locked, and the committed versions of the rows it has locked. -/
structure Undisturbed (w : W) (db db' : Database W R L) : Prop where
  writes : db'.writes w = db.writes w
  status : db'.status w = db.status w
  writer : ∀ k, db'.writer k = some w ↔ db.writer k = some w
  advisory : ∀ l, db'.advisory l = some w ↔ db.advisory l = some w
  rows : ∀ k, db.writer k = some w → db'.rows.lookup k = db.rows.lookup k

namespace Undisturbed

theorem refl (w : W) (db : Database W R L) : Undisturbed w db db :=
  ⟨rfl, rfl, fun _ ↦ Iff.rfl, fun _ ↦ Iff.rfl, fun _ _ ↦ rfl⟩

theorem trans {db'' : Database W R L} (h : Undisturbed w db db') (h' : Undisturbed w db' db'') :
    Undisturbed w db db'' where
  writes := h'.writes.trans h.writes
  status := h'.status.trans h.status
  writer k := (h'.writer k).trans (h.writer k)
  advisory l := (h'.advisory l).trans (h.advisory l)
  rows k hk := (h'.rows k ((h.writer k).mpr hk)).trans (h.rows k hk)

/-- A locked row is seen unchanged. -/
theorem lookup_view (h : Undisturbed w db db') (hwriter : db.writer k = some w) :
    (db'.view w).lookup k = (db.view w).lookup k := by
  rw [Database.lookup_view, Database.lookup_view, h.writes, h.rows k hwriter]

end Undisturbed

/-! ## Moves -/

variable [DecidableEq W]

theorem writes_write_self {r : R k} : (db.write w k r).writes w = (db.writes w).insert k r :=
  Function.update_self _ _ _

theorem lookup_view_write_self {r : R k} : ((db.write w k r).view w).lookup k = some r := by
  apply lookup_view_of_written
  rw [writes_write_self, AList.lookup_insert]

theorem lookup_writes_write_of_ne {k' : K} {r : R k} (h : k' ≠ k) :
    ((db.write w k r).writes v).lookup k' = (db.writes v).lookup k' := by
  by_cases hv : v = w
  · rw [hv, writes_write_self, AList.lookup_insert_ne h]
  · rw [show (db.write w k r).writes v = db.writes v from Function.update_of_ne hv _ _]

theorem writes_write_of_ne {r : R k} (h : v ≠ w) : (db.write w k r).writes v = db.writes v :=
  Function.update_of_ne h _ _

theorem lookup_view_write_of_ne {k' : K} {r : R k} (h : k' ≠ k) :
    ((db.write w k r).view v).lookup k' = (db.view v).lookup k' := by
  rw [lookup_view, lookup_view, lookup_writes_write_of_ne h]
  rfl

theorem view_write_of_ne {r : R k} (h : v ≠ w) : (db.write w k r).view v = db.view v := by
  rw [view, writes_write_of_ne h]
  rfl

theorem view_rollback_self : (db.rollback w).view w = db.rows := by
  rw [view, writes_rollback_self, AList.empty_union]
  rfl

theorem view_rollback_of_ne (h : v ≠ w) : (db.rollback w).view v = db.view v := by
  rw [view, writes_rollback_of_ne h]
  rfl

@[simp] theorem rows_commit : (db.commit w).rows = db.view w := rfl

@[simp] theorem writes_commit : (db.commit w).writes = (db.rollback w).writes := rfl

@[simp] theorem status_commit : (db.commit w).status = (db.rollback w).status := rfl

@[simp] theorem writer_commit : (db.commit w).writer = (db.rollback w).writer := rfl

@[simp] theorem advisory_commit : (db.commit w).advisory = (db.rollback w).advisory := rfl


namespace Consistent

theorem not_written_of_mayWrite (h : db.Consistent rules) (hmay : db.mayWrite w k = true)
    (hne : v ≠ w) : (db.writes v).lookup k = none := by
  cases hwritten : (db.writes v).lookup k with
  | none => rfl
  | some r =>
    have hlocked := h.locked hwritten
    rcases writer_of_mayWrite hmay with hwriter | hwriter
    · rw [hwriter] at hlocked
      cases hlocked
    · rw [hwriter] at hlocked
      exact absurd (Option.some.inj hlocked).symm hne

theorem rollback (h : db.Consistent rules) (w : W) : (db.rollback w).Consistent rules := by
  have hwrites : ∀ {v k r}, ((db.rollback w).writes v).lookup k = some r →
      v ≠ w ∧ (db.writes v).lookup k = some r := by
    intro v k r hwritten
    by_cases hv : v = w
    · rw [hv, writes_rollback_self] at hwritten
      cases hwritten
    · rw [writes_rollback_of_ne hv] at hwritten
      exact ⟨hv, hwritten⟩
  constructor
  · intro v k r hwritten
    obtain ⟨hv, hwritten⟩ := hwrites hwritten
    exact writer_rollback_eq_some.mpr ⟨h.locked hwritten, hv⟩
  · intro v k r hwritten
    exact h.evolved (hwrites hwritten).2
  · intro v k hwriter
    obtain ⟨hwriter, hv⟩ := writer_rollback_eq_some.mp hwriter
    rw [status_rollback_of_ne hv]
    exact h.writer_open hwriter
  · intro v l hadvisory
    obtain ⟨hadvisory, hv⟩ := advisory_rollback_eq_some.mp hadvisory
    rw [status_rollback_of_ne hv]
    exact h.advisory_open hadvisory

/-- A commit changes no row that another session has written. -/
theorem lookup_commit (h : db.Consistent rules) (hwriter : db.writer k = some v) (hne : v ≠ w) :
    (db.commit w).rows.lookup k = db.rows.lookup k := by
  rw [rows_commit, lookup_view_of_not_written (h.not_written hwriter hne.symm)]

theorem commit (h : db.Consistent rules) (w : W) : (db.commit w).Consistent rules := by
  have hback := h.rollback w
  constructor
  · intro v k r hwritten
    exact hback.locked hwritten
  · intro v k r hwritten
    have hlocked := hback.locked hwritten
    obtain ⟨hwriter, hv⟩ := writer_rollback_eq_some.mp hlocked
    rw [h.lookup_commit hwriter hv]
    exact hback.evolved hwritten
  · exact hback.writer_open
  · exact hback.advisory_open

theorem setStatus (h : db.Consistent rules) {status : TransactionStatus}
    (hopen : status ≠ .idle ∨ db.status w = .idle) :
    ({ db with status := Function.update db.status w status } : Database W R L).Consistent
      rules := by
  have hstatus : ∀ v, db.status v ≠ .idle →
      Function.update db.status w status v ≠ .idle := by
    intro v hv
    by_cases hvw : v = w
    · subst hvw
      rw [Function.update_self]
      exact hopen.resolve_right hv
    · rwa [Function.update_of_ne hvw]
  constructor
  · exact h.locked
  · exact h.evolved
  · intro v k hwriter
    exact hstatus v (h.writer_open hwriter)
  · intro v l hadvisory
    exact hstatus v (h.advisory_open hadvisory)

theorem lock (h : db.Consistent rules) (hopen : db.status w ≠ .idle)
    (hmay : db.mayWrite w k = true) : (db.lock w k).Consistent rules := by
  constructor
  · intro v k' r hwritten
    by_cases hk : k' = k
    · subst hk
      by_cases hv : v = w
      · rw [hv]
        exact Function.update_self _ _ _
      · rw [show (db.lock w k').writes = db.writes from rfl,
          h.not_written_of_mayWrite hmay hv] at hwritten
        cases hwritten
    · exact (Function.update_of_ne hk _ _).trans (h.locked hwritten)
  · exact h.evolved
  · intro v k' hwriter
    by_cases hk : k' = k
    · subst hk
      rw [show (db.lock w k').writer k' = some w from Function.update_self _ _ _] at hwriter
      rw [← Option.some.inj hwriter]
      exact hopen
    · rw [show (db.lock w k).writer k' = db.writer k' from Function.update_of_ne hk _ _] at hwriter
      exact h.writer_open hwriter
  · exact h.advisory_open

theorem write (h : db.Consistent rules) {r submitted : R k} (hopen : db.status w ≠ .idle)
    (hmay : db.mayWrite w k = true)
    (hguard : rules.guard k ((db.view w).lookup k) submitted = .ok r) :
    (db.write w k r).Consistent rules := by
  have hlock := h.lock hopen hmay
  have hcases : ∀ {v k' r'}, ((db.write w k r).writes v).lookup k' = some r' →
      (∃ hk : k = k', v = w ∧ hk ▸ r = r') ∨ (db.writes v).lookup k' = some r' := by
    intro v k' r' hwritten
    by_cases hk : k' = k
    · subst hk
      by_cases hv : v = w
      · subst hv
        rw [writes_write_self, AList.lookup_insert] at hwritten
        exact Or.inl ⟨rfl, rfl, Option.some.inj hwritten⟩
      · rw [writes_write_of_ne hv] at hwritten
        exact Or.inr hwritten
    · rw [lookup_writes_write_of_ne hk] at hwritten
      exact Or.inr hwritten
  constructor
  · intro v k' r' hwritten
    rcases hcases hwritten with ⟨rfl, rfl, rfl⟩ | hwritten
    · exact Function.update_self _ _ _
    · exact hlock.locked hwritten
  · intro v k' r' hwritten
    rcases hcases hwritten with ⟨rfl, rfl, rfl⟩ | hwritten
    · exact (h.view_evolves v k).tail ⟨submitted, r, hguard, rfl⟩
    · exact h.evolved hwritten
  · exact hlock.writer_open
  · exact hlock.advisory_open

variable [DecidableEq L]

omit [DecidableEq W] in
theorem take (h : db.Consistent rules) {l : L} (hopen : db.status w ≠ .idle) :
    (db.take w l).Consistent rules := by
  constructor
  · exact h.locked
  · exact h.evolved
  · exact h.writer_open
  · intro v l' hadvisory
    by_cases hl : l' = l
    · subst hl
      rw [show (db.take w l').advisory l' = some w from Function.update_self _ _ _] at hadvisory
      rw [← Option.some.inj hadvisory]
      exact hopen
    · rw [show (db.take w l).advisory l' = db.advisory l' from Function.update_of_ne hl _ _]
        at hadvisory
      exact h.advisory_open hadvisory

theorem move (h : db.Consistent rules) (hmove : rules.Move w good db db') :
    db'.Consistent rules := by
  cases hmove with
  | begin hidle => exact h.setStatus (.inr hidle)
  | work hopen hwork =>
    cases hwork with
    | take _ => exact h.take hopen
    | share => exact ⟨h.locked, h.evolved, h.writer_open, h.advisory_open⟩
    | lock hmay => exact h.lock hopen hmay
    | write hmay hguard _ => exact h.write hopen hmay hguard
  | abort hopen => exact h.setStatus (.inl (by decide))
  | commit _ => exact h.commit w
  | rollback => exact h.rollback w

theorem moves (h : db.Consistent rules) (hmoves : rules.Moves w good db db') :
    db'.Consistent rules := by
  induction hmoves with
  | refl => exact h
  | tail _ hmove ih => exact ih.move hmove

/-- Committed rows evolve. -/
theorem rows_evolve (h : db.Consistent rules) (hmove : rules.Move w good db db') (k : K) :
    rules.Evolves k (db.rows.lookup k) (db'.rows.lookup k) := by
  cases hmove with
  | commit _ => exact h.view_evolves w k
  | work _ hwork => cases hwork <;> exact .refl
  | begin | abort | rollback => exact .refl

end Consistent

variable [DecidableEq L]

theorem undisturbed_move (h : db.Consistent rules) (hne : w ≠ v)
    (hmove : rules.Move v good db db') : Undisturbed w db db' := by
  have hstatus : ∀ status, Function.update db.status v status w = db.status w :=
    fun status ↦ Function.update_of_ne hne _ _
  have hwriter : ∀ {k}, db.mayWrite v k = true → ∀ k',
      (Function.update db.writer k (some v) k' = some w ↔ db.writer k' = some w) := by
    intro k hmay k'
    by_cases hk : k' = k
    · subst hk
      rw [Function.update_self]
      refine iff_of_false (fun hv ↦ hne (Option.some.inj hv).symm) fun hw ↦ ?_
      rcases writer_of_mayWrite hmay with hnone | hv
      · rw [hnone] at hw
        cases hw
      · rw [hv] at hw
        exact hne (Option.some.inj hw).symm
    · rw [Function.update_of_ne hk]
  cases hmove with
  | begin => exact ⟨rfl, hstatus _, fun _ ↦ Iff.rfl, fun _ ↦ Iff.rfl, fun _ _ ↦ rfl⟩
  | work _ hwork =>
    cases hwork with
    | @take l hmay =>
      refine ⟨rfl, rfl, fun _ ↦ Iff.rfl, fun l' ↦ ?_, fun _ _ ↦ rfl⟩
      by_cases hl : l' = l
      · subst hl
        rw [show (db.take v l').advisory l' = some v from Function.update_self _ _ _]
        refine iff_of_false (fun hv ↦ hne (Option.some.inj hv).symm) fun hw ↦ ?_
        rcases advisory_of_mayTake hmay with hnone | hv
        · rw [hnone] at hw
          cases hw
        · rw [hv] at hw
          exact hne (Option.some.inj hw).symm
      · rw [show (db.take v l).advisory l' = db.advisory l' from Function.update_of_ne hl _ _]
    | share => exact ⟨rfl, rfl, fun _ ↦ Iff.rfl, fun _ ↦ Iff.rfl, fun _ _ ↦ rfl⟩
    | lock hmay => exact ⟨rfl, rfl, hwriter hmay, fun _ ↦ Iff.rfl, fun _ _ ↦ rfl⟩
    | write hmay _ _ =>
      exact ⟨writes_write_of_ne hne, rfl, hwriter hmay, fun _ ↦ Iff.rfl, fun _ _ ↦ rfl⟩
  | abort => exact ⟨rfl, hstatus _, fun _ ↦ Iff.rfl, fun _ ↦ Iff.rfl, fun _ _ ↦ rfl⟩
  | commit =>
    refine ⟨writes_rollback_of_ne hne, hstatus _, fun k ↦ ?_, fun l ↦ ?_, fun k hk ↦ ?_⟩
    · rw [writer_commit, writer_rollback_eq_some]
      exact and_iff_left hne
    · rw [advisory_commit, advisory_rollback_eq_some]
      exact and_iff_left hne
    · exact h.lookup_commit hk hne
  | rollback =>
    refine ⟨writes_rollback_of_ne hne, hstatus _, fun k ↦ ?_, fun l ↦ ?_, fun _ _ ↦ rfl⟩
    · rw [writer_rollback_eq_some]
      exact and_iff_left hne
    · rw [advisory_rollback_eq_some]
      exact and_iff_left hne

end Database

end Transactions
