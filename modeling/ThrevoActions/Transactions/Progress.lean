import ThrevoActions.Transactions.Occupancy

/-!
# How rows advance

From one state of the rows to a later one, every row evolves, and a guarded row stays as it is while
one row occupies its place (`Advances`). The committed rows advance with every move, and so do the
rows that a session sees, whoever moves, until it ends its transaction; a commit advances the
committed rows to those its session sees. What is kept by every advance is therefore kept from the
moment a session sees it to the end of the run, if the session commits.
-/

namespace Transactions

variable {W K L P ε : Type} {R : K → Type}

namespace Database

variable [DecidableEq K] {rules : Rules R ε} {places : Places K R L P} {db db' : Database W R L}
  {v w : W} {k k' : K} {p : P}

structure Advances (rules : Rules R ε) (places : Places K R L P) (rows rows' : AList R) : Prop where
  evolves : ∀ k, rules.Evolves k (rows.lookup k) (rows'.lookup k)
  guarded : ∀ {k p k'}, places.guards k = some p → (rows.lookup k).isSome = true →
    Occupies places rows k' p → Occupies places rows' k' p → rows'.lookup k = rows.lookup k

namespace Advances

variable {rows rows' rows'' : AList R}

theorem refl (rows : AList R) : Advances rules places rows rows :=
  ⟨fun _ ↦ .refl, fun _ _ _ _ ↦ rfl⟩

/-- A row that occupies a place before and after has occupied it all the time. -/
theorem occupied (hleaves : NoReturn rules places) (h : Advances rules places rows rows')
    (h' : Advances rules places rows' rows'') (hbefore : Occupies places rows k p)
    (hafter : Occupies places rows'' k p) : Occupies places rows' k p := by
  obtain ⟨old, hold, hp⟩ := hbefore
  obtain ⟨new, hnew, hp'⟩ := hafter
  have hevolves := h.evolves k
  have hevolves' := h'.evolves k
  rw [hold] at hevolves
  rw [hnew] at hevolves'
  cases hmiddle : rows'.lookup k with
  | none =>
    rw [hmiddle] at hevolves
    cases hevolves.isSome rfl
  | some r =>
    rw [hmiddle] at hevolves hevolves'
    by_contra hleft
    exact hleaves hevolves hp (fun hr ↦ hleft ⟨r, hmiddle, hr⟩) hevolves' hp'

theorem trans (hleaves : NoReturn rules places) (h : Advances rules places rows rows')
    (h' : Advances rules places rows' rows'') : Advances rules places rows rows'' := by
  refine ⟨fun k ↦ (h.evolves k).trans (h'.evolves k), fun {k p k'} hp hk hbefore hafter ↦ ?_⟩
  have hmiddle := occupied hleaves h h' hbefore hafter
  have hsame := h.guarded hp hk hbefore hmiddle
  rw [← hsame]
  refine h'.guarded hp ?_ hmiddle hafter
  rw [hsame]
  exact hk

/-- A row that exists before exists after, and comes from it. -/
theorem lookup_eq_some (h : Advances rules places rows rows') {r : R k}
    (hr : rows.lookup k = some r) :
    ∃ r', rows'.lookup k = some r' ∧ rules.Evolves k (some r) (some r') := by
  have hevolves := h.evolves k
  rw [hr] at hevolves
  obtain ⟨r', hr'⟩ := Option.isSome_iff_exists.mp (hevolves.isSome rfl)
  rw [hr'] at hevolves
  exact ⟨r', hr', hevolves⟩

end Advances

/-! ## Moves -/

/-- A session sees the committed rows advanced by what it has written. -/
theorem advances_view (hc : db.Consistent rules) (h : db.Exclusive places) (w : W) :
    Advances rules places db.rows (db.view w) := by
  refine ⟨hc.view_evolves w, fun {k p k'} hp hk hbefore hafter ↦ ?_⟩
  cases hr : (db.writes w).lookup k with
  | none => exact lookup_view_of_not_written hr
  | some r =>
    rcases h.guarded hr hp with hnone | ⟨-, hvacated⟩
    · rw [hnone] at hk
      cases hk
    · exact absurd hafter (hvacated k' hbefore)

variable [DecidableEq W]

/-- Committed rows advance with every move. -/
theorem advances_rows_move {good : Database W R L → Sigma R → Prop} [DecidableEq L]
    (hc : db.Consistent rules) (h : db.Exclusive places) (hmove : rules.Move w good db db') :
    Advances rules places db.rows db'.rows := by
  cases hmove with
  | begin | abort | rollback => exact .refl _
  | work _ hwork => cases hwork <;> exact .refl _
  | commit => exact advances_view hc h w

theorem lookup_view_commit (hne : w ≠ v) : ((db.commit v).view w).lookup k =
    ((db.writes w).lookup k).or ((db.view v).lookup k) := by
  rw [lookup_view, writes_commit, writes_rollback_of_ne hne, rows_commit]

/-- Nobody else changes a row that is guarded by the lock of a session. -/
theorem guarded_view_commit (h : db.Exclusive places) (hne : w ≠ v) (hp : places.guards k = some p)
    (hlock : db.advisory (places.lockOf p) = some w) (hk : ((db.view w).lookup k).isSome = true) :
    ((db.commit v).view w).lookup k = (db.view w).lookup k := by
  rw [lookup_view_commit hne]
  cases hr : (db.writes w).lookup k with
  | some r => rw [lookup_view_of_written hr, Option.some_or]
  | none =>
    rw [lookup_view_of_not_written hr] at hk ⊢
    rw [Option.none_or]
    cases hr' : (db.writes v).lookup k with
    | none => exact lookup_view_of_not_written hr'
    | some r' =>
      rcases h.guarded hr' hp with hnone | ⟨hlock', -⟩
      · rw [hnone] at hk
        cases hk
      · rw [hlock] at hlock'
        exact absurd (Option.some.inj hlock') hne

/-- When another session commits, what a session sees advances. -/
theorem advances_view_commit (hc : db.Consistent rules) (h : db.Exclusive places) (hne : w ≠ v) :
    Advances rules places (db.view w) ((db.commit v).view w) := by
  have hcommitted := advances_view hc h v
  have hwritten : ∀ {k}, (db.writes w).lookup k ≠ none →
      (db.commit v).rows.lookup k = db.rows.lookup k := by
    intro k hk
    obtain ⟨r, hr⟩ := Option.ne_none_iff_exists'.mp hk
    exact hc.lookup_commit (hc.locked hr) hne
  constructor
  · intro k
    rw [lookup_view_commit hne, lookup_view]
    cases hr : (db.writes w).lookup k with
    | none => exact hcommitted.evolves k
    | some r => exact .refl
  · intro k p k' hp hk hbefore hafter
    by_cases hrows : Occupies places db.rows k' p
    · rw [lookup_view_commit hne]
      cases hr : (db.writes w).lookup k with
      | some r => rw [lookup_view_of_written hr, Option.some_or]
      | none =>
        rw [lookup_view_of_not_written hr] at hk ⊢
        rw [Option.none_or]
        -- The occupant is committed, so the other session sees it, too.
        refine hcommitted.guarded hp hk hrows ?_
        obtain ⟨r', hr', hp'⟩ := hafter
        rw [lookup_view_commit hne] at hr'
        by_cases hk' : (db.writes w).lookup k' = none
        · rw [hk', Option.none_or] at hr'
          exact ⟨r', hr', hp'⟩
        · obtain ⟨r, hr, hp⟩ := hrows
          refine ⟨r, ?_, hp⟩
          rw [← rows_commit, hwritten hk', hr]
    · -- The occupation is a claim of this session, which holds the lock.
      have hlock : db.advisory (places.lockOf p) = some w := by
        by_contra hlock
        exact hrows (h.occupied_rows hlock hbefore)
      exact guarded_view_commit h hne hp hlock hk

theorem advances_view_move {good : Database W R L → Sigma R → Prop} [DecidableEq L]
    (hc : db.Consistent rules) (h : db.Exclusive places) (hne : w ≠ v)
    (hmove : rules.Move v good db db') : Advances rules places (db.view w) (db'.view w) := by
  cases hmove with
  | begin | abort => exact .refl _
  | work _ hwork =>
    cases hwork with
    | take | share | lock => exact .refl _
    | write =>
      rw [view_write_of_ne hne]
      exact .refl _
  | commit => exact advances_view_commit hc h hne
  | rollback =>
    rw [view_rollback_of_ne hne]
    exact .refl _

theorem guarded_view_move {good : Database W R L → Sigma R → Prop} [DecidableEq L]
    (h : db.Exclusive places) (hne : w ≠ v) (hmove : rules.Move v good db db')
    (hp : places.guards k = some p) (hlock : db.advisory (places.lockOf p) = some w)
    (hk : ((db.view w).lookup k).isSome = true) :
    (db'.view w).lookup k = (db.view w).lookup k := by
  cases hmove with
  | begin | abort => rfl
  | work _ hwork =>
    cases hwork with
    | take | share | lock => rfl
    | write => rw [view_write_of_ne hne]
  | commit => exact guarded_view_commit h hne hp hlock hk
  | rollback => rw [view_rollback_of_ne hne]

/-- What a session does in its transaction advances what it sees. -/
theorem advances_view_work [DecidableEq L]
    (hwork : rules.Work w (Entitled places w) db db') :
    Advances rules places (db.view w) (db'.view w) := by
  cases hwork with
  | take | share | lock => exact .refl _
  | @write k r submitted _ hguard hentitled =>
    constructor
    · intro k'
      by_cases hk : k' = k
      · subst hk
        rw [lookup_view_write_self]
        exact .single ⟨submitted, r, hguard, rfl⟩
      · rw [lookup_view_write_of_ne hk]
    · intro k₁ p k' hp hk₁ hbefore _
      by_cases hk : k₁ = k
      · subst hk
        rcases hentitled.2 p hp with hnone | ⟨-, hvacant⟩
        · rw [hnone] at hk₁
          cases hk₁
        · exact absurd hbefore (hvacant k')
      · exact lookup_view_write_of_ne hk

/-! ## Between two statements, and with a statement -/

/-- What has happened between two statements of a session. -/
structure Meanwhile (rules : Rules R ε) (places : Places K R L P) (w : W)
    (db db' : Database W R L) : Prop extends Unrivalled places w db db' where
  advances : Advances rules places (db.view w) (db'.view w)
  guarded : ∀ {k p}, places.guards k = some p → db.advisory (places.lockOf p) = some w →
    ((db.view w).lookup k).isSome = true → (db'.view w).lookup k = (db.view w).lookup k

namespace Meanwhile

omit [DecidableEq W] in
theorem refl (w : W) (db : Database W R L) : Meanwhile rules places w db db :=
  { Unrivalled.refl w db with
    advances := .refl _
    guarded := fun _ _ _ ↦ rfl }

omit [DecidableEq W] in
theorem trans {db'' : Database W R L} (hleaves : NoReturn rules places)
    (h : Meanwhile rules places w db db') (h' : Meanwhile rules places w db' db'') :
    Meanwhile rules places w db db'' :=
  { h.toUnrivalled.trans h'.toUnrivalled with
    advances := h.advances.trans hleaves h'.advances
    guarded := fun hp hlock hk ↦ by
      have hsame := h.guarded hp hlock hk
      rw [← hsame]
      exact h'.guarded hp ((h.advisory _).mpr hlock) (by rw [hsame]; exact hk) }

end Meanwhile

variable [DecidableEq L]

theorem meanwhile_moves (hc : db.Consistent rules) (h : db.Exclusive places)
    (hleaves : NoReturn rules places) (hne : w ≠ v)
    (hmoves : rules.Moves v (Entitled places v) db db') : Meanwhile rules places w db db' := by
  induction hmoves with
  | refl => exact .refl w db
  | tail hmoves hmove ih =>
    have hc' := hc.moves hmoves
    have h' := h.moves hc hleaves hmoves
    exact ih.trans hleaves { undisturbed_move hc' hne hmove with
      vacant := fun hlock hk ↦ h'.occupied_move hlock hne hmove hk
      advances := advances_view_move hc' h' hne hmove
      guarded := guarded_view_move h' hne hmove }

/-- What a statement of a session leaves of its transaction. -/
structure Onward (rules : Rules R ε) (places : Places K R L P) (w : W)
    (db db' : Database W R L) : Prop where
  rows : db'.rows = db.rows
  opened : db'.status w ≠ .idle
  writer : ∀ k, db.writer k = some w → db'.writer k = some w
  advances : Advances rules places (db.view w) (db'.view w)

omit [DecidableEq W] [DecidableEq L] in
theorem Onward.refl (h : db.status w ≠ .idle) : Onward rules places w db db :=
  ⟨rfl, h, fun _ ↦ id, .refl _⟩

theorem onward_work (hopen : db.status w ≠ .idle)
    (hwork : rules.Work w (Entitled places w) db db') : Onward rules places w db db' := by
  have hlock : ∀ {k} k', db.writer k' = some w →
      Function.update db.writer k (some w) k' = some w := by
    intro k k' hw
    by_cases hk : k' = k
    · subst hk
      exact Function.update_self _ _ _
    · rw [Function.update_of_ne hk]
      exact hw
  have hadvances := advances_view_work hwork
  cases hwork with
  | take | share => exact ⟨rfl, hopen, fun _ ↦ id, hadvances⟩
  | lock | write => exact ⟨rfl, hopen, hlock, hadvances⟩

theorem onward_run {q : Query R L ε} {r : Except ε q.Ans} (hopen : db.status w ≠ .idle)
    (h : rules.run db w q = some (r, db'))
    (hgood : ∀ row, rules.written db w q = some row → Entitled places w db row) :
    Onward rules places w db db' := by
  rcases Rules.run_work h with rfl | hwork
  · exact .refl hopen
  · exact onward_work hopen (hwork.imp fun row hrow ↦ hgood row hrow.2)

theorem onward_query {q : Query R L ε} {r : Except ε q.Ans} (hopen : db.status w ≠ .idle)
    (h : rules.Experiences db w (.query q) r db')
    (hgood : ∀ row, rules.written db w q = some row → Entitled places w db row) :
    Onward rules places w db db' := by
  have hexec : ∀ r', rules.exec db w (.query q) = some (r', db') →
      Onward rules places w db db' := by
    intro r' hexec
    rw [Rules.exec] at hexec
    cases hstatus : db.status w with
    | idle => exact absurd hstatus hopen
    | aborted =>
      rw [hstatus] at hexec
      cases hexec
      exact .refl hopen
    | active =>
      rw [hstatus] at hexec
      obtain ⟨⟨r'', db''⟩, hrun, hresult⟩ := Option.map_eq_some_iff.mp hexec
      have honward := onward_run hopen hrun hgood
      cases r'' with
      | ok a =>
        cases hresult
        exact honward
      | error e =>
        cases hresult
        refine ⟨honward.rows, ?_, honward.writer, honward.advances⟩
        rw [show (db''.abort w).status w = .aborted from Function.update_self _ _ _]
        decide
  rcases h with h | ⟨-, rfl | ⟨r', h⟩⟩
  · exact hexec _ h
  · exact .refl hopen
  · exact hexec r' h

/-- Only a query that was executed in a transaction is answered there. -/
theorem run_of_answer {q : Query R L ε} {a : q.Ans} (hopen : db.status w ≠ .idle)
    (h : rules.Experiences db w (.query q) (.ok a) db') :
    db.status w = .active ∧ rules.run db w q = some (.ok a, db') ∧ db'.status w = .active := by
  rcases h with h | ⟨h, -⟩
  · rw [Rules.exec] at h
    cases hstatus : db.status w with
    | idle => exact absurd hstatus hopen
    | aborted =>
      rw [hstatus] at h
      cases h
    | active =>
      rw [hstatus] at h
      obtain ⟨⟨r, db''⟩, hrun, hresult⟩ := Option.map_eq_some_iff.mp h
      cases r with
      | error e => cases hresult
      | ok a' =>
        cases hresult
        exact ⟨rfl, hrun, Rules.run_status hstatus hrun⟩
  · cases h

/-- Outside of a transaction, a statement leaves none. -/
theorem status_of_idle {q : Query R L ε} {r : Except ε q.Ans} (hidle : db.status w = .idle)
    (h : rules.Experiences db w (.query q) r db') : db'.status w = .idle := by
  have hexec : ∀ r', rules.exec db w (.query q) = some (r', db') → db'.status w = .idle := by
    intro r' hexec
    rw [Rules.exec, hidle] at hexec
    obtain ⟨⟨r'', db''⟩, -, hresult⟩ := Option.map_eq_some_iff.mp hexec
    cases r'' <;> cases hresult <;> exact Function.update_self _ _ _
  rcases h with h | ⟨-, rfl | ⟨r', h⟩⟩
  · exact hexec _ h
  · exact hidle
  · exact hexec r' h

/-! ## Single queries -/

/-- A row that is read is the one that the session sees. -/
theorem run_select {mode : Option LockMode} {a : Option (R k)}
    (h : rules.run db w (.select k mode) = some (.ok a, db')) :
    a = (db.view w).lookup k ∧ db'.view w = db.view w ∧
      (mode = some .update → a ≠ none → db'.writer k = some w) := by
  rw [Rules.run] at h
  cases hrow : (db.view w).lookup k with
  | none =>
    rw [hrow] at h
    cases h
    exact ⟨rfl, rfl, fun _ hne ↦ absurd rfl hne⟩
  | some r =>
    rw [hrow] at h
    rcases mode with _ | _ | _
    · cases h
      exact ⟨rfl, rfl, fun hmode ↦ by cases hmode⟩
    · dsimp only at h
      split_ifs at h
      cases h
      exact ⟨rfl, rfl, fun hmode ↦ by cases hmode⟩
    · dsimp only at h
      split_ifs at h
      cases h
      exact ⟨rfl, rfl, fun _ _ ↦ Function.update_self _ _ _⟩

/-- A row was inserted only if none was seen. -/
theorem run_insert {row : ℤ → Except ε (R k)} {n : ℕ}
    (h : rules.run db w (.insert k row) = some (.ok n, db')) :
    n = 0 ∧ db' = db ∨ n = 1 ∧ (db.view w).lookup k = none ∧ db.mayWrite w k = true ∧
      ∃ r, db' = db.write w k r := by
  rw [Rules.run] at h
  cases hr : row db.now >>= rules.guard k none with
  | error e =>
    rw [hr] at h
    cases h
  | ok r =>
    rw [hr] at h
    cases hrow : (db.view w).lookup k with
    | some old =>
      rw [hrow] at h
      cases h
      exact Or.inl ⟨rfl, rfl⟩
    | none =>
      rw [hrow] at h
      dsimp only at h
      split_ifs at h with hmay
      cases h
      exact Or.inr ⟨rfl, rfl, hmay, r, rfl⟩

/-- An update changes a row as its rules let it. -/
theorem run_update {change : ℤ → R k → Option (Except ε (R k))} {n : ℕ} {old : R k}
    {submitted : Except ε (R k)} (hrow : (db.view w).lookup k = some old)
    (hchange : change db.now old = some submitted)
    (h : rules.run db w (.update k change) = some (.ok n, db')) :
    n = 1 ∧ ∃ r, submitted >>= rules.guard k (some old) = .ok r ∧ db' = db.write w k r := by
  rw [Rules.run, hrow] at h
  dsimp only at h
  rw [hchange] at h
  dsimp only at h
  split_ifs at h
  cases hr : submitted >>= rules.guard k (some old) with
  | error e =>
    rw [hr] at h
    cases h
  | ok r =>
    rw [hr] at h
    cases h
    exact ⟨rfl, r, rfl, rfl⟩

omit [DecidableEq W] [DecidableEq L] in
/-- What an update writes. -/
theorem written_update {change : ℤ → R k → Option (Except ε (R k))} {old : R k}
    {submitted : Except ε (R k)} {row : Sigma R} (hrow : (db.view w).lookup k = some old)
    (hchange : change db.now old = some submitted)
    (h : rules.written db w (.update k change) = some row) :
    ∃ r, submitted >>= rules.guard k (some old) = .ok r ∧ row = ⟨k, r⟩ := by
  simp only [Rules.written, hrow, Option.bind_eq_bind, Option.bind_some, hchange] at h
  cases hr : submitted >>= rules.guard k (some old) with
  | error e =>
    rw [hr] at h
    cases h
  | ok r =>
    rw [hr] at h
    cases h
    exact ⟨r, rfl, rfl⟩

omit [DecidableEq W] [DecidableEq L] in
/-- What an insertion writes. -/
theorem written_insert {value : ℤ → Except ε (R k)} {row : Sigma R}
    (h : rules.written db w (.insert k value) = some row) :
    (db.view w).lookup k = none ∧
      ∃ r, value db.now >>= rules.guard k none = .ok r ∧ row = ⟨k, r⟩ := by
  rw [Rules.written] at h
  cases hr : value db.now >>= rules.guard k none with
  | error e =>
    rw [hr] at h
    cases h
  | ok r =>
    rw [hr] at h
    cases hrow : (db.view w).lookup k with
    | some old =>
      rw [hrow] at h
      cases h
    | none =>
      rw [hrow] at h
      cases h
      exact ⟨rfl, r, rfl, rfl⟩

end Database

end Transactions
