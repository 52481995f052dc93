import ThrevoActions.Stripe.LedgerTestimony

/-!
# The calls of the ledger, one by one

Each call is verified in the company of any others: what it writes may be written, and what its
answer tells it has seen. A reservation is made under the advisory lock of the resource, after no
other occupant was seen there, and nobody comes to a place that is locked; the row of the intent is
locked from the moment it is read.
-/

namespace ThrevoActions.Stripe

open Interleaving Transactions Transactions.Database

variable {W : Type} [DecidableEq W] [LedgerHost]

open LedgerHost

/-- What a call of the ledger sees: the database and the committed answers. -/
abbrev LedgerSight (W : Type) :=
  Database W HostKey.Row ℤ × Answers Exn LedgerCall LedgerAnswer

/-- The outline of the ledger. -/
abbrev ledgerOutline (W : Type) : Outline W HostKey.Row ℤ Exn LedgerCall LedgerAnswer :=
  ledgerTestimony.outline hostRules

/-- The company of a call of the ledger. -/
abbrev ledgerCompany (w : W) (h : Answers Exn LedgerCall LedgerAnswer) :=
  (ledgerOutline W).company hostRules w h

variable {w : W} {h : Answers Exn LedgerCall LedgerAnswer} {s : LedgerSight W}
  {db db' : Database W HostKey.Row ℤ} {key : IntentKey} {row : IntentRow}
  {tenantReference resourceReference : SafeReference} {α : Type}
  {Q : Except Exn α → LedgerSight W → Prop}

/-! ## Steps -/

theorem upholds_requireTransaction {f : Unit → HostProgram α}
    (hkept : ledgerTestimony.Kept w h s.1) (hidle : s.1.status w = .idle → h = [])
    (hadmits : ledgerTestimony.AdmitsErrors w h Q)
    (hnext : ∀ s' : LedgerSight W, Meanwhile hostRules hostPlaces w s.1 s'.1 →
      ledgerTestimony.Kept w h s'.1 → s'.1.status w ≠ .idle →
      (f ()).Upholds (ledgerCompany w h) Q s') :
    (PostgresStripeLedger.requireTransaction >>= f).Upholds (ledgerCompany w h) Q s := by
  rw [PostgresStripeLedger.requireTransaction, bind_assoc]
  refine Program.Upholds.perform_bind fun s' ⟨hmeanwhile, hinv, hlogged⟩ r s'' ⟨hexec, hsame⟩ ↦ ?_
  obtain ⟨db, l⟩ := s''
  obtain rfl : l = s'.2 := hsame
  have hkept' := hkept.meanwhile lawful_ledger hmeanwhile
  have hstays : ∀ r', hostRules.exec s'.1 w .inTransaction = some (r', db) →
      db = s'.1 ∧ r' = .ok (decide (s'.1.status w ≠ .idle)) := by
    intro r' hexec
    cases hexec
    exact ⟨rfl, rfl⟩
  have hdb : db = s'.1 := by
    rcases hexec with hexec | ⟨-, hexec | ⟨r', hexec⟩⟩
    · exact (hstays _ hexec).1
    · exact hexec
    · exact (hstays _ hexec).1
  subst hdb
  refine ⟨⟨.refl, id, fun hi ↦ hidle (hmeanwhile.status.symm.trans hi)⟩,
    fun e _ ↦ hadmits e _ hkept' fun _ ↦ hlogged, fun a ha ↦ ?_⟩
  subst ha
  refine Program.Upholds.raiseIf_bind (fun _ ↦ hadmits _ _ hkept' fun _ ↦ hlogged) fun hinside ↦ ?_
  refine hnext s' hmeanwhile hkept' ?_
  rcases hexec with hexec | ⟨hexec, -⟩
  · obtain ⟨-, ha⟩ := hstays _ hexec
    cases ha
    exact of_decide_eq_true (Bool.eq_true_of_not_eq_false hinside)
  · cases hexec

/-- What has been read of a resource under its lock still holds. -/
def Steady (w : W) (tenantReference resourceReference : SafeReference)
    (db db' : Database W HostKey.Row ℤ) : Prop :=
  db.advisory (resourceLock tenantReference resourceReference) = some w → ∀ revision : ℤ,
    (db.view w).lookup (.resource tenantReference resourceReference) = some revision →
      db'.advisory (resourceLock tenantReference resourceReference) = some w ∧
        (db'.view w).lookup (.resource tenantReference resourceReference) = some revision

namespace Steady

omit [DecidableEq W]

theorem trans {db'' : Database W HostKey.Row ℤ}
    (h : Steady w tenantReference resourceReference db db')
    (h' : Steady w tenantReference resourceReference db' db'') :
    Steady w tenantReference resourceReference db db'' := by
  intro hlock revision hrevision
  obtain ⟨hlock', hrevision'⟩ := h hlock revision hrevision
  exact h' hlock' revision hrevision'

theorem meanwhile (h : Meanwhile hostRules hostPlaces w db db') :
    Steady w tenantReference resourceReference db db' := by
  intro hlock revision hrevision
  refine ⟨(h.advisory _).mpr hlock, ?_⟩
  rw [h.guarded (k := .resource tenantReference resourceReference) rfl hlock
    (by rw [hrevision]; rfl)]
  exact hrevision

end Steady

/-- A session keeps its advisory locks. -/
theorem advisory_work {good : Database W HostKey.Row ℤ → Sigma HostKey.Row → Prop} {l : ℤ}
    (h : hostRules.Work w good db db') (hl : db.advisory l = some w) :
    db'.advisory l = some w := by
  cases h with
  | share | lock | write => exact hl
  | @take l' =>
    by_cases hll : l = l'
    · subst hll
      exact Function.update_self _ _ _
    · exact (Function.update_of_ne hll _ _).trans hl

/-- A query that writes no resource. -/
theorem Steady.run {q : Query HostKey.Row ℤ Exn} {r : Except Exn q.Ans}
    (hrun : hostRules.run db w q = some (r, db'))
    (hq : ∀ row, hostRules.written db w q = some row → ∃ key r, row = ⟨.intent key, r⟩) :
    Steady w tenantReference resourceReference db db' := by
  intro hlock revision hrevision
  rcases Rules.run_work hrun with rfl | hwork
  · exact ⟨hlock, hrevision⟩
  · refine ⟨advisory_work hwork hlock, ?_⟩
    cases hwork with
    | take | share | lock => exact hrevision
    | @write k r submitted _ _ hwritten =>
      obtain ⟨key, r', hrow⟩ := hq _ hwritten.2
      cases hrow
      rw [lookup_view_write_of_ne (by simp)]
      exact hrevision

/-- The row of an intent that a session has locked. -/
structure HoldsRow (w : W) (key : IntentKey) (row : IntentRow)
    (db : Database W HostKey.Row ℤ) : Prop where
  writer : db.writer (.intent key) = some w
  row : (db.view w).lookup (.intent key) = some row

omit [DecidableEq W] in
theorem HoldsRow.meanwhile (h : HoldsRow w key row db)
    (hmeanwhile : Meanwhile hostRules hostPlaces w db db') : HoldsRow w key row db' :=
  ⟨(hmeanwhile.writer _).mpr h.writer, (hmeanwhile.lookup_view h.writer).trans h.row⟩

omit [DecidableEq W] in
/-- What is not true of a locked row is not true of its committed version. -/
theorem HoldsRow.not_holds {P : IntentRow → Prop}
    (hP : ∀ {old new : IntentRow}, old.Follows new → P old → P new)
    (h : HoldsRow w key row db) (hc : db.Consistent hostRules) (hrow : ¬P row) :
    ¬Fact.Holds (⟨.intent key, P⟩ : Fact HostKey.Row) db.rows := by
  rintro ⟨old, hold, hp⟩
  have hevolves := hc.view_evolves w (.intent key)
  rw [hold, h.row] at hevolves
  exact hrow (hP (follows_of_evolves hevolves) hp)

omit [DecidableEq W] [LedgerHost] in
theorem HoldsRow.not_seen {P : IntentRow → Prop} (h : HoldsRow w key row db) (hrow : ¬P row) :
    ¬Fact.Holds (⟨.intent key, P⟩ : Fact HostKey.Row) (db.view w) := by
  rintro ⟨row', hrow', hp⟩
  obtain rfl := Option.some.inj (h.row.symm.trans hrow')
  exact hrow hp

/-- The row of an intent is read for an update. -/
theorem upholds_loadRow_update {f : Option IntentRow → HostProgram α}
    (hkept : ledgerTestimony.Kept w h s.1) (hopen : s.1.status w ≠ .idle)
    (hadmits : ledgerTestimony.AdmitsErrors w h Q)
    (hnext : ∀ (row : Option IntentRow) (s' : LedgerSight W),
      (∀ t r, Steady w t r s.1 s'.1) → (∀ l, s.1.advisory l = some w → s'.1.advisory l = some w) →
      s'.1.status w = .active → ledgerTestimony.Kept w h s'.1 →
      (∀ r, row = some r → HoldsRow w key r s'.1 ∧ hostVets (.intent key) r) →
      (f row).Upholds (ledgerCompany w h) Q s') :
    (PostgresStripeLedger.loadRow key (some .update) >>= f).Upholds (ledgerCompany w h) Q s := by
  refine Testimony.upholds_query lawful_ledger hkept hopen hadmits
    fun s' hmeanwhile hinv _ ↦ ⟨fun _ ↦ (absurd ·.symm (Option.some_ne_none _)), fun a db hrun hactive hkept' ↦ ?_⟩
  have hsteady : ∀ t r, Steady w t r s.1 db := fun t r ↦
    (Steady.meanwhile hmeanwhile).trans (Steady.run hrun fun _ ↦ (absurd ·.symm (Option.some_ne_none _)))
  refine hnext a (db, s'.2) hsteady (fun l hl ↦ ?_) hactive hkept' fun r hr ↦ ?_
  · rcases Rules.run_work hrun with rfl | hwork
    · exact (hmeanwhile.advisory l).mpr hl
    · exact advisory_work hwork ((hmeanwhile.advisory l).mpr hl)
  · obtain ⟨hrow, hview, hwriter⟩ := run_select hrun
    rw [hr] at hrow hwriter
    refine ⟨⟨hwriter rfl (Option.some_ne_none r), ?_⟩, hinv.vetted.view hrow.symm⟩
    rw [hview]
    exact hrow.symm

/-! ## Entries -/

/-- The entry that `_entry` makes of a row. -/
structure IsEntry (key : IntentKey) (row : IntentRow) (entry : StripeLedgerEntry) : Prop where
  key : entry.key = key
  resourceReference : entry.resourceReference = row.resourceReference
  requesterReference : entry.requesterReference = row.requesterReference
  snapshotDigest : entry.snapshotDigest = row.snapshotDigest
  snapshotData : validateObject row.snapshotData = some entry.snapshotData
  phase : entry.phase = row.phase
  closeKind : entry.closeKind = row.closeKind
  outcomeData : optionalObject row.outcomeData = .ok entry.outcomeData

theorem isEntry_of_entryOf {entry : StripeLedgerEntry} (hentry : entryOf key row = .ok entry) :
    IsEntry key row entry := by
  rw [entryOf] at hentry
  obtain ⟨snapshotData, hsnapshot, hentry⟩ := Except.bind_eq_ok.mp hentry
  obtain ⟨outcomeData, houtcome, hentry⟩ := Except.bind_eq_ok.mp hentry
  split_ifs at hentry
  cases hentry
  refine ⟨rfl, rfl, rfl, rfl, ?_, rfl, rfl, houtcome⟩
  rw [objectOf] at hsnapshot
  split at hsnapshot
  · cases hsnapshot
  · rename_i object hobject
    cases hsnapshot
    exact hobject

namespace IsEntry

variable {entry : StripeLedgerEntry} {snapshotData : JsonObject} {digest : String}

theorem shows (he : IsEntry key row entry) : row.Shows entry where
  resourceReference := he.resourceReference.symm
  requesterReference := he.requesterReference.symm
  snapshotDigest := he.snapshotDigest.symm
  snapshotData := he.snapshotData
  submitted := by
    rw [he.phase]
    exact id
  closed hclosed := by
    rw [he.phase] at hclosed
    exact ⟨hclosed, he.closeKind.symm, he.outcomeData⟩

/-- The comparison of the snapshots is one of the row. -/
theorem hasSnapshot_iff (he : IsEntry key row entry)
    (hdigest : Stripe.snapshotDigest snapshotData = .ok digest) :
    row.HasSnapshot snapshotData ↔ ¬(entry.snapshotDigest ≠ digest ∨
      Json.equals (.dict entry.snapshotData) (.dict snapshotData) = false) := by
  rw [IntentRow.HasSnapshot, hdigest, he.snapshotDigest, he.snapshotData, not_or, not_not,
    Bool.not_eq_false]
  constructor
  · rintro ⟨hdigest, stored, hstored, hequals⟩
    cases hdigest
    cases hstored
    exact ⟨rfl, hequals⟩
  · rintro ⟨hdigest, hequals⟩
    exact ⟨congrArg _ hdigest.symm, _, rfl, hequals⟩

theorem matches_iff {requesterReference : SafeReference} {inserted : ℕ}
    (he : IsEntry key row entry) (hdigest : Stripe.snapshotDigest snapshotData = .ok digest) :
    row.Matches resourceReference requesterReference snapshotData ↔
      PostgresStripeLedger.rememberStatus resourceReference requesterReference snapshotData digest
        inserted entry ≠ .conflict := by
  rw [PostgresStripeLedger.rememberStatus]
  constructor
  · intro hm
    have hsnapshot := (he.hasSnapshot_iff hdigest).mp hm.snapshot
    rw [if_neg]
    · split_ifs <;> decide
    · rintro (hne | hne | hne)
      · exact hne (he.resourceReference.trans hm.resourceReference)
      · exact hne (he.requesterReference.trans hm.requesterReference)
      · exact hsnapshot hne
  · intro hstatus
    split_ifs at hstatus with hne hinserted
    · exact absurd rfl hstatus
    all_goals
      rw [not_or, not_or, not_not, not_not] at hne
      exact ⟨he.resourceReference.symm.trans hne.1, he.requesterReference.symm.trans hne.2.1,
        (he.hasSnapshot_iff hdigest).mpr hne.2.2⟩

end IsEntry

/-! ## Reservations -/

/-- No other intent that is seen reserves the resource. -/
theorem occupied_eq_of_any_eq_false {rows : AList HostKey.Row} {k : HostKey}
    (hany : (rows.entries.any fun entry ↦ decide (entry.1 ≠ .intent key) &&
      reservesResource tenantReference resourceReference entry.1 entry.2) = false)
    (hk : Occupies hostPlaces rows k (tenantReference, resourceReference)) : k = .intent key := by
  obtain ⟨key', row, rfl, hrow, hphase, htenant, hresource⟩ := occupied_iff.mp hk
  by_contra hne
  have hmem := List.any_eq_false.mp hany ⟨.intent key', row⟩ (AList.mem_lookup_iff.mp hrow)
  simp [reservesResource, hphase, htenant, hresource] at hmem
  exact hne (by rw [hmem])

omit [DecidableEq W] in
/-- The session may reserve an intent whose resource it has locked and seen vacant. -/
theorem good_reservation (hlock : db.advisory (resourceLock key.tenantReference
      row.resourceReference) = some w)
    (hvacant : ∀ k, Occupies hostPlaces (db.view w) k (key.tenantReference, row.resourceReference) →
      k = .intent key)
    (hvets : hostVets (.intent key) row) {now : Timestamp} :
    ledgerTestimony.Good w db
      ⟨.intent key, { row with phase := .reserved, reservedAt := some now }⟩ := by
  refine ⟨⟨fun p hp ↦ Or.inr ?_, fun p hp ↦ by cases hp⟩, hvets.1, fun _ ↦ rfl⟩
  obtain ⟨-, rfl⟩ := occupies_intent.mp hp
  exact ⟨hlock, hvacant⟩

/-- How a call that reserves an intent may be answered. -/
def ReserveAnswers (w : W) (h : Answers Exn LedgerCall LedgerAnswer) (key : IntentKey)
    (resourceReference : SafeReference) (snapshotData : JsonObject) (notAfter : Timestamp)
    (Q : Except Exn StripeHostReserveStatus → LedgerSight W → Prop)
    (db : Database W HostKey.Row ℤ) : Prop :=
  ∀ (status : StripeHostReserveStatus) (s : LedgerSight W), s.1.status w = .active →
    ledgerTestimony.Kept w h s.1 → Steady w key.tenantReference resourceReference db s.1 →
    ledgerTestimony.Attests w (.reserveIn key resourceReference snapshotData notAfter)
      (.reservation status) s.1 →
    (∀ older ∈ h, ledgerTestimony.Novel
      (.reserveIn key resourceReference snapshotData notAfter, .ok (.reservation status)) older) →
    Q (.ok status) s

namespace ReserveAnswers

variable {snapshotData : JsonObject} {notAfter : Timestamp}
  {Q : Except Exn StripeHostReserveStatus → LedgerSight W → Prop}

omit [DecidableEq W] in
theorem of_steady
    (hanswers : ReserveAnswers w h key resourceReference snapshotData notAfter Q db)
    (hsteady : Steady w key.tenantReference resourceReference db db') :
    ReserveAnswers w h key resourceReference snapshotData notAfter Q db' :=
  fun status s hactive hkept hsteady' ↦ hanswers status s hactive hkept (hsteady.trans hsteady')

omit [DecidableEq W] in
/-- An answer that marks nothing. -/
theorem silent {status : StripeHostReserveStatus}
    (hanswers : ReserveAnswers w h key resourceReference snapshotData notAfter Q s.1)
    (hactive : s.1.status w = .active) (hkept : ledgerTestimony.Kept w h s.1)
    (hsilent : ledgerMarks (.reserveIn key resourceReference snapshotData notAfter)
      (.reservation status) = none)
    (htells : tellsReservation key resourceReference snapshotData (s.1.view w) status) :
    Q (.ok status) s :=
  hanswers status s hactive hkept (fun hlock _ hrevision ↦ ⟨hlock, hrevision⟩)
    (Testimony.attests_of_silent hsilent htells) fun _ _ ↦ Testimony.novel_of_silent hsilent

end ReserveAnswers

variable {snapshotData : JsonObject} {notAfter : Timestamp}
  {Q : Except Exn StripeHostReserveStatus → LedgerSight W → Prop}

theorem upholds_reserveReady (hkept : ledgerTestimony.Kept w h s.1)
    (hactive : s.1.status w = .active) (hadmits : ledgerTestimony.AdmitsErrors w h Q)
    (hholds : HoldsRow w key row s.1) (hready : row.phase = .ready)
    (hsnapshot : row.HasSnapshot snapshotData) (hvets : hostVets (.intent key) row)
    (hlock : s.1.advisory (resourceLock key.tenantReference row.resourceReference) = some w)
    (hanswers : ReserveAnswers w h key row.resourceReference snapshotData notAfter Q s.1) :
    (PostgresStripeLedger.reserveReady key row.resourceReference notAfter).Upholds
      (ledgerCompany w h) Q s := by
  have hopen : ∀ {db : Database W HostKey.Row ℤ}, db.status w = .active → db.status w ≠ .idle := by
    intro db hactive
    rw [hactive]
    decide
  rw [PostgresStripeLedger.reserveReady]
  refine Testimony.upholds_query lawful_ledger hkept (hopen hactive) hadmits
    fun s₁ hmeanwhile₁ _ _ ↦ ⟨fun _ ↦ (absurd ·.symm (Option.some_ne_none _)),
      fun now db₁ hrun₁ hactive₁ hkept₁ ↦ ?_⟩
  cases hrun₁
  have hanswers₁ := hanswers.of_steady (.meanwhile hmeanwhile₁)
  by_cases hnow : s₁.1.now < notAfter
  · rw [if_neg (not_not.mpr hnow)]
    refine Testimony.upholds_query lawful_ledger hkept₁ (hopen hactive₁) hadmits
      fun s₂ hmeanwhile₂ _ _ ↦ ⟨fun _ ↦ (absurd ·.symm (Option.some_ne_none _)),
        fun conflict db₂ hrun₂ hactive₂ hkept₂ ↦ ?_⟩
    cases hrun₂
    have hanswers₂ := hanswers₁.of_steady (.meanwhile hmeanwhile₂)
    have hlock₂ := (hmeanwhile₂.advisory _).mpr ((hmeanwhile₁.advisory _).mpr hlock)
    have hholds₂ := (hholds.meanwhile hmeanwhile₁).meanwhile hmeanwhile₂
    cases hany : (s₂.1.view w).entries.any fun entry ↦ decide (entry.1 ≠ .intent key) &&
        reservesResource key.tenantReference row.resourceReference entry.1 entry.2 with
    | true =>
      rw [if_pos rfl]
      exact hanswers₂.silent (s := (s₂.1, s₂.2)) hactive₂ hkept₂ rfl trivial
    | false =>
      rw [if_neg Bool.false_ne_true]
      -- The reservation: the resource is still vacant, and the row is still ready.
      have hreservation : ∀ now, PostgresStripeLedger.reservation now row =
          some (.ok { row with phase := .reserved, reservedAt := some now }) := fun now ↦ if_pos hready
      refine Testimony.upholds_query lawful_ledger hkept₂ (hopen hactive₂) hadmits
        fun s₃ hmeanwhile₃ hinv₃ hkept₃ ↦ ⟨fun new hnew ↦ ?_, fun n db₃ hrun₃ hactive₃ hkept₄ ↦ ?_⟩
      · obtain ⟨r, hr, rfl⟩ := written_update (hholds₂.meanwhile hmeanwhile₃).row
          (hreservation s₃.1.now) hnew
        obtain rfl := Except.ok.inj (eq_ok_of_bind_guard hr)
        refine good_reservation ((hmeanwhile₃.advisory _).mpr hlock₂) (fun k hk ↦ ?_) hvets
        exact occupied_eq_of_any_eq_false hany (hmeanwhile₃.vacant hlock₂ hk)
      · have hholds₃ := hholds₂.meanwhile hmeanwhile₃
        obtain ⟨rfl, r, hr, rfl⟩ := run_update hholds₃.row (hreservation s₃.1.now) hrun₃
        obtain rfl := Except.ok.inj (eq_ok_of_bind_guard hr)
        refine Program.Upholds.raiseIf_bind (fun hne ↦ absurd rfl hne) fun _ ↦ ?_
        have hnew : ¬(submittedFact key).Holds s₃.1.rows :=
          hholds₃.not_holds (fun hf ↦ hf.submitted) hinv₃.consistent (not_not.mpr hready)
        have hsubmitted : IntentRow.SubmittedFor
            { row with phase := .reserved, reservedAt := some s₃.1.now } row.resourceReference
            snapshotData := ⟨by simp, rfl, hsnapshot⟩
        refine hanswers₂ .acquired (_, s₃.2) hactive₃ hkept₄ ?_
          ⟨⟨_, lookup_view_write_self, hsubmitted⟩, fun fact hfact ↦ ?_⟩
          (hkept₃.novel_of_not_holds fun fact hfact ↦ ?_)
        · refine (Steady.meanwhile hmeanwhile₃).trans (Steady.run hrun₃ fun new hnew ↦ ?_)
          obtain ⟨r, -, rfl⟩ := written_update hholds₃.row (hreservation s₃.1.now) hnew
          exact ⟨key, r, rfl⟩
        · cases hfact
          exact ⟨Function.update_self _ _ _, hnew⟩
        · cases hfact
          exact hholds₃.not_seen (not_not.mpr hready)
  · rw [if_pos hnow]
    exact hanswers₁.silent (s := (s₁.1, s₁.2)) hactive₁ hkept₁ rfl trivial

theorem upholds_reserveIn
    (hkept : ledgerTestimony.Kept w h s.1) (hidle : s.1.status w = .idle → h = [])
    (hadmits : ledgerTestimony.AdmitsErrors w h Q)
    (hanswers : ReserveAnswers w h key resourceReference snapshotData notAfter Q s.1) :
    (PostgresStripeLedger.reserveIn key resourceReference snapshotData notAfter).Upholds
      (ledgerCompany w h) Q s := by
  rw [PostgresStripeLedger.reserveIn]
  refine upholds_requireTransaction hkept hidle hadmits fun s₁ hmeanwhile₁ hkept₁ hopen₁ ↦ ?_
  -- The advisory lock.
  refine Testimony.upholds_query lawful_ledger hkept₁ hopen₁ hadmits
    fun s₂ hmeanwhile₂ _ _ ↦ ⟨fun _ ↦ (absurd ·.symm (Option.some_ne_none _)),
      fun _ db₂ hrun₂ hactive₂ hkept₂ ↦ ?_⟩
  have hlock₂ : db₂.advisory (resourceLock key.tenantReference resourceReference) = some w := by
    rw [Rules.run] at hrun₂
    split_ifs at hrun₂
    cases hrun₂
    exact Function.update_self _ _ _
  have hanswers₂ := hanswers.of_steady (((Steady.meanwhile hmeanwhile₁).trans
    (.meanwhile hmeanwhile₂)).trans
      (Steady.run hrun₂ fun _ ↦ (absurd ·.symm (Option.some_ne_none _))))
  -- The row of the intent.
  refine upholds_loadRow_update hkept₂ (by rw [hactive₂]; decide) hadmits
    fun row s₃ hsteady₃ hadvisory₃ hactive₃ hkept₃ hrow₃ ↦ ?_
  have hanswers₃ := hanswers₂.of_steady (hsteady₃ key.tenantReference resourceReference)
  have hlock₃ := hadvisory₃ _ hlock₂
  cases row with
  | none => exact hanswers₃.silent hactive₃ hkept₃ rfl trivial
  | some row =>
    obtain ⟨hholds₃, hvets⟩ := hrow₃ row rfl
    have herror : ∀ e, Q (.error e) s₃ := by
      refine fun e ↦ hadmits e _ hkept₃ fun hidle ↦ ?_
      rw [hactive₃] at hidle
      cases hidle
    dsimp only
    refine Program.Upholds.orRaise_bind (fun e _ ↦ herror e) fun entry hentry ↦ ?_
    have he := isEntry_of_entryOf hentry
    by_cases hresource : entry.resourceReference = resourceReference
    · rw [if_neg (not_not.mpr hresource)]
      refine Program.Upholds.orRaise_bind (fun e _ ↦ herror e) fun digest hdigest ↦ ?_
      obtain rfl := he.resourceReference.symm.trans hresource
      by_cases hdiffers : entry.snapshotDigest ≠ digest ∨
          Json.equals (.dict entry.snapshotData) (.dict snapshotData) = false
      · rw [if_pos hdiffers]
        exact hanswers₃.silent hactive₃ hkept₃ rfl trivial
      · rw [if_neg hdiffers]
        have hsnapshot := (he.hasSnapshot_iff hdigest).mpr hdiffers
        by_cases hready : entry.phase = .ready
        · rw [if_neg (not_not.mpr hready)]
          exact upholds_reserveReady hkept₃ hactive₃ hadmits hholds₃
            (he.phase.symm.trans hready) hsnapshot hvets hlock₃ hanswers₃
        · rw [if_pos hready]
          refine hanswers₃.silent hactive₃ hkept₃ rfl ⟨row, hholds₃.row, ?_, rfl, hsnapshot⟩
          rwa [← he.phase]
    · rw [if_pos hresource]
      exact hanswers₃.silent hactive₃ hkept₃ rfl trivial

/-! ## Closing -/

/-- The call closes an intent with the outcome. -/
structure Closes (c : LedgerCall) (key : IntentKey) (outcomeData : Option JsonObject) : Prop where
  tells : ∀ status rows, ledgerTells c (.closed status) rows ↔
    tellsClosed key outcomeData rows status
  recorded : ledgerMarks c (.closed .recorded) = some (closedFact key)
  silent : ∀ status, status ≠ .recorded → ledgerMarks c (.closed status) = none

theorem closes_recordNoSubmissionIn : Closes (.recordNoSubmissionIn key) key none :=
  ⟨fun _ _ ↦ Iff.rfl, rfl, fun status hne ↦ by cases status <;> first | rfl | exact absurd rfl hne⟩

theorem closes_recordOutcomeIn {outcomeData : JsonObject} :
    Closes (.recordOutcomeIn key outcomeData) key (some outcomeData) :=
  ⟨fun _ _ ↦ Iff.rfl, rfl, fun status hne ↦ by cases status <;> first | rfl | exact absurd rfl hne⟩

theorem closes_exerciseRecordNoSubmission {intent : StripeHostExerciseIntent} :
    Closes (.exerciseRecordNoSubmission intent) intent.key none :=
  ⟨fun _ _ ↦ Iff.rfl, rfl, fun status hne ↦ by cases status <;> first | rfl | exact absurd rfl hne⟩

theorem closes_exerciseRecordOutcome {intent : StripeHostExerciseIntent} {outcomeData : JsonObject} :
    Closes (.exerciseRecordOutcome intent outcomeData) intent.key (some outcomeData) :=
  ⟨fun _ _ ↦ Iff.rfl, rfl, fun status hne ↦ by cases status <;> first | rfl | exact absurd rfl hne⟩

omit [DecidableEq W] in
/-- An intent may be closed, with an outcome only if it is reserved. -/
theorem good_closing {closed : IntentRow} {kind : StripeCloseKind} {outcomeData : Option Bytes}
    {now : Timestamp} (hvets : hostVets (.intent key) row)
    (hreserved : kind = .outcome → row.phase = .reserved)
    (hclosed : closed = { row with
      phase := .closed, closedAt := some now, closeKind := some kind, outcomeData }) :
    ledgerTestimony.Good w db ⟨.intent key, closed⟩ := by
  subst hclosed
  refine ⟨⟨fun p hp ↦ ?_, fun p hp ↦ by cases hp⟩, hvets.1, fun hkind ↦ ?_⟩
  · obtain ⟨hphase, -⟩ := occupies_intent.mp hp
    cases hphase
  · rcases hkind with hphase | hkind
    · cases hphase
    · exact hvets.2 (.inl (hreserved (Option.some.inj hkind)))

theorem upholds_closeIn {c : LedgerCall} {outcomeData : Option JsonObject}
    {Q : Except Exn StripeHostCloseStatus → LedgerSight W → Prop} (hc : Closes c key outcomeData)
    (hkept : ledgerTestimony.Kept w h s.1) (hidle : s.1.status w = .idle → h = [])
    (hadmits : ledgerTestimony.AdmitsErrors w h Q)
    (hanswers : ∀ (status : StripeHostCloseStatus) (s : LedgerSight W), s.1.status w = .active →
      ledgerTestimony.Kept w h s.1 → ledgerTestimony.Attests w c (.closed status) s.1 →
      (∀ older ∈ h, ledgerTestimony.Novel (c, .ok (.closed status)) older) → Q (.ok status) s) :
    (PostgresStripeLedger.closeIn key outcomeData).Upholds (ledgerCompany w h) Q s := by
  rw [PostgresStripeLedger.closeIn]
  refine upholds_requireTransaction hkept hidle hadmits fun s₁ hmeanwhile₁ hkept₁ hopen₁ ↦ ?_
  refine upholds_loadRow_update hkept₁ hopen₁ hadmits
    fun row s₂ _ _ hactive₂ hkept₂ hrow₂ ↦ ?_
  have hopen₂ : s₂.1.status w ≠ .idle := by
    rw [hactive₂]
    decide
  have herror : ∀ e, Q (.error e) s₂ :=
    fun e ↦ hadmits e _ hkept₂ fun hidle ↦ absurd hidle hopen₂
  cases row with
  | none => exact herror _
  | some row =>
    obtain ⟨hholds₂, hvets⟩ := hrow₂ row rfl
    dsimp only
    refine Program.Upholds.orRaise_bind (fun e _ ↦ herror e) fun entry hentry ↦ ?_
    have he := isEntry_of_entryOf hentry
    by_cases hclosed : entry.phase = .closed
    · -- The intent is closed already.
      have hrow := he.phase.symm.trans hclosed
      rw [if_pos hclosed, he.closeKind]
      have hsilent : ∀ (status : StripeHostCloseStatus) (same : Bool), status ≠ .recorded →
          (tellsClosed key outcomeData (s₂.1.view w) status ↔ Told key (fun row ↦
            row.phase = .closed ∧ row.ComparesOutcome outcomeData same) (s₂.1.view w)) →
          (decide (row.closeKind = some (PostgresStripeLedger.closeKindOf outcomeData)) &&
            optionalEquals entry.outcomeData outcomeData) = same → Q (.ok status) s₂ := by
        intro status same hne htells hsame
        refine hanswers status s₂ hactive₂ hkept₂ (Testimony.attests_of_silent (hc.silent _ hne) ?_)
          fun _ _ ↦ Testimony.novel_of_silent (hc.silent _ hne)
        exact (hc.tells _ _).mpr (htells.mpr ⟨row, hholds₂.row, hrow, _, he.outcomeData, hsame⟩)
      by_cases hsame : row.closeKind = some (PostgresStripeLedger.closeKindOf outcomeData) ∧
          optionalEquals entry.outcomeData outcomeData = true
      · rw [if_pos hsame]
        refine hsilent .matched true (by decide) Iff.rfl ?_
        simp only [hsame, decide_true, Bool.and_self]
      · rw [if_neg hsame]
        refine hsilent .conflict false (by decide) Iff.rfl ?_
        rwa [Bool.and_eq_false_iff, decide_eq_false_iff_not, ← Bool.not_eq_true, ← not_and_or]
    · rw [if_neg hclosed]
      refine Program.Upholds.raiseIf_bind (fun _ ↦ herror _) fun hunsubmitted ↦ ?_
      refine Program.Upholds.orRaise_bind (fun e _ ↦ herror e) fun encoded hencoded ↦ ?_
      have hphase : row.phase ≠ .closed := fun hphase ↦ hclosed (he.phase.trans hphase)
      have hreserved : PostgresStripeLedger.closeKindOf outcomeData = .outcome →
          row.phase = .reserved := by
        intro hkind
        rw [PostgresStripeLedger.closeKindOf] at hkind
        split_ifs at hkind with hsome
        cases hrow : row.phase with
        | ready => exact absurd ⟨he.phase.trans hrow, hsome⟩ hunsubmitted
        | reserved => rfl
        | closed => exact absurd hrow hphase
      have hclosing : ∀ now, PostgresStripeLedger.closing
          (PostgresStripeLedger.closeKindOf outcomeData) encoded now row = some (do
            let outcomeData' ← PostgresStripeLedger.storedOutcome encoded
            return { row with
              phase := .closed
              closedAt := some now
              closeKind := some (PostgresStripeLedger.closeKindOf outcomeData)
              outcomeData := outcomeData' }) := fun now ↦ if_neg hphase
      refine Testimony.upholds_query lawful_ledger hkept₂ hopen₂ hadmits
        fun s₃ hmeanwhile₃ hinv₃ hkept₃ ↦ ⟨fun new hnew ↦ ?_, fun n db₃ hrun₃ hactive₃ hkept₄ ↦ ?_⟩
      · obtain ⟨r, hr, rfl⟩ := written_update (hholds₂.meanwhile hmeanwhile₃).row
          (hclosing s₃.1.now) hnew
        obtain ⟨stored, -, hstored⟩ := Except.bind_eq_ok.mp (eq_ok_of_bind_guard hr)
        cases hstored
        exact good_closing hvets hreserved rfl
      · have hholds₃ := hholds₂.meanwhile hmeanwhile₃
        obtain ⟨rfl, r, hr, rfl⟩ := run_update hholds₃.row (hclosing s₃.1.now) hrun₃
        obtain ⟨stored, houtcome, hstored⟩ := Except.bind_eq_ok.mp (eq_ok_of_bind_guard hr)
        cases hstored
        refine Program.Upholds.raiseIf_bind (fun hne ↦ absurd rfl hne) fun _ ↦ ?_
        have hnew : ¬(closedFact key).Holds s₃.1.rows :=
          hholds₃.not_holds (fun hf hold ↦ by rw [hf.closed hold]; exact hold) hinv₃.consistent
            hphase
        refine hanswers .recorded (_, s₃.2) hactive₃ hkept₄ ⟨(hc.tells _ _).mpr
          ⟨_, lookup_view_write_self, rfl, rfl, ?_⟩, fun fact hfact ↦ ?_⟩
          (hkept₃.novel_of_not_holds fun fact hfact ↦ ?_)
        · exact Except.bind_eq_ok.mpr ⟨encoded, hencoded, houtcome⟩
        · cases hc.recorded.symm.trans hfact
          exact ⟨Function.update_self _ _ _, hnew⟩
        · cases hc.recorded.symm.trans hfact
          exact hholds₃.not_seen hphase

/-! ## Remembering -/

/-- The call remembers an intent. -/
structure Remembers (c : LedgerCall) (key : IntentKey)
    (resourceReference requesterReference : SafeReference) (snapshotData : JsonObject) : Prop where
  tells : ∀ status rows, ledgerTells c (.remembered status) rows ↔
    tellsRemembered key resourceReference requesterReference snapshotData rows status
  created : ledgerMarks c (.remembered .created) = some (createdFact key)
  silent : ∀ status, status ≠ .created → ledgerMarks c (.remembered status) = none

theorem remembers_remember {requesterReference : SafeReference} :
    Remembers (.remember key resourceReference requesterReference snapshotData) key
      resourceReference requesterReference snapshotData :=
  ⟨fun _ _ ↦ Iff.rfl, rfl, fun status hne ↦ by cases status <;> first | rfl | exact absurd rfl hne⟩

theorem remembers_exerciseRemember {intent : StripeHostExerciseIntent} :
    Remembers (.exerciseRemember intent) intent.key intent.resourceReference
      intent.requesterReference intent.snapshotMapping :=
  ⟨fun _ _ ↦ Iff.rfl, rfl, fun status hne ↦ by cases status <;> first | rfl | exact absurd rfl hne⟩

theorem upholds_remember {c : LedgerCall} {requesterReference : SafeReference}
    (hc : Remembers c key resourceReference requesterReference snapshotData)
    (hidle : s.1.status w = .idle) (hlogged : ledgerTestimony.Logged s.2 s.1) :
    (PostgresStripeLedger.remember key resourceReference requesterReference snapshotData >>=
      fun status ↦ (pure (.remembered status) : HostProgram LedgerAnswer)).Upholds
        (ledgerCompany w []) ((ledgerOutline W).Ends w [] c) s := by
  rw [PostgresStripeLedger.remember, bind_assoc]
  refine Program.Upholds.orRaise_bind
    (fun e _ ↦ Testimony.admitsErrors_ends _ _ .nil fun _ ↦ hlogged) fun digest hdigest ↦ ?_
  refine Testimony.upholds_inTransaction lawful_ledger (fun status ↦ .ok (.remembered status)) hidle
    fun s₁ hinv₁ hopen₁ ↦ ?_
  refine Program.Upholds.orRaise_bind (fun e _ b hb ↦ by cases hb) fun encoded hencoded ↦ ?_
  have hdigest' : digest = Sha256.hexdigest encoded := by
    rw [snapshotDigest, hencoded] at hdigest
    cases hdigest
    rfl
  refine Testimony.upholds_query lawful_ledger .nil hopen₁ (fun e s _ _ b hb ↦ by cases hb)
    fun s₂ hmeanwhile₂ hinv₂ _ ↦ ⟨fun new hnew ↦ ?_, fun n db₂ hrun₂ hactive₂ hkept₂ ↦ ?_⟩
  · obtain ⟨-, r, hr, rfl⟩ := written_insert hnew
    obtain ⟨stored, hstored, hr⟩ := Except.bind_eq_ok.mp (eq_ok_of_bind_guard hr)
    cases hr
    refine ⟨⟨fun p hp ↦ ?_, fun p hp ↦ by cases hp⟩, ⟨_, _, hencoded, hdigest', hstored⟩, ?_⟩
    · obtain ⟨hphase, -⟩ := occupies_intent.mp hp
      cases hphase
    · rintro (hphase | hkind)
      · cases hphase
      · cases hkind
  -- An inserted row is locked, and there was none.
  have hinserted : n = 1 → db₂.writer (.intent key) = some w ∧ ¬(createdFact key).Holds db₂.rows := by
    intro hn
    rcases run_insert hrun₂ with ⟨rfl, -⟩ | ⟨-, hnone, -, r, rfl⟩
    · cases hn
    · refine ⟨Function.update_self _ _ _, fun ⟨old, hold, _⟩ ↦ ?_⟩
      have hevolves := hinv₂.consistent.view_evolves w (.intent key)
      rw [hnone, show s₂.1.rows.lookup (.intent key) = some old from hold] at hevolves
      cases hevolves.isSome rfl
  refine Program.Upholds.raiseIf_bind (fun _ b hb ↦ by cases hb) fun _ ↦ ?_
  refine Testimony.upholds_query lawful_ledger hkept₂ (by rw [hactive₂]; decide)
    (fun e s _ _ b hb ↦ by cases hb) fun s₃ hmeanwhile₃ _ _ ↦
      ⟨fun _ ↦ (absurd ·.symm (Option.some_ne_none _)), fun row db₃ hrun₃ hactive₃ _ ↦ ?_⟩
  obtain ⟨hrow, hview, -⟩ := run_select hrun₃
  cases row with
  | none => exact fun b hb ↦ by cases hb
  | some row =>
    refine Program.Upholds.orRaise_bind (fun e _ b hb ↦ by cases hb) fun entry hentry ↦ ?_
    have he := isEntry_of_entryOf hentry
    have hmatches : row.Matches resourceReference requesterReference snapshotData ↔
        PostgresStripeLedger.rememberStatus resourceReference requesterReference snapshotData digest
          n entry ≠ .conflict := he.matches_iff hdigest
    have honward : Onward hostRules hostPlaces w s₃.1 db₃ :=
      onward_run (by rw [hmeanwhile₃.status, hactive₂]; decide) hrun₃
        fun _ ↦ (absurd ·.symm (Option.some_ne_none _))
    have hrow₃ : (db₃.view w).lookup (.intent key) = some row := by
      rw [hview]
      exact hrow.symm
    rintro b hb
    cases hb
    refine ⟨hactive₃, fun a ha ↦ ?_⟩
    cases ha
    cases hstatus : PostgresStripeLedger.rememberStatus resourceReference requesterReference
        snapshotData digest n entry with
    | created =>
      have hn : n = 1 := by
        rw [PostgresStripeLedger.rememberStatus] at hstatus
        split_ifs at hstatus with hdiffers hn
        exact hn
      obtain ⟨hwriter, hnew⟩ := hinserted hn
      rw [hstatus] at hmatches
      refine ⟨(hc.tells _ _).mpr ⟨row, hrow₃, hmatches.mpr (by decide)⟩, fun fact hfact ↦ ?_⟩
      cases hc.created.symm.trans hfact
      refine ⟨honward.writer _ ((hmeanwhile₃.writer _).mpr hwriter), ?_⟩
      have hrows : s₃.1.rows.lookup (createdFact key).1 = db₂.rows.lookup (createdFact key).1 :=
        hmeanwhile₃.rows _ hwriter
      rw [honward.rows, Fact.Holds, hrows]
      exact hnew
    | matched =>
      rw [hstatus] at hmatches
      refine Testimony.attests_of_silent (hc.silent _ (by decide)) ((hc.tells _ _).mpr ?_)
      exact ⟨row, hrow₃, hmatches.mpr (by decide)⟩
    | conflict =>
      rw [hstatus] at hmatches
      refine Testimony.attests_of_silent (hc.silent _ (by decide)) ((hc.tells _ _).mpr ?_)
      exact ⟨row, hrow₃, fun hm ↦ hmatches.mp hm rfl⟩
    | notExercised =>
      exact Testimony.attests_of_silent (hc.silent _ (by decide)) ((hc.tells _ _).mpr trivial)

/-! ## Loading -/

omit [DecidableEq W] in
/-- What is loaded is shown by the row. -/
theorem attests_of_entryOrNone {c : LedgerCall} {found : Option IntentRow}
    {entry : Option StripeLedgerEntry} {a : LedgerAnswer}
    (hfound : found = (db.view w).lookup (.intent key))
    (hentry : PostgresStripeLedger.entryOrNone key found = .ok entry)
    (hmarks : ledgerMarks c a = none)
    (hnone : entry = none → ledgerTells c a (db.view w))
    (hsome : ∀ e, entry = some e → Told key (fun row ↦ row.Shows e) (db.view w) →
      ledgerTells c a (db.view w)) :
    ledgerTestimony.Attests w c a db := by
  refine Testimony.attests_of_silent hmarks ?_
  cases found with
  | none =>
    cases hentry
    exact hnone rfl
  | some row =>
    obtain ⟨e, he, hentry⟩ := Except.bind_eq_ok.mp hentry
    cases hentry
    exact hsome e rfl ⟨row, hfound.symm, (isEntry_of_entryOf he).shows⟩

theorem upholds_loadIn (hkept : ledgerTestimony.Kept w h s.1)
    (hidle : s.1.status w = .idle → h = []) :
    (ledgerProgram (.loadIn key)).Upholds (ledgerCompany w h)
      ((ledgerOutline W).Ends w h (.loadIn key)) s := by
  rw [ledgerProgram, PostgresStripeLedger.loadIn, bind_assoc]
  refine upholds_requireTransaction hkept hidle Testimony.admitsErrors_ends
    fun s₁ _ hkept₁ hopen₁ ↦ ?_
  rw [bind_assoc]
  refine Testimony.upholds_query lawful_ledger hkept₁ hopen₁ Testimony.admitsErrors_ends
    fun s₂ _ _ _ ↦ ⟨fun _ ↦ (absurd ·.symm (Option.some_ne_none _)),
      fun row db hrun hactive hkept₂ ↦ ?_⟩
  obtain ⟨hrow, hview, -⟩ := run_select hrun
  rw [← hview] at hrow
  have hopen : db.status w ≠ .idle := by
    rw [hactive]
    decide
  refine Program.Upholds.orRaise_bind (fun e _ ↦ Testimony.admitsErrors_ends _ _ hkept₂
    fun hidle ↦ absurd hidle hopen) fun entry hentry ↦ ?_
  have hmarks : ledgerMarks (.loadIn key) (.loaded entry) = none := rfl
  refine Testimony.ends_ok (s := (db, s₂.2)) hopen hkept₂ ?_ fun _ _ ↦ Testimony.novel_of_silent hmarks
  refine attests_of_entryOrNone hrow hentry hmarks (fun hnone ↦ ?_) fun e he htold ↦ ?_
  · subst hnone
    trivial
  · subst he
    exact htold

omit [LedgerHost] in
theorem orRaise_bind_orRaise {β γ : Type} {r : Except Exn β} {f : β → Except Exn γ} :
    (Program.orRaise r >>= fun a ↦ Program.orRaise (f a) : HostProgram γ) =
      Program.orRaise (r >>= f) := by
  cases r <;> rfl

/-- A row is loaded in a transaction of its own, and shown as `present` says. -/
theorem upholds_load (c : LedgerCall) (key : IntentKey)
    (present : Option StripeLedgerEntry → Except Exn LedgerAnswer)
    (hidle : s.1.status w = .idle)
    (hmarks : ∀ entry a, present entry = .ok a → ledgerMarks c a = none)
    (hnone : ∀ a rows, present none = .ok a → ledgerTells c a rows)
    (hsome : ∀ e a rows, present (some e) = .ok a → Told key (fun row ↦ row.Shows e) rows →
      ledgerTells c a rows) :
    (inTransaction (PostgresStripeLedger.loadRow key (some .share)) >>= fun row ↦
      (Program.orRaise (PostgresStripeLedger.entryOrNone key row >>= present) :
        HostProgram LedgerAnswer)).Upholds (ledgerCompany w []) ((ledgerOutline W).Ends w [] c) s := by
  refine Testimony.upholds_inTransaction lawful_ledger _ hidle fun s₁ _ hopen₁ ↦ ?_
  rw [PostgresStripeLedger.loadRow, ← bind_pure (hostQuery _)]
  refine Testimony.upholds_query lawful_ledger .nil hopen₁ (fun e s _ _ b hb ↦ by cases hb)
    fun s₂ _ _ _ ↦ ⟨fun _ ↦ (absurd ·.symm (Option.some_ne_none _)),
      fun row db hrun hactive _ ↦ ?_⟩
  obtain ⟨hrow, hview, -⟩ := run_select hrun
  rw [← hview] at hrow
  rintro b hb
  cases hb
  refine ⟨hactive, fun a ha ↦ ?_⟩
  obtain ⟨entry, hentry, ha⟩ := Except.bind_eq_ok.mp ha
  refine attests_of_entryOrNone hrow hentry (hmarks entry a ha) (fun he ↦ ?_) fun e he htold ↦ ?_
  · subst he
    exact hnone a _ ha
  · subst he
    exact hsome e a _ ha htold

theorem upholds_ledgerLoad (hidle : s.1.status w = .idle) :
    (ledgerProgram (.load key)).Upholds (ledgerCompany w [])
      ((ledgerOutline W).Ends w [] (.load key)) s := by
  have hload := upholds_load (.load key) key
    (fun entry ↦ .ok (.loaded entry)) hidle
    (fun entry a ha ↦ by
      cases ha
      rfl)
    (fun a rows ha ↦ by
      cases ha
      trivial)
    (fun e a rows ha htold ↦ by
      cases ha
      exact htold)
  simp only [← orRaise_bind_orRaise, ← bind_assoc] at hload
  exact hload

theorem upholds_exerciseLoad (hidle : s.1.status w = .idle) :
    (ledgerProgram (.exerciseLoad key)).Upholds (ledgerCompany w [])
      ((ledgerOutline W).Ends w [] (.exerciseLoad key)) s := by
  have hload := upholds_load (.exerciseLoad key) key
    (fun entry ↦ PostgresStripeHostExerciseAdapter.observation entry >>= fun observation ↦
      .ok (.observed observation)) hidle
    (fun entry a ha ↦ by
      obtain ⟨observation, -, ha⟩ := Except.bind_eq_ok.mp ha
      cases ha
      rfl)
    (fun a rows ha ↦ by
      cases ha
      trivial)
    (fun e a rows ha htold ↦ by
      obtain ⟨observation, hobservation, ha⟩ := Except.bind_eq_ok.mp ha
      cases ha
      obtain ⟨digest, hdigest, hsome⟩ := Except.bind_eq_ok.mp hobservation
      cases hsome
      exact ⟨e, hobservation, htold⟩)
  simp only [← orRaise_bind_orRaise, ← bind_assoc] at hload
  exact hload

/-! ## The adapter -/

omit [DecidableEq W] in
/-- A session that has locked a resource, whose revision is 0, and reserves an intent for it. -/
theorem unchanged_of_steady (hsteady : Steady w key.tenantReference resourceReference db db')
    (hlock : db.advisory (resourceLock key.tenantReference resourceReference) = some w)
    (hrevision : (db.view w).lookup (.resource key.tenantReference resourceReference) =
      some (0 : ℤ)) : Unchanged key resourceReference (db'.view w) :=
  fun _ _ _ ↦ (hsteady hlock 0 hrevision).2

/-- A session that has tried to lock a resource. -/
theorem upholds_lockResource {failIfResourceBusy : Bool} {f : Bool → HostProgram α}
    {Q : Except Exn α → LedgerSight W → Prop} (hkept : ledgerTestimony.Kept w h s.1)
    (hopen : s.1.status w ≠ .idle) (hadmits : ledgerTestimony.AdmitsErrors w h Q)
    (hnext : ∀ acquired (s' : LedgerSight W), s'.1.status w = .active →
      ledgerTestimony.Kept w h s'.1 → (acquired = true →
        s'.1.advisory (resourceLock tenantReference resourceReference) = some w) →
      (f acquired).Upholds (ledgerCompany w h) Q s') :
    (PostgresStripeHostExerciseAdapter.lockResource tenantReference resourceReference
      failIfResourceBusy >>= f).Upholds (ledgerCompany w h) Q s := by
  rw [PostgresStripeHostExerciseAdapter.lockResource]
  cases failIfResourceBusy with
  | true =>
    rw [if_pos rfl]
    refine Testimony.upholds_query lawful_ledger hkept hopen hadmits
      fun s' _ _ _ ↦ ⟨fun _ ↦ (absurd ·.symm (Option.some_ne_none _)),
        fun acquired db hrun hactive hkept' ↦ hnext acquired (db, s'.2) hactive hkept' ?_⟩
    rintro rfl
    rw [Rules.run] at hrun
    split_ifs at hrun
    · cases hrun
      exact Function.update_self _ _ _
    · cases hrun
  | false =>
    rw [if_neg Bool.false_ne_true, bind_assoc]
    refine Testimony.upholds_query lawful_ledger hkept hopen hadmits
      fun s' _ _ _ ↦ ⟨fun _ ↦ (absurd ·.symm (Option.some_ne_none _)),
        fun _ db hrun hactive hkept' ↦ hnext true (db, s'.2) hactive hkept' fun _ ↦ ?_⟩
    rw [Rules.run] at hrun
    split_ifs at hrun
    cases hrun
    exact Function.update_self _ _ _

omit [DecidableEq W] in
/-- What a reservation of the adapter attests besides that of the ledger. -/
theorem attests_exerciseReserve {intent : StripeHostExerciseIntent} {lost busy : Bool}
    {status : StripeHostReserveStatus}
    (ha : ledgerTestimony.Attests w
      (.reserveIn intent.key intent.resourceReference intent.snapshotMapping notAfter)
      (.reservation status) db)
    (hunchanged : Unchanged intent.key intent.resourceReference (db.view w)) :
    ledgerTestimony.Attests w (.exerciseReserve intent notAfter lost busy) (.reservation
      (if lost = true ∧ status = .acquired then .acknowledgementLost else status)) db := by
  by_cases hlost : lost = true ∧ status = .acquired
  · obtain ⟨-, rfl⟩ := id hlost
    rw [if_pos hlost]
    exact ⟨⟨ha.1, fun _ ↦ hunchanged⟩, fun fact hfact ↦ ha.2 fact hfact⟩
  · rw [if_neg hlost]
    refine ⟨⟨ha.1, fun _ ↦ hunchanged⟩, fun fact hfact ↦ ha.2 fact ?_⟩
    cases status <;> exact hfact

theorem upholds_exerciseReserve {intent : StripeHostExerciseIntent}
    {simulateLostAcknowledgement failIfResourceBusy : Bool} (hidle : s.1.status w = .idle) :
    (ledgerProgram (.exerciseReserve intent notAfter simulateLostAcknowledgement
      failIfResourceBusy)).Upholds (ledgerCompany w []) ((ledgerOutline W).Ends w []
        (.exerciseReserve intent notAfter simulateLostAcknowledgement failIfResourceBusy)) s := by
  rw [ledgerProgram, PostgresStripeHostExerciseAdapter.reserve, bind_assoc]
  refine Testimony.upholds_inTransaction lawful_ledger (fun result ↦ .ok (.reservation
    (if simulateLostAcknowledgement = true ∧ result = .acquired then .acknowledgementLost
      else result))) hidle fun s₁ hinv₁ hopen₁ ↦ ?_
  refine upholds_lockResource .nil hopen₁ (fun e s _ _ b hb ↦ by cases hb)
    fun acquired s₂ hactive₂ hkept₂ hlock₂ ↦ ?_
  -- An answer that tells nothing.
  have hsilent : ∀ (status : StripeHostReserveStatus) (s : LedgerSight W),
      status = .resourceBusy ∨ status = .stale → s.1.status w = .active →
      ∀ b, (Except.ok status : Except Exn _) = .ok b → s.1.status w = .active ∧
        ∀ a, (Except.ok (.reservation (if simulateLostAcknowledgement = true ∧ b = .acquired then
          .acknowledgementLost else b)) : Except Exn LedgerAnswer) = .ok a →
            ledgerTestimony.Attests w (.exerciseReserve intent notAfter simulateLostAcknowledgement
              failIfResourceBusy) a s.1 := by
    rintro status s hstatus hactive b hb
    cases hb
    refine ⟨hactive, fun a ha ↦ ?_⟩
    cases ha
    rcases hstatus with rfl | rfl
    · rw [if_neg (by simp)]
      exact Testimony.attests_of_silent rfl ⟨trivial, by simp⟩
    · rw [if_neg (by simp)]
      exact Testimony.attests_of_silent rfl ⟨trivial, by simp⟩
  by_cases hacquired : acquired = false
  · rw [if_pos hacquired]
    exact hsilent _ s₂ (.inl rfl) hactive₂
  · rw [if_neg hacquired]
    have hlock₂ := hlock₂ (Bool.eq_true_of_not_eq_false hacquired)
    refine Testimony.upholds_query lawful_ledger hkept₂ (by rw [hactive₂]; decide)
      (fun e s _ _ b hb ↦ by cases hb) fun s₃ hmeanwhile₃ _ _ ↦
        ⟨fun _ ↦ (absurd ·.symm (Option.some_ne_none _)), fun revision db₃ hrun₃ hactive₃ hkept₃ ↦ ?_⟩
    obtain ⟨hrevision, hview, -⟩ := run_select hrun₃
    have hlock₃ : db₃.advisory
        (resourceLock intent.key.tenantReference intent.resourceReference) = some w := by
      rcases Rules.run_work hrun₃ with rfl | hwork
      · exact (hmeanwhile₃.advisory _).mpr hlock₂
      · exact advisory_work hwork ((hmeanwhile₃.advisory _).mpr hlock₂)
    by_cases hzero : revision = some (0 : ℤ)
    · rw [if_neg (not_not.mpr hzero)]
      refine upholds_reserveIn hkept₃ (fun _ ↦ rfl) (fun e s _ _ b hb ↦ by cases hb)
        fun status s₄ hactive₄ _ hsteady hattests _ b hb ↦ ?_
      cases hb
      refine ⟨hactive₄, fun a ha ↦ ?_⟩
      cases ha
      refine attests_exerciseReserve hattests (unchanged_of_steady hsteady hlock₃ ?_)
      rw [hview, ← hrevision]
      exact hzero
    · rw [if_pos hzero]
      exact hsilent _ (db₃, s₃.2) (.inr rfl) hactive₃

/-- An intent is closed in a transaction of its own. -/
theorem upholds_close {c : LedgerCall} {outcomeData : Option JsonObject}
    (hc : Closes c key outcomeData) (hidle : s.1.status w = .idle) :
    (inTransaction (PostgresStripeLedger.closeIn key outcomeData) >>= fun status ↦
      (pure (.closed status) : HostProgram LedgerAnswer)).Upholds (ledgerCompany w [])
        ((ledgerOutline W).Ends w [] c) s := by
  refine Testimony.upholds_inTransaction lawful_ledger (fun status ↦ .ok (.closed status)) hidle
    fun s₁ _ _ ↦ ?_
  refine upholds_closeIn hc .nil (fun _ ↦ rfl) (fun e s _ _ b hb ↦ by cases hb)
    fun status s₂ hactive₂ _ hattests _ b hb ↦ ?_
  cases hb
  refine ⟨hactive₂, fun a ha ↦ ?_⟩
  cases ha
  exact hattests

/-- An intent is closed in the transaction of the caller. -/
theorem upholds_closeIn_call {c : LedgerCall} {outcomeData : Option JsonObject}
    (hc : Closes c key outcomeData) (hkept : ledgerTestimony.Kept w h s.1)
    (hidle : s.1.status w = .idle → h = []) :
    (PostgresStripeLedger.closeIn key outcomeData >>= fun status ↦
      (pure (.closed status) : HostProgram LedgerAnswer)).Upholds (ledgerCompany w h)
        ((ledgerOutline W).Ends w h c) s := by
  rw [Program.upholds_bind]
  refine upholds_closeIn hc hkept hidle Testimony.admitsErrors_ends
    fun status s₁ hactive₁ hkept₁ hattests hnovel ↦ ?_
  refine Testimony.ends_ok ?_ hkept₁ hattests hnovel
  rw [hactive₁]
  decide

theorem upholds_reserveIn_call (hkept : ledgerTestimony.Kept w h s.1)
    (hidle : s.1.status w = .idle → h = []) :
    (ledgerProgram (.reserveIn key resourceReference snapshotData notAfter)).Upholds
      (ledgerCompany w h) ((ledgerOutline W).Ends w h
        (.reserveIn key resourceReference snapshotData notAfter)) s := by
  rw [ledgerProgram, Program.upholds_bind]
  refine upholds_reserveIn hkept hidle Testimony.admitsErrors_ends
    fun status s₁ hactive₁ hkept₁ _ hattests hnovel ↦ ?_
  refine Testimony.ends_ok ?_ hkept₁ hattests hnovel
  rw [hactive₁]
  decide

theorem upholds_exerciseRemember {intent : StripeHostExerciseIntent}
    (hidle : s.1.status w = .idle) :
    (ledgerProgram (.exerciseRemember intent)).Upholds (ledgerCompany w [])
      ((ledgerOutline W).Ends w [] (.exerciseRemember intent)) s := by
  rw [ledgerProgram, PostgresStripeHostExerciseAdapter.remember, bind_assoc]
  refine Testimony.upholds_single lawful_ledger hidle (fun db row hrow ↦ ?_)
    Testimony.admitsErrors_ends fun _ s₁ hidle₁ hlogged₁ ↦
      upholds_remember remembers_exerciseRemember hidle₁ hlogged₁
  -- A resource is created only where there is none.
  obtain ⟨hnone, r, -, rfl⟩ := written_insert hrow
  exact ⟨⟨fun p hp ↦ (by cases hp), fun p _ ↦ .inl hnone⟩, trivial⟩

theorem not_occupied_of_any_eq_false {rows : AList HostKey.Row} {k : HostKey}
    (hany : (rows.entries.any fun entry ↦
      reservesResource tenantReference resourceReference entry.1 entry.2) = false) :
    ¬Occupies hostPlaces rows k (tenantReference, resourceReference) := by
  intro hk
  obtain ⟨key', row, rfl, hrow, hphase, htenant, hresource⟩ := occupied_iff.mp hk
  have hmem := List.any_eq_false.mp hany ⟨.intent key', row⟩ (AList.mem_lookup_iff.mp hrow)
  simp [reservesResource, hphase, htenant, hresource] at hmem

/-- An ordinary write changes a resource that nobody has reserved, and that nobody can reserve until
it is committed. -/
theorem upholds_normalWrite (hidle : s.1.status w = .idle) :
    (ledgerProgram (.normalWrite tenantReference resourceReference)).Upholds (ledgerCompany w [])
      ((ledgerOutline W).Ends w [] (.normalWrite tenantReference resourceReference)) s := by
  rw [ledgerProgram, PostgresStripeHostExerciseAdapter.normalWrite]
  refine Testimony.upholds_inTransaction lawful_ledger (fun status ↦ .ok (.written status)) hidle
    fun s₁ _ hopen₁ ↦ ?_
  have hends : ∀ (status : StripeHostNormalWriteStatus) (s : LedgerSight W),
      s.1.status w = .active → ∀ b, (Except.ok status : Except Exn _) = .ok b →
        s.1.status w = .active ∧ ∀ a, (Except.ok (.written b) : Except Exn LedgerAnswer) = .ok a →
          ledgerTestimony.Attests w (.normalWrite tenantReference resourceReference) a s.1 := by
    intro status s hactive b hb
    cases hb
    refine ⟨hactive, fun a ha ↦ ?_⟩
    cases ha
    exact Testimony.attests_of_silent rfl trivial
  refine Testimony.upholds_query lawful_ledger .nil hopen₁ (fun e s _ _ b hb ↦ by cases hb)
    fun s₂ _ _ _ ↦ ⟨fun _ ↦ (absurd ·.symm (Option.some_ne_none _)),
      fun _ db₂ hrun₂ hactive₂ hkept₂ ↦ ?_⟩
  have hlock₂ : db₂.advisory (resourceLock tenantReference resourceReference) = some w := by
    rw [Rules.run] at hrun₂
    split_ifs at hrun₂
    cases hrun₂
    exact Function.update_self _ _ _
  refine Testimony.upholds_query lawful_ledger hkept₂ (by rw [hactive₂]; decide)
    (fun e s _ _ b hb ↦ by cases hb) fun s₃ hmeanwhile₃ _ _ ↦
      ⟨fun _ ↦ (absurd ·.symm (Option.some_ne_none _)), fun reserved db₃ hrun₃ hactive₃ hkept₃ ↦ ?_⟩
  cases hrun₃
  have hlock₃ := (hmeanwhile₃.advisory _).mpr hlock₂
  cases hany : (s₃.1.view w).entries.any fun entry ↦
      reservesResource tenantReference resourceReference entry.1 entry.2 with
  | true =>
    rw [if_pos rfl]
    exact hends _ (s₃.1, s₃.2) hactive₃
  | false =>
    rw [if_neg Bool.false_ne_true]
    refine Testimony.upholds_query lawful_ledger hkept₃ (by rw [hactive₃]; decide)
      (fun e s _ _ b hb ↦ by cases hb) fun s₄ hmeanwhile₄ _ _ ↦
        ⟨fun new hnew ↦ ?_, fun _ db₅ _ hactive₅ _ ↦ hends _ (db₅, s₄.2) hactive₅⟩
    obtain ⟨r, rfl⟩ : ∃ r : ℤ, new = ⟨.resource tenantReference resourceReference, r⟩ := by
      cases hrow : (s₄.1.view w).lookup (.resource tenantReference resourceReference) with
      | none =>
        rw [Rules.written, hrow] at hnew
        cases hnew
      | some old =>
        obtain ⟨r, -, hr⟩ := written_update hrow rfl hnew
        exact ⟨r, hr⟩
    refine ⟨⟨fun p hp ↦ (by cases hp), fun p hp ↦ ?_⟩, trivial⟩
    cases hp
    exact .inr ⟨(hmeanwhile₄.advisory _).mpr hlock₃, fun k hk ↦
      not_occupied_of_any_eq_false hany (hmeanwhile₄.vacant hlock₃ hk)⟩

/-! ## All calls -/

theorem valid_ledger : (ledgerOutline W).Valid hostRules ledgerCalls := by
  refine Testimony.outline_valid lawful_ledger fun {w h db l} c _ hlogged hkept hidle howns ↦ ?_
  cases c with
  | loadIn key => exact upholds_loadIn hkept hidle
  | reserveIn key resourceReference snapshotData notAfter =>
    exact upholds_reserveIn_call hkept hidle
  | recordNoSubmissionIn key => exact upholds_closeIn_call closes_recordNoSubmissionIn hkept hidle
  | recordOutcomeIn key outcomeData =>
    exact upholds_closeIn_call closes_recordOutcomeIn hkept hidle
  | remember key resourceReference requesterReference snapshotData =>
    obtain rfl := hidle (howns rfl)
    exact upholds_remember remembers_remember (howns rfl) hlogged
  | load key =>
    obtain rfl := hidle (howns rfl)
    exact upholds_ledgerLoad (howns rfl)
  | exerciseRemember intent =>
    obtain rfl := hidle (howns rfl)
    exact upholds_exerciseRemember (howns rfl)
  | exerciseLoad key =>
    obtain rfl := hidle (howns rfl)
    exact upholds_exerciseLoad (howns rfl)
  | exerciseReserve intent notAfter lost busy =>
    obtain rfl := hidle (howns rfl)
    exact upholds_exerciseReserve (howns rfl)
  | exerciseRecordNoSubmission intent =>
    obtain rfl := hidle (howns rfl)
    exact upholds_close closes_exerciseRecordNoSubmission (howns rfl)
  | exerciseRecordOutcome intent outcomeData =>
    obtain rfl := hidle (howns rfl)
    exact upholds_close closes_exerciseRecordOutcome (howns rfl)
  | normalWrite tenantReference resourceReference =>
    obtain rfl := hidle (howns rfl)
    exact upholds_normalWrite (howns rfl)

end ThrevoActions.Stripe
