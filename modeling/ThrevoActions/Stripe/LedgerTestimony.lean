import ThrevoActions.Stripe.Ledger
import ThrevoActions.Transactions.Testimony

/-!
# What the answers of the ledger tell

A reserved intent occupies its resource, and the advisory lock of a resource guards the resource's
own row. From one state to a later one an intent keeps its binding, its phase does not go back, and
a closed intent does not change (`IntentRow.Follows`). The answers of the ledger are testimony about
its rows, which stays true as the rows advance (`ledgerTells_advances`); what `created`, `acquired`
and `recorded` tell is new when they are given (`ledgerMarks`).
-/

namespace ThrevoActions.Stripe

open Interleaving Interleaving.Program Transactions Transactions.Database

/-! ## How an intent changes -/

/-- The row is a later version of an intent. -/
structure IntentRow.Follows (old new : IntentRow) : Prop where
  binding : new.binding = old.binding
  submitted : old.phase ≠ .ready → new.phase ≠ .ready
  closed : old.phase = .closed → new = old

namespace IntentRow.Follows

variable {old row new : IntentRow}

theorem refl (row : IntentRow) : row.Follows row := ⟨rfl, id, fun _ ↦ rfl⟩

theorem trans (h : old.Follows row) (h' : row.Follows new) : old.Follows new := by
  refine ⟨h'.binding.trans h.binding, fun hold ↦ h'.submitted (h.submitted hold), fun hold ↦ ?_⟩
  have hrow := h.closed hold
  rw [← hrow] at hold
  exact (h'.closed hold).trans hrow

theorem resourceReference (h : old.Follows new) : new.resourceReference = old.resourceReference :=
  congrArg Prod.fst h.binding

theorem requesterReference (h : old.Follows new) :
    new.requesterReference = old.requesterReference :=
  congrArg (fun binding ↦ binding.2.1) h.binding

theorem snapshotDigest (h : old.Follows new) : new.snapshotDigest = old.snapshotDigest :=
  congrArg (fun binding ↦ binding.2.2.1) h.binding

theorem snapshotData (h : old.Follows new) : new.snapshotData = old.snapshotData :=
  congrArg (fun binding ↦ binding.2.2.2.1) h.binding

theorem of_enforceIntentUpdate {submitted : IntentRow}
    (h : enforceIntentUpdate old submitted = .ok new) : old.Follows new := by
  rw [enforceIntentUpdate] at h
  split_ifs at h with hbinding hclosed hphase
  cases h
  refine ⟨not_not.mp hbinding, fun hold hnew ↦ ?_, fun hold ↦ ?_⟩
  · have hne : old.phase ≠ new.phase := fun heq ↦ hold (heq.trans hnew)
    have hallowed : allowedTransition old.phase new.phase ≠ false := fun hf ↦ hphase ⟨hne, hf⟩
    rw [hnew] at hallowed
    cases hphase : old.phase with
    | ready => exact hold hphase
    | reserved | closed =>
      rw [hphase] at hallowed
      exact hallowed rfl
  · by_contra hne
    exact hclosed ⟨hold, hne⟩

end IntentRow.Follows

section Ledger

variable [LedgerHost]

open LedgerHost

theorem eq_of_checkedIntent {row new : IntentRow} (h : checkedIntent row = .ok new) : new = row := by
  rw [checkedIntent] at h
  split_ifs at h
  cases h
  rfl

/-- A guard that lets an update of an intent through lets a later version through. -/
theorem follows_of_guard {key : IntentKey} {old submitted new : IntentRow}
    (h : hostRules.guard (.intent key) (some old) submitted = .ok new) : old.Follows new := by
  obtain ⟨row, hrow, hchecked⟩ := Except.bind_eq_ok.mp
    (show enforceIntentUpdate old submitted >>= checkedIntent = .ok new from h)
  rw [eq_of_checkedIntent hchecked]
  exact .of_enforceIntentUpdate hrow

/-- The table stores what is submitted. -/
theorem eq_of_guard {key : IntentKey} {old : Option IntentRow} {submitted new : IntentRow}
    (h : hostRules.guard (.intent key) old submitted = .ok new) : new = submitted := by
  cases old with
  | none => exact eq_of_checkedIntent h
  | some old =>
    obtain ⟨row, hrow, hchecked⟩ := Except.bind_eq_ok.mp
      (show enforceIntentUpdate old submitted >>= checkedIntent = .ok new from h)
    rw [eq_of_checkedIntent hchecked]
    rw [enforceIntentUpdate] at hrow
    split_ifs at hrow
    cases hrow
    rfl

theorem eq_ok_of_bind_guard {key : IntentKey} {old : Option IntentRow}
    {submitted : Except Exn IntentRow} {new : IntentRow}
    (h : submitted >>= hostRules.guard (.intent key) old = .ok new) : submitted = .ok new := by
  obtain ⟨row, hrow, hguard⟩ := Except.bind_eq_ok.mp h
  rw [eq_of_guard hguard]
  exact hrow

theorem follows_of_evolves {key : IntentKey} {old new : IntentRow}
    (h : hostRules.Evolves (.intent key) (some old) (some new)) : old.Follows new := by
  obtain ⟨row, hrow, hfollows⟩ := h.invariant
    (P := fun row : Option IntentRow ↦ ∃ r, row = some r ∧ old.Follows r)
    ⟨old, rfl, .refl old⟩ (by
      rintro _ submitted r ⟨row, rfl, hfollows⟩ hguard
      exact ⟨r, rfl, hfollows.trans (follows_of_guard hguard)⟩)
  cases hrow
  exact hfollows

/-! ## Resources and their occupants -/

/-- A reserved intent occupies its resource, whose row is guarded. -/
def hostPlaces : Places HostKey HostKey.Row ℤ (SafeReference × SafeReference) where
  occupies
    | .intent key, row =>
      if row.phase = .reserved then some (key.tenantReference, row.resourceReference) else none
    | .resource _ _, _ => none
  guards
    | .intent _ => none
    | .resource tenantReference resourceReference => some (tenantReference, resourceReference)
  lockOf place := resourceLock place.1 place.2

variable {key : IntentKey} {tenantReference resourceReference : SafeReference}
  {rows rows' : AList HostKey.Row}

theorem occupies_intent {row : IntentRow} {place : SafeReference × SafeReference} :
    hostPlaces.occupies (.intent key) row = some place ↔
      row.phase = .reserved ∧ place = (key.tenantReference, row.resourceReference) := by
  simp only [hostPlaces, Option.ite_none_right_eq_some, Option.some_inj, eq_comm (a := place)]

/-- Who occupies a resource is an intent that reserves it. -/
theorem occupied_iff {k : HostKey} : Occupies hostPlaces rows k (tenantReference, resourceReference) ↔
    ∃ key row, k = .intent key ∧ rows.lookup (.intent key) = some row ∧ row.phase = .reserved ∧
      key.tenantReference = tenantReference ∧ row.resourceReference = resourceReference := by
  constructor
  · rintro ⟨row, hrow, hoccupies⟩
    cases k with
    | resource t r => cases hoccupies
    | intent key =>
      obtain ⟨hphase, hplace⟩ := occupies_intent.mp hoccupies
      exact ⟨key, row, rfl, hrow, hphase, (congrArg Prod.fst hplace).symm,
        (congrArg Prod.snd hplace).symm⟩
  · rintro ⟨key, row, rfl, hrow, hphase, rfl, rfl⟩
    exact ⟨row, hrow, occupies_intent.mpr ⟨hphase, rfl⟩⟩

theorem noReturn_host : NoReturn hostRules hostPlaces := by
  intro k p old new new' hevolves hold hnew hevolves' hnew'
  cases k with
  | resource t r => cases hold
  | intent key =>
    have hfollows := follows_of_evolves hevolves
    have hfollows' := follows_of_evolves hevolves'
    obtain ⟨hreserved, hplace⟩ := occupies_intent.mp hold
    obtain ⟨hreserved', -⟩ := occupies_intent.mp hnew'
    -- An intent that is no longer reserved is closed, and stays so.
    have hphase : new.phase ≠ .reserved := by
      intro hphase
      refine hnew (occupies_intent.mpr ⟨hphase, ?_⟩)
      rw [hplace, hfollows.resourceReference]
    cases hclosed : new.phase with
    | ready =>
      refine absurd hclosed (hfollows.submitted ?_)
      rw [hreserved]
      decide
    | reserved => exact hphase hclosed
    | closed =>
      rw [hfollows'.closed hclosed, hclosed] at hreserved'
      cases hreserved'

/-! ## What the answers tell -/

/-- The intent is stored, and `P` holds of its row. -/
def Told (key : IntentKey) (P : IntentRow → Prop) (rows : AList HostKey.Row) : Prop :=
  ∃ row, rows.lookup (.intent key) = some row ∧ P row

/-- The snapshot of the row is the given one, as `remember` and `reserve_in` compare them. -/
def IntentRow.HasSnapshot (row : IntentRow) (snapshotData : JsonObject) : Prop :=
  Stripe.snapshotDigest snapshotData = .ok row.snapshotDigest ∧
    ∃ stored, validateObject row.snapshotData = some stored ∧
      Json.equals (.dict stored) (.dict snapshotData) = true

/-- The intent is the one that is to be remembered. -/
structure IntentRow.Matches (row : IntentRow) (resourceReference requesterReference : SafeReference)
    (snapshotData : JsonObject) : Prop where
  resourceReference : row.resourceReference = resourceReference
  requesterReference : row.requesterReference = requesterReference
  snapshot : row.HasSnapshot snapshotData

/-- The intent has been submitted for the resource, with the snapshot. -/
structure IntentRow.SubmittedFor (row : IntentRow) (resourceReference : SafeReference)
    (snapshotData : JsonObject) : Prop where
  submitted : row.phase ≠ .ready
  resourceReference : row.resourceReference = resourceReference
  snapshot : row.HasSnapshot snapshotData

/-- The row is a later version of the one that was read. -/
structure IntentRow.Shows (row : IntentRow) (entry : StripeLedgerEntry) : Prop where
  resourceReference : row.resourceReference = entry.resourceReference
  requesterReference : row.requesterReference = entry.requesterReference
  snapshotDigest : row.snapshotDigest = entry.snapshotDigest
  snapshotData : validateObject row.snapshotData = some entry.snapshotData
  submitted : entry.phase ≠ .ready → row.phase ≠ .ready
  closed : entry.phase = .closed → row.phase = .closed ∧ row.closeKind = entry.closeKind ∧
    optionalObject row.outcomeData = .ok entry.outcomeData

/-- The outcome of a closed row compares so with the given one. -/
def IntentRow.ComparesOutcome (row : IntentRow) (outcomeData : Option JsonObject)
    (same : Bool) : Prop :=
  ∃ stored, optionalObject row.outcomeData = .ok stored ∧
    (decide (row.closeKind = some (PostgresStripeLedger.closeKindOf outcomeData)) &&
      optionalEquals stored outcomeData) = same

/-- The row was closed with the outcome. -/
def IntentRow.RecordsOutcome (row : IntentRow) (outcomeData : Option JsonObject) : Prop :=
  row.closeKind = some (PostgresStripeLedger.closeKindOf outcomeData) ∧
    (PostgresStripeLedger.encodedOutcome outcomeData >>= PostgresStripeLedger.storedOutcome) =
      .ok row.outcomeData

def tellsRemembered (key : IntentKey) (resourceReference requesterReference : SafeReference)
    (snapshotData : JsonObject) (rows : AList HostKey.Row) : StripeHostRememberStatus → Prop
  | .created | .matched =>
    Told key (fun row ↦ row.Matches resourceReference requesterReference snapshotData) rows
  | .conflict =>
    Told key (fun row ↦ ¬row.Matches resourceReference requesterReference snapshotData) rows
  | .notExercised => True

def tellsReservation (key : IntentKey) (resourceReference : SafeReference)
    (snapshotData : JsonObject) (rows : AList HostKey.Row) : StripeHostReserveStatus → Prop
  | .acquired | .acknowledgementLost | .alreadySubmitted =>
    Told key (fun row ↦ row.SubmittedFor resourceReference snapshotData) rows
  | .resourceBusy | .unavailable | .stale | .notExercised => True

def tellsClosed (key : IntentKey) (outcomeData : Option JsonObject) (rows : AList HostKey.Row) :
    StripeHostCloseStatus → Prop
  | .recorded => Told key (fun row ↦ row.phase = .closed ∧ row.RecordsOutcome outcomeData) rows
  | .matched => Told key (fun row ↦ row.phase = .closed ∧ row.ComparesOutcome outcomeData true) rows
  | .conflict =>
    Told key (fun row ↦ row.phase = .closed ∧ row.ComparesOutcome outcomeData false) rows
  | .notExercised => True

/-- The resource has revision 0 as long as the intent reserves it. -/
def Unchanged (key : IntentKey) (resourceReference : SafeReference) (rows : AList HostKey.Row) :
    Prop :=
  ∀ row, rows.lookup (.intent key) = some row → row.phase = .reserved →
    rows.lookup (.resource key.tenantReference resourceReference) = some (0 : ℤ)

/-- What an answer tells of the rows. -/
def ledgerTells : LedgerCall → LedgerAnswer → AList HostKey.Row → Prop
  | .remember key resourceReference requesterReference snapshotData, .remembered status, rows =>
    tellsRemembered key resourceReference requesterReference snapshotData rows status
  | .exerciseRemember intent, .remembered status, rows =>
    tellsRemembered intent.key intent.resourceReference intent.requesterReference
      intent.snapshotMapping rows status
  | .load key, .loaded (some entry), rows | .loadIn key, .loaded (some entry), rows =>
    Told key (fun row ↦ row.Shows entry) rows
  | .exerciseLoad key, .observed (some observation), rows =>
    ∃ entry, PostgresStripeHostExerciseAdapter.observation (some entry) = .ok (some observation) ∧
      Told key (fun row ↦ row.Shows entry) rows
  | .reserveIn key resourceReference snapshotData _, .reservation status, rows =>
    tellsReservation key resourceReference snapshotData rows status
  | .exerciseReserve intent _ _ _, .reservation status, rows =>
    tellsReservation intent.key intent.resourceReference intent.snapshotMapping rows status ∧
      (status = .acquired ∨ status = .acknowledgementLost →
        Unchanged intent.key intent.resourceReference rows)
  | .recordNoSubmissionIn key, .closed status, rows => tellsClosed key none rows status
  | .recordOutcomeIn key outcomeData, .closed status, rows =>
    tellsClosed key (some outcomeData) rows status
  | .exerciseRecordNoSubmission intent, .closed status, rows =>
    tellsClosed intent.key none rows status
  | .exerciseRecordOutcome intent outcomeData, .closed status, rows =>
    tellsClosed intent.key (some outcomeData) rows status
  | _, _, _ => True

/-- An intent is stored. -/
def createdFact (key : IntentKey) : Fact HostKey.Row := ⟨.intent key, fun _ ↦ True⟩

/-- An intent is submitted. -/
def submittedFact (key : IntentKey) : Fact HostKey.Row :=
  ⟨.intent key, fun row : IntentRow ↦ row.phase ≠ .ready⟩

/-- An intent is closed. -/
def closedFact (key : IntentKey) : Fact HostKey.Row :=
  ⟨.intent key, fun row : IntentRow ↦ row.phase = .closed⟩

/-- What an answer tells for the first time. -/
def ledgerMarks : LedgerCall → LedgerAnswer → Option (Fact HostKey.Row)
  | .remember key _ _ _, .remembered .created => some (createdFact key)
  | .exerciseRemember intent, .remembered .created => some (createdFact intent.key)
  | .reserveIn key _ _ _, .reservation .acquired
  | .reserveIn key _ _ _, .reservation .acknowledgementLost => some (submittedFact key)
  | .exerciseReserve intent _ _ _, .reservation .acquired
  | .exerciseReserve intent _ _ _, .reservation .acknowledgementLost =>
    some (submittedFact intent.key)
  | .recordNoSubmissionIn key, .closed .recorded | .recordOutcomeIn key _, .closed .recorded =>
    some (closedFact key)
  | .exerciseRecordNoSubmission intent, .closed .recorded
  | .exerciseRecordOutcome intent _, .closed .recorded => some (closedFact intent.key)
  | _, _ => none

/-- What is true of every row: the digest is that of the snapshot, and a reserved intent, or one
with an outcome, was reserved at some time. -/
def hostVets : (k : HostKey) → k.Row → Prop
  | .intent _, row =>
    (∃ snapshotData encoded, jsonBytes snapshotData = .ok encoded ∧
      row.snapshotDigest = Sha256.hexdigest encoded ∧ jsonb encoded = .ok row.snapshotData) ∧
    (row.phase = .reserved ∨ row.closeKind = some .outcome → row.reservedAt.isSome = true)
  | .resource _ _, _ => True

def ledgerTestimony :
    Testimony HostKey.Row ℤ (SafeReference × SafeReference) LedgerCall LedgerAnswer where
  places := hostPlaces
  vets := hostVets
  tells := ledgerTells
  marks := ledgerMarks

theorem Told.advances {P : IntentRow → Prop}
    (hP : ∀ {old new : IntentRow}, old.Follows new → P old → P new) (h : Told key P rows) (hadvances : Advances hostRules hostPlaces rows rows') :
    Told key P rows' := by
  obtain ⟨row, hrow, hp⟩ := h
  obtain ⟨row', hrow', hevolves⟩ := hadvances.lookup_eq_some hrow
  exact ⟨row', hrow', hP (follows_of_evolves hevolves) hp⟩

/-- What is told of a closed intent stays true. -/
theorem Told.advances_closed {P : IntentRow → Prop}
    (h : Told key (fun row ↦ row.phase = .closed ∧ P row) rows)
    (hadvances : Advances hostRules hostPlaces rows rows') :
    Told key (fun row ↦ row.phase = .closed ∧ P row) rows' := by
  refine h.advances (fun {old new} hf hold ↦ ?_) hadvances
  rw [hf.closed hold.1]
  exact hold

omit [LedgerHost] in
theorem Told.imp {P P' : IntentRow → Prop} (h : Told key P rows) (hP : ∀ row, P row → P' row) :
    Told key P' rows := by
  obtain ⟨row, hrow, hp⟩ := h
  exact ⟨row, hrow, hP row hp⟩

namespace IntentRow.Follows

variable {old new : IntentRow} {requesterReference : SafeReference} {snapshotData : JsonObject}

theorem hasSnapshot (h : old.Follows new) :
    new.HasSnapshot snapshotData ↔ old.HasSnapshot snapshotData := by
  rw [IntentRow.HasSnapshot, IntentRow.HasSnapshot, h.snapshotDigest, h.snapshotData]

theorem matches_iff (h : old.Follows new) :
    new.Matches resourceReference requesterReference snapshotData ↔
      old.Matches resourceReference requesterReference snapshotData := by
  constructor
  · intro hnew
    exact ⟨h.resourceReference.symm.trans hnew.resourceReference,
      h.requesterReference.symm.trans hnew.requesterReference, h.hasSnapshot.mp hnew.snapshot⟩
  · intro hold
    exact ⟨h.resourceReference.trans hold.resourceReference,
      h.requesterReference.trans hold.requesterReference, h.hasSnapshot.mpr hold.snapshot⟩

theorem submittedFor (h : old.Follows new) (hold : old.SubmittedFor resourceReference snapshotData) :
    new.SubmittedFor resourceReference snapshotData :=
  ⟨h.submitted hold.submitted, h.resourceReference.trans hold.resourceReference,
    h.hasSnapshot.mpr hold.snapshot⟩

theorem shows {entry : StripeLedgerEntry} (h : old.Follows new) (hold : old.Shows entry) :
    new.Shows entry := by
  refine ⟨h.resourceReference.trans hold.resourceReference,
    h.requesterReference.trans hold.requesterReference,
    h.snapshotDigest.trans hold.snapshotDigest, ?_, fun hentry ↦ h.submitted (hold.submitted hentry),
    fun hentry ↦ ?_⟩
  · rw [h.snapshotData]
    exact hold.snapshotData
  · rw [h.closed (hold.closed hentry).1]
    exact hold.closed hentry

end IntentRow.Follows

theorem Unchanged.advances {snapshotData : JsonObject} (h : Unchanged key resourceReference rows)
    (htold : Told key (fun row ↦ row.SubmittedFor resourceReference snapshotData) rows)
    (hadvances : Advances hostRules hostPlaces rows rows') :
    Unchanged key resourceReference rows' := by
  intro row' hrow' hreserved'
  obtain ⟨row, hrow, hsubmitted⟩ := htold
  obtain ⟨row'', hrow'', hevolves⟩ := hadvances.lookup_eq_some hrow
  obtain rfl : row'' = row' := Option.some.inj (hrow''.symm.trans hrow')
  have hfollows := follows_of_evolves hevolves
  -- The intent has been reserved all the time, and its resource is guarded.
  have hreserved : row.phase = .reserved := by
    cases hphase : row.phase with
    | ready => exact absurd hphase hsubmitted.submitted
    | reserved => rfl
    | closed =>
      rw [hfollows.closed hphase, hphase] at hreserved'
      cases hreserved'
  have hresource := hsubmitted.resourceReference
  have hzero := h row hrow hreserved
  have hbefore : Occupies hostPlaces rows (.intent key) (key.tenantReference, resourceReference) :=
    occupied_iff.mpr ⟨key, row, rfl, hrow, hreserved, rfl, hresource⟩
  have hafter : Occupies hostPlaces rows' (.intent key) (key.tenantReference, resourceReference) :=
    occupied_iff.mpr ⟨key, row'', rfl, hrow', hreserved', rfl,
      hfollows.resourceReference.trans hresource⟩
  rw [hadvances.guarded (k := .resource key.tenantReference resourceReference) rfl
    (by rw [hzero]; rfl) hbefore hafter]
  exact hzero

theorem tellsRemembered_advances {requesterReference : SafeReference} {snapshotData : JsonObject}
    {status : StripeHostRememberStatus}
    (h : tellsRemembered key resourceReference requesterReference snapshotData rows status)
    (hadvances : Advances hostRules hostPlaces rows rows') :
    tellsRemembered key resourceReference requesterReference snapshotData rows' status := by
  cases status with
  | created | matched => exact h.advances (fun hf hold ↦ hf.matches_iff.mpr hold) hadvances
  | conflict => exact h.advances (fun hf hold hnew ↦ hold (hf.matches_iff.mp hnew)) hadvances
  | notExercised => trivial

theorem tellsReservation_advances {snapshotData : JsonObject} {status : StripeHostReserveStatus}
    (h : tellsReservation key resourceReference snapshotData rows status)
    (hadvances : Advances hostRules hostPlaces rows rows') :
    tellsReservation key resourceReference snapshotData rows' status := by
  cases status with
  | acquired | acknowledgementLost | alreadySubmitted =>
    exact h.advances (fun hf ↦ hf.submittedFor) hadvances
  | resourceBusy | unavailable | stale | notExercised => trivial

theorem tellsClosed_advances {outcomeData : Option JsonObject} {status : StripeHostCloseStatus}
    (h : tellsClosed key outcomeData rows status)
    (hadvances : Advances hostRules hostPlaces rows rows') :
    tellsClosed key outcomeData rows' status := by
  cases status with
  | recorded | matched | conflict => exact Told.advances_closed h hadvances
  | notExercised => trivial

theorem ledgerTells_advances {c : LedgerCall} {a : LedgerAnswer} (h : ledgerTells c a rows)
    (hadvances : Advances hostRules hostPlaces rows rows') : ledgerTells c a rows' := by
  unfold ledgerTells at h ⊢
  split at h
  · exact tellsRemembered_advances h hadvances
  · exact tellsRemembered_advances h hadvances
  · exact h.advances (fun hf ↦ hf.shows) hadvances
  · exact h.advances (fun hf ↦ hf.shows) hadvances
  · obtain ⟨entry, hentry, h⟩ := h
    exact ⟨entry, hentry, h.advances (fun hf ↦ hf.shows) hadvances⟩
  · exact tellsReservation_advances h hadvances
  · refine ⟨tellsReservation_advances h.1 hadvances, fun hstatus ↦ ?_⟩
    rcases hstatus with rfl | rfl
    · exact (h.2 (.inl rfl)).advances h.1 hadvances
    · exact (h.2 (.inr rfl)).advances h.1 hadvances
  · exact tellsClosed_advances h hadvances
  · exact tellsClosed_advances h hadvances
  · exact tellsClosed_advances h hadvances
  · exact tellsClosed_advances h hadvances
  · trivial

theorem lawful_ledger : ledgerTestimony.Lawful hostRules :=
  ⟨noReturn_host, ledgerTells_advances⟩

/-- What an answer marks, it tells. -/
theorem holds_of_marks {c : LedgerCall} {a : LedgerAnswer} {fact : Fact HostKey.Row}
    (hmarks : ledgerMarks c a = some fact) (h : ledgerTells c a rows) : fact.Holds rows := by
  unfold ledgerMarks at hmarks
  split at hmarks <;> cases hmarks
  · exact Told.imp h fun _ _ ↦ trivial
  · exact Told.imp h fun _ _ ↦ trivial
  · exact Told.imp h fun _ hrow ↦ hrow.submitted
  · exact Told.imp h fun _ hrow ↦ hrow.submitted
  · exact Told.imp h.1 fun _ hrow ↦ hrow.submitted
  · exact Told.imp h.1 fun _ hrow ↦ hrow.submitted
  · exact Told.imp h fun _ hrow ↦ hrow.1
  · exact Told.imp h fun _ hrow ↦ hrow.1
  · exact Told.imp h fun _ hrow ↦ hrow.1
  · exact Told.imp h fun _ hrow ↦ hrow.1

end Ledger

end ThrevoActions.Stripe
