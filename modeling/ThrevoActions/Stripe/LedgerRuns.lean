import ThrevoActions.Stripe.LedgerCalls

/-!
# What the ledger guarantees after every run

Any number of sessions call the ledger, interrupted or not, in transactions of their own or of their
callers, which are committed or rolled back. After every interleaving, a resource is reserved by one
intent at most, intents have kept their bindings and only moved forward, and the answers that callers
hold for good tell the truth: an intent was created, acquired and recorded once, in this order, and
the answers about one intent agree with each other.
-/

namespace ThrevoActions.Stripe

open Interleaving Transactions Transactions.Database

variable {W : Type} [DecidableEq W] [LedgerHost]

open LedgerHost

variable {key : IntentKey}

theorem sound_ledger (events : List (W × Event LedgerCall)) :
    (ledgerOutline W).Sound hostRules (runLedger events) :=
  Outline.sound_run valid_ledger events valid_ledger.sound_initial

/-! ## Reservations -/

/-- A resource of a tenant is reserved by one intent at most. -/
def ReservedOnce (rows : AList HostKey.Row) : Prop :=
  ∀ {key key' : IntentKey} {row row' : IntentRow}, rows.lookup (.intent key) = some row →
    rows.lookup (.intent key') = some row' → row.phase = .reserved → row'.phase = .reserved →
    key.tenantReference = key'.tenantReference →
    row.resourceReference = row'.resourceReference → key = key'

theorem reservedOnce_of_single {rows : AList HostKey.Row} (hsingle : Single hostPlaces rows) :
    ReservedOnce rows := by
  intro key key' row row' hrow hrow' hreserved hreserved' htenant hresource
  exact HostKey.intent.inj (hsingle (key'.tenantReference, row'.resourceReference) _ _
    (occupied_iff.mpr ⟨key, row, rfl, hrow, hreserved, htenant, hresource⟩)
    (occupied_iff.mpr ⟨key', row', rfl, hrow', hreserved', rfl, rfl⟩))

/-- **One reservation.** In what is committed as in what any session sees, a resource of a tenant is
reserved by one intent at most. -/
theorem reserved_once (events : List (W × Event LedgerCall)) :
    ReservedOnce (runLedger events).database.rows ∧
      ∀ w, ReservedOnce ((runLedger events).database.view w) := by
  have hexclusive := (sound_ledger events).inv.exclusive
  exact ⟨reservedOnce_of_single hexclusive.rows, fun w ↦ reservedOnce_of_single (hexclusive.views w)⟩

/-! ## Histories -/

theorem runLedger_append (events more : List (W × Event LedgerCall)) :
    runLedger (events ++ more) = (runLedger events).run hostRules ledgerCalls more :=
  List.foldl_append

theorem advances_ledger (events more : List (W × Event LedgerCall)) :
    Advances hostRules hostPlaces (runLedger events).database.rows
      (runLedger (events ++ more)).database.rows := by
  rw [runLedger_append]
  exact Testimony.advances_run lawful_ledger valid_ledger more (sound_ledger events)

/-- The rows are later than others: an intent stays, keeps its binding, does not go back in its
phase, and does not change once it is closed; a resource does not change while one intent reserves
it. -/
structure Later (rows rows' : AList HostKey.Row) : Prop where
  intent : ∀ {key row}, rows.lookup (.intent key) = some row →
    ∃ row', rows'.lookup (.intent key) = some row' ∧ row.Follows row'
  resource : ∀ {key row row' revision}, rows.lookup (.intent key) = some row →
    row.phase = .reserved → rows'.lookup (.intent key) = some row' → row'.phase = .reserved →
    rows.lookup (.resource key.tenantReference row.resourceReference) = some revision →
      rows'.lookup (.resource key.tenantReference row.resourceReference) = some revision

theorem Later.of_advances {rows rows' : AList HostKey.Row}
    (h : Advances hostRules hostPlaces rows rows') : Later rows rows' := by
  have hintent : ∀ {key row}, rows.lookup (.intent key) = some row →
      ∃ row', rows'.lookup (.intent key) = some row' ∧ row.Follows row' := by
    intro key row hrow
    obtain ⟨row', hrow', hevolves⟩ := h.lookup_eq_some hrow
    exact ⟨row', hrow', follows_of_evolves hevolves⟩
  refine ⟨hintent, fun {key row row' revision} hrow hreserved hrow' hreserved' hrevision ↦ ?_⟩
  obtain ⟨row'', hrow'', hfollows⟩ := hintent hrow
  obtain rfl : row'' = row' := Option.some.inj (hrow''.symm.trans hrow')
  rw [h.guarded (k := .resource key.tenantReference row.resourceReference) rfl
    (by rw [hrevision]; rfl) (occupied_iff.mpr ⟨key, row, rfl, hrow, hreserved, rfl, rfl⟩)
    (occupied_iff.mpr ⟨key, row'', rfl, hrow', hreserved', rfl, hfollows.resourceReference⟩)]
  exact hrevision

/-- **Histories.** What is committed at any time is later than what was committed before. -/
theorem later_ledger (events more : List (W × Event LedgerCall)) :
    Later (runLedger events).database.rows (runLedger (events ++ more)).database.rows :=
  .of_advances (advances_ledger events more)

/-- Every intent carries the digest of the snapshot that is stored with it; if it is reserved or has
an outcome, it has been reserved. -/
def Vouched (rows : AList HostKey.Row) : Prop :=
  ∀ {key : IntentKey} {row : IntentRow}, rows.lookup (.intent key) = some row →
    (∃ snapshotData encoded, jsonBytes snapshotData = .ok encoded ∧
      row.snapshotDigest = Sha256.hexdigest encoded ∧ jsonb encoded = .ok row.snapshotData) ∧
    (row.phase = .reserved ∨ row.closeKind = some .outcome → row.reservedAt.isSome = true)

/-- **Provenance.** No outcome is recorded for an intent that was not reserved, and no snapshot is
stored under the digest of another. -/
theorem vouched_ledger (events : List (W × Event LedgerCall)) :
    Vouched (runLedger events).database.rows ∧
      ∀ w, Vouched ((runLedger events).database.view w) := by
  have hvetted := (sound_ledger events).inv.vetted
  exact ⟨fun hrow ↦ hvetted.rows hrow, fun w _ _ hrow ↦ hvetted.view hrow⟩

/-! ## Answers -/

/-- What a committed answer tells is true of the committed rows. -/
theorem told_ledger (events : List (W × Event LedgerCall)) {c : LedgerCall} {a : LedgerAnswer}
    (hmem : (c, .ok a) ∈ (runLedger events).committed) :
    ledgerTells c a (runLedger events).database.rows :=
  (sound_ledger events).logged.told c a hmem

/-- A fact that follows from another one is not told for the first time after it. -/
theorem not_marks_of_novel {newer older : LedgerCall × Except Exn LedgerAnswer}
    {a b : LedgerAnswer} {fact fact' : Fact HostKey.Row}
    (hnovel : ledgerTestimony.Novel newer older) (ha : newer.2 = .ok a) (hb : older.2 = .ok b)
    (hfact : ledgerMarks newer.1 a = some fact) (hfact' : ledgerMarks older.1 b = some fact')
    (himp : ∀ rows, fact'.Holds rows → fact.Holds rows) : False :=
  hnovel a b fact ha hfact hb fun _ htells ↦ himp _ (holds_of_marks hfact' htells)

/-- In the order of the commits, an intent is created once, then acquired once, then recorded once:
no committed answer gives an earlier one of these after a later one, or one of them twice. -/
theorem milestones_once (events : List (W × Event LedgerCall)) :
    (runLedger events).committed.Pairwise fun newer older ↦ ∀ a b key,
      newer.2 = .ok a → older.2 = .ok b →
      (ledgerMarks newer.1 a = some (createdFact key) →
        ledgerMarks older.1 b ≠ some (createdFact key) ∧
        ledgerMarks older.1 b ≠ some (submittedFact key) ∧
        ledgerMarks older.1 b ≠ some (closedFact key)) ∧
      (ledgerMarks newer.1 a = some (submittedFact key) →
        ledgerMarks older.1 b ≠ some (submittedFact key) ∧
        ledgerMarks older.1 b ≠ some (closedFact key)) ∧
      (ledgerMarks newer.1 a = some (closedFact key) →
        ledgerMarks older.1 b ≠ some (closedFact key)) := by
  refine (sound_ledger events).logged.novel.imp fun {newer older} hnovel a b key ha hb ↦ ?_
  have hcreated : ∀ {fact : Fact HostKey.Row} (P : IntentRow → Prop),
      fact = ⟨.intent key, P⟩ → ∀ rows, fact.Holds rows → (createdFact key).Holds rows := by
    rintro _ P rfl rows ⟨r, hr, -⟩
    exact ⟨r, hr, trivial⟩
  have hsubmitted : ∀ rows, (closedFact key).Holds rows → (submittedFact key).Holds rows := by
    rintro rows ⟨r, hr, hclosed⟩
    refine ⟨r, hr, fun hready ↦ ?_⟩
    cases hready.symm.trans (show (r : IntentRow).phase = .closed from hclosed)
  refine ⟨fun hnew ↦ ⟨fun hold ↦ ?_, fun hold ↦ ?_, fun hold ↦ ?_⟩,
    fun hnew ↦ ⟨fun hold ↦ ?_, fun hold ↦ ?_⟩, fun hnew hold ↦ ?_⟩
  · exact not_marks_of_novel hnovel ha hb hnew hold fun _ ↦ id
  · exact not_marks_of_novel hnovel ha hb hnew hold (hcreated _ rfl)
  · exact not_marks_of_novel hnovel ha hb hnew hold (hcreated _ rfl)
  · exact not_marks_of_novel hnovel ha hb hnew hold fun _ ↦ id
  · exact not_marks_of_novel hnovel ha hb hnew hold hsubmitted
  · exact not_marks_of_novel hnovel ha hb hnew hold fun _ ↦ id

/-- If the answer has acquired an intent through the adapter, the resource has revision 0 until the
intent is closed. -/
def AcquiredUnchanged (rows : AList HostKey.Row) :
    LedgerCall × Except Exn LedgerAnswer → Prop
  | (.exerciseReserve intent _ _ _, .ok (.reservation .acquired))
  | (.exerciseReserve intent _ _ _, .ok (.reservation .acknowledgementLost)) =>
    ∃ row, rows.lookup (.intent intent.key) = some row ∧
      row.resourceReference = intent.resourceReference ∧
      (row.phase = .closed ∨ row.phase = .reserved ∧
        rows.lookup (.resource intent.key.tenantReference intent.resourceReference) = some (0 : ℤ))
  | _ => True

/-- **Coordination.** Whoever has acquired an intent through the adapter finds the resource as it
was when the intent was reserved, until the intent is closed. -/
theorem acquired_unchanged (events : List (W × Event LedgerCall)) :
    (runLedger events).committed.Forall
      (AcquiredUnchanged (runLedger events).database.rows) := by
  have hreserved : ∀ {rows : AList HostKey.Row} {intent : StripeHostExerciseIntent},
      Told intent.key
        (fun row ↦ row.SubmittedFor intent.resourceReference intent.snapshotMapping) rows →
      Unchanged intent.key intent.resourceReference rows →
      ∃ row, rows.lookup (.intent intent.key) = some row ∧
        row.resourceReference = intent.resourceReference ∧
        (row.phase = .closed ∨ row.phase = .reserved ∧
          rows.lookup (.resource intent.key.tenantReference intent.resourceReference) =
            some (0 : ℤ)) := by
    rintro rows intent ⟨row, hrow, hsubmitted⟩ hunchanged
    refine ⟨row, hrow, hsubmitted.resourceReference, ?_⟩
    cases hphase : row.phase with
    | ready => exact absurd hphase hsubmitted.submitted
    | reserved => exact .inr ⟨rfl, hunchanged row hrow hphase⟩
    | closed => exact .inl rfl
  rw [List.forall_iff_forall_mem]
  intro x hmem
  unfold AcquiredUnchanged
  split
  · obtain ⟨htold, hunchanged⟩ := told_ledger events hmem
    exact hreserved htold (hunchanged (.inl rfl))
  · obtain ⟨htold, hunchanged⟩ := told_ledger events hmem
    exact hreserved htold (hunchanged (.inr rfl))
  · trivial

/-! ### Agreement -/

/-- What an answer says of the binding of an intent: its resource, and the digest of its snapshot. -/
def boundTo : LedgerCall → LedgerAnswer → Option (IntentKey × SafeReference × Except Exn String)
  | .remember key resourceReference _ snapshotData, .remembered .created
  | .remember key resourceReference _ snapshotData, .remembered .matched
  | .reserveIn key resourceReference snapshotData _, .reservation .acquired
  | .reserveIn key resourceReference snapshotData _, .reservation .alreadySubmitted =>
    some (key, resourceReference, snapshotDigest snapshotData)
  | .exerciseRemember intent, .remembered .created
  | .exerciseRemember intent, .remembered .matched
  | .exerciseReserve intent _ _ _, .reservation .acquired
  | .exerciseReserve intent _ _ _, .reservation .acknowledgementLost
  | .exerciseReserve intent _ _ _, .reservation .alreadySubmitted =>
    some (intent.key, intent.resourceReference, snapshotDigest intent.snapshotMapping)
  | .load key, .loaded (some entry) | .loadIn key, .loaded (some entry) =>
    some (key, entry.resourceReference, .ok entry.snapshotDigest)
  | .exerciseLoad key, .observed (some observation) =>
    some (key, observation.resourceReference, .ok observation.snapshotDigest)
  | _, _ => none

/-- The row has the binding that an answer says. -/
theorem told_of_boundTo {c : LedgerCall} {a : LedgerAnswer} {rows : AList HostKey.Row}
    {resourceReference : SafeReference} {digest : Except Exn String}
    (hbound : boundTo c a = some (key, resourceReference, digest)) (h : ledgerTells c a rows) :
    Told key (fun row ↦ row.resourceReference = resourceReference ∧
      digest = .ok row.snapshotDigest) rows := by
  unfold boundTo at hbound
  split at hbound <;> cases hbound
  · exact h.imp fun _ hrow ↦ ⟨hrow.resourceReference, hrow.snapshot.1⟩
  · exact h.imp fun _ hrow ↦ ⟨hrow.resourceReference, hrow.snapshot.1⟩
  · exact h.imp fun _ hrow ↦ ⟨hrow.resourceReference, hrow.snapshot.1⟩
  · exact h.imp fun _ hrow ↦ ⟨hrow.resourceReference, hrow.snapshot.1⟩
  · exact h.imp fun _ hrow ↦ ⟨hrow.resourceReference, hrow.snapshot.1⟩
  · exact h.imp fun _ hrow ↦ ⟨hrow.resourceReference, hrow.snapshot.1⟩
  · exact h.1.imp fun _ hrow ↦ ⟨hrow.resourceReference, hrow.snapshot.1⟩
  · exact h.1.imp fun _ hrow ↦ ⟨hrow.resourceReference, hrow.snapshot.1⟩
  · exact h.1.imp fun _ hrow ↦ ⟨hrow.resourceReference, hrow.snapshot.1⟩
  · exact h.imp fun _ hrow ↦ ⟨hrow.resourceReference, congrArg _ hrow.snapshotDigest.symm⟩
  · exact h.imp fun _ hrow ↦ ⟨hrow.resourceReference, congrArg _ hrow.snapshotDigest.symm⟩
  · obtain ⟨entry, hentry, h⟩ := h
    obtain ⟨digest, -, hsome⟩ := Except.bind_eq_ok.mp hentry
    cases hsome
    exact h.imp fun _ hrow ↦ ⟨hrow.resourceReference, congrArg _ hrow.snapshotDigest.symm⟩

/-- Two answers do not contradict each other. -/
structure Agree (newer older : LedgerCall × Except Exn LedgerAnswer) : Prop where
  /-- What they say of one intent, they say of one resource and of one snapshot. -/
  bindings : ∀ {key resourceReference resourceReference' digest digest' a b},
    newer.2 = .ok a → older.2 = .ok b →
    boundTo newer.1 a = some (key, resourceReference, digest) →
    boundTo older.1 b = some (key, resourceReference', digest') →
      resourceReference = resourceReference' ∧ digest = digest'
  /-- Of two answers to the same intent, not one is a conflict and the other one not. -/
  conflicts : ∀ {key resourceReference requesterReference snapshotData status status'},
    Remembers newer.1 key resourceReference requesterReference snapshotData →
    Remembers older.1 key resourceReference requesterReference snapshotData →
    newer.2 = .ok (.remembered status) → older.2 = .ok (.remembered status') →
    status ≠ .notExercised → status' ≠ .notExercised → (status = .conflict ↔ status' = .conflict)
  /-- An outcome matches what was recorded if it is equal to what can be read of it. -/
  outcomes : ∀ {key outcomeData outcomeData' status},
    Closes newer.1 key outcomeData' → Closes older.1 key outcomeData →
    newer.2 = .ok (.closed status) → older.2 = .ok (.closed .recorded) →
    status = .matched ∨ status = .conflict →
      ∃ text stored, (PostgresStripeLedger.encodedOutcome outcomeData >>=
          PostgresStripeLedger.storedOutcome) = .ok text ∧ optionalObject text = .ok stored ∧
        (status = .matched ↔ PostgresStripeLedger.closeKindOf outcomeData =
          PostgresStripeLedger.closeKindOf outcomeData' ∧
          optionalEquals stored outcomeData' = true)

section Agreement

variable {rows : AList HostKey.Row} {c c' : LedgerCall} {a a' : LedgerAnswer}

theorem bindings_agree {resourceReference resourceReference' : SafeReference}
    {digest digest' : Except Exn String} (h : ledgerTells c a rows) (h' : ledgerTells c' a' rows)
    (hbound : boundTo c a = some (key, resourceReference, digest))
    (hbound' : boundTo c' a' = some (key, resourceReference', digest')) :
    resourceReference = resourceReference' ∧ digest = digest' := by
  obtain ⟨row, hrow, hresource, hdigest⟩ := told_of_boundTo hbound h
  obtain ⟨row', hrow', hresource', hdigest'⟩ := told_of_boundTo hbound' h'
  obtain rfl : row = row' := Option.some.inj (hrow.symm.trans hrow')
  exact ⟨hresource.symm.trans hresource', hdigest.trans hdigest'.symm⟩

/-- An answer that remembers an intent tells whether the stored one matches. -/
theorem matches_of_remembered {resourceReference requesterReference : SafeReference}
    {snapshotData : JsonObject} {status : StripeHostRememberStatus}
    (hc : Remembers c key resourceReference requesterReference snapshotData)
    (h : ledgerTells c (.remembered status) rows) (hstatus : status ≠ .notExercised) :
    ∃ row, rows.lookup (.intent key) = some row ∧
      (status = .conflict ↔ ¬row.Matches resourceReference requesterReference snapshotData) := by
  have htold := (hc.tells _ _).mp h
  cases status with
  | notExercised => exact absurd rfl hstatus
  | conflict =>
    obtain ⟨row, hrow, hmatches⟩ := htold
    exact ⟨row, hrow, iff_of_true rfl hmatches⟩
  | created | matched =>
    obtain ⟨row, hrow, hmatches⟩ := htold
    exact ⟨row, hrow, iff_of_false (by simp) (not_not.mpr hmatches)⟩

theorem conflicts_agree {resourceReference requesterReference : SafeReference}
    {snapshotData : JsonObject} {status status' : StripeHostRememberStatus}
    (hc : Remembers c key resourceReference requesterReference snapshotData)
    (hc' : Remembers c' key resourceReference requesterReference snapshotData)
    (h : ledgerTells c (.remembered status) rows) (h' : ledgerTells c' (.remembered status') rows)
    (hstatus : status ≠ .notExercised) (hstatus' : status' ≠ .notExercised) :
    status = .conflict ↔ status' = .conflict := by
  obtain ⟨row, hrow, hiff⟩ := matches_of_remembered hc h hstatus
  obtain ⟨row', hrow', hiff'⟩ := matches_of_remembered hc' h' hstatus'
  obtain rfl : row = row' := Option.some.inj (hrow.symm.trans hrow')
  exact hiff.trans hiff'.symm

theorem outcomes_agree {outcomeData outcomeData' : Option JsonObject}
    {status : StripeHostCloseStatus} (hc : Closes c key outcomeData)
    (hc' : Closes c' key outcomeData') (h : ledgerTells c (.closed .recorded) rows)
    (h' : ledgerTells c' (.closed status) rows) (hstatus : status = .matched ∨ status = .conflict) :
    ∃ text stored, (PostgresStripeLedger.encodedOutcome outcomeData >>=
        PostgresStripeLedger.storedOutcome) = .ok text ∧ optionalObject text = .ok stored ∧
      (status = .matched ↔ PostgresStripeLedger.closeKindOf outcomeData =
        PostgresStripeLedger.closeKindOf outcomeData' ∧
        optionalEquals stored outcomeData' = true) := by
  obtain ⟨row, hrow, -, hkind, htext⟩ := (hc.tells _ _).mp h
  have hcompares : Told key (fun row ↦ row.phase = .closed ∧
      row.ComparesOutcome outcomeData' (decide (status = .matched))) rows := by
    rcases hstatus with rfl | rfl
    · exact (hc'.tells _ _).mp h'
    · exact (hc'.tells _ _).mp h'
  obtain ⟨row', hrow', -, stored, hstored, hsame⟩ := hcompares
  obtain rfl : row = row' := Option.some.inj (hrow.symm.trans hrow')
  refine ⟨row.outcomeData, stored, htext, hstored, ?_⟩
  rw [hkind] at hsame
  rw [← decide_eq_true_iff (p := status = .matched), ← hsame, Bool.and_eq_true,
    decide_eq_true_iff, Option.some_inj]

end Agreement

/-- **Agreement.** No two answers that callers hold for good contradict each other. -/
theorem answers_agree (events : List (W × Event LedgerCall)) :
    (runLedger events).committed.Pairwise Agree := by
  refine List.pairwise_of_forall_mem_list fun newer hnewer older holder ↦ ?_
  have htold : ∀ {x : LedgerCall × Except Exn LedgerAnswer} {a},
      x ∈ (runLedger events).committed → x.2 = .ok a →
        ledgerTells x.1 a (runLedger events).database.rows := by
    rintro ⟨c, r⟩ a hmem rfl
    exact told_ledger events hmem
  constructor
  · intro key resourceReference resourceReference' digest digest' a b ha hb hbound hbound'
    exact bindings_agree (htold hnewer ha) (htold holder hb) hbound hbound'
  · intro key resourceReference requesterReference snapshotData status status' hc hc' ha hb
    exact conflicts_agree hc hc' (htold hnewer ha) (htold holder hb)
  · intro key outcomeData outcomeData' status hc' hc ha hb
    exact outcomes_agree hc hc' (htold holder hb) (htold hnewer ha)

/-! ## A run -/

/-- A host whose only document is the empty object. -/
@[reducible] def emptyObjectHost : LedgerHost where
  repr _ := []
  isSpace c := decide (c.val = 0x20)
  isOther c := decide (c.val < 0x20)
  hashtextextended text := text.length
  jsonb data := if data = [0x7b, 0x7d] then .ok data else .error (.host "DataError")
  isObject data := decide (data = [0x7b, 0x7d])
  validateObject data := if data = [0x7b, 0x7d] then some [] else none

/-- One session remembers an intent, another one reserves it and closes it with an outcome. -/
def submissionRun : List (ℕ × Event LedgerCall) :=
  let key : IntentKey := ⟨"tenant:1", .refunds, "effect:1"⟩
  [(1, .start (.remember key "resource:1" "requester:1" [])), (1, .advance), (1, .advance),
    (2, .control .begin), (1, .advance), (1, .advance),
    (2, .start (.reserveIn key "resource:1" [] 10)), (2, .advance), (2, .advance), (2, .advance),
    (2, .advance), (2, .advance), (2, .advance),
    (2, .start (.recordOutcomeIn key [])), (2, .advance), (2, .advance), (2, .advance),
    (2, .control .commit)]

example : ((@runLedger emptyObjectHost ℕ _ submissionRun).committed.map fun answer ↦
    match answer.2 with
    | .ok (.remembered .created) => "created"
    | .ok (.reservation .acquired) => "acquired"
    | .ok (.closed .recorded) => "recorded"
    | _ => "") = ["recorded", "acquired", "created"] := by
  decide +kernel

end ThrevoActions.Stripe
