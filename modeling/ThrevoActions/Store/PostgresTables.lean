import ThrevoActions.Evidence
import ThrevoActions.Store.Postgres

/-!
# The PostgreSQL action store

`PostgresActionStore`: a record is split over a row of `proposals`, whose `proposal_data` leaves out
what has a column of its own, and numbered rows of two child tables that are only appended to. A
call is one transaction on a locked row, so an error leaves all tables as they were; the role does
not own the tables.

The constraints kept here are those on keys, foreign keys, numbers and times. Those that compare the
JSON of a child row with the columns of the same row are left out: they can only refuse a write.
Objects are compared without the order of their keys, so the sorting in `_json_bytes` is left out.
-/

namespace ThrevoActions

/-! ## Written documents -/

namespace JsonValue

mutual

/-- What `model_dump_json` writes of a value: a number that is not finite becomes `null`. -/
def written : JsonValue → JsonValue
  | .float bits => if isFinite bits then .float bits else .null
  | .list items => .list (writtenList items)
  | .dict entries => .dict (writtenEntries entries)
  | .null => .null
  | .bool b => .bool b
  | .int n => .int n
  | .str s => .str s

def writtenList : List JsonValue → List JsonValue
  | [] => []
  | item :: items => written item :: writtenList items

def writtenEntries : List (PyStr × JsonValue) → List (PyStr × JsonValue)
  | [] => []
  | (key, item) :: entries => (key, written item) :: writtenEntries entries

end

mutual

/-- Every number is finite. -/
def finite : JsonValue → Bool
  | .float bits => isFinite bits
  | .list items => finiteList items
  | .dict entries => finiteEntries entries
  | .null | .bool _ | .int _ | .str _ => true

def finiteList : List JsonValue → Bool
  | [] => true
  | item :: items => finite item && finiteList items

def finiteEntries : List (PyStr × JsonValue) → Bool
  | [] => true
  | (_, item) :: entries => finite item && finiteEntries entries

end

theorem writtenEntries_eq_map (entries : JsonObject) :
    writtenEntries entries = entries.map (Prod.map id written) := by
  induction entries with
  | nil => rfl
  | cons entry entries ih => rw [writtenEntries, ih, List.map_cons]; rfl

theorem writtenList_eq_map (items : List JsonValue) : writtenList items = items.map written := by
  induction items with
  | nil => rfl
  | cons item items ih => rw [writtenList, ih, List.map_cons]

theorem finiteList_eq_all (items : List JsonValue) : finiteList items = items.all finite := by
  induction items with
  | nil => rfl
  | cons item items ih => rw [finiteList, ih, List.all_cons]

theorem finiteEntries_eq_all (entries : JsonObject) :
    finiteEntries entries = entries.all fun entry ↦ finite entry.2 := by
  induction entries with
  | nil => rfl
  | cons entry entries ih => rw [finiteEntries, ih, List.all_cons]

end JsonValue

/-- What `model_dump_json` writes of the values a record is made of, and which documents the parser
and `json.dumps` accept: the nesting and the digits of integers are limited. -/
class PydanticDumps extends PydanticValues where
  protectedPayloadDump : ProtectedPayload → JsonObject
  keyedCommitmentDump : KeyedCommitment → JsonObject
  authorityEvidenceDump : AuthorityEvidence → JsonObject
  receiptDump : Receipt → JsonObject
  datetimeDump : Timestamp → PyStr
  withinLimits : JsonValue → Bool

/-! ## Tables -/

/-- The largest `integer`. -/
def integerMax : ℕ := 2147483647

structure EvidenceRow where
  evidenceSequence : ℕ
  actionType : ActionType
  semanticEffectReference : SafeReference
  commitmentDigest : SafeReference
  evidenceData : JsonValue

structure ReceiptRow where
  receiptSequence : ℕ
  receiptReference : SafeReference
  receiptData : JsonValue

/-- The rows of a child table are those of one proposal, as they were inserted. -/
structure PostgresTables where
  proposals : ProposalKey → Option ProposalRow
  authorityEvidence : ProposalKey → List EvidenceRow
  receipts : ProposalKey → List ReceiptRow
  effectClaims : EffectKey → Option SafeReference

inductive PostgresWriteError
  /-- An error of the functions and the trigger. -/
  | postgres (error : PostgresError)
  /-- `23505`. -/
  | uniqueViolation
  /-- `23503`. -/
  | foreignKeyViolation
  /-- `23514`. -/
  | checkViolation
  /-- What the adapter itself raises. -/
  | raised (e : Exn)
  deriving DecidableEq, Repr

/-- The answer of a transaction and the tables it commits. -/
abbrev Transaction (α : Type) := Except PostgresWriteError α

/-- `ORDER BY` a sequence number. -/
def orderBySequence {α : Type} (sequence : α → ℕ) (rows : List α) : List α :=
  rows.insertionSort fun a b ↦ sequence a ≤ sequence b

namespace PostgresTables

def empty : PostgresTables := ⟨fun _ ↦ none, fun _ ↦ [], fun _ ↦ [], fun _ ↦ none⟩

/-- The data of the rows of a proposal's evidence, `ORDER BY evidence_sequence`. -/
def evidenceData (tables : PostgresTables) (key : ProposalKey) : List JsonValue :=
  (orderBySequence EvidenceRow.evidenceSequence (tables.authorityEvidence key)).map
    EvidenceRow.evidenceData

/-- The data of the rows of a proposal's receipts, `ORDER BY receipt_sequence`. -/
def receiptData (tables : PostgresTables) (key : ProposalKey) : List JsonValue :=
  (orderBySequence ReceiptRow.receiptSequence (tables.receipts key)).map ReceiptRow.receiptData

/-- The tables as the erasure functions and `_load` read them. -/
def ordered (tables : PostgresTables) : PostgresStore :=
  ⟨tables.proposals, tables.evidenceData, tables.receiptData⟩

section Store

variable [PydanticDumps]

open PydanticDumps

/-- `_parent_data`: the record without `_PARENT_EXCLUDE`. -/
def parentData (proposal : StoredProposal) : JsonObject :=
  [jsonField "protected_private_snapshot" (jsonOptional
      (fun payload ↦ .dict (protectedPayloadDump payload)) proposal.protectedPrivateSnapshot),
    jsonField "commitment"
      (jsonOptional (fun commitment ↦ .dict (keyedCommitmentDump commitment)) proposal.commitment),
    jsonField "display_preview" (.dict (JsonValue.writtenEntries proposal.displayPreview)),
    jsonField "requesting_principal" (jsonOptional
      (fun principal ↦ participantDump "requesting_principal" principal.reference)
      proposal.requestingPrincipal),
    jsonField "proposing_agent" (jsonOptional
      (fun agent ↦ participantDump "proposing_agent" agent.reference) proposal.proposingAgent),
    jsonField "verification_attempts" (.int proposal.verificationAttempts),
    jsonField "max_verification_attempts" (.int proposal.maxVerificationAttempts),
    jsonField "safe_result" (jsonOptional
      (fun result ↦ .dict (JsonValue.writtenEntries result)) proposal.safeResult),
    jsonField "execution_precondition" (jsonOptional jsonText proposal.executionPrecondition),
    jsonField "superseded_by" (jsonOptional jsonText proposal.supersededBy),
    jsonField "erasure_pending_at"
      (jsonOptional (fun t ↦ .str (datetimeDump t)) proposal.erasurePendingAt),
    jsonField "erased_at" (jsonOptional (fun t ↦ .str (datetimeDump t)) proposal.erasedAt)]

/-- `PostgresActionStore._load`. -/
def load (tables : PostgresTables) (key : ProposalKey) :
    Except PostgresError (Option StoredProposal) :=
  match tables.proposals key with
  | none => .ok none
  | some row =>
    if withinLimits (.dict row.proposalData) && (tables.evidenceData key).all withinLimits &&
        (tables.receiptData key).all withinLimits then
      tables.ordered.load key
    else .error .storedDataCorruption

/-! ### Inserting child rows -/

omit [PydanticDumps] in
/-- `INSERT INTO authority_evidence`. -/
def insertEvidence (tables : PostgresTables) (key : ProposalKey) (row : EvidenceRow) :
    Transaction PostgresTables :=
  if bigintMax < row.evidenceSequence then .error (.postgres .numericValueOutOfRange)
  else
    match tables.proposals key with
    | none => .error .foreignKeyViolation
    | some parent =>
      if (parent.actionType, parent.semanticEffectReference, parent.commitmentDigest) ≠
          (row.actionType, row.semanticEffectReference, some row.commitmentDigest) then
        .error .foreignKeyViolation
      else if row.evidenceSequence ∈ (tables.authorityEvidence key).map
          EvidenceRow.evidenceSequence then .error .uniqueViolation
      else .ok { tables with
        authorityEvidence := Function.update tables.authorityEvidence key
          (tables.authorityEvidence key ++ [row]) }

omit [PydanticDumps] in
/-- `INSERT INTO receipts`. -/
def insertReceipt (tables : PostgresTables) (key : ProposalKey) (row : ReceiptRow) :
    Transaction PostgresTables :=
  if bigintMax < row.receiptSequence then .error (.postgres .numericValueOutOfRange)
  else
    match tables.proposals key with
    | none => .error .foreignKeyViolation
    | some _ =>
      if row.receiptSequence ∈ (tables.receipts key).map ReceiptRow.receiptSequence ∨
          row.receiptReference ∈ (tables.receipts key).map ReceiptRow.receiptReference then
        .error .uniqueViolation
      else .ok { tables with
        receipts := Function.update tables.receipts key (tables.receipts key ++ [row]) }

def evidenceRow (updated : StoredProposal) (commitment : KeyedCommitment)
    (numbered : AuthorityEvidence × ℕ) : EvidenceRow where
  evidenceSequence := numbered.2
  actionType := updated.actionType
  semanticEffectReference := updated.semanticEffectReference
  commitmentDigest := commitment.digest
  evidenceData := .dict (authorityEvidenceDump numbered.1)

def receiptRow (numbered : Receipt × ℕ) : ReceiptRow where
  receiptSequence := numbered.2
  receiptReference := numbered.1.receiptReference
  receiptData := .dict (receiptDump numbered.1)

/-- The evidence in `_insert_children`. -/
def insertNewEvidence (tables : PostgresTables) (current : Option StoredProposal)
    (updated : StoredProposal) : Transaction PostgresTables :=
  let evidenceOffset := (current.map fun proposal ↦ proposal.authorityEvidence.length).getD 0
  let newEvidence := updated.authorityEvidence.drop evidenceOffset
  if newEvidence = [] then .ok tables
  else
    match updated.commitment with
    | none => .error (.raised (.storeInvariant "authority evidence requires a proposal commitment"))
    | some commitment =>
      (newEvidence.zipIdx evidenceOffset).foldlM (fun tables numbered ↦
        tables.insertEvidence updated.key (evidenceRow updated commitment numbered)) tables

/-- The receipts in `_insert_children`. -/
def insertNewReceipts (tables : PostgresTables) (current : Option StoredProposal)
    (updated : StoredProposal) : Transaction PostgresTables :=
  let receiptOffset := (current.map fun proposal ↦ proposal.receipts.length).getD 0
  ((updated.receipts.drop receiptOffset).zipIdx receiptOffset).foldlM (fun tables numbered ↦
    tables.insertReceipt updated.key (receiptRow numbered)) tables

/-- `_insert_children`. -/
def insertChildren (tables : PostgresTables) (current : Option StoredProposal)
    (updated : StoredProposal) : Transaction PostgresTables := do
  let tables ← tables.insertNewEvidence current updated
  tables.insertNewReceipts current updated

/-! ### Parent rows -/

/-- The row that `create` inserts. -/
def newRow (proposal : StoredProposal) (revision : BigInt) : ProposalRow where
  actionType := proposal.actionType
  semanticEffectReference := proposal.semanticEffectReference
  effectKind := proposal.effectKind
  lifecycleStatus := proposal.lifecycleStatus
  revision := revision
  commitmentDigest := proposal.commitment.map KeyedCommitment.digest
  createdAt := proposal.createdAt
  expiresAt := proposal.expiresAt
  statusChangedAt := proposal.createdAt
  nextVerificationAt := proposal.nextVerificationAt
  proposalData := parentData proposal

/-- The row that `_update_parent` writes over `row`. -/
def updatedRow (row : ProposalRow) (updated : StoredProposal) (revision : BigInt)
    (now : Timestamp) : ProposalRow :=
  { row with
    lifecycleStatus := updated.lifecycleStatus
    revision
    expiresAt := updated.expiresAt
    statusChangedAt :=
      if row.lifecycleStatus ≠ updated.lifecycleStatus then now else row.statusChangedAt
    nextVerificationAt := updated.nextVerificationAt
    proposalData := parentData updated }

/-- `_update_parent`, under the trigger. -/
def updateParent (tables : PostgresTables) (current updated : StoredProposal) (now : Timestamp) :
    Transaction PostgresTables :=
  match tables.proposals current.key with
  | none => .error (.raised
      (.storeInvariant "guarded PostgreSQL update lost its locked proposal"))
  | some row =>
    if hrevision : updated.revision < bigintMax + 1 then
      if row.revision.val ≠ current.revision ∨ row.lifecycleStatus ≠ current.lifecycleStatus then
        .error (.raised (.storeInvariant "guarded PostgreSQL update lost its locked proposal"))
      else
        match PostgresStore.enforceProposalUpdate false row
          (updatedRow row updated ⟨updated.revision, hrevision⟩ now) with
        | .error e => .error (.postgres e)
        | .ok new =>
          if new.expiresAt ≤ new.createdAt then .error .checkViolation
          else .ok { tables with
            proposals := Function.update tables.proposals current.key (some new) }
    else .error (.postgres .numericValueOutOfRange)

/-! ### Effect claims -/

omit [PydanticDumps] in
def claim (tables : PostgresTables) (proposal : StoredProposal) : PostgresTables :=
  { tables with
    effectClaims := Function.update tables.effectClaims proposal.effectKey
      (some proposal.proposalReference) }

omit [PydanticDumps] in
/-- The `WHERE` of `transfer_failed_known_effect_claim`, beyond the claim and its current owner. -/
def transferable (tables : PostgresTables) (proposal : StoredProposal) (owner : SafeReference)
    (admittedAt now : Timestamp) : Bool :=
  (tables.proposals (proposal.tenantReference, owner)).any (fun row ↦
    decide (row.lifecycleStatus ∈ [.failedKnown, .stale])) &&
  (tables.proposals proposal.key).any fun row ↦
    decide (row.actionType = proposal.actionType ∧
      row.semanticEffectReference = proposal.semanticEffectReference ∧
      row.lifecycleStatus = .authorized ∧ max admittedAt now < row.expiresAt) &&
      textIsNull row.proposalData "erasure_pending_at" && textIsNull row.proposalData "erased_at"

omit [PydanticDumps] in
/-- `_claim_effect`. -/
def claimEffect (tables : PostgresTables) (proposal : StoredProposal)
    (admittedAt now : Timestamp) : EffectClaimResult × PostgresTables :=
  match tables.effectClaims proposal.effectKey with
  | none => (.acquired, tables.claim proposal)
  | some owner =>
    if owner = proposal.proposalReference then (.ownedByProposal, tables)
    else if tables.transferable proposal owner admittedAt now then (.acquired, tables.claim proposal)
    else (.conflict, tables)

/-! ### Calls -/

/-- An error of the adapter's own checks. -/
def raise {α : Type} (result : Except Exn α) : Transaction α :=
  result.mapError .raised

/-- `create`. -/
def create (tables : PostgresTables) (proposal : StoredProposal) :
    Transaction PostgresTables := do
  raise (validateProposalCreate proposal)
  if hrevision : proposal.revision < bigintMax + 1 then
    if integerMax < proposal.actionType.version then .error (.postgres .numericValueOutOfRange)
    else if proposal.expiresAt ≤ proposal.createdAt then .error .checkViolation
    else if (tables.proposals proposal.key).isSome then .error (.raised .proposalAlreadyExists)
    else
      let inserted := { tables with
        proposals := Function.update tables.proposals proposal.key
          (some (newRow proposal ⟨proposal.revision, hrevision⟩)) }
      match inserted.insertChildren none proposal with
      | .error .uniqueViolation => .error (.raised .proposalAlreadyExists)
      | result => result
  else .error (.postgres .numericValueOutOfRange)

/-- `_load` under a lock. -/
def locked (tables : PostgresTables) (key : ProposalKey) : Transaction (Option StoredProposal) :=
  (tables.load key).mapError .postgres

/-- `compare_and_set`, at the database's time `now`. -/
def compareAndSet (tables : PostgresTables) (args : MemoryActionStore.CompareAndSet)
    (now : Timestamp) : Transaction (Bool × PostgresTables) := do
  match ← tables.locked (args.tenantReference, args.proposalReference) with
  | none => return (false, tables)
  | some current =>
    if current.revision ≠ args.expectedRevision ∨
        current.lifecycleStatus ∉ args.expectedStatuses then
      return (false, tables)
    else
      raise (validateProposalUpdate current args.updated)
      if args.updated.lifecycleStatus = .executing ∧ current.lifecycleStatus ≠ .executing ∧
          tables.effectClaims current.effectKey ≠ some current.proposalReference then
        .error (.raised (.storeInvariant
          "execution requires this proposal to own the semantic effect claim"))
      else
        let inserted ← tables.insertChildren (some current) args.updated
        let updated ← inserted.updateParent current args.updated now
        return (true, updated)

/-- `admit_execution`, at the database's time `now`. -/
def admitExecution (tables : PostgresTables) (args : MemoryActionStore.AdmitExecution)
    (now : Timestamp) : Transaction (EffectClaimResult × PostgresTables) := do
  match ← tables.locked (args.tenantReference, args.proposalReference) with
  | none => return (.proposalNotFound, tables)
  | some current =>
    if current.revision ≠ args.expectedRevision ∨ current.lifecycleStatus ≠ .authorized ∨
        current.erasurePendingAt ≠ none ∨ current.erasedAt ≠ none ∨
        current.expiresAt ≤ args.admittedAt ∨ current.expiresAt ≤ now then
      return (.proposalNotAuthorized, tables)
    else
      raise (validateProposalUpdate current args.updated)
      if args.updated.lifecycleStatus ≠ .executing then
        .error (.raised (.storeInvariant "execution admission must enter executing"))
      else
        match tables.claimEffect current args.admittedAt now with
        | (.conflict, _) => return (.conflict, tables)
        | (result, claimed) =>
          let inserted ← claimed.insertChildren (some current) args.updated
          let updated ← inserted.updateParent current args.updated now
          return (result, updated)

end Store

/-! ### Retention -/

section Retention

variable [PostgresJson]

/-- `mark_erasure_pending` rewrites a parent row. -/
def markErasurePending (tables : PostgresTables) (args : MemoryActionStore.ErasureStep) :
    Except PostgresError Bool × PostgresTables :=
  let (answer, store) := tables.ordered.markErasurePending args
  (answer, { tables with proposals := store.proposals })

/-- `complete_erasure` rewrites a parent row and deletes its child rows. -/
def completeErasure (tables : PostgresTables) (args : MemoryActionStore.ErasureStep) :
    Except PostgresError Bool × PostgresTables :=
  let key := (args.tenantReference, args.proposalReference)
  match tables.ordered.completeErasure args with
  | (.ok true, store) => (.ok true, { tables with
      proposals := store.proposals
      authorityEvidence := Function.update tables.authorityEvidence key []
      receipts := Function.update tables.receipts key [] })
  | (answer, _) => (answer, tables)

end Retention

end PostgresTables

end ThrevoActions
