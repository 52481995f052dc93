import ThrevoActions.EvidenceImport
import ThrevoActions.Json.Ascii
import ThrevoActions.Store.PostgresTables
import ThrevoActions.Transactions.SingleWriter

/-!
# The SQLite action store

`SQLiteActionStore` and `SQLiteRetentionStore` over one database file, after both migrations. A row
of `proposals` has the whole record as a JSON document, and columns that repeat fields of it. Every
mutating method is a transaction that begins with `BEGIN IMMEDIATE`.

Documents stand for their texts, and a datetime is an instant, whose texts are those of one time
zone. `admitted_at` of a claim is not modelled: nothing reads it. Pydantic's validation and the
functions of SQLite enter as a class.
-/

namespace ThrevoActions

open SingleWriter PydanticDumps PydanticValues

/-- What the adapter takes from Pydantic and from SQLite. -/
class SqliteHost extends PydanticDumps where
  /-- `StoredProposal.model_validate` accepts the values of the record. -/
  isValid : StoredProposal → Bool
  isoformat : Timestamp → PyStr
  /-- `julianday(text) > julianday('now')`. -/
  juliandayAfter : PyStr → Timestamp → Bool
  /-- `json_valid`, which limits the nesting. -/
  jsonValid : JsonObject → Bool

open SqliteHost

/-! ## Documents -/

section Documents

variable [PydanticDumps]

/-- `model_dump` of a record in JSON mode. -/
def proposalData (proposal : StoredProposal) : JsonObject :=
  [jsonField "tenant_reference" (jsonText proposal.tenantReference),
    jsonField "proposal_reference" (jsonText proposal.proposalReference),
    jsonField "action_type" proposal.actionType.dump,
    jsonField "semantic_effect_reference" (jsonText proposal.semanticEffectReference),
    jsonField "effect_kind" (jsonText proposal.effectKind.value),
    jsonField "lifecycle_status" (jsonText proposal.lifecycleStatus.value),
    jsonField "revision" (.int proposal.revision),
    jsonField "protected_private_snapshot" (jsonOptional
      (fun payload ↦ .dict (protectedPayloadDump payload)) proposal.protectedPrivateSnapshot),
    jsonField "commitment"
      (jsonOptional (fun commitment ↦ .dict (keyedCommitmentDump commitment)) proposal.commitment),
    jsonField "display_preview" (.dict (JsonValue.writtenEntries proposal.displayPreview)),
    jsonField "requesting_principal" (jsonOptional
      (fun principal ↦ participantDump "requesting_principal" principal.reference)
      proposal.requestingPrincipal),
    jsonField "proposing_agent" (jsonOptional
      (fun agent ↦ participantDump "proposing_agent" agent.reference) proposal.proposingAgent),
    jsonField "created_at" (.str (datetimeDump proposal.createdAt)),
    jsonField "expires_at" (.str (datetimeDump proposal.expiresAt)),
    jsonField "authority_evidence" (.list
      (proposal.authorityEvidence.map fun evidence ↦ .dict (authorityEvidenceDump evidence))),
    jsonField "receipts" (.list (proposal.receipts.map fun receipt ↦ .dict (receiptDump receipt))),
    jsonField "verification_attempts" (.int proposal.verificationAttempts),
    jsonField "max_verification_attempts" (.int proposal.maxVerificationAttempts),
    jsonField "next_verification_at"
      (jsonOptional (fun t ↦ .str (datetimeDump t)) proposal.nextVerificationAt),
    jsonField "safe_result" (jsonOptional
      (fun result ↦ .dict (JsonValue.writtenEntries result)) proposal.safeResult),
    jsonField "execution_precondition" (jsonOptional jsonText proposal.executionPrecondition),
    jsonField "superseded_by" (jsonOptional jsonText proposal.supersededBy),
    jsonField "erasure_pending_at"
      (jsonOptional (fun t ↦ .str (datetimeDump t)) proposal.erasurePendingAt),
    jsonField "erased_at" (jsonOptional (fun t ↦ .str (datetimeDump t)) proposal.erasedAt)]

/-- `model_dump_json`. A surrogate cannot be encoded. -/
def StoredProposal.modelDumpJson (proposal : StoredProposal) : Except Exn JsonObject :=
  if JsonValue.surrogateFree (.dict (proposalData proposal)) then .ok (proposalData proposal)
  else .error (.host "PydanticSerializationError")

/-- The fields of a record. -/
def StoredProposal.validateFields (data : JsonObject) : Option StoredProposal := do
  if data.all (·.1 ∈ storedProposalFields) then
    return {
      tenantReference := ← requiredField data "tenant_reference" safeReference
      proposalReference := ← requiredField data "proposal_reference" safeReference
      actionType := ← requiredField data "action_type" actionType?
      semanticEffectReference := ← requiredField data "semantic_effect_reference" safeReference
      effectKind := ← requiredField data "effect_kind" (enumOf effectKinds EffectKind.value)
      lifecycleStatus :=
        ← requiredField data "lifecycle_status" (enumOf lifecycleStatuses LifecycleStatus.value)
      revision := ← requiredField data "revision" (validateNat 0)
      protectedPrivateSnapshot :=
        ← requiredField data "protected_private_snapshot" (orNone protectedPayload)
      commitment := ← requiredField data "commitment" (orNone keyedCommitment)
      displayPreview := ← optionalField data "display_preview" [] validateJsonObject
      requestingPrincipal :=
        ← optionalField data "requesting_principal" none
          (orNone PydanticValues.requestingPrincipal)
      proposingAgent :=
        ← optionalField data "proposing_agent" none (orNone PydanticValues.proposingAgent)
      createdAt := ← requiredField data "created_at" datetime
      expiresAt := ← requiredField data "expires_at" datetime
      authorityEvidence :=
        ← optionalField data "authority_evidence" [] (listOf PydanticValues.authorityEvidence)
      receipts := ← optionalField data "receipts" [] (listOf receipt)
      verificationAttempts := ← optionalField data "verification_attempts" 0 (validateNat 0)
      maxVerificationAttempts := ← requiredField data "max_verification_attempts" (validateNat 1)
      nextVerificationAt := ← optionalField data "next_verification_at" none (orNone datetime)
      safeResult := ← optionalField data "safe_result" none (orNone validateJsonObject)
      executionPrecondition :=
        ← optionalField data "execution_precondition" none (orNone safeReference)
      supersededBy := ← optionalField data "superseded_by" none (orNone safeReference)
      erasurePendingAt := ← optionalField data "erasure_pending_at" none (orNone datetime)
      erasedAt := ← optionalField data "erased_at" none (orNone datetime) }
  else none

/-- `StoredProposal.model_validate_json`. -/
def StoredProposal.modelValidateJson (data : JsonObject) : Option StoredProposal :=
  if withinLimits (.dict data) then validateFields data else none

end Documents

/-- `_validated_proposal`. -/
def validatedProposal [SqliteHost] (proposal : StoredProposal) : Except Exn StoredProposal :=
  if isValid proposal then .ok proposal else .error .validationError

/-! ## Tables -/

/-- A row of `proposals` under its primary key. The columns of an enumeration have its members
only. -/
structure SqliteRow where
  actionType : ActionType
  semanticEffectReference : SafeReference
  effectKind : EffectKind
  lifecycleStatus : LifecycleStatus
  revision : ℕ
  createdAt : PyStr
  expiresAt : PyStr
  proposalData : JsonObject

structure SqliteTables where
  proposals : ProposalKey → Option SqliteRow
  effectClaims : EffectKey → Option SafeReference

def SqliteTables.empty : SqliteTables := ⟨fun _ ↦ none, fun _ ↦ none⟩

namespace SqliteRow

/-- `json_extract`. -/
def jsonExtract : JsonObject → List String → Option JsonValue
  | data, [] => some (.dict data)
  | data, [name] => data.lookup (PyStr.ofString name)
  | data, name :: path =>
    match data.lookup (PyStr.ofString name) with
    | some (.dict entries) => jsonExtract entries path
    | _ => none

/-- `CHECK (json_extract(proposal_data, path) = column)`, which a missing value and `null` pass. -/
def agrees (data : JsonObject) (path : List String) (column : JsonValue) : Bool :=
  match jsonExtract data path with
  | none | some .null => true
  | some value => Json.equals value column

/-- The checks of the table. -/
def check [SqliteHost] (key : ProposalKey) (row : SqliteRow) : Bool :=
  jsonValid row.proposalData &&
    agrees row.proposalData ["tenant_reference"] (jsonText key.1) &&
    agrees row.proposalData ["proposal_reference"] (jsonText key.2) &&
    agrees row.proposalData ["action_type", "namespace"] (jsonText row.actionType.actionNamespace) &&
    agrees row.proposalData ["action_type", "name"] (jsonText row.actionType.name) &&
    agrees row.proposalData ["action_type", "version"] (.int row.actionType.version) &&
    agrees row.proposalData ["semantic_effect_reference"] (jsonText row.semanticEffectReference) &&
    agrees row.proposalData ["effect_kind"] (jsonText row.effectKind.value) &&
    agrees row.proposalData ["lifecycle_status"] (jsonText row.lifecycleStatus.value) &&
    agrees row.proposalData ["revision"] (.int row.revision)

/-- The transitions that the trigger `enforce_proposal_update` lists. -/
def transitions : List (LifecycleStatus × LifecycleStatus) :=
  [(.awaitingAuthority, .denied), (.awaitingAuthority, .expired),
    (.awaitingAuthority, .authorized), (.authorized, .expired), (.authorized, .blocked),
    (.authorized, .stale), (.authorized, .executing), (.stale, .superseded), (.executing, .stale),
    (.executing, .failedKnown), (.executing, .failedUnknown), (.executing, .verificationPending),
    (.failedUnknown, .verificationPending), (.verificationPending, .authorized),
    (.verificationPending, .executing), (.verificationPending, .failedKnown),
    (.verificationPending, .failedUnknown), (.verificationPending, .verificationUnresolved),
    (.verificationPending, .partiallySucceeded), (.verificationPending, .verified),
    (.verificationUnresolved, .verificationPending)]

/-- The trigger `enforce_proposal_update`. -/
def enforceProposalUpdate (old new : SqliteRow) : Except Exn Unit :=
  if (new.actionType, new.semanticEffectReference, new.effectKind, new.createdAt) ≠
      (old.actionType, old.semanticEffectReference, old.effectKind, old.createdAt) then
    .error (.host "IntegrityError")
  else if new.revision ≠ old.revision + 1 then .error (.host "IntegrityError")
  else if new.lifecycleStatus ≠ old.lifecycleStatus ∧
      (old.lifecycleStatus, new.lifecycleStatus) ∉ transitions then
    .error (.host "IntegrityError")
  else .ok ()

end SqliteRow

/-! ## Statements -/

/-- What `_update` sets. -/
structure SqliteUpdate where
  lifecycleStatus : LifecycleStatus
  revision : ℕ
  expiresAt : PyStr
  proposalData : JsonObject

inductive SqliteQuery where
  | selectProposal (key : ProposalKey)
  | selectExists (key : ProposalKey)
  | insertProposal (key : ProposalKey) (row : SqliteRow)
  | updateProposal (key : ProposalKey) (revision : ℕ) (lifecycleStatus : LifecycleStatus)
    (update : SqliteUpdate)
  | selectUnexpired (expiresAt : PyStr)
  | selectClaimOwner (key : EffectKey)
  | insertClaim (key : EffectKey) (proposalReference : SafeReference)
  | transferClaim (key : EffectKey) (proposalReference owner : SafeReference)

namespace SqliteQuery

/-- A row, an answer, or the number of the rows that a statement has changed. -/
abbrev Ans : SqliteQuery → Type
  | .selectProposal _ => Option SqliteRow
  | .selectExists _ | .selectUnexpired _ => Bool
  | .insertProposal _ _ | .insertClaim _ _ => Unit
  | .selectClaimOwner _ => Option SafeReference
  | .updateProposal _ _ _ _ | .transferClaim _ _ _ => ℕ

variable [SqliteHost]

/-- The row of `proposals` that a claim refers to. -/
def references (tables : SqliteTables) (key : EffectKey) (proposalReference : SafeReference) :
    Bool :=
  match tables.proposals (key.1, proposalReference) with
  | some row => decide ((row.actionType, row.semanticEffectReference) = key.2)
  | none => false

/-- An integer beyond 64 bits cannot be bound. -/
def perform : (q : SqliteQuery) → ℤ → SqliteTables → Except Exn (q.Ans × SqliteTables)
  | .selectProposal key, _, tables => .ok (tables.proposals key, tables)
  | .selectExists key, _, tables => .ok ((tables.proposals key).isSome, tables)
  | .insertProposal key row, _, tables =>
    if bigintMax < row.actionType.version ∨ bigintMax < row.revision then
      .error (.host "OverflowError")
    else if (tables.proposals key).isSome ∨ row.check key = false then
      .error (.host "IntegrityError")
    else
      .ok ((), { tables with proposals := Function.update tables.proposals key (some row) })
  | .updateProposal key revision lifecycleStatus update, _, tables =>
    if bigintMax < update.revision ∨ bigintMax < revision then .error (.host "OverflowError")
    else
      match tables.proposals key with
      | none => .ok ((0 : ℕ), tables)
      | some row =>
        if row.revision = revision ∧ row.lifecycleStatus = lifecycleStatus then
          let new := { row with
            lifecycleStatus := update.lifecycleStatus
            revision := update.revision
            expiresAt := update.expiresAt
            proposalData := update.proposalData }
          match row.enforceProposalUpdate new with
          | .error e => .error e
          | .ok () =>
            if new.check key then
              .ok ((1 : ℕ),
                { tables with proposals := Function.update tables.proposals key (some new) })
            else .error (.host "IntegrityError")
        else .ok ((0 : ℕ), tables)
  | .selectUnexpired expiresAt, now, tables => .ok (juliandayAfter expiresAt now, tables)
  | .selectClaimOwner key, _, tables =>
    if bigintMax < key.2.1.version then .error (.host "OverflowError")
    else .ok (tables.effectClaims key, tables)
  | .insertClaim key proposalReference, _, tables =>
    if bigintMax < key.2.1.version then .error (.host "OverflowError")
    else if (tables.effectClaims key).isSome ∨ references tables key proposalReference = false then
      .error (.host "IntegrityError")
    else
      .ok ((), { tables with
        effectClaims := Function.update tables.effectClaims key (some proposalReference) })
  | .transferClaim key proposalReference owner, _, tables =>
    if bigintMax < key.2.1.version then .error (.host "OverflowError")
    else if tables.effectClaims key ≠ some owner then .ok ((0 : ℕ), tables)
    else if references tables key proposalReference = false then .error (.host "IntegrityError")
    else
      .ok ((1 : ℕ), { tables with
        effectClaims := Function.update tables.effectClaims key (some proposalReference) })

end SqliteQuery

/-- A lock that is not free in time, a full disk, a damaged file. -/
def sqliteFailure : Exn → Bool
  | .host "OperationalError" | .host "DatabaseError" => true
  | _ => false

variable [SqliteHost]

def sqlite : Dialect SqliteTables Exn where
  Query := SqliteQuery
  Ans := SqliteQuery.Ans
  perform := SqliteQuery.perform
  failure := sqliteFailure

abbrev SqliteBody (α : Type) := Body sqlite α

def sqliteQuery (q : SqliteQuery) : SqliteBody q.Ans := Body.perform (X := sqlite) q

/-! ## The adapters -/

namespace SqliteStoreBase

/-- What `_load` makes of a row. -/
def loaded (key : ProposalKey) : Option SqliteRow → Except Exn (Option StoredProposal)
  | none => .ok none
  | some row =>
    match StoredProposal.modelValidateJson row.proposalData with
    | none => .error (.host "SQLiteStoredDataCorruptionError")
    | some proposal =>
      if key = proposal.key ∧ row.actionType = proposal.actionType ∧
          row.semanticEffectReference = proposal.semanticEffectReference ∧
          row.effectKind = proposal.effectKind ∧ row.lifecycleStatus = proposal.lifecycleStatus ∧
          row.revision = proposal.revision ∧ row.createdAt = isoformat proposal.createdAt ∧
          row.expiresAt = isoformat proposal.expiresAt then
        .ok (some proposal)
      else .error (.host "SQLiteStoredDataCorruptionError")

/-- `_load`. -/
def load (key : ProposalKey) : SqliteBody (Option StoredProposal) := do
  let row ← sqliteQuery (.selectProposal key)
  Body.orRaise (loaded key row)

/-- `_update`. -/
def update (current updated : StoredProposal) : SqliteBody Unit := do
  let data ← Body.orRaise updated.modelDumpJson
  let rowcount ← sqliteQuery (.updateProposal current.key current.revision current.lifecycleStatus
    ⟨updated.lifecycleStatus, updated.revision, isoformat updated.expiresAt, data⟩)
  Body.raiseIf ((rowcount : ℕ) ≠ 1)
    (.storeInvariant "guarded SQLite update lost its locked proposal")

end SqliteStoreBase

namespace SqliteActionStore

open SqliteStoreBase
open MemoryActionStore (CompareAndSet AdmitExecution)

def newRow (proposal : StoredProposal) (data : JsonObject) : SqliteRow where
  actionType := proposal.actionType
  semanticEffectReference := proposal.semanticEffectReference
  effectKind := proposal.effectKind
  lifecycleStatus := proposal.lifecycleStatus
  revision := proposal.revision
  createdAt := isoformat proposal.createdAt
  expiresAt := isoformat proposal.expiresAt
  proposalData := data

/-- `_create_sync`. -/
def createSync (proposal : StoredProposal) : SqliteBody (Exit Unit) := do
  let found ← sqliteQuery (.selectExists proposal.key)
  Body.raiseIf (found = true) .proposalAlreadyExists
  let data ← Body.orRaise proposal.modelDumpJson
  sqliteQuery (.insertProposal proposal.key (newRow proposal data))
  return .commit ()

/-- `_claim_owner`. -/
def claimOwner (proposal : StoredProposal) : SqliteBody (Option SafeReference) :=
  sqliteQuery (.selectClaimOwner proposal.effectKey)

/-- `_compare_and_set_sync`. -/
def compareAndSetSync (args : CompareAndSet) : SqliteBody (Exit Bool) := do
  match ← load (args.tenantReference, args.proposalReference) with
  | none => return .rollback false
  | some current =>
    if current.revision ≠ args.expectedRevision ∨
        current.lifecycleStatus ∉ args.expectedStatuses then
      return .rollback false
    else
      Body.orRaise (validateProposalUpdate current args.updated)
      if args.updated.lifecycleStatus = .executing ∧ current.lifecycleStatus ≠ .executing then
        let owner ← claimOwner current
        Body.raiseIf (owner ≠ some current.proposalReference) (.storeInvariant
          "execution requires this proposal to own the semantic effect claim")
      update current args.updated
      return .commit true

/-- `_claim_effect`. -/
def claimEffect (proposal : StoredProposal) : SqliteBody EffectClaimResult := do
  match ← claimOwner proposal with
  | none =>
    sqliteQuery (.insertClaim proposal.effectKey proposal.proposalReference)
    return .acquired
  | some owner =>
    if owner = proposal.proposalReference then return .ownedByProposal
    else
      let ownerRecord ← load (proposal.tenantReference, owner)
      if ownerRecord.any (fun record ↦
          decide (record.lifecycleStatus ∈ [.failedKnown, .stale])) then
        let rowcount ←
          sqliteQuery (.transferClaim proposal.effectKey proposal.proposalReference owner)
        if (rowcount : ℕ) = 1 then return .acquired else return .conflict
      else return .conflict

/-- `_admit_execution_sync`. -/
def admitExecutionSync (args : AdmitExecution) : SqliteBody (Exit EffectClaimResult) := do
  match ← load (args.tenantReference, args.proposalReference) with
  | none => return .rollback .proposalNotFound
  | some current =>
    let databaseUnexpired ← sqliteQuery (.selectUnexpired (isoformat current.expiresAt))
    if current.revision ≠ args.expectedRevision ∨ current.lifecycleStatus ≠ .authorized ∨
        current.erasurePendingAt ≠ none ∨ current.erasedAt ≠ none ∨
        current.expiresAt ≤ args.admittedAt ∨ databaseUnexpired = false then
      return .rollback .proposalNotAuthorized
    else
      Body.orRaise (validateProposalUpdate current args.updated)
      Body.raiseIf (args.updated.lifecycleStatus ≠ .executing)
        (.storeInvariant "execution admission must enter executing")
      match ← claimEffect current with
      | .conflict => return .rollback .conflict
      | claim =>
        update current args.updated
        return .commit claim

end SqliteActionStore

namespace SqliteRetentionStore

open SqliteStoreBase
open MemoryActionStore (ErasureStep)

/-- `_mark_erasure_pending_sync`. -/
def markErasurePendingSync (args : ErasureStep) : SqliteBody (Exit Bool) := do
  match ← load (args.tenantReference, args.proposalReference) with
  | none => return .rollback false
  | some current =>
    if current.revision ≠ args.expectedRevision ∨
        current.lifecycleStatus ∉ erasableLifecycleStatuses ∨ current.erasedAt ≠ none then
      return .rollback false
    else if current.erasurePendingAt ≠ none then return .rollback true
    else
      let updated ←
        Body.orRaise (validatedProposal (proposalWithErasurePending current args.timestamp))
      Body.orRaise (validateProposalUpdate current updated)
      update current updated
      return .commit true

/-- `_complete_erasure_sync`. -/
def completeErasureSync (args : ErasureStep) : SqliteBody (Exit Bool) := do
  match ← load (args.tenantReference, args.proposalReference) with
  | none => return .rollback false
  | some current =>
    if current.revision ≠ args.expectedRevision ∨ current.erasurePendingAt = none ∨
        current.erasedAt ≠ none then
      return .rollback false
    else
      let updated ← Body.orRaise (validatedProposal (erasedProposal current args.timestamp))
      Body.orRaise (validateProposalUpdate current updated)
      update current updated
      return .commit true

end SqliteRetentionStore

/-! ## Calls -/

/-- A call of an action store or of its retention store. -/
inductive StoreRequest where
  | create (proposal : StoredProposal)
  | get (tenantReference proposalReference : SafeReference)
  | compareAndSet (args : MemoryActionStore.CompareAndSet)
  | admitExecution (args : MemoryActionStore.AdmitExecution)
  | getEffectClaimOwner (tenantReference : SafeReference) (actionType : ActionType)
    (semanticEffectReference : SafeReference)
  | markErasurePending (args : MemoryActionStore.ErasureStep)
  | completeErasure (args : MemoryActionStore.ErasureStep)

inductive StoreAnswer where
  | created
  | found (proposal : Option StoredProposal)
  | written (result : Bool)
  | admitted (result : EffectClaimResult)
  | owner (proposalReference : Option SafeReference)

/-- The answer of a body, as the answer of a call. -/
def answering {α : Type} (answer : α → StoreAnswer) (body : SqliteBody (Exit α)) :
    SqliteBody (Exit StoreAnswer) := do
  match ← body with
  | .commit a => return .commit (answer a)
  | .rollback a => return .rollback (answer a)

/-- The call that goes on with an argument, if validation accepts it. -/
def withValidated {α : Type} (argument : Except Exn α) (f : α → Call sqlite StoreAnswer) :
    Call sqlite StoreAnswer :=
  match argument with
  | .ok a => f a
  | .error e => .done (.error e)

/-- The methods of the two adapters. -/
def sqliteCall : StoreRequest → Call sqlite StoreAnswer
  | .create proposal =>
    withValidated (validatedProposal proposal) fun proposal ↦
      withValidated (validateProposalCreate proposal) fun _ ↦
        .immediate (answering (fun _ ↦ .created) (SqliteActionStore.createSync proposal))
  | .get tenantReference proposalReference =>
    .select (.selectProposal (tenantReference, proposalReference)) fun row ↦
      (SqliteStoreBase.loaded (tenantReference, proposalReference) row).map .found
  | .compareAndSet args =>
    withValidated (validatedProposal args.updated) fun updated ↦
      .immediate (answering .written (SqliteActionStore.compareAndSetSync { args with updated }))
  | .admitExecution args =>
    withValidated (validatedProposal args.updated) fun updated ↦
      .immediate (answering .admitted (SqliteActionStore.admitExecutionSync { args with updated }))
  | .getEffectClaimOwner tenantReference actionType semanticEffectReference =>
    .select (.selectClaimOwner (tenantReference, actionType, semanticEffectReference)) fun owner ↦
      .ok (.owner owner)
  | .markErasurePending args =>
    .immediate (answering .written (SqliteRetentionStore.markErasurePendingSync args))
  | .completeErasure args =>
    .immediate (answering .written (SqliteRetentionStore.completeErasureSync args))

end ThrevoActions
