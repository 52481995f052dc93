import ThrevoActions.Json.Fields
import ThrevoActions.Json.Loads
import ThrevoActions.Store.Memory

/-!
# Erasure in the PostgreSQL store

The tables of `001_action_runtime.sql` as far as erasure reads and writes them, the two functions
behind `PostgresRetentionStore`, the trigger every update of a proposal passes, and the record that
`PostgresActionStore._load` puts together from the rows.

A table is a function from its primary key to the remaining columns of the row; the rows of a child
table are listed in the order of their sequence numbers. A function call is one statement, so an
error leaves all tables as they were. PostgreSQL's text of a timestamp and Pydantic's parsing of
values enter as classes.
-/

namespace ThrevoActions

open Json (insertEntry)

/-! ## Columns -/

/-- The largest `bigint`. -/
def bigintMax : ℕ := 9223372036854775807

/-- A `bigint` column with `CHECK (revision >= 0)`. -/
abbrev BigInt := Fin (bigintMax + 1)

instance (priority := 2000) neZeroBigInts : NeZero (bigintMax + 1) := ⟨by decide⟩

inductive PostgresError
  /-- `22003`: an argument or a sum does not fit its type. -/
  | numericValueOutOfRange
  /-- `RAISE EXCEPTION`. -/
  | raised (message : String)
  /-- `StoredDataCorruptionError`. -/
  | storedDataCorruption
  deriving DecidableEq, Repr

/-- `to_jsonb` of a `timestamptz`, which is a JSON string. -/
class PostgresJson where
  timestamptzText : Timestamp → PyStr

/-- A row of `proposals` under its primary key. `proposal_data` is a `jsonb` object. -/
structure ProposalRow where
  actionType : ActionType
  semanticEffectReference : SafeReference
  effectKind : EffectKind
  lifecycleStatus : LifecycleStatus
  revision : BigInt
  commitmentDigest : Option SafeReference
  createdAt : Timestamp
  expiresAt : Timestamp
  statusChangedAt : Timestamp
  nextVerificationAt : Option Timestamp
  proposalData : JsonObject

structure PostgresStore where
  proposals : ProposalKey → Option ProposalRow
  /-- `evidence_data` of the rows of one proposal. -/
  authorityEvidence : ProposalKey → List JsonValue
  /-- `receipt_data` of the rows of one proposal. -/
  receipts : ProposalKey → List JsonValue

/-! ### JSON columns -/

/-- `data ->> field IS NULL`: the field is missing or `null`. -/
def textIsNull (data : JsonObject) (field : String) : Bool :=
  match data.lookup (PyStr.ofString field) with
  | none | some .null => true
  | some _ => false

/-- `jsonb_set(data, '{field}', value, true)`, and `data || jsonb_build_object('field', value)`. -/
def jsonbSet (data : JsonObject) (field : String) (value : JsonValue) : JsonObject :=
  insertEntry data (PyStr.ofString field, value)

theorem lookup_insertEntry_self (entries : JsonObject) (key : PyStr) (value : JsonValue) :
    (insertEntry entries (key, value)).lookup key = some value := by
  rw [insertEntry]
  split_ifs with hmem
  · induction entries with
    | nil => cases hmem
    | cons entry entries ih =>
      rw [List.map_cons]
      by_cases hkey : entry.1 = key
      · rw [if_pos hkey, List.lookup_cons, beq_self_eq_true]
      · rw [if_neg hkey, List.lookup_cons, beq_eq_false_iff_ne.mpr (Ne.symm hkey)]
        rw [List.map_cons, List.mem_cons] at hmem
        exact ih (hmem.resolve_left (Ne.symm hkey))
  · rw [List.lookup_append, List.lookup_eq_none_iff.mpr]
    · rw [Option.none_or, List.lookup_cons, beq_self_eq_true]
    · intro entry hentry
      rw [bne_iff_ne]
      rintro rfl
      exact hmem (List.mem_map.mpr ⟨entry, hentry, rfl⟩)

theorem lookup_insertEntry_of_ne (entries : JsonObject) {key other : PyStr} (value : JsonValue)
    (h : other ≠ key) : (insertEntry entries (key, value)).lookup other = entries.lookup other := by
  rw [insertEntry]
  split_ifs with hmem
  · clear hmem
    induction entries with
    | nil => rfl
    | cons entry entries ih =>
      rw [List.map_cons]
      split_ifs with hkey
      · rw [List.lookup_cons, List.lookup_cons, beq_eq_false_iff_ne.mpr h,
          beq_eq_false_iff_ne.mpr (hkey ▸ h)]
        exact ih
      · rw [List.lookup_cons, List.lookup_cons]
        split
        · rfl
        · exact ih
  · rw [List.lookup_append, List.lookup_cons, beq_eq_false_iff_ne.mpr h]
    exact Option.or_none

theorem keys_insertEntry_subset (entries : JsonObject) (entry : PyStr × JsonValue) {key : PyStr}
    (h : key ∈ (insertEntry entries entry).map Prod.fst) :
    key = entry.1 ∨ key ∈ entries.map Prod.fst := by
  rw [insertEntry] at h
  split_ifs at h with hmem
  · obtain ⟨other, hother, rfl⟩ := List.mem_map.mp h
    obtain ⟨old, hold, rfl⟩ := List.mem_map.mp hother
    split_ifs
    · exact Or.inl rfl
    · exact Or.inr (List.mem_map_of_mem hold)
  · rw [List.map_append, List.mem_append] at h
    exact h.symm.imp_left List.mem_singleton.mp

/-! ## Loading a proposal -/

/-- Pydantic's validation of the values a record is made of. -/
class PydanticValues where
  protectedPayload : JsonValue → Option ProtectedPayload
  keyedCommitment : JsonValue → Option KeyedCommitment
  requestingPrincipal : JsonValue → Option RequestingPrincipal
  proposingAgent : JsonValue → Option ProposingAgent
  safeReference : JsonValue → Option SafeReference
  authorityEvidence : JsonValue → Option AuthorityEvidence
  receipt : JsonValue → Option Receipt
  datetime : JsonValue → Option Timestamp

/-- The fields of `StoredProposal`. -/
def storedProposalFields : List PyStr :=
  ["tenant_reference", "proposal_reference", "action_type", "semantic_effect_reference",
    "effect_kind", "lifecycle_status", "revision", "protected_private_snapshot", "commitment",
    "display_preview", "requesting_principal", "proposing_agent", "created_at", "expires_at",
    "authority_evidence", "receipts", "verification_attempts", "max_verification_attempts",
    "next_verification_at", "safe_result", "execution_precondition", "superseded_by",
    "erasure_pending_at", "erased_at"].map PyStr.ofString

namespace PostgresStore

section Load

variable [PydanticValues]

open PydanticValues

/-- The record of a row, with the data of its evidence and of its receipts. The columns take the
place of fields of the same name in `proposal_data`; other fields are forbidden. -/
def validateRow (key : ProposalKey) (row : ProposalRow) (evidence receiptData : List JsonValue) :
    Option StoredProposal := do
  if row.proposalData.all (·.1 ∈ storedProposalFields) then
    let protectedPrivateSnapshot ←
      requiredField row.proposalData "protected_private_snapshot" (orNone protectedPayload)
    let commitment ← requiredField row.proposalData "commitment" (orNone keyedCommitment)
    let displayPreview ← optionalField row.proposalData "display_preview" [] validateJsonObject
    let requestingPrincipal ←
      optionalField row.proposalData "requesting_principal" none (orNone requestingPrincipal)
    let proposingAgent ←
      optionalField row.proposalData "proposing_agent" none (orNone proposingAgent)
    let authorityEvidence ← evidence.mapM PydanticValues.authorityEvidence
    let receipts ← receiptData.mapM receipt
    let verificationAttempts ←
      optionalField row.proposalData "verification_attempts" 0 (validateNat 0)
    let maxVerificationAttempts ←
      requiredField row.proposalData "max_verification_attempts" (validateNat 1)
    let safeResult ← optionalField row.proposalData "safe_result" none (orNone validateJsonObject)
    let executionPrecondition ←
      optionalField row.proposalData "execution_precondition" none (orNone safeReference)
    let supersededBy ← optionalField row.proposalData "superseded_by" none (orNone safeReference)
    let erasurePendingAt ←
      optionalField row.proposalData "erasure_pending_at" none (orNone datetime)
    let erasedAt ← optionalField row.proposalData "erased_at" none (orNone datetime)
    return {
      tenantReference := key.1
      proposalReference := key.2
      actionType := row.actionType
      semanticEffectReference := row.semanticEffectReference
      effectKind := row.effectKind
      lifecycleStatus := row.lifecycleStatus
      revision := row.revision
      createdAt := row.createdAt
      expiresAt := row.expiresAt
      nextVerificationAt := row.nextVerificationAt
      protectedPrivateSnapshot, commitment, displayPreview, requestingPrincipal, proposingAgent,
      authorityEvidence, receipts, verificationAttempts, maxVerificationAttempts, safeResult,
      executionPrecondition, supersededBy, erasurePendingAt, erasedAt }
  else none

/-- `PostgresActionStore._load`. -/
def load (store : PostgresStore) (key : ProposalKey) :
    Except PostgresError (Option StoredProposal) :=
  match store.proposals key with
  | none => .ok none
  | some row =>
    match validateRow key row (store.authorityEvidence key) (store.receipts key) with
    | none => .error .storedDataCorruption
    | some proposal => .ok (some proposal)

end Load

/-! ## The functions -/

/-- The trigger `enforce_proposal_update`. The two functions below are `SECURITY DEFINER`, so that
their current user owns the table. -/
def enforceProposalUpdate (currentUserOwnsTable : Bool) (old new : ProposalRow) :
    Except PostgresError ProposalRow :=
  if (new.commitmentDigest ≠ old.commitmentDigest ∨
      ∃ field ∈ ["protected_private_snapshot", "commitment", "erasure_pending_at", "erased_at"],
        new.proposalData.lookup (PyStr.ofString field) ≠
          old.proposalData.lookup (PyStr.ofString field)) ∧ currentUserOwnsTable = false then
    .error (.raised "protected proposal state requires the retention boundary")
  else if (new.actionType, new.semanticEffectReference, new.effectKind, new.createdAt) ≠
      (old.actionType, old.semanticEffectReference, old.effectKind, old.createdAt) then
    .error (.raised "proposal identity cannot change")
  else if new.revision.val ≠ old.revision.val + 1 then
    .error (.raised "proposal revision must advance by one")
  else if new.lifecycleStatus ≠ old.lifecycleStatus ∧
      new.lifecycleStatus ∉ allowedLifecycleTransitions old.lifecycleStatus then
    .error (.raised "invalid proposal lifecycle transition")
  else .ok new

/-- `UPDATE proposals SET revision = revision + 1, …` of the row under `key`. -/
def updateProposal (store : PostgresStore) (key : ProposalKey) (row : ProposalRow)
    (changed : BigInt → ProposalRow) : Except PostgresError Bool × PostgresStore :=
  if hrevision : row.revision.val + 1 < bigintMax + 1 then
    match enforceProposalUpdate true row (changed ⟨row.revision.val + 1, hrevision⟩) with
    | .error e => (.error e, store)
    | .ok new =>
      (.ok true, { store with proposals := Function.update store.proposals key (some new) })
  else (.error .numericValueOutOfRange, store)

section Functions

variable [PostgresJson]

open PostgresJson (timestamptzText)

/-- `mark_erasure_pending`. -/
def markErasurePending (store : PostgresStore) (args : MemoryActionStore.ErasureStep) :
    Except PostgresError Bool × PostgresStore :=
  if bigintMax < args.expectedRevision then (.error .numericValueOutOfRange, store)
  else
    match store.proposals (args.tenantReference, args.proposalReference) with
    | none => (.ok false, store)
    | some row =>
      if row.revision.val = args.expectedRevision ∧
          row.lifecycleStatus ∉ [.executing, .failedUnknown, .verificationPending] ∧
          textIsNull row.proposalData "erasure_pending_at" ∧
          textIsNull row.proposalData "erased_at" then
        store.updateProposal (args.tenantReference, args.proposalReference) row fun revision ↦
          { row with
            revision
            proposalData := jsonbSet row.proposalData "erasure_pending_at"
              (.str (timestamptzText args.timestamp)) }
      else (.ok false, store)

/-- The rewrite of `proposal_data` in `complete_erasure`. -/
def erasedData (data : JsonObject) (erasedAt : Timestamp) : JsonObject :=
  let data := jsonbSet data "protected_private_snapshot" .null
  let data := jsonbSet data "commitment" .null
  let data := jsonbSet data "display_preview" (.dict [])
  let data := jsonbSet data "requesting_principal" .null
  let data := jsonbSet data "proposing_agent" .null
  let data := jsonbSet data "safe_result" .null
  let data := jsonbSet data "execution_precondition" .null
  let data := jsonbSet data "erasure_pending_at" .null
  jsonbSet data "erased_at" (.str (timestamptzText erasedAt))

/-- `complete_erasure`. -/
def completeErasure (store : PostgresStore) (args : MemoryActionStore.ErasureStep) :
    Except PostgresError Bool × PostgresStore :=
  let key := (args.tenantReference, args.proposalReference)
  if bigintMax < args.expectedRevision then (.error .numericValueOutOfRange, store)
  else
    match store.proposals key with
    | none => (.ok false, store)
    | some row =>
      if row.revision.val = args.expectedRevision ∧
          textIsNull row.proposalData "erasure_pending_at" = false ∧
          textIsNull row.proposalData "erased_at" then
        let deleted := { store with
          authorityEvidence := Function.update store.authorityEvidence key []
          receipts := Function.update store.receipts key [] }
        match deleted.updateProposal key row fun revision ↦
          { row with
            revision
            commitmentDigest := none
            nextVerificationAt := none
            proposalData := erasedData row.proposalData args.timestamp } with
        | (.error e, _) => (.error e, store)
        | result => result
      else (.ok false, store)

end Functions

end PostgresStore

end ThrevoActions
