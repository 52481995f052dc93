import ThrevoActions.Store.PostgresRoundTrip
import ThrevoActions.Store.Sqlite

/-!
# Rows of the SQLite store

A row is filed for a record if its document is what is written of the record and its columns repeat
the fields of the record. Such a row passes the checks of its table and is loaded as the record
(`FiledRow.loaded`): the columns never disagree with the document. A number that is not finite is
written as `null`, so a record on file is equal to its own stored form.
-/

namespace ThrevoActions

open JsonValue PydanticDumps PydanticValues SqliteHost
open PostgresTables (Genuine storedForm)

/-! ## Stored forms -/

namespace JsonValue

theorem finite_written (v : JsonValue) : finite (written v) = true := by
  induction v using JsonValue.induction with
  | null | bool | int | str => rfl
  | float bits =>
    rw [written]
    by_cases h : isFinite bits = true
    · rw [if_pos h, finite, h]
    · rw [if_neg h, finite]
  | list items ih =>
    rw [written, finite, writtenList_eq_map, finiteList_eq_all, List.all_map, List.all_eq_true]
    exact ih
  | dict entries ih =>
    rw [written, finite, writtenEntries_eq_map, finiteEntries_eq_all, List.all_map,
      List.all_eq_true]
    exact ih

theorem writtenEntries_idem (entries : JsonObject) :
    writtenEntries (writtenEntries entries) = writtenEntries entries :=
  writtenEntries_eq_self_iff.mpr (finite_written (.dict entries))

@[simp] theorem isEmpty_writtenEntries (entries : JsonObject) :
    (writtenEntries entries).isEmpty = entries.isEmpty := by
  rw [writtenEntries_eq_map, List.isEmpty_map]

end JsonValue

/-- What is stored of a record is stored as it is. -/
theorem storedForm_idem (proposal : StoredProposal) :
    storedForm (storedForm proposal) = storedForm proposal := by
  simp [storedForm, writtenEntries_idem, Function.comp_def]

/-- The guard of a creation does not look at documents. -/
theorem validateProposalCreate_storedForm (proposal : StoredProposal) :
    validateProposalCreate (storedForm proposal) = validateProposalCreate proposal := rfl

theorem contentFree_storedForm (proposal : StoredProposal) :
    contentFree (storedForm proposal) = contentFree proposal := by
  simp [contentFree, storedForm]

/-- The guard of an update asks of the documents only whether they are there. -/
theorem validateProposalUpdate_storedForm (current updated : StoredProposal) :
    validateProposalUpdate current (storedForm updated) = validateProposalUpdate current updated := by
  rw [validateProposalUpdate, contentFree_storedForm]
  rfl

section Documents

variable [PydanticDumps]

theorem proposalData_storedForm (proposal : StoredProposal) :
    proposalData (storedForm proposal) = proposalData proposal := by
  have hresult : ∀ result : Option JsonObject,
      jsonOptional (fun result ↦ JsonValue.dict (writtenEntries result))
          (result.map writtenEntries) =
        jsonOptional (fun result ↦ JsonValue.dict (writtenEntries result)) result := by
    intro result
    cases result with
    | none => rfl
    | some result => simp [jsonOptional, writtenEntries_idem]
  simp only [proposalData, storedForm, writtenEntries_idem, hresult]

/-- The values of the record are of their types: validation reads what is written of them. -/
structure StoredProposal.ReadsBack (proposal : StoredProposal) : Prop extends Genuine proposal where
  tenantReference :
    safeReference (jsonText proposal.tenantReference) = some proposal.tenantReference
  proposalReference :
    safeReference (jsonText proposal.proposalReference) = some proposal.proposalReference
  actionType : actionType? proposal.actionType.dump = some proposal.actionType
  semanticEffectReference : safeReference (jsonText proposal.semanticEffectReference) =
    some proposal.semanticEffectReference
  createdAt : datetime (.str (datetimeDump proposal.createdAt)) = some proposal.createdAt
  expiresAt : datetime (.str (datetimeDump proposal.expiresAt)) = some proposal.expiresAt
  nextVerificationAt : ∀ t ∈ proposal.nextVerificationAt,
    datetime (.str (datetimeDump t)) = some t

/-- **Reading back.** The document of a record is read as its stored form. -/
theorem StoredProposal.ReadsBack.validateFields {proposal : StoredProposal} (h : proposal.ReadsBack) :
    StoredProposal.validateFields (proposalData proposal) = some (storedForm proposal) := by
  have hresult : orNone validateJsonObject (jsonOptional
      (fun result ↦ .dict (writtenEntries result)) proposal.safeResult) =
        some (proposal.safeResult.map writtenEntries) := by
    cases proposal.safeResult with
    | none => rfl
    | some result => rfl
  have hfields : ((proposalData proposal).all (·.1 ∈ storedProposalFields)) = true := by
    have hkeys : (proposalData proposal).map Prod.fst = storedProposalFields := rfl
    rw [List.all_eq_true]
    intro entry hentry
    rw [decide_eq_true_iff, ← hkeys]
    exact List.mem_map_of_mem hentry
  rw [StoredProposal.validateFields, if_pos hfields]
  refine requiredField_bind rfl h.tenantReference <|
    requiredField_bind rfl h.proposalReference <|
    requiredField_bind rfl h.actionType <|
    requiredField_bind rfl h.semanticEffectReference <|
    requiredField_bind rfl
      (enumOf_value (by decide) (by cases proposal.effectKind <;> decide)) <|
    requiredField_bind rfl
      (enumOf_value (by decide) (by cases proposal.lifecycleStatus <;> decide)) <|
    requiredField_bind rfl (validateNat_natCast (Nat.zero_le _)) <|
    requiredField_bind rfl (orNone_jsonOptional (fun _ ↦ nofun) h.protectedPrivateSnapshot) <|
    requiredField_bind rfl (orNone_jsonOptional (fun _ ↦ nofun) h.commitment) <|
    optionalField_bind rfl rfl <|
    optionalField_bind rfl (orNone_jsonOptional (fun _ ↦ nofun) h.requestingPrincipal) <|
    optionalField_bind rfl (orNone_jsonOptional (fun _ ↦ nofun) h.proposingAgent) <|
    requiredField_bind rfl h.createdAt <|
    requiredField_bind rfl h.expiresAt <|
    optionalField_bind rfl (listOf_map h.authorityEvidence) <|
    optionalField_bind rfl (listOf_map h.receipts) <|
    optionalField_bind rfl (validateNat_natCast (Nat.zero_le _)) <|
    requiredField_bind rfl (validateNat_natCast h.maxVerificationAttempts) <|
    optionalField_bind rfl (orNone_jsonOptional (fun _ ↦ nofun) h.nextVerificationAt) <|
    optionalField_bind rfl hresult <|
    optionalField_bind rfl (orNone_jsonOptional (fun _ ↦ nofun) h.executionPrecondition) <|
    optionalField_bind rfl (orNone_jsonOptional (fun _ ↦ nofun) h.supersededBy) <|
    optionalField_bind rfl (orNone_jsonOptional (fun _ ↦ nofun) h.erasurePendingAt) <|
    optionalField_bind rfl (orNone_jsonOptional (fun _ ↦ nofun) h.erasedAt) rfl

/-- Whether a record is read back can be computed. -/
instance StoredProposal.decidableReadsBack (proposal : StoredProposal) :
    Decidable proposal.ReadsBack :=
  decidable_of_iff
    ((∀ payload ∈ proposal.protectedPrivateSnapshot,
        protectedPayload (.dict (protectedPayloadDump payload)) = some payload) ∧
      (∀ commitment ∈ proposal.commitment,
        keyedCommitment (.dict (keyedCommitmentDump commitment)) = some commitment) ∧
      (∀ principal ∈ proposal.requestingPrincipal, PydanticValues.requestingPrincipal
        (participantDump "requesting_principal" principal.reference) = some principal) ∧
      (∀ agent ∈ proposal.proposingAgent,
        PydanticValues.proposingAgent (participantDump "proposing_agent" agent.reference) =
          some agent) ∧
      (∀ evidence ∈ proposal.authorityEvidence,
        PydanticValues.authorityEvidence (.dict (authorityEvidenceDump evidence)) =
          some evidence) ∧
      (∀ value ∈ proposal.receipts, receipt (.dict (receiptDump value)) = some value) ∧
      1 ≤ proposal.maxVerificationAttempts ∧
      (∀ reference ∈ proposal.executionPrecondition,
        safeReference (jsonText reference) = some reference) ∧
      (∀ reference ∈ proposal.supersededBy,
        safeReference (jsonText reference) = some reference) ∧
      (∀ t ∈ proposal.erasurePendingAt, datetime (.str (datetimeDump t)) = some t) ∧
      (∀ t ∈ proposal.erasedAt, datetime (.str (datetimeDump t)) = some t) ∧
      safeReference (jsonText proposal.tenantReference) = some proposal.tenantReference ∧
      safeReference (jsonText proposal.proposalReference) = some proposal.proposalReference ∧
      actionType? proposal.actionType.dump = some proposal.actionType ∧
      safeReference (jsonText proposal.semanticEffectReference) =
        some proposal.semanticEffectReference ∧
      datetime (.str (datetimeDump proposal.createdAt)) = some proposal.createdAt ∧
      datetime (.str (datetimeDump proposal.expiresAt)) = some proposal.expiresAt ∧
      ∀ t ∈ proposal.nextVerificationAt, datetime (.str (datetimeDump t)) = some t)
    ⟨fun ⟨h₁, h₂, h₃, h₄, h₅, h₆, h₇, h₈, h₉, h₁₀, h₁₁, h₁₂, h₁₃, h₁₄, h₁₅, h₁₆, h₁₇, h₁₈⟩ ↦
      ⟨⟨h₁, h₂, h₃, h₄, h₅, h₆, h₇, h₈, h₉, h₁₀, h₁₁⟩, h₁₂, h₁₃, h₁₄, h₁₅, h₁₆, h₁₇, h₁₈⟩,
    fun h ↦ ⟨h.protectedPrivateSnapshot, h.commitment, h.requestingPrincipal, h.proposingAgent,
      h.authorityEvidence, h.receipts, h.maxVerificationAttempts, h.executionPrecondition,
      h.supersededBy, h.erasurePendingAt, h.erasedAt, h.tenantReference, h.proposalReference,
      h.actionType, h.semanticEffectReference, h.createdAt, h.expiresAt, h.nextVerificationAt⟩⟩

variable {proposal : StoredProposal} {t : Timestamp}

theorem StoredProposal.ReadsBack.storedForm (h : proposal.ReadsBack) :
    (PostgresTables.storedForm proposal).ReadsBack :=
  ⟨⟨h.protectedPrivateSnapshot, h.commitment, h.requestingPrincipal, h.proposingAgent,
    h.authorityEvidence, h.receipts, h.maxVerificationAttempts, h.executionPrecondition,
    h.supersededBy, h.erasurePendingAt, h.erasedAt⟩, h.tenantReference, h.proposalReference,
    h.actionType, h.semanticEffectReference, h.createdAt, h.expiresAt, h.nextVerificationAt⟩

theorem StoredProposal.ReadsBack.pending (h : proposal.ReadsBack)
    (ht : datetime (.str (datetimeDump t)) = some t) :
    (proposalWithErasurePending proposal t).ReadsBack := by
  refine ⟨⟨h.protectedPrivateSnapshot, h.commitment, h.requestingPrincipal, h.proposingAgent,
    h.authorityEvidence, h.receipts, h.maxVerificationAttempts, h.executionPrecondition,
    h.supersededBy, fun s hs ↦ ?_, h.erasedAt⟩, h.tenantReference, h.proposalReference,
    h.actionType, h.semanticEffectReference, h.createdAt, h.expiresAt, h.nextVerificationAt⟩
  cases hs
  exact ht

theorem StoredProposal.ReadsBack.erased (h : proposal.ReadsBack)
    (ht : datetime (.str (datetimeDump t)) = some t) : (erasedProposal proposal t).ReadsBack := by
  refine ⟨⟨nofun, nofun, nofun, nofun, List.forall_mem_nil _, List.forall_mem_nil _,
    h.maxVerificationAttempts, nofun, h.supersededBy, nofun, fun s hs ↦ ?_⟩, h.tenantReference,
    h.proposalReference, h.actionType, h.semanticEffectReference, h.createdAt, h.expiresAt, nofun⟩
  cases hs
  exact ht

end Documents

/-! ## Rows -/

theorem mem_transitions_iff {old new : LifecycleStatus} :
    (old, new) ∈ SqliteRow.transitions ↔ new ∈ allowedLifecycleTransitions old := by
  cases old <;> cases new <;> decide

/-- Pydantic's laws: what it accepts it reads back from what it writes, and whether it accepts a
record is a matter of the values of its fields. -/
class LawfulSqliteHost [SqliteHost] : Prop where
  readsBack : ∀ {proposal : StoredProposal}, isValid proposal = true → proposal.ReadsBack
  valid_storedForm : ∀ {proposal : StoredProposal}, isValid proposal = true →
    isValid (storedForm proposal) = true
  valid_pending : ∀ {proposal : StoredProposal} (t : Timestamp), isValid proposal = true →
    isValid (proposalWithErasurePending proposal t) = true
  valid_erased : ∀ {proposal : StoredProposal} (t : Timestamp), isValid proposal = true →
    isValid (erasedProposal proposal t) = true

section Rows

variable [SqliteHost]

/-- Why a valid record cannot be stored. -/
inductive Unwritable (proposal : StoredProposal) : Exn → Prop
  | surrogate (h : surrogateFree (.dict (proposalData proposal)) = false) :
    Unwritable proposal (.host "PydanticSerializationError")
  | overflow (h : bigintMax < proposal.actionType.version ∨ bigintMax < proposal.revision) :
    Unwritable proposal (.host "OverflowError")
  | invalidJson (h : jsonValid (proposalData proposal) = false) :
    Unwritable proposal (.host "IntegrityError")

theorem modelDumpJson_error {proposal : StoredProposal} {e : Exn}
    (h : proposal.modelDumpJson = .error e) : Unwritable proposal e := by
  rw [StoredProposal.modelDumpJson] at h
  split_ifs at h with hsurrogate
  cases h
  exact .surrogate (Bool.not_eq_true _ ▸ hsurrogate)

theorem modelDumpJson_ok {proposal : StoredProposal} {data : JsonObject}
    (h : proposal.modelDumpJson = .ok data) : data = proposalData proposal := by
  rw [StoredProposal.modelDumpJson] at h
  split_ifs at h
  cases h
  rfl

namespace SqliteRow

/-- The columns repeat the fields of the record, and the document is what is written of it. -/
structure Repeats (row : SqliteRow) (proposal : StoredProposal) : Prop where
  actionType : row.actionType = proposal.actionType
  semanticEffectReference : row.semanticEffectReference = proposal.semanticEffectReference
  effectKind : row.effectKind = proposal.effectKind
  lifecycleStatus : row.lifecycleStatus = proposal.lifecycleStatus
  revision : row.revision = proposal.revision
  createdAt : row.createdAt = isoformat proposal.createdAt
  expiresAt : row.expiresAt = isoformat proposal.expiresAt
  proposalData : row.proposalData = ThrevoActions.proposalData proposal

/-- A row on file says a record that is valid and is stored as it is. -/
structure Filed (row : SqliteRow) (proposal : StoredProposal) : Prop extends
    row.Repeats proposal where
  valid : isValid proposal = true
  stored : storedForm proposal = proposal
  version_le : proposal.actionType.version ≤ bigintMax
  revision_le : proposal.revision ≤ bigintMax

variable {row : SqliteRow} {proposal : StoredProposal}

theorem Repeats.storedForm (h : row.Repeats proposal) :
    row.Repeats (PostgresTables.storedForm proposal) :=
  ⟨h.actionType, h.semanticEffectReference, h.effectKind, h.lifecycleStatus, h.revision,
    h.createdAt, h.expiresAt, h.proposalData.trans (proposalData_storedForm proposal).symm⟩

/-- The columns pass the checks of the table. -/
theorem Repeats.check (h : row.Repeats proposal) :
    row.check proposal.key = jsonValid (ThrevoActions.proposalData proposal) := by
  obtain ⟨haction, heffect, hkind, hstatus, hrevision, -, -, hdata⟩ := h
  have hagrees : ∀ {path : List String} {column : JsonValue},
      jsonExtract (ThrevoActions.proposalData proposal) path = some column →
      Json.equals column column = true →
      agrees (ThrevoActions.proposalData proposal) path column = true := by
    intro path column hextract hequals
    rw [agrees, hextract]
    cases column <;> first | rfl | exact hequals
  have htext : ∀ text : String, Json.equals (jsonText text) (jsonText text) = true :=
    fun text ↦ beq_self_eq_true _
  have hint : ∀ n : ℤ, Json.equals (.int n) (.int n) = true := fun n ↦ beq_self_eq_true n
  rw [SqliteRow.check, hdata, haction, heffect, hkind, hstatus, hrevision,
    hagrees rfl (htext _), hagrees rfl (htext _), hagrees rfl (htext _), hagrees rfl (htext _),
    hagrees rfl (hint _), hagrees rfl (htext _), hagrees rfl (htext _), hagrees rfl (htext _),
    hagrees rfl (hint _)]
  simp only [Bool.and_true]

/-- A row on file is the one that an insertion of its record would make. -/
theorem Filed.eq_newRow (h : row.Filed proposal) :
    row = SqliteActionStore.newRow proposal (ThrevoActions.proposalData proposal) := by
  obtain ⟨haction, heffect, hkind, hstatus, hrevision, hcreated, hexpires, hdata⟩ := h.toRepeats
  cases row
  simp only [SqliteActionStore.newRow, SqliteRow.mk.injEq]
  exact ⟨haction, heffect, hkind, hstatus, hrevision, hcreated, hexpires, hdata⟩

/-- **Loading.** A row on file is loaded as its record, unless the parser refuses its document. -/
theorem Filed.loaded [LawfulSqliteHost] (h : row.Filed proposal) :
    SqliteStoreBase.loaded proposal.key (some row) =
      if withinLimits (.dict (ThrevoActions.proposalData proposal)) then .ok (some proposal)
      else .error (.host "SQLiteStoredDataCorruptionError") := by
  rw [SqliteStoreBase.loaded, StoredProposal.modelValidateJson, h.proposalData]
  by_cases hlimits : withinLimits (.dict (ThrevoActions.proposalData proposal)) = true
  · have hread := (LawfulSqliteHost.readsBack h.valid).validateFields
    rw [h.stored] at hread
    rw [if_pos hlimits, if_pos hlimits, hread]
    exact if_pos ⟨rfl, h.actionType, h.semanticEffectReference, h.effectKind, h.lifecycleStatus,
      h.revision, h.createdAt, h.expiresAt⟩
  · rw [if_neg hlimits, if_neg hlimits]

end SqliteRow

end Rows

end ThrevoActions
