import ThrevoActions.FrozenJson
import ThrevoActions.Json.Fields

/-!
# Importing evidence bundles

`model_validate_json` on the text of an exported bundle: the validators of the bundle and of the
models it nests, each against the form in which the model is dumped. A bundle is imported as it was
exported, with its digest.
-/

namespace ThrevoActions

open JsonValue PydanticJson

/-- What Pydantic writes and reads of a bundle besides. -/
class PydanticImport extends PydanticJson, ReferenceCharacters where
  /-- The JSON text of a dumped model. -/
  toJson : JsonValue → PyStr
  /-- A JSON string as a datetime. -/
  datetime : PyStr → Option Timestamp

/-! ## Validators -/

section Validators

def validateBool : JsonValue → Option Bool
  | .bool b => some b
  | _ => none

/-- `^[a-f0-9]{64}$`. -/
def isHexDigest (s : PyStr) : Bool :=
  decide (s.length = 64) && s.all fun c ↦
    decide (0x30 ≤ c.val ∧ c.val ≤ 0x39 ∨ 0x61 ≤ c.val ∧ c.val ≤ 0x66)

def contentDigest? : JsonValue → Option String
  | .str s => if isHexDigest s then s.text? else none
  | _ => none

def effectKinds : List EffectKind := [.single, .itemized]

def lifecycleStatuses : List LifecycleStatus :=
  [.awaitingAuthority, .denied, .expired, .authorized, .blocked, .stale, .superseded, .executing,
    .failedKnown, .failedUnknown, .verificationPending, .verificationUnresolved,
    .partiallySucceeded, .verified]

def proposalReceiptStatuses : List ProposalReceiptStatus := [.prepared, .failed, .missing]

def authorityReceiptStatuses : List AuthorityReceiptStatus :=
  [.recorded, .rejected, .failed, .missing]

def executionReceiptStatuses : List ExecutionReceiptStatus :=
  [.started, .accepted, .partiallySucceeded, .staleNoEffect, .failedKnown, .failedUnknown, .missing]

def verificationReceiptStatuses : List VerificationReceiptStatus :=
  [.verifiedCompletion, .verifiedTerminalFailure, .provisionalAbsence, .authoritativeFinalAbsence,
    .targetUnavailable, .verificationUnresolved, .missing]

def recoveryReceiptStatuses : List RecoveryReceiptStatus := [.verificationResumed]

def itemOutcomeStatuses : List ItemOutcomeStatus := [.succeeded, .failedKnown, .failedUnknown]

def authorityDecisions : List AuthorityDecision := [.approve, .reject]

def evidenceOmissionMembers : List EvidenceOmission :=
  [.privateSnapshot, .protectedPayload, .commitmentAndCustody, .replayableAuthorityEvidence,
    .erasedSourceEvidence, .legacyRuntimeAttribution, .historicalAuthorityUnavailable]

section References

variable [ReferenceCharacters]

/-- A participant with the literal `kind`. -/
def participant? (kind : String) (value : JsonValue) : Option SafeReference := do
  let fields ← strictFields ["kind", "reference"] value
  optionalField fields "kind" () (literalText kind)
  requiredField fields "reference" safeReference?

def ExternalReference.validate (value : JsonValue) : Option ExternalReference := do
  let fields ← strictFields ["system", "reference"] value
  return ⟨← requiredField fields "system" safeReference?,
    ← requiredField fields "reference" safeReference?⟩

def ItemOutcome.validate (value : JsonValue) : Option ItemOutcome := do
  let fields ← strictFields ["item_reference", "status", "reason_code"] value
  return ⟨← requiredField fields "item_reference" safeReference?,
    ← requiredField fields "status" (enumOf itemOutcomeStatuses ItemOutcomeStatus.value),
    ← optionalField fields "reason_code" none (orNone safeReference?)⟩

def ExternalAuthorityAttestation.validate (value : JsonValue) :
    Option ExternalAuthorityAttestation := do
  let fields ← strictFields
    ["format", "issuer_reference", "artifact_reference", "artifact_digest"] value
  return ⟨← requiredField fields "format" safeReference?,
    ← requiredField fields "issuer_reference" safeReference?,
    ← requiredField fields "artifact_reference" safeReference?,
    ← requiredField fields "artifact_digest" safeReference?⟩

end References

variable [PydanticImport]

def validateDatetime : JsonValue → Option Timestamp
  | .str s => PydanticImport.datetime s
  | _ => none

/-- The fields of `_ReceiptBase`. -/
def receiptBaseFields : List String :=
  ["schema_version", "receipt_reference", "correlation_reference", "causation_reference",
    "observed_at", "runtime_revision", "external_reference", "corrects_receipt_reference",
    "supersedes_receipt_reference", "reason_code"]

def ReceiptBase.validate (fields : JsonObject) : Option ReceiptBase := do
  optionalField fields "schema_version" () (literalText "internal/v0")
  return ⟨← requiredField fields "receipt_reference" safeReference?,
    ← requiredField fields "correlation_reference" safeReference?,
    ← requiredField fields "causation_reference" safeReference?,
    ← requiredField fields "observed_at" validateDatetime,
    ← optionalField fields "runtime_revision" none (orNone safeReference?),
    ← optionalField fields "external_reference" none (orNone ExternalReference.validate),
    ← optionalField fields "corrects_receipt_reference" none (orNone safeReference?),
    ← optionalField fields "supersedes_receipt_reference" none (orNone safeReference?),
    ← optionalField fields "reason_code" none (orNone safeReference?)⟩

def ProposalReceipt.validate (value : JsonValue) : Option ProposalReceipt := do
  let fields ← strictFields (receiptBaseFields ++
    ["receipt_type", "status", "requesting_principal", "proposing_agent"]) value
  let base ← ReceiptBase.validate fields
  let status ← requiredField fields "status"
    (enumOf proposalReceiptStatuses ProposalReceiptStatus.value)
  let principal ← requiredField fields "requesting_principal" (participant? "requesting_principal")
  let agent ← optionalField fields "proposing_agent" none (orNone (participant? "proposing_agent"))
  return ⟨base, status, ⟨principal⟩, agent.map ProposingAgent.mk⟩

def AuthorityReceipt.validate (value : JsonValue) : Option AuthorityReceipt := do
  let fields ← strictFields (receiptBaseFields ++ ["receipt_type", "status", "participant"]) value
  let base ← ReceiptBase.validate fields
  let status ← requiredField fields "status"
    (enumOf authorityReceiptStatuses AuthorityReceiptStatus.value)
  return ⟨base, status, ⟨← requiredField fields "participant" (participant? "confirming_authority")⟩⟩

def ExecutionReceipt.validate (value : JsonValue) : Option ExecutionReceipt := do
  let fields ← strictFields (receiptBaseFields ++
    ["receipt_type", "status", "participant", "item_outcomes"]) value
  let base ← ReceiptBase.validate fields
  let status ← requiredField fields "status"
    (enumOf executionReceiptStatuses ExecutionReceiptStatus.value)
  let participant ← requiredField fields "participant" (participant? "governed_executor")
  let itemOutcomes ← optionalField fields "item_outcomes" [] (listOf ItemOutcome.validate)
  return ⟨base, status, ⟨participant⟩, itemOutcomes⟩

def VerificationReceipt.validate (value : JsonValue) : Option VerificationReceipt := do
  let fields ← strictFields (receiptBaseFields ++
    ["receipt_type", "status", "participant", "item_outcomes"]) value
  let base ← ReceiptBase.validate fields
  let status ← requiredField fields "status"
    (enumOf verificationReceiptStatuses VerificationReceiptStatus.value)
  let participant ← requiredField fields "participant" (participant? "authoritative_target")
  let itemOutcomes ← optionalField fields "item_outcomes" [] (listOf ItemOutcome.validate)
  return ⟨base, status, ⟨participant⟩, itemOutcomes⟩

def RecoveryReceipt.validate (value : JsonValue) : Option RecoveryReceipt := do
  let fields ← strictFields (receiptBaseFields ++ ["receipt_type", "status", "participant"]) value
  let base ← ReceiptBase.validate fields
  let status ← requiredField fields "status"
    (enumOf recoveryReceiptStatuses RecoveryReceiptStatus.value)
  return ⟨base, status, ⟨← requiredField fields "participant" (participant? "recovery_operator")⟩⟩

/-- The families of receipts, told apart by `receipt_type`. -/
inductive ReceiptType
  | proposal
  | authority
  | execution
  | verification
  | recovery
  deriving DecidableEq

def ReceiptType.value : ReceiptType → String
  | .proposal => "proposal"
  | .authority => "authority"
  | .execution => "execution"
  | .verification => "verification"
  | .recovery => "recovery"

def receiptTypes : List ReceiptType :=
  [.proposal, .authority, .execution, .verification, .recovery]

/-- The tagged union `Receipt`. -/
def Receipt.validate (value : JsonValue) : Option Receipt := do
  let fields ← validateJsonObject value
  match ← requiredField fields "receipt_type" (enumOf receiptTypes ReceiptType.value) with
  | .proposal => return .proposal (← ProposalReceipt.validate value)
  | .authority => return .authority (← AuthorityReceipt.validate value)
  | .execution => return .execution (← ExecutionReceipt.validate value)
  | .verification => return .verification (← VerificationReceipt.validate value)
  | .recovery => return .recovery (← RecoveryReceipt.validate value)

def EvidenceAuthoritySummary.validate (value : JsonValue) : Option EvidenceAuthoritySummary := do
  let fields ← strictFields ["authority_reference", "decision", "audience", "channel_assurance",
    "issued_at", "expires_at", "external_attestation"] value
  return ⟨← requiredField fields "authority_reference" safeReference?,
    ← requiredField fields "decision" (enumOf authorityDecisions AuthorityDecision.value),
    ← requiredField fields "audience" (listOf safeReference?),
    ← requiredField fields "channel_assurance" safeReference?,
    ← requiredField fields "issued_at" validateDatetime,
    ← requiredField fields "expires_at" validateDatetime,
    ← optionalField fields "external_attestation" none
      (orNone ExternalAuthorityAttestation.validate)⟩

variable [UnicodeNormalization]

/-- A mapping is frozen; nothing else is accepted from JSON. -/
def FrozenJsonObject.validate (value : JsonValue) : Option FrozenJsonObject := do
  let object ← validateJsonObject value
  (FrozenJsonObject.fromMapping object).toOption

/-- The fields of `ActionEvidenceBundle`. -/
def bundleFields : List String :=
  ["schema_version", "authenticity", "exported_at", "exporter_runtime_revision",
    "proposal_reference", "action_type", "semantic_effect_reference", "effect_kind",
    "source_revision", "lifecycle_status", "created_at", "expires_at", "erased", "display_preview",
    "safe_result", "authority_summaries", "receipts", "embedded_receipt_schema_versions", "omitted",
    "content_digest"]

def ActionEvidenceBundle.validate (value : JsonValue) : Option ActionEvidenceBundle := do
  let fields ← strictFields bundleFields value
  optionalField fields "schema_version" () (literalText "threvo.actions.evidence/v1")
  optionalField fields "authenticity" () (literalText "unsigned_host_projection")
  return {
    exportedAt := ← requiredField fields "exported_at" validateDatetime
    exporterRuntimeRevision := ← requiredField fields "exporter_runtime_revision" safeReference?
    proposalReference := ← requiredField fields "proposal_reference" safeReference?
    actionType := ← requiredField fields "action_type" actionType?
    semanticEffectReference := ← requiredField fields "semantic_effect_reference" safeReference?
    effectKind := ← requiredField fields "effect_kind" (enumOf effectKinds EffectKind.value)
    sourceRevision := ← requiredField fields "source_revision" (validateNat 0)
    lifecycleStatus := ← requiredField fields "lifecycle_status"
      (enumOf lifecycleStatuses LifecycleStatus.value)
    createdAt := ← requiredField fields "created_at" validateDatetime
    expiresAt := ← requiredField fields "expires_at" validateDatetime
    erased := ← requiredField fields "erased" validateBool
    displayPreview := ← requiredField fields "display_preview" FrozenJsonObject.validate
    safeResult := ← optionalField fields "safe_result" none (orNone FrozenJsonObject.validate)
    authoritySummaries := ← optionalField fields "authority_summaries" []
      (listOf EvidenceAuthoritySummary.validate)
    receipts := ← optionalField fields "receipts" [] (listOf Receipt.validate)
    embeddedReceiptSchemaVersions := ← optionalField fields "embedded_receipt_schema_versions" []
      (listOf safeReference?)
    omitted := ← requiredField fields "omitted"
      (listOf (enumOf evidenceOmissionMembers EvidenceOmission.value))
    contentDigest := ← requiredField fields "content_digest" contentDigest? }

/-- `bundle.model_dump(mode="json")`. -/
def ActionEvidenceBundle.modelDump (bundle : ActionEvidenceBundle) : Except Exn JsonObject := do
  return (← digestPayload bundle) ++ [jsonField "content_digest" (jsonText bundle.contentDigest)]

/-- `bundle.model_dump_json()`. -/
def ActionEvidenceBundle.modelDumpJson (bundle : ActionEvidenceBundle) : Except Exn PyStr := do
  return PydanticImport.toJson (.dict (← bundle.modelDump))

/-- `ActionEvidenceBundle.model_validate_json(text)`. -/
def ActionEvidenceBundle.modelValidateJson (text : PyStr) : Except Exn ActionEvidenceBundle := do
  let value ← validateJson text
  match ActionEvidenceBundle.validate value with
  | some bundle => return bundle
  | none => throw .validationError

end Validators

/-! ## Well-formed values

The references of a validated model satisfy the syntax of references. -/

section WellFormed

variable [ReferenceCharacters]

structure ExternalReference.WellFormed (reference : ExternalReference) : Prop where
  system : IsReference reference.system
  reference : IsReference reference.reference

structure ItemOutcome.WellFormed (item : ItemOutcome) : Prop where
  itemReference : IsReference item.itemReference
  reasonCode : ∀ code ∈ item.reasonCode, IsReference code

structure ExternalAuthorityAttestation.WellFormed (attestation : ExternalAuthorityAttestation) :
    Prop where
  format : IsReference attestation.format
  issuerReference : IsReference attestation.issuerReference
  artifactReference : IsReference attestation.artifactReference
  artifactDigest : IsReference attestation.artifactDigest

structure ReceiptBase.WellFormed (base : ReceiptBase) : Prop where
  receiptReference : IsReference base.receiptReference
  correlationReference : IsReference base.correlationReference
  causationReference : IsReference base.causationReference
  runtimeRevision : ∀ revision ∈ base.runtimeRevision, IsReference revision
  externalReference : ∀ reference ∈ base.externalReference, reference.WellFormed
  correctsReceiptReference : ∀ reference ∈ base.correctsReceiptReference, IsReference reference
  supersedesReceiptReference : ∀ reference ∈ base.supersedesReceiptReference, IsReference reference
  reasonCode : ∀ code ∈ base.reasonCode, IsReference code

/-- The references a receipt has besides those of the base. -/
def Receipt.OwnReferences : Receipt → Prop
  | .proposal r => IsReference r.requestingPrincipal.reference ∧
    ∀ agent ∈ r.proposingAgent, IsReference agent.reference
  | .authority r => IsReference r.participant.reference
  | .execution r => IsReference r.participant.reference ∧ ∀ item ∈ r.itemOutcomes, item.WellFormed
  | .verification r =>
    IsReference r.participant.reference ∧ ∀ item ∈ r.itemOutcomes, item.WellFormed
  | .recovery r => IsReference r.participant.reference

structure Receipt.WellFormed (receipt : Receipt) : Prop where
  base : receipt.base.WellFormed
  own : receipt.OwnReferences

structure EvidenceAuthoritySummary.WellFormed (summary : EvidenceAuthoritySummary) : Prop where
  authorityReference : IsReference summary.authorityReference
  audience : ∀ reference ∈ summary.audience, IsReference reference
  channelAssurance : IsReference summary.channelAssurance
  externalAttestation : ∀ attestation ∈ summary.externalAttestation, attestation.WellFormed

end WellFormed

/-! ## Reading back -/

section ReadBack

/-- A member of an enumeration is read by its value. -/
theorem enumOf_value {α : Type} {members : List α} {text : α → String}
    (hnodup : (members.map text).Nodup) {a : α} (ha : a ∈ members) :
    enumOf members text (jsonText (text a)) = some a := by
  have hsome : (enumOf members text (jsonText (text a))).isSome = true :=
    List.find?_isSome.mpr ⟨a, ha, decide_eq_true rfl⟩
  obtain ⟨b, hb⟩ := Option.isSome_iff_exists.mp hsome
  have hfound := List.find?_some hb
  have htext : jsonText (text a) = jsonText (text b) := of_decide_eq_true hfound
  have hvalue : text a = text b := ofString_injective (JsonValue.str.inj htext)
  rw [hb, List.inj_on_of_nodup_map hnodup ha (List.mem_of_find?_eq_some hb) hvalue]

theorem itemOutcomeStatus_read (status : ItemOutcomeStatus) :
    enumOf itemOutcomeStatuses ItemOutcomeStatus.value (jsonText status.value) = some status :=
  enumOf_value (by decide) (by cases status <;> decide)

theorem actionType_read {actionType : ActionType} (h : actionType.IsNamed) :
    actionType? actionType.dump = some actionType := by
  rw [actionType?, ActionType.dump, strictFields_of_keys rfl]
  simp only [metadataField, jsonText, lookup_jsonField_cons, String.reduceEq, if_true, if_false,
    Option.bind_some, Option.bind_eq_bind, h.1, h.2, and_self, Int.toNat_natCast,
    actionType.version_pos, dif_pos, PyStr.text?_ofString]
  rfl

theorem validateBool_bool (b : Bool) : validateBool (.bool b) = some b := rfl

theorem jsonText_ne_null (text : String) : jsonText text ≠ .null := nofun

section References

variable [ReferenceCharacters]

theorem participant_read {kind : String} {reference : SafeReference} (h : IsReference reference) :
    participant? kind (participantDump kind reference) = some reference := by
  rw [participant?, participantDump, strictFields_of_keys rfl]
  simp only [optionalField, requiredField, lookup_jsonField_cons, String.reduceEq, if_true, if_false,
    Option.elim_some, Option.bind_some, literalText_self, h.read, Option.bind_eq_bind]

theorem optionalReference_read {reference : Option SafeReference}
    (h : ∀ text ∈ reference, IsReference text) :
    orNone safeReference? (jsonOptional jsonText reference) = some reference :=
  orNone_jsonOptional jsonText_ne_null fun text htext ↦ (h text htext).read

theorem ExternalReference.validate_dump {reference : ExternalReference}
    (h : reference.WellFormed) : ExternalReference.validate reference.dump = some reference := by
  rw [ExternalReference.validate, ExternalReference.dump, strictFields_of_keys rfl]
  simp only [requiredField, lookup_jsonField_cons, String.reduceEq, if_true, if_false,
    Option.bind_some, h.system.read, h.reference.read, Option.bind_eq_bind]
  rfl

theorem ItemOutcome.validate_dump {item : ItemOutcome} (h : item.WellFormed) :
    ItemOutcome.validate item.dump = some item := by
  rw [ItemOutcome.validate, ItemOutcome.dump, strictFields_of_keys rfl]
  simp only [requiredField, optionalField, lookup_jsonField_cons, String.reduceEq, if_true, if_false,
    Option.elim_some, Option.bind_some, h.itemReference.read, itemOutcomeStatus_read,
    optionalReference_read h.reasonCode, Option.bind_eq_bind]
  rfl

theorem itemOutcomes_read {items : List ItemOutcome}
    (h : ∀ item ∈ items, item.WellFormed) :
    listOf ItemOutcome.validate (.list (items.map ItemOutcome.dump)) = some items :=
  listOf_map fun item hitem ↦ ItemOutcome.validate_dump (h item hitem)

theorem ExternalAuthorityAttestation.validate_dump {attestation : ExternalAuthorityAttestation}
    (h : attestation.WellFormed) :
    ExternalAuthorityAttestation.validate attestation.dump = some attestation := by
  rw [ExternalAuthorityAttestation.validate, ExternalAuthorityAttestation.dump,
    strictFields_of_keys rfl]
  simp only [requiredField, lookup_jsonField_cons, String.reduceEq, if_true, if_false,
    Option.bind_some, h.format.read, h.issuerReference.read, h.artifactReference.read,
    h.artifactDigest.read, Option.bind_eq_bind]
  rfl

end References

/-! ### Receipts -/

section Receipts

variable [PydanticImport]

/-- What Pydantic writes and reads of timestamps. -/
def ReadsTimestamps : Prop :=
  ∀ t : Timestamp, PydanticImport.datetime (datetimeText t) = some t

/-- The field is one the receipt family adds to the base. -/
theorem lookup_ownField {base : ReceiptBase} {version : SafeReference} {own : JsonObject}
    {name : String} (h : name ∉ receiptBaseFields) :
    (base.dump version ++ own).lookup (PyStr.ofString name) = own.lookup (PyStr.ofString name) := by
  simp only [receiptBaseFields, List.mem_cons, List.not_mem_nil, or_false, not_or] at h
  simp only [ReceiptBase.dump, List.cons_append, List.nil_append, lookup_jsonField_cons, h, if_false]

theorem requiredField_own {α : Type} {base : ReceiptBase} {version : SafeReference}
    {own : JsonObject} {name : String} {validate : JsonValue → Option α}
    (h : name ∉ receiptBaseFields) :
    requiredField (base.dump version ++ own) name validate = requiredField own name validate :=
  requiredField_of_lookup (lookup_ownField h)

theorem optionalField_own {α : Type} {base : ReceiptBase} {version : SafeReference}
    {own : JsonObject} {name : String} {default : α} {validate : JsonValue → Option α}
    (h : name ∉ receiptBaseFields) :
    optionalField (base.dump version ++ own) name default validate =
      optionalField own name default validate :=
  optionalField_of_lookup (lookup_ownField h)

variable (hdatetime : ReadsTimestamps)

include hdatetime

theorem timestamp_read (t : Timestamp) : validateDatetime (.str (datetimeText t)) = some t :=
  hdatetime t

theorem ReceiptBase.validate_dump {base : ReceiptBase} (h : base.WellFormed) (own : JsonObject) :
    ReceiptBase.validate (base.dump "internal/v0" ++ own) = some base := by
  have hexternal : orNone ExternalReference.validate
      (jsonOptional ExternalReference.dump base.externalReference) = some base.externalReference :=
    orNone_jsonOptional nofun fun reference hreference ↦
      ExternalReference.validate_dump (h.externalReference reference hreference)
  rw [ReceiptBase.validate, ReceiptBase.dump]
  simp only [List.cons_append, List.nil_append, requiredField, optionalField,
    lookup_jsonField_cons, String.reduceEq, if_true, if_false, Option.elim_some, Option.bind_some,
    literalText_self, h.receiptReference.read, h.correlationReference.read,
    h.causationReference.read, timestamp_read hdatetime, optionalReference_read h.runtimeRevision,
    hexternal, optionalReference_read h.correctsReceiptReference,
    optionalReference_read h.supersedesReceiptReference, optionalReference_read h.reasonCode,
    Option.bind_eq_bind]
  rfl

omit hdatetime in
theorem proposingAgent_read {agent : Option ProposingAgent}
    (h : ∀ a ∈ agent, IsReference a.reference) :
    orNone (participant? "proposing_agent")
      (jsonOptional (fun a : ProposingAgent ↦ participantDump "proposing_agent" a.reference) agent) =
        some (agent.map ProposingAgent.reference) := by
  cases agent with
  | none => rfl
  | some a =>
    rw [jsonOptional, orNone, participant_read (h a rfl)]
    · rfl
    · rintro ⟨⟩

theorem ProposalReceipt.validate_dump {receipt : ProposalReceipt}
    (h : (Receipt.proposal receipt).WellFormed) :
    ProposalReceipt.validate (Receipt.proposal receipt).dump = some receipt := by
  have hstatus : enumOf proposalReceiptStatuses ProposalReceiptStatus.value
      (jsonText receipt.status.value) = some receipt.status :=
    enumOf_value (by decide) (by cases receipt.status <;> decide)
  rw [ProposalReceipt.validate, Receipt.dump, strictFields_of_keys rfl, Option.bind_eq_bind,
    Option.bind_some, Receipt.schemaVersion, ReceiptBase.validate_dump hdatetime h.base]
  rw [requiredField_own (by decide), requiredField_own (by decide), optionalField_own (by decide),
    Receipt.ownFields]
  simp only [requiredField, optionalField, lookup_jsonField_cons, String.reduceEq, if_true,
    if_false, Option.elim_some, Option.bind_some, hstatus, participant_read h.own.1,
    proposingAgent_read h.own.2, Option.bind_eq_bind]
  cases receipt with
  | mk base status principal agent => cases agent <;> rfl

theorem AuthorityReceipt.validate_dump {receipt : AuthorityReceipt}
    (h : (Receipt.authority receipt).WellFormed) :
    AuthorityReceipt.validate (Receipt.authority receipt).dump = some receipt := by
  have hstatus : enumOf authorityReceiptStatuses AuthorityReceiptStatus.value
      (jsonText receipt.status.value) = some receipt.status :=
    enumOf_value (by decide) (by cases receipt.status <;> decide)
  rw [AuthorityReceipt.validate, Receipt.dump, strictFields_of_keys rfl, Option.bind_eq_bind,
    Option.bind_some, Receipt.schemaVersion, ReceiptBase.validate_dump hdatetime h.base,
    requiredField_own (by decide), requiredField_own (by decide), Receipt.ownFields]
  simp only [requiredField, lookup_jsonField_cons, String.reduceEq, if_true, if_false,
    Option.bind_some, hstatus, participant_read h.own, Option.bind_eq_bind]
  rfl

theorem ExecutionReceipt.validate_dump {receipt : ExecutionReceipt}
    (h : (Receipt.execution receipt).WellFormed) :
    ExecutionReceipt.validate (Receipt.execution receipt).dump = some receipt := by
  have hstatus : enumOf executionReceiptStatuses ExecutionReceiptStatus.value
      (jsonText receipt.status.value) = some receipt.status :=
    enumOf_value (by decide) (by cases receipt.status <;> decide)
  rw [ExecutionReceipt.validate, Receipt.dump, strictFields_of_keys rfl, Option.bind_eq_bind,
    Option.bind_some, Receipt.schemaVersion, ReceiptBase.validate_dump hdatetime h.base,
    requiredField_own (by decide), requiredField_own (by decide), optionalField_own (by decide),
    Receipt.ownFields]
  simp only [requiredField, optionalField, lookup_jsonField_cons, String.reduceEq, if_true,
    if_false, Option.elim_some, Option.bind_some, hstatus, participant_read h.own.1,
    itemOutcomes_read h.own.2, Option.bind_eq_bind]
  rfl

theorem VerificationReceipt.validate_dump {receipt : VerificationReceipt}
    (h : (Receipt.verification receipt).WellFormed) :
    VerificationReceipt.validate (Receipt.verification receipt).dump = some receipt := by
  have hstatus : enumOf verificationReceiptStatuses VerificationReceiptStatus.value
      (jsonText receipt.status.value) = some receipt.status :=
    enumOf_value (by decide) (by cases receipt.status <;> decide)
  rw [VerificationReceipt.validate, Receipt.dump, strictFields_of_keys rfl, Option.bind_eq_bind,
    Option.bind_some, Receipt.schemaVersion, ReceiptBase.validate_dump hdatetime h.base,
    requiredField_own (by decide), requiredField_own (by decide), optionalField_own (by decide),
    Receipt.ownFields]
  simp only [requiredField, optionalField, lookup_jsonField_cons, String.reduceEq, if_true,
    if_false, Option.elim_some, Option.bind_some, hstatus, participant_read h.own.1,
    itemOutcomes_read h.own.2, Option.bind_eq_bind]
  rfl

theorem RecoveryReceipt.validate_dump {receipt : RecoveryReceipt}
    (h : (Receipt.recovery receipt).WellFormed) :
    RecoveryReceipt.validate (Receipt.recovery receipt).dump = some receipt := by
  have hstatus : enumOf recoveryReceiptStatuses RecoveryReceiptStatus.value
      (jsonText receipt.status.value) = some receipt.status :=
    enumOf_value (by decide) (List.mem_singleton.mpr rfl)
  rw [RecoveryReceipt.validate, Receipt.dump, strictFields_of_keys rfl, Option.bind_eq_bind,
    Option.bind_some, Receipt.schemaVersion, ReceiptBase.validate_dump hdatetime h.base,
    requiredField_own (by decide), requiredField_own (by decide), Receipt.ownFields]
  simp only [requiredField, lookup_jsonField_cons, String.reduceEq, if_true, if_false,
    Option.bind_some, hstatus, participant_read h.own, Option.bind_eq_bind]
  rfl

omit hdatetime in
/-- The family of a receipt is its `receipt_type`. -/
theorem receiptType_read (receipt : Receipt) (type : ReceiptType)
    (h : receipt.ownFields.lookup (PyStr.ofString "receipt_type") = some (jsonText type.value)) :
    requiredField (receipt.base.dump receipt.schemaVersion ++ receipt.ownFields) "receipt_type"
      (enumOf receiptTypes ReceiptType.value) = some type := by
  rw [requiredField_own (by decide), requiredField_of_lookup_eq_some h]
  exact enumOf_value (by decide) (by cases type <;> decide)

/-- A receipt of the tagged union is read as it was dumped. -/
theorem Receipt.validate_dump {receipt : Receipt} (h : receipt.WellFormed) :
    Receipt.validate receipt.dump = some receipt := by
  rw [Receipt.validate]
  cases receipt with
  | proposal r =>
    have hread := ProposalReceipt.validate_dump hdatetime h
    rw [Receipt.dump] at hread ⊢
    rw [validateJsonObject, Option.bind_eq_bind, Option.bind_some,
      receiptType_read (.proposal r) .proposal rfl]
    simp only [Option.bind_eq_bind, Option.bind_some, hread]
    rfl
  | authority r =>
    have hread := AuthorityReceipt.validate_dump hdatetime h
    rw [Receipt.dump] at hread ⊢
    rw [validateJsonObject, Option.bind_eq_bind, Option.bind_some,
      receiptType_read (.authority r) .authority rfl]
    simp only [Option.bind_eq_bind, Option.bind_some, hread]
    rfl
  | execution r =>
    have hread := ExecutionReceipt.validate_dump hdatetime h
    rw [Receipt.dump] at hread ⊢
    rw [validateJsonObject, Option.bind_eq_bind, Option.bind_some,
      receiptType_read (.execution r) .execution rfl]
    simp only [Option.bind_eq_bind, Option.bind_some, hread]
    rfl
  | verification r =>
    have hread := VerificationReceipt.validate_dump hdatetime h
    rw [Receipt.dump] at hread ⊢
    rw [validateJsonObject, Option.bind_eq_bind, Option.bind_some,
      receiptType_read (.verification r) .verification rfl]
    simp only [Option.bind_eq_bind, Option.bind_some, hread]
    rfl
  | recovery r =>
    have hread := RecoveryReceipt.validate_dump hdatetime h
    rw [Receipt.dump] at hread ⊢
    rw [validateJsonObject, Option.bind_eq_bind, Option.bind_some,
      receiptType_read (.recovery r) .recovery rfl]
    simp only [Option.bind_eq_bind, Option.bind_some, hread]
    rfl

/-! ### Authority summaries -/

theorem EvidenceAuthoritySummary.validate_dump {summary : EvidenceAuthoritySummary}
    (h : summary.WellFormed) : EvidenceAuthoritySummary.validate summary.dump = some summary := by
  have hdecision : enumOf authorityDecisions AuthorityDecision.value
      (jsonText summary.decision.value) = some summary.decision :=
    enumOf_value (by decide) (by cases summary.decision <;> decide)
  have haudience : listOf safeReference? (.list (summary.audience.map jsonText)) =
      some summary.audience := listOf_map fun text htext ↦ (h.audience text htext).read
  have hattestation : orNone ExternalAuthorityAttestation.validate
      (jsonOptional ExternalAuthorityAttestation.dump summary.externalAttestation) =
        some summary.externalAttestation :=
    orNone_jsonOptional nofun fun attestation hattestation ↦
      ExternalAuthorityAttestation.validate_dump (h.externalAttestation attestation hattestation)
  rw [EvidenceAuthoritySummary.validate, EvidenceAuthoritySummary.dump, strictFields_of_keys rfl]
  simp only [requiredField, optionalField, lookup_jsonField_cons, String.reduceEq, if_true, if_false,
    Option.elim_some, Option.bind_some, h.authorityReference.read, hdecision, haudience,
    h.channelAssurance.read, timestamp_read hdatetime, hattestation, Option.bind_eq_bind]
  rfl

end Receipts

end ReadBack

end ThrevoActions
