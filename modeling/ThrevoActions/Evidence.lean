import ThrevoActions.Json.Refusals
import ThrevoActions.Sha256
import ThrevoActions.Store.Base

/-!
# Evidence bundles

`evidence.py`: the minimized projection of one stored proposal revision, its digest, and the check
whether a bundle agrees with itself. The bundle carries no private state and no replayable
authority; the check establishes no authenticity.

Pydantic contributes two things to the digest, the JSON text of a timestamp and the parsing of JSON
text. They enter as the class `PydanticJson`.
-/

namespace ThrevoActions

/-- The texts of Pydantic that a bundle's digest depends on. -/
class PydanticJson where
  /-- The JSON text of a timestamp. -/
  datetimeText : Timestamp → PyStr
  /-- `TypeAdapter(JsonValue).validate_json`. -/
  validateJson : PyStr → Except Exn JsonValue

open PydanticJson

/-! ## Frozen JSON objects -/

/-- `_FrozenJsonEntry`: a name of at most 255 characters and a canonical value of at most a
mebi-character. The length of a text with surrogates cannot be taken. -/
structure FrozenJsonEntry where
  name : PyStr
  canonicalValue : PyStr
  name_encodable : name.encodable = true
  name_length : name.length ≤ 255
  canonicalValue_length : canonicalValue.length ≤ 1048576

/-- Deeply immutable JSON object that serializes as an ordinary JSON object. -/
structure FrozenJsonObject where
  entries : List FrozenJsonEntry := []

/-- `canonicalize_v1(item).decode()`: the text of the canonical form, if it has an encoding. -/
def canonicalText [UnicodeNormalization] (item : JsonValue) : Except Exn PyStr := do
  let normalized ← normalize item
  if !printable normalized then throw (.canonicalization "document is not canonical JSON")
  let _ ← encodeUtf8 (dumps normalized)
  return dumps normalized

def freezeEntry [UnicodeNormalization] (entry : PyStr × JsonValue) :
    Except Exn FrozenJsonEntry :=
  match canonicalText entry.2 with
  -- a `ValueError` inside a validator becomes a `ValidationError`
  | .error _ => .error .validationError
  | .ok text =>
    if hencodable : entry.1.encodable = true then
      if hname : entry.1.length ≤ 255 then
        if htext : text.length ≤ 1048576 then .ok ⟨entry.1, text, hencodable, hname, htext⟩
        else .error .validationError
      else .error .validationError
    else .error .validationError

/-- `FrozenJsonObject.from_mapping`. -/
def FrozenJsonObject.fromMapping [UnicodeNormalization] (value : JsonObject) :
    Except Exn FrozenJsonObject := do
  let entries ← (sortEntries value).mapM freezeEntry
  return ⟨entries⟩

/-- `serialize_object`. -/
def FrozenJsonObject.serializeObject [PydanticJson] (object : FrozenJsonObject) :
    Except Exn JsonObject :=
  object.entries.mapM fun entry ↦ do return (entry.name, ← validateJson entry.canonicalValue)

def FrozenJsonObject.isEmpty (object : FrozenJsonObject) : Bool := object.entries.isEmpty

/-! ## Bundles -/

inductive EvidenceOmission
  | privateSnapshot
  | protectedPayload
  | commitmentAndCustody
  | replayableAuthorityEvidence
  | erasedSourceEvidence
  | legacyRuntimeAttribution
  | historicalAuthorityUnavailable
  deriving DecidableEq, Repr

def EvidenceOmission.value : EvidenceOmission → String
  | .privateSnapshot => "private_snapshot"
  | .protectedPayload => "protected_payload"
  | .commitmentAndCustody => "commitment_and_custody"
  | .replayableAuthorityEvidence => "replayable_authority_evidence"
  | .erasedSourceEvidence => "erased_source_evidence"
  | .legacyRuntimeAttribution => "legacy_runtime_attribution"
  | .historicalAuthorityUnavailable => "historical_authority_unavailable"

/-- Non-replayable account of a recorded authority decision. -/
structure EvidenceAuthoritySummary where
  authorityReference : SafeReference
  decision : AuthorityDecision
  audience : List SafeReference
  channelAssurance : SafeReference
  issuedAt : Timestamp
  expiresAt : Timestamp
  externalAttestation : Option ExternalAuthorityAttestation := none

/-- Unsigned export of one authorized stored proposal revision. -/
structure ActionEvidenceBundle where
  exportedAt : Timestamp
  exporterRuntimeRevision : SafeReference
  proposalReference : SafeReference
  actionType : ActionType
  semanticEffectReference : SafeReference
  effectKind : EffectKind
  sourceRevision : ℕ
  lifecycleStatus : LifecycleStatus
  createdAt : Timestamp
  expiresAt : Timestamp
  erased : Bool
  displayPreview : FrozenJsonObject
  safeResult : Option FrozenJsonObject := none
  authoritySummaries : List EvidenceAuthoritySummary := []
  receipts : List Receipt := []
  embeddedReceiptSchemaVersions : List SafeReference := []
  omitted : List EvidenceOmission
  contentDigest : String

/-! ## The digest payload -/

section Payload

def participantDump (kind : String) (reference : SafeReference) : JsonValue :=
  .dict [jsonField "kind" (jsonText kind), jsonField "reference" (jsonText reference)]

def ActionType.dump (actionType : ActionType) : JsonValue :=
  .dict [jsonField "namespace" (jsonText actionType.actionNamespace),
    jsonField "name" (jsonText actionType.name), jsonField "version" (.int actionType.version)]

def EffectKind.value : EffectKind → String
  | .single => "single"
  | .itemized => "itemized"

def ExternalReference.dump (reference : ExternalReference) : JsonValue :=
  .dict [jsonField "system" (jsonText reference.system),
    jsonField "reference" (jsonText reference.reference)]

def ItemOutcome.dump (item : ItemOutcome) : JsonValue :=
  .dict [jsonField "item_reference" (jsonText item.itemReference),
    jsonField "status" (jsonText item.status.value),
    jsonField "reason_code" (jsonOptional jsonText item.reasonCode)]

def ExternalAuthorityAttestation.dump (attestation : ExternalAuthorityAttestation) : JsonValue :=
  .dict [jsonField "format" (jsonText attestation.format),
    jsonField "issuer_reference" (jsonText attestation.issuerReference),
    jsonField "artifact_reference" (jsonText attestation.artifactReference),
    jsonField "artifact_digest" (jsonText attestation.artifactDigest)]

def AuthorityDecision.value : AuthorityDecision → String
  | .approve => "approve"
  | .reject => "reject"

variable [PydanticJson]

def ReceiptBase.dump (base : ReceiptBase) (schemaVersion : SafeReference) : JsonObject :=
  [jsonField "schema_version" (jsonText schemaVersion),
    jsonField "receipt_reference" (jsonText base.receiptReference),
    jsonField "correlation_reference" (jsonText base.correlationReference),
    jsonField "causation_reference" (jsonText base.causationReference),
    jsonField "observed_at" (.str (datetimeText base.observedAt)),
    jsonField "runtime_revision" (jsonOptional jsonText base.runtimeRevision),
    jsonField "external_reference" (jsonOptional ExternalReference.dump base.externalReference),
    jsonField "corrects_receipt_reference"
      (jsonOptional jsonText base.correctsReceiptReference),
    jsonField "supersedes_receipt_reference"
      (jsonOptional jsonText base.supersedesReceiptReference),
    jsonField "reason_code" (jsonOptional jsonText base.reasonCode)]

/-- The fields each receipt family adds to the base. -/
def Receipt.ownFields : Receipt → JsonObject
  | .proposal r => [jsonField "receipt_type" (jsonText "proposal"),
    jsonField "status" (jsonText r.status.value),
    jsonField "requesting_principal"
      (participantDump "requesting_principal" r.requestingPrincipal.reference),
    jsonField "proposing_agent" (jsonOptional
      (fun agent ↦ participantDump "proposing_agent" agent.reference) r.proposingAgent)]
  | .authority r => [jsonField "receipt_type" (jsonText "authority"),
    jsonField "status" (jsonText r.status.value),
    jsonField "participant" (participantDump "confirming_authority" r.participant.reference)]
  | .execution r => [jsonField "receipt_type" (jsonText "execution"),
    jsonField "status" (jsonText r.status.value),
    jsonField "participant" (participantDump "governed_executor" r.participant.reference),
    jsonField "item_outcomes" (.list (r.itemOutcomes.map ItemOutcome.dump))]
  | .verification r => [jsonField "receipt_type" (jsonText "verification"),
    jsonField "status" (jsonText r.status.value),
    jsonField "participant" (participantDump "authoritative_target" r.participant.reference),
    jsonField "item_outcomes" (.list (r.itemOutcomes.map ItemOutcome.dump))]
  | .recovery r => [jsonField "receipt_type" (jsonText "recovery"),
    jsonField "status" (jsonText r.status.value),
    jsonField "participant" (participantDump "recovery_operator" r.participant.reference)]

def Receipt.dump (receipt : Receipt) : JsonValue :=
  .dict (receipt.base.dump receipt.schemaVersion ++ receipt.ownFields)

def EvidenceAuthoritySummary.dump (summary : EvidenceAuthoritySummary) : JsonValue :=
  .dict [jsonField "authority_reference" (jsonText summary.authorityReference),
    jsonField "decision" (jsonText summary.decision.value),
    jsonField "audience" (.list (summary.audience.map jsonText)),
    jsonField "channel_assurance" (jsonText summary.channelAssurance),
    jsonField "issued_at" (.str (datetimeText summary.issuedAt)),
    jsonField "expires_at" (.str (datetimeText summary.expiresAt)),
    jsonField "external_attestation"
      (jsonOptional ExternalAuthorityAttestation.dump summary.externalAttestation)]

/-- The safe result of a bundle, serialized. -/
def safeResultDump : Option FrozenJsonObject → Except Exn JsonValue
  | none => .ok .null
  | some result => do return .dict (← result.serializeObject)

/-- `_digest_payload`: the dumped bundle without its digest. -/
def digestPayload (bundle : ActionEvidenceBundle) : Except Exn JsonObject := do
  let displayPreview ← bundle.displayPreview.serializeObject
  let safeResult ← safeResultDump bundle.safeResult
  return [jsonField "schema_version" (jsonText "threvo.actions.evidence/v1"),
    jsonField "authenticity" (jsonText "unsigned_host_projection"),
    jsonField "exported_at" (.str (datetimeText bundle.exportedAt)),
    jsonField "exporter_runtime_revision" (jsonText bundle.exporterRuntimeRevision),
    jsonField "proposal_reference" (jsonText bundle.proposalReference),
    jsonField "action_type" bundle.actionType.dump,
    jsonField "semantic_effect_reference" (jsonText bundle.semanticEffectReference),
    jsonField "effect_kind" (jsonText bundle.effectKind.value),
    jsonField "source_revision" (.int bundle.sourceRevision),
    jsonField "lifecycle_status" (jsonText bundle.lifecycleStatus.value),
    jsonField "created_at" (.str (datetimeText bundle.createdAt)),
    jsonField "expires_at" (.str (datetimeText bundle.expiresAt)),
    jsonField "erased" (.bool bundle.erased),
    jsonField "display_preview" (.dict displayPreview),
    jsonField "safe_result" safeResult,
    jsonField "authority_summaries"
      (.list (bundle.authoritySummaries.map EvidenceAuthoritySummary.dump)),
    jsonField "receipts" (.list (bundle.receipts.map Receipt.dump)),
    jsonField "embedded_receipt_schema_versions"
      (.list (bundle.embeddedReceiptSchemaVersions.map jsonText)),
    jsonField "omitted" (.list (bundle.omitted.map fun omission ↦ jsonText omission.value))]

/-- Hash bundle content; authenticity requires a separately trusted digest. -/
def evidenceDigest [UnicodeNormalization] (bundle : ActionEvidenceBundle) : Except Exn String := do
  let payload ← digestPayload bundle
  let canonical ← canonicalizeV1 (.dict payload)
  return Sha256.hexdigest canonical

end Payload

/-! ## Building a bundle -/

def evidenceSummary (evidence : AuthorityEvidence) : EvidenceAuthoritySummary where
  authorityReference := evidence.authority.reference
  decision := evidence.decision
  audience := evidence.audience
  channelAssurance := evidence.channelAssurance
  issuedAt := evidence.issuedAt
  expiresAt := evidence.expiresAt
  externalAttestation := evidence.externalAttestation

/-- `sorted({receipt.schema_version for receipt in receipts})`. -/
def schemaVersionsOf (receipts : List Receipt) : List SafeReference :=
  (receipts.map Receipt.schemaVersion).eraseDups.mergeSort fun a b ↦ decide (a ≤ b)

/-- The omissions a bundle declares. -/
def evidenceOmissions (record : StoredProposal) (receipts : List Receipt)
    (summaries : List EvidenceAuthoritySummary) : List EvidenceOmission :=
  [.privateSnapshot, .protectedPayload, .commitmentAndCustody, .replayableAuthorityEvidence]
    ++ (if record.erasureMarked then [.erasedSourceEvidence] else [])
    ++ (if receipts.any fun receipt ↦ receipt.base.runtimeRevision.isNone then
        [.legacyRuntimeAttribution] else [])
    ++ (if !record.erasureMarked && record.lifecycleStatus != .awaitingAuthority
        && summaries.isEmpty then [.historicalAuthorityUnavailable] else [])

def frozenResult [UnicodeNormalization] : Option JsonObject → Except Exn (Option FrozenJsonObject)
  | none => .ok none
  | some result => do return some (← FrozenJsonObject.fromMapping result)

/-- Project one stored revision without private state or replayable authority. -/
def buildEvidenceBundle [UnicodeNormalization] [PydanticJson] (record : StoredProposal)
    (exportedAt : Timestamp) (exporterRuntimeRevision : SafeReference) :
    Except Exn ActionEvidenceBundle := do
  let erased := record.erasureMarked
  let receipts := if erased then [] else record.receipts
  let summaries := if erased then [] else record.authorityEvidence.map evidenceSummary
  let displayPreview ← FrozenJsonObject.fromMapping (if erased then [] else record.displayPreview)
  let safeResult ← frozenResult (if erased then none else record.safeResult)
  let bundle : ActionEvidenceBundle :=
    { exportedAt := exportedAt
      exporterRuntimeRevision := exporterRuntimeRevision
      proposalReference := record.proposalReference
      actionType := record.actionType
      semanticEffectReference := record.semanticEffectReference
      effectKind := record.effectKind
      sourceRevision := record.revision
      lifecycleStatus := record.lifecycleStatus
      createdAt := record.createdAt
      expiresAt := record.expiresAt
      erased := erased
      displayPreview := displayPreview
      safeResult := safeResult
      authoritySummaries := summaries
      receipts := receipts
      embeddedReceiptSchemaVersions := schemaVersionsOf receipts
      omitted := evidenceOmissions record receipts summaries
      contentDigest := String.ofList (List.replicate 64 '0') }
  let digest ← evidenceDigest bundle
  return { bundle with contentDigest := digest }

/-! ## Validating a bundle -/

inductive EvidenceValidationStatus
  | consistent
  | inconsistent
  | insufficient
  deriving DecidableEq, Repr

inductive EvidenceValidationReason
  | digestMismatch
  | duplicateReceipt
  | danglingReceiptLink
  | receiptIdentityMismatch
  | receiptVersionMismatch
  | lifecycleEvidenceMismatch
  | erasedSource
  | legacyAttributionMissing
  | authorityHistoryMissing
  deriving DecidableEq, Repr

/-- Pure consistency result; it does not authenticate the export. -/
structure EvidenceValidationReport where
  status : EvidenceValidationStatus
  reasons : List EvidenceValidationReason := []
  digestMatches : Bool

/-- `_lifecycle_is_supported`. -/
def lifecycleIsSupported (bundle : ActionEvidenceBundle) : Bool :=
  if bundle.erased then
    bundle.receipts.isEmpty && bundle.authoritySummaries.isEmpty && bundle.displayPreview.isEmpty
      && bundle.safeResult.isNone
  else
    match bundle.receipts with
    | .proposal receipt :: _ =>
      if receipt.status ≠ .prepared then false
      else if bundle.lifecycleStatus = .verified then
        bundle.receipts.any (Receipt.isVerification .verifiedCompletion)
      else if bundle.lifecycleStatus = .failedKnown then
        bundle.receipts.any fun receipt ↦ receipt.isExecution .failedKnown
          || receipt.isVerification .verifiedTerminalFailure
      else true
    | _ => false

/-- `[reason] if found else []`. -/
def reasonIf (found : Bool) (reason : EvidenceValidationReason) : List EvidenceValidationReason :=
  if found then [reason] else []

/-- A link of a receipt to another one is present, but leads nowhere or to the receipt itself. -/
def danglingLink (references : List SafeReference) (receipt : Receipt)
    (link : Option SafeReference) : Bool :=
  match link with
  | none => false
  | some link => !references.contains link || link == receipt.receiptReference

/-- The reasons that make a bundle inconsistent. -/
def inconsistentReasons (bundle : ActionEvidenceBundle) (digestMatches : Bool) :
    List EvidenceValidationReason :=
  let references := bundle.receipts.map Receipt.receiptReference
  let versions := schemaVersionsOf bundle.receipts
  reasonIf (!digestMatches) .digestMismatch
    ++ reasonIf (references.eraseDups.length != references.length) .duplicateReceipt
    ++ reasonIf (bundle.receipts.any fun receipt ↦
        danglingLink references receipt receipt.base.correctsReceiptReference
          || danglingLink references receipt receipt.base.supersedesReceiptReference)
      .danglingReceiptLink
    ++ reasonIf (bundle.receipts.any fun receipt ↦
        receipt.correlationReference != bundle.proposalReference
          || (receipt.causationReference != bundle.proposalReference
            && !references.contains receipt.causationReference))
      .receiptIdentityMismatch
    ++ reasonIf (versions != bundle.embeddedReceiptSchemaVersions
        || versions.any fun version ↦ version != "internal/v0") .receiptVersionMismatch
    ++ reasonIf (!lifecycleIsSupported bundle) .lifecycleEvidenceMismatch

/-- The reasons that make a bundle insufficient. -/
def insufficientReasons (bundle : ActionEvidenceBundle) : List EvidenceValidationReason :=
  reasonIf (bundle.erased || bundle.omitted.contains .erasedSourceEvidence) .erasedSource
    ++ reasonIf (bundle.omitted.contains .legacyRuntimeAttribution
        || bundle.receipts.any fun receipt ↦ receipt.base.runtimeRevision.isNone)
      .legacyAttributionMissing
    ++ reasonIf (bundle.omitted.contains .historicalAuthorityUnavailable
        || (!bundle.erased && bundle.lifecycleStatus != .awaitingAuthority
          && bundle.authoritySummaries.isEmpty)) .authorityHistoryMissing

/-- Validate internal consistency without claiming provenance or completeness. -/
def validateEvidenceBundle [UnicodeNormalization] [PydanticJson] (bundle : ActionEvidenceBundle) :
    Except Exn EvidenceValidationReport := do
  let digest ← evidenceDigest bundle
  let digestMatches := digest == bundle.contentDigest
  let inconsistent := inconsistentReasons bundle digestMatches
  let insufficient := insufficientReasons bundle
  return if inconsistent ≠ [] then ⟨.inconsistent, inconsistent.eraseDups, digestMatches⟩
    else if insufficient ≠ [] then ⟨.insufficient, insufficient.eraseDups, digestMatches⟩
    else ⟨.consistent, [], digestMatches⟩

end ThrevoActions
