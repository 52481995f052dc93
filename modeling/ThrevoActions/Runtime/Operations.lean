import ThrevoActions.Runtime.Outcomes
import ThrevoActions.Runtime.Ports

/-!
# The runtime

`ActionRuntime`, function by function. Every function is the coroutine of the source: the
operations it awaits, in the order it awaits them, and the early exits between them.

## The records a function writes

Each record a function hands to the store is a definition of its own (`expiredProposal`,
`blockedProposal`, `executingProposal`, …), so that what is written can be reasoned about apart
from how the function got there.
-/

namespace ThrevoActions

open Interleaving Interleaving.Program

/-- What an `ActionRuntime` is configured with, its store aside. -/
structure ActionRuntime where
  /-- `retention_store is not None`. -/
  hasRetentionStore : Bool
  runtimeRevision : SafeReference

/-- An `ActionDefinition`: its declaration and its executor. The remaining ports are operations of
the signature; the executor is a coroutine, because the repository contains executors itself. -/
structure ActionDefinition (V : Type) [HostModels V] (H : Signature) extends
    ActionDeclaration V where
  executor : V → ExecutionContext → SafeReference → Coroutine V H (ExecutionResult V)

variable {V : Type} [HostModels V] {H : Signature}

/-! ## Reading and writing the store -/

/-- `_required`. -/
def required (tenantReference proposalReference : SafeReference) :
    Coroutine V H StoredProposal := do
  let record ← await (.get tenantReference proposalReference)
  match record with
  | none => throw .proposalNotFound
  | some record =>
    raiseIf (record.tenantReference ≠ tenantReference ∨
      record.proposalReference ≠ proposalReference) .proposalNotFound
    return record

/-- The arguments `_cas` passes to `compare_and_set`. -/
def casArguments (current updated : StoredProposal) : MemoryActionStore.CompareAndSet where
  tenantReference := current.tenantReference
  proposalReference := current.proposalReference
  expectedRevision := current.revision
  expectedStatuses := [current.lifecycleStatus]
  updated := updated

/-- `_cas`. -/
def cas (current updated : StoredProposal) : Coroutine V H Bool :=
  await (.compareAndSet (casArguments current updated))

/-- `_emit`: an exception of the sink is logged, not raised. -/
def emit (record : StoredProposal) (eventType : RuntimeEventType) (observedAt : Timestamp)
    (reasonCode : Option SafeReference := none) : Coroutine V H Unit := do
  let sent ← (await (.emit
    { eventType := eventType
      tenantReference := record.tenantReference
      proposalReference := record.proposalReference
      actionType := record.actionType
      lifecycleStatus := record.lifecycleStatus
      correlationReference := record.proposalReference
      observedAt := observedAt
      reasonCode := reasonCode })).attempt
  match sent with
  | .ok () => return ()
  | .error failure => raiseIf (failure.isException = false) failure

/-! ## Authority -/

/-- The binding `record_authority` and `execute` build for a proposal and its commitment. -/
def authorityBinding (definition : ActionDeclaration V) (record : StoredProposal)
    (commitment : KeyedCommitment) : AuthorityBinding where
  tenantReference := record.tenantReference
  actionType := record.actionType
  proposalInstanceReference := record.proposalReference
  semanticEffectReference := record.semanticEffectReference
  proposalCommitment := commitment.digest
  requiredAudience := definition.authorityAudience
  requiredChannelAssurance := definition.authorityChannelAssurance

/-- `_valid_authority_evidence`. -/
def validAuthorityEvidence (evidenceRecords : List AuthorityEvidence) (binding : AuthorityBinding)
    (at' : Timestamp) : List AuthorityEvidence :=
  evidenceRecords.filter fun evidence ↦ (validateAuthorityEvidence evidence binding at').valid

/-- `_evaluate_authority`: the evidence that is valid at `at'`, and the evaluator's answer. -/
def evaluateAuthority (definition : ActionDeclaration V) (record : StoredProposal)
    (binding : AuthorityBinding) (at' : Timestamp) :
    Coroutine V H (List AuthorityEvidence × AuthorityEvaluation) := do
  let validEvidence := validAuthorityEvidence record.authorityEvidence binding at'
  let evaluation ← await (.evaluate definition binding validEvidence)
  return (validEvidence, evaluation)

/-- The reason `execute` gives when authority is no longer satisfied. -/
def unsatisfiedReason (record : StoredProposal) (validEvidence : List AuthorityEvidence)
    (authority : AuthorityEvaluation) : SafeReference :=
  if validEvidence.length ≠ record.authorityEvidence.length then
    RuntimeReasonCode.authorityExpired.value
  else authority.reasonCode.getD RuntimeReasonCode.authorityNoLongerSatisfied.value

/-- `_last_authority`. -/
def lastAuthority (record : StoredProposal) : Except Exn ConfirmingAuthority :=
  match record.authorityEvidence.reverse.find? fun evidence ↦ evidence.decision == .approve with
  | some evidence => .ok evidence.authority
  | none => .error (.invalidActionResult "authorized proposal has no approving authority")

/-- The authorities an execution context names. -/
def approvingAuthorities (evidenceRecords : List AuthorityEvidence) : List ConfirmingAuthority :=
  (evidenceRecords.filter fun evidence ↦ evidence.decision == .approve).map (·.authority)

/-- `_execution_context`. -/
def executionContext (record : StoredProposal) (observedAt : Timestamp)
    (authorityEvidence : Option (List AuthorityEvidence) := none) :
    Except Exn ExecutionContext :=
  match record.requestingPrincipal with
  | none => .error (.invalidActionResult "proposal has no requesting principal")
  | some requestingPrincipal => .ok
    { tenantReference := record.tenantReference
      proposalReference := record.proposalReference
      semanticEffectReference := record.semanticEffectReference
      requestingPrincipal := requestingPrincipal
      authorities := approvingAuthorities (authorityEvidence.getD record.authorityEvidence)
      observedAt := observedAt }

theorem executionContext_observedAt {record : StoredProposal} {observedAt : Timestamp}
    {evidence : Option (List AuthorityEvidence)} {context : ExecutionContext}
    (hcontext : executionContext record observedAt evidence = .ok context) :
    context.observedAt = observedAt := by
  rw [executionContext] at hcontext
  split at hcontext
  · cases hcontext
  · cases hcontext
    rfl

/-! ## Type checks on host values -/

/-- `_validate_prepared`. -/
def validatePrepared (definition : ActionDeclaration V) (prepared : PreparedAction V) :
    Except Exn Unit :=
  if modelClass prepared.privateSnapshot ≠ definition.privateSnapshotModel then
    .error (.invalidActionResult "preparation returned the wrong private snapshot model")
  else if modelClass prepared.displayPreview ≠ definition.displayPreviewModel then
    .error (.invalidActionResult "preparation returned the wrong display preview model")
  else .ok ()

/-- `_validate_result_type`. -/
def validateResultType (definition : ActionDeclaration V) (result : Option V) : Except Exn Unit :=
  match result with
  | none => .ok ()
  | some value =>
    if modelClass value ≠ definition.resultModel then
      .error (.invalidActionResult "host returned the wrong action result model")
    else .ok ()

/-- `model_json_object(result) if result is not None else default`. -/
def safeResultOf (result : Option V) (default : Option JsonObject) :
    Except Exn (Option JsonObject) :=
  match result with
  | none => .ok default
  | some value => (modelJsonObject value).map some

/-! ## Receipts -/

/-- The fields the runtime gives every receipt; the cause is the proposal unless another is
named. -/
def receiptBase (runtime : ActionRuntime) (record : StoredProposal) (reference : SafeReference)
    (observedAt : Timestamp) (reasonCode : Option SafeReference) : ReceiptBase where
  receiptReference := reference
  correlationReference := record.proposalReference
  causationReference := record.proposalReference
  observedAt := observedAt
  runtimeRevision := some runtime.runtimeRevision
  reasonCode := reasonCode

/-! ## Preparation -/

section Prepare

variable [UnicodeNormalization]

/-- The receipt of a prepared proposal. -/
def preparedReceipt (runtime : ActionRuntime) (proposalReference reference : SafeReference)
    (requestingPrincipal : RequestingPrincipal) (proposingAgent : Option ProposingAgent)
    (now : Timestamp) : ProposalReceipt where
  receiptReference := reference
  correlationReference := proposalReference
  causationReference := proposalReference
  observedAt := now
  runtimeRevision := some runtime.runtimeRevision
  status := .prepared
  requestingPrincipal := requestingPrincipal
  proposingAgent := proposingAgent

/-- The record `_persist_prepared` creates. -/
def preparedProposal (definition : ActionDeclaration V) (tenantReference proposalReference :
    SafeReference) (semanticEffectReference : SafeReference) (protectedPayload : ProtectedPayload)
    (commitment : KeyedCommitment) (displayPreview : JsonObject)
    (requestingPrincipal : RequestingPrincipal) (proposingAgent : Option ProposingAgent)
    (now : Timestamp) (proposalReceipt : ProposalReceipt) : StoredProposal where
  tenantReference := tenantReference
  proposalReference := proposalReference
  actionType := definition.actionType
  semanticEffectReference := semanticEffectReference
  effectKind := definition.effectKind
  lifecycleStatus := .awaitingAuthority
  revision := 0
  protectedPrivateSnapshot := some protectedPayload
  commitment := some commitment
  displayPreview := displayPreview
  requestingPrincipal := some requestingPrincipal
  proposingAgent := proposingAgent
  createdAt := now
  expiresAt := now + definition.proposalTtl
  receipts := [.proposal proposalReceipt]
  maxVerificationAttempts := definition.maxVerificationAttempts

/-- `if protected is not None: await _destroy_payload(…)`. -/
def destroyPayload (definition : ActionDeclaration V) (proposalIdentity : ProposalIdentity)
    (protectedPayload : Option ProtectedPayload) : Coroutine V H Unit :=
  match protectedPayload with
  | none => pure ()
  | some payload => await (.destroyPayload definition proposalIdentity payload)

/-- `if commitment is not None: await _destroy_commitment(…)`. -/
def destroyCommitment (definition : ActionDeclaration V) (proposalIdentity : ProposalIdentity)
    (commitment : Option KeyedCommitment) : Coroutine V H Unit :=
  match commitment with
  | none => pure ()
  | some commitment => await (.destroyCommitment definition proposalIdentity commitment)

/-- The compensation of `_persist_prepared`: destroy what was protected, whatever the destroy
calls answer, and raise the failure. -/
def compensatePrepared {α : Type} (definition : ActionDeclaration V)
    (proposalIdentity : ProposalIdentity) (protectedPayload : Option ProtectedPayload)
    (commitment : KeyedCommitment) (failure : Exn) : Coroutine V H α := do
  let _ ← (destroyPayload definition proposalIdentity protectedPayload).attempt
  let _ ← (destroyCommitment definition proposalIdentity (some commitment)).attempt
  throw failure

/-- The part of `_persist_prepared`'s `try` block between protection and creation. -/
def buildPrepared (runtime : ActionRuntime) (definition : ActionDeclaration V)
    (proposalIdentity : ProposalIdentity) (prepared : PreparedAction V)
    (protectedPayload : ProtectedPayload) (commitment : KeyedCommitment)
    (requestingPrincipal : RequestingPrincipal) (proposingAgent : Option ProposingAgent)
    (now : Timestamp) : Coroutine V H StoredProposal := do
  let reference ← await (.newIdentifier .receipt)
  let proposalReceipt := preparedReceipt runtime proposalIdentity.proposalReference reference
    requestingPrincipal proposingAgent now
  let displayPreview ← orRaise (modelJsonObject prepared.displayPreview)
  return preparedProposal definition proposalIdentity.tenantReference
    proposalIdentity.proposalReference prepared.semanticEffectReference protectedPayload commitment
    displayPreview requestingPrincipal proposingAgent now proposalReceipt

/-- The `store.create` of `_persist_prepared`. When it raises, the store is read back to find out
whether the record was persisted. -/
def createPrepared (definition : ActionDeclaration V) (proposalIdentity : ProposalIdentity)
    (protectedPayload : ProtectedPayload) (commitment : KeyedCommitment)
    (record : StoredProposal) : Coroutine V H StoredProposal := do
  let created ← (await (.create record)).attempt
  match created with
  | .ok () => return record
  | .error failure =>
    let read ← (await (.get proposalIdentity.tenantReference
      proposalIdentity.proposalReference)).attempt
    match read with
    | .error _ =>
      if failure = .cancelled then throw failure
      else throw (.proposalPersistenceOutcomeUnknown proposalIdentity)
    | .ok persisted =>
      if persisted = some record then
        if failure = .cancelled then throw failure else return record
      else
        compensatePrepared definition proposalIdentity (some protectedPayload) commitment failure

/-- The `try` block of `_persist_prepared` with its handler. -/
def protectAndCreate (runtime : ActionRuntime) (definition : ActionDeclaration V)
    (proposalIdentity : ProposalIdentity) (prepared : PreparedAction V) (privateCanonical : Bytes)
    (commitment : KeyedCommitment) (requestingPrincipal : RequestingPrincipal)
    (proposingAgent : Option ProposingAgent) (now : Timestamp) :
    Coroutine V H StoredProposal := do
  let protect ← (await (.protectPayload definition proposalIdentity privateCanonical)).attempt
  match protect with
  | .error failure => compensatePrepared definition proposalIdentity none commitment failure
  | .ok payload =>
    let built ← (buildPrepared runtime definition proposalIdentity prepared payload commitment
      requestingPrincipal proposingAgent now).attempt
    match built with
    | .error failure =>
      compensatePrepared definition proposalIdentity (some payload) commitment failure
    | .ok record => createPrepared definition proposalIdentity payload commitment record

/-- The proposal reference: the given one, or a new identifier. -/
def resolveProposalReference (proposalReference : Option SafeReference) :
    Coroutine V H SafeReference :=
  match proposalReference with
  | some reference => pure reference
  | none => await (.newIdentifier .proposal)

/-- `_persist_prepared`. -/
def persistPrepared (runtime : ActionRuntime) (definition : ActionDeclaration V)
    (tenantReference : SafeReference) (prepared : PreparedAction V)
    (requestingPrincipal : RequestingPrincipal) (proposingAgent : Option ProposingAgent)
    (now : Timestamp) (proposalReference : Option SafeReference := none) :
    Coroutine V H StoredProposal := do
  let reference ← resolveProposalReference proposalReference
  let proposalIdentity : ProposalIdentity := ⟨tenantReference, reference⟩
  let privateJson ← orRaise (modelJsonObject prepared.privateSnapshot)
  let privateCanonical ← orRaise (canonicalizeV1 (.dict privateJson))
  let commitmentInput ← orRaise (commitmentPayloadV1 reference privateCanonical)
  let commitment ← await (.createCommitment definition proposalIdentity commitmentInput)
  protectAndCreate runtime definition proposalIdentity prepared privateCanonical commitment
    requestingPrincipal proposingAgent now

/-- `ActionRuntime.prepare`. -/
def prepare (runtime : ActionRuntime) (definition : ActionDeclaration V)
    (tenantReference : SafeReference) (command : V) (requestingPrincipal : RequestingPrincipal)
    (proposingAgent : Option ProposingAgent := none)
    (proposalReference : Option SafeReference := none) :
    Coroutine V H ActionOperationResult := do
  let now ← await .now
  let context : PreparationContext :=
    ⟨tenantReference, requestingPrincipal, proposingAgent, now⟩
  let authorization ← await (.canPrepare definition command context)
  raiseIf (authorization.allowed = false) (.authorizationDenied
    (authorization.reasonCode.getD RuntimeReasonCode.prepareDenied.value))
  let prepared ← await (.prepare definition command context)
  orRaise (validatePrepared definition prepared)
  let record ← persistPrepared runtime definition tenantReference prepared requestingPrincipal
    proposingAgent now proposalReference
  emit record .proposalPrepared now
  return operationResult record .prepared none none true

end Prepare

/-! ## Expiry -/

def expiredProposal (record : StoredProposal) : StoredProposal :=
  { record with lifecycleStatus := .expired, revision := record.revision + 1 }

/-- `expire_due`. -/
def expireDue (definition : ActionDeclaration V)
    (tenantReference proposalReference : SafeReference) :
    Coroutine V H ActionOperationResult := do
  let record ← required tenantReference proposalReference
  raiseIf (record.actionType ≠ definition.actionType) .proposalNotFound
  raiseIf (record.erasureMarked = true) .proposalNotFound
  if record.lifecycleStatus ∉ [.awaitingAuthority, .authorized] then
    return operationResult record (outcomeFor record.lifecycleStatus)
  else
  let now ← await .now
  if now < record.expiresAt then
    return operationResult record (outcomeFor record.lifecycleStatus)
  else
  let written ← cas record (expiredProposal record)
  if written = false then
    let current ← required tenantReference proposalReference
    return operationResult current .conflict
  else
  emit (expiredProposal record) .lifecycleChanged now
    (some RuntimeReasonCode.proposalExpired.value)
  return operationResult (expiredProposal record) .expired none
    (some RuntimeReasonCode.proposalExpired.value)

/-! ## Recording authority -/

def authorityReceipt (runtime : ActionRuntime) (record : StoredProposal)
    (reference : SafeReference) (now : Timestamp) (status : AuthorityReceiptStatus)
    (participant : ConfirmingAuthority) (reasonCode : Option SafeReference) : AuthorityReceipt where
  toReceiptBase := receiptBase runtime record reference now reasonCode
  status := status
  participant := participant

def authorityRecordedProposal (record : StoredProposal) (evidence : AuthorityEvidence)
    (receipt : AuthorityReceipt) (target : LifecycleStatus) : StoredProposal :=
  { record with
    authorityEvidence := record.authorityEvidence ++ [evidence]
    receipts := record.receipts ++ [.authority receipt]
    lifecycleStatus := target
    revision := record.revision + 1 }

/-- What `record_authority` decided about new evidence. -/
structure AuthorityOutcome where
  target : LifecycleStatus
  outcome : OperationOutcome
  receiptStatus : AuthorityReceiptStatus
  reasonCode : Option SafeReference

/-- The decision of `record_authority` on valid evidence: a refusal is final, an approval counts
as far as the evaluator is satisfied with everything accumulated. -/
def decideAuthority (definition : ActionDeclaration V) (record : StoredProposal)
    (evidence : AuthorityEvidence) (binding : AuthorityBinding) (now : Timestamp) :
    Coroutine V H AuthorityOutcome :=
  match evidence.decision with
  | .deny => pure
    ⟨.denied, .denied, .rejected, some RuntimeReasonCode.authorityRejected.value⟩
  | .approve => do
    let validAccumulated :=
      validAuthorityEvidence (record.authorityEvidence ++ [evidence]) binding now
    let evaluation ← await (.evaluate definition binding validAccumulated)
    return ⟨if evaluation.satisfied then .authorized else .awaitingAuthority,
      if evaluation.satisfied then .authorized else .authorityPending, .recorded,
      evaluation.reasonCode⟩

/-- The part of `record_authority` that writes. -/
def writeAuthority (runtime : ActionRuntime) (record : StoredProposal)
    (evidence : AuthorityEvidence) (now : Timestamp) (decided : AuthorityOutcome) :
    Coroutine V H ActionOperationResult := do
  let reference ← await (.newIdentifier .receipt)
  let receipt := authorityReceipt runtime record reference now decided.receiptStatus
    evidence.authority decided.reasonCode
  let updated := authorityRecordedProposal record evidence receipt decided.target
  let written ← cas record updated
  if written = false then
    let current ← required record.tenantReference record.proposalReference
    return operationResult current
      (if current.authorityEvidence.contains evidence then .replayed else .conflict)
  else
  emit updated .authorityRecorded now decided.reasonCode
  return operationResult updated decided.outcome none decided.reasonCode

/-- `record_authority`. -/
def recordAuthority (runtime : ActionRuntime) (definition : ActionDeclaration V)
    (evidence : AuthorityEvidence) (authenticatedAuthority : ConfirmingAuthority)
    (proposalReference : Option SafeReference := none) :
    Coroutine V H ActionOperationResult := do
  let reference := proposalReference.getD evidence.proposalInstanceReference
  let record ← required evidence.tenantReference reference
  let now ← await .now
  raiseIf (record.actionType ≠ definition.actionType) .proposalNotFound
  raiseIf (record.erasureMarked = true) .proposalNotFound
  raiseIf (evidence.authority ≠ authenticatedAuthority)
    (.invalidAuthorityEvidence "authenticated authority does not match evidence")
  let decisionAuth ← await (.canDecide definition evidence
    ⟨record.tenantReference, authenticatedAuthority, now⟩)
  raiseIf (decisionAuth.allowed = false) .proposalNotFound
  if evidence ∈ record.authorityEvidence then
    return operationResult record .replayed
  else if record.lifecycleStatus ≠ .awaitingAuthority then
    return operationResult record (outcomeFor record.lifecycleStatus)
  else if record.expiresAt ≤ now then
    let written ← cas record (expiredProposal record)
    if written = true then return operationResult (expiredProposal record) .expired
    else
    let current ← required evidence.tenantReference reference
    return operationResult current .conflict
  else
  match record.commitment with
  | none => throw (.invalidAuthorityEvidence "proposal commitment is unavailable")
  | some commitment =>
    let binding := authorityBinding definition record commitment
    let validation := validateAuthorityEvidence evidence binding now
    raiseIf (validation.valid = false) (.invalidAuthorityEvidence
      ((validation.failure.map (·.value)).getD "invalid_evidence"))
    let decided ← decideAuthority definition record evidence binding now
    writeAuthority runtime record evidence now decided

/-! ## Execution: refusals before admission -/

section Execute

variable [UnicodeNormalization]

/-- `_load_private`. -/
def loadPrivate (definition : ActionDeclaration V) (record : StoredProposal) :
    Coroutine V H (Option V) :=
  match record.protectedPrivateSnapshot, record.commitment with
  | some payload, some commitment => do
    let proposalIdentity : ProposalIdentity :=
      ⟨record.tenantReference, record.proposalReference⟩
    let unprotect ← (await (.unprotectPayload definition proposalIdentity payload)).attempt
    match unprotect with
    | .error failure => if failure.isKeyOrValueError then return none else throw failure
    | .ok canonical =>
      let commitmentInput ← orRaise (commitmentPayloadV1 record.proposalReference canonical)
      let verified ← await (.verifyCommitment definition proposalIdentity commitmentInput
        commitment)
      if verified = false then return none
      else
      let snapshot ← orRaise (modelValidateJson definition.privateSnapshotModel canonical)
      return some snapshot
  | _, _ => pure none

def blockedProposal (record : StoredProposal) (receipt : AuthorityReceipt) : StoredProposal :=
  { record with
    lifecycleStatus := .blocked
    receipts := record.receipts ++ [.authority receipt]
    revision := record.revision + 1 }

/-- `_block`. -/
def block (runtime : ActionRuntime) (record : StoredProposal) (now : Timestamp)
    (reasonCode : SafeReference) : Coroutine V H ActionOperationResult := do
  let authority ← orRaise (lastAuthority record)
  let reference ← await (.newIdentifier .receipt)
  let receipt := authorityReceipt runtime record reference now .failed authority (some reasonCode)
  let blocked := blockedProposal record receipt
  let written ← cas record blocked
  if written = false then
    let current ← required record.tenantReference record.proposalReference
    return operationResult current .conflict
  else
  emit blocked .lifecycleChanged now (some reasonCode)
  return operationResult blocked .blocked none (some reasonCode)

def executionReceipt (runtime : ActionRuntime) (definition : ActionDeclaration V)
    (record : StoredProposal) (reference : SafeReference) (now : Timestamp)
    (status : ExecutionReceiptStatus) (reasonCode : Option SafeReference)
    (externalReference : Option ExternalReference := none)
    (itemOutcomes : List ItemOutcome := []) : ExecutionReceipt where
  toReceiptBase := { receiptBase runtime record reference now reasonCode with
    externalReference := externalReference }
  status := status
  participant := definition.executorIdentity
  itemOutcomes := itemOutcomes

def staleProposal (record : StoredProposal) (receipt : ExecutionReceipt) : StoredProposal :=
  { record with
    lifecycleStatus := .stale
    receipts := record.receipts ++ [.execution receipt]
    revision := record.revision + 1 }

def supersededProposal (stale : StoredProposal) (freshReference : SafeReference) :
    StoredProposal :=
  { stale with
    lifecycleStatus := .superseded
    supersededBy := some freshReference
    revision := stale.revision + 1 }

/-- The replacement step of `_supersede_stale`: persist the fresh proposal and point the stale one
to it. Answers the record the caller reports and the fresh reference. -/
def persistReplacement (runtime : ActionRuntime) (definition : ActionDeclaration V)
    (record stale : StoredProposal) (replacement : Option (PreparedAction V)) (now : Timestamp) :
    Coroutine V H (StoredProposal × Option SafeReference) :=
  match replacement with
  | none => pure (stale, none)
  | some replacement =>
    match record.requestingPrincipal with
    | none => throw (.invalidActionResult "stale replacement lost requesting principal")
    | some requestingPrincipal => do
      orRaise (validatePrepared definition replacement)
      let fresh ← persistPrepared runtime definition record.tenantReference replacement
        requestingPrincipal record.proposingAgent now
      let superseded := supersededProposal stale fresh.proposalReference
      let written ← cas stale superseded
      return (if written then superseded else stale, some fresh.proposalReference)

/-- `_supersede_stale`. -/
def supersedeStale (runtime : ActionRuntime) (definition : ActionDeclaration V)
    (record : StoredProposal) (replacement : Option (PreparedAction V)) (now : Timestamp) :
    Coroutine V H ActionOperationResult := do
  let reference ← await (.newIdentifier .receipt)
  let receipt := executionReceipt runtime definition record reference now .failedKnown
    (some RuntimeReasonCode.materialDrift.value)
  let stale := staleProposal record receipt
  let written ← cas record stale
  if written = false then
    let current ← required record.tenantReference record.proposalReference
    return operationResult current .conflict
  else
  let (final, freshReference) ←
    persistReplacement runtime definition record stale replacement now
  emit final .lifecycleChanged now (some RuntimeReasonCode.materialDrift.value)
  return operationResult final .stale freshReference (some RuntimeReasonCode.materialDrift.value)

/-- The expiry branch shared by the three clock checks of `execute` before admission. -/
def expireBeforeAdmission (record : StoredProposal) : Coroutine V H ActionOperationResult := do
  let written ← cas record (expiredProposal record)
  if written = true then return operationResult (expiredProposal record) .expired
  else return operationResult record .conflict

/-! ## Execution: settlement -/

/-- What `_settle_execution` decides about a result. -/
structure ExecutionSettlement where
  receiptStatus : ExecutionReceiptStatus
  reasonCode : Option SafeReference
  target : LifecycleStatus
  outcome : OperationOutcome
  nextVerificationAt : Option Timestamp

/-- A partial result of an action that is not itemized counts as unknown. -/
def declaredExecution (definition : ActionDeclaration V) (record : StoredProposal)
    (execution : ExecutionResult V) : ExecutionResult V :=
  if execution.status = .partiallySucceeded ∧
      (definition.effectKind ≠ .itemized ∨ record.effectKind ≠ .itemized) then
    { status := .failedUnknown
      itemOutcomes := execution.itemOutcomes
      reasonCode := some RuntimeReasonCode.partialNotDeclared.value }
  else execution

/-- The tables of `_settle_execution`. -/
def executionSettlement (definition : ActionDeclaration V) (execution : ExecutionResult V)
    (now : Timestamp) : ExecutionSettlement :=
  match execution.status with
  | .staleNoEffect =>
    ⟨.staleNoEffect, some (execution.reasonCode.getD RuntimeReasonCode.materialDrift.value),
      .stale, .stale, none⟩
  | .failedKnown => ⟨.failedKnown, execution.reasonCode, .failedKnown, .failedKnown, none⟩
  | .failedUnknown =>
    ⟨.failedUnknown, execution.reasonCode, .failedUnknown, .failedUnknown, some now⟩
  | .accepted =>
    ⟨.accepted, execution.reasonCode, .verificationPending, .verificationPending,
      some (now + definition.verificationDelay)⟩
  | .partiallySucceeded =>
    ⟨.partiallySucceeded, execution.reasonCode, .verificationPending, .verificationPending,
      some (now + definition.verificationDelay)⟩

def executionSettledProposal (record : StoredProposal) (receipt : ExecutionReceipt)
    (settlement : ExecutionSettlement) (safeResult : Option JsonObject) : StoredProposal :=
  { record with
    lifecycleStatus := settlement.target
    receipts := record.receipts ++ [.execution receipt]
    safeResult := safeResult
    nextVerificationAt := settlement.nextVerificationAt
    revision := record.revision + 1 }

/-- `_settle_execution`. -/
def settleExecution (runtime : ActionRuntime) (definition : ActionDeclaration V)
    (record : StoredProposal) (execution : ExecutionResult V) (now : Timestamp) :
    Coroutine V H ActionOperationResult := do
  orRaise (validateResultType definition execution.result)
  let execution := declaredExecution definition record execution
  let settlement := executionSettlement definition execution now
  let reference ← await (.newIdentifier .receipt)
  let receipt := executionReceipt runtime definition record reference now settlement.receiptStatus
    settlement.reasonCode execution.externalReference execution.itemOutcomes
  let safeResult ← orRaise (safeResultOf execution.result none)
  let settled := executionSettledProposal record receipt settlement safeResult
  let written ← cas record settled
  if written = false then
    let current ← required record.tenantReference record.proposalReference
    return operationResult current .inProgress
  else
  emit settled .lifecycleChanged now settlement.reasonCode
  return operationResult settled settlement.outcome none settlement.reasonCode

/-! ## Execution: admission and dispatch -/

def executingProposal (definition : ActionDeclaration V) (record : StoredProposal)
    (executionPrecondition : SafeReference) (admittedAt : Timestamp)
    (startedReceipt : ExecutionReceipt) : StoredProposal :=
  { record with
    executionPrecondition := some executionPrecondition
    lifecycleStatus := .executing
    nextVerificationAt := some (admittedAt + definition.verificationLeaseDuration)
    receipts := record.receipts ++ [.execution startedReceipt]
    revision := record.revision + 1 }

/-- The reason to refuse an admitted attempt at the last clock reading before dispatch. -/
def dispatchRefusal (definition : ActionDeclaration V) (record : StoredProposal)
    (binding : AuthorityBinding) (validEvidence : List AuthorityEvidence)
    (admittedAt executionAt : Timestamp) : Option RuntimeReasonCode :=
  if record.expiresAt ≤ executionAt then some .proposalExpired
  else if validAuthorityEvidence validEvidence binding executionAt ≠ validEvidence then
    some .authorityExpired
  else if admittedAt + definition.verificationLeaseDuration ≤ executionAt then
    some .executionLeaseExpired
  else none

/-- `execute` after a successful admission: the last checks, the dispatch and the settlement. -/
def dispatch (runtime : ActionRuntime) (definition : ActionDefinition V H)
    (record executing : StoredProposal) (binding : AuthorityBinding)
    (validEvidence : List AuthorityEvidence) (resolved : ResolvedState V)
    (admittedAt : Timestamp) : Coroutine V H ActionOperationResult := do
  let executionAt ← await .now
  match dispatchRefusal definition.toActionDeclaration record binding validEvidence admittedAt
      executionAt with
  | some refusal =>
    settleExecution runtime definition.toActionDeclaration executing
      { status := .failedKnown, reasonCode := some refusal.value } executionAt
  | none =>
    let context ← orRaise (executionContext record executionAt (some validEvidence))
    let execution ← definition.executor resolved.currentSnapshot context
      resolved.executionPrecondition
    let now ← await .now
    settleExecution runtime definition.toActionDeclaration executing execution now

/-- `execute` from the last clock reading before admission on. -/
def admitAttempt (runtime : ActionRuntime) (definition : ActionDefinition V H)
    (record : StoredProposal) (binding : AuthorityBinding) (validEvidence : List AuthorityEvidence)
    (resolved : ResolvedState V) : Coroutine V H ActionOperationResult := do
  let admittedAt ← await .now
  if record.expiresAt ≤ admittedAt then expireBeforeAdmission record
  else if validAuthorityEvidence validEvidence binding admittedAt ≠ validEvidence then
    block runtime record admittedAt RuntimeReasonCode.authorityExpired.value
  else
  let reference ← await (.newIdentifier .receipt)
  let startedReceipt := executionReceipt runtime definition.toActionDeclaration record reference
    admittedAt .started none
  let executing := executingProposal definition.toActionDeclaration record
    resolved.executionPrecondition admittedAt startedReceipt
  let claim ← await (.admitExecution
    { tenantReference := record.tenantReference
      proposalReference := record.proposalReference
      expectedRevision := record.revision
      admittedAt := admittedAt
      updated := executing })
  match claim with
  | .conflict =>
    let current ← required record.tenantReference record.proposalReference
    return operationResult current
      (if current.lifecycleStatus = .executing then .inProgress else .replayed)
  | .proposalNotFound => throw .proposalNotFound
  | .proposalNotAuthorized =>
    let current ← required record.tenantReference record.proposalReference
    return operationResult current (outcomeFor current.lifecycleStatus)
  | .acquired | .ownedByProposal =>
    dispatch runtime definition record executing binding validEvidence resolved admittedAt

/-- `execute` from the second clock reading on: authority and host authorization once more. -/
def reauthorize (runtime : ActionRuntime) (definition : ActionDefinition V H)
    (record : StoredProposal) (binding : AuthorityBinding) (resolved : ResolvedState V) :
    Coroutine V H ActionOperationResult := do
  let admittedAt ← await .now
  if record.expiresAt ≤ admittedAt then expireBeforeAdmission record
  else
  let (validEvidence, authority) ←
    evaluateAuthority definition.toActionDeclaration record binding admittedAt
  if authority.satisfied = false then
    block runtime record admittedAt (unsatisfiedReason record validEvidence authority)
  else
  let context ← orRaise (executionContext record admittedAt (some validEvidence))
  let liveAuthorization ← await (.canExecute definition.toActionDeclaration
    resolved.currentSnapshot context)
  if liveAuthorization.allowed = false then
    block runtime record admittedAt
      (liveAuthorization.reasonCode.getD RuntimeReasonCode.reauthorizationFailed.value)
  else
  admitAttempt runtime definition record binding validEvidence resolved

/-- `execute` on a loaded snapshot: authority, then the current state of the target. -/
def resolveCurrent (runtime : ActionRuntime) (definition : ActionDefinition V H)
    (record : StoredProposal) (commitment : KeyedCommitment) (snapshot : V) (now : Timestamp) :
    Coroutine V H ActionOperationResult := do
  let binding := authorityBinding definition.toActionDeclaration record commitment
  let (validEvidence, authority) ←
    evaluateAuthority definition.toActionDeclaration record binding now
  if authority.satisfied = false then
    block runtime record now (unsatisfiedReason record validEvidence authority)
  else
  let context ← orRaise (executionContext record now (some validEvidence))
  let resolved ← await (.resolve definition.toActionDeclaration snapshot context)
  raiseIf (modelClass resolved.currentSnapshot ≠ definition.privateSnapshotModel)
    (.invalidActionResult "state resolver returned the wrong snapshot model")
  if resolved.materiallyDrifted = true then
    supersedeStale runtime definition.toActionDeclaration record resolved.replacement now
  else
  reauthorize runtime definition record binding resolved

/-- `ActionRuntime.execute`. -/
def execute (runtime : ActionRuntime) (definition : ActionDefinition V H)
    (tenantReference proposalReference : SafeReference) :
    Coroutine V H ActionOperationResult := do
  let record ← required tenantReference proposalReference
  raiseIf (record.actionType ≠ definition.actionType) .proposalNotFound
  raiseIf (record.erasureMarked = true) .proposalNotFound
  if record.lifecycleStatus = .awaitingAuthority then
    return operationResult record .authorityPending
  else if record.lifecycleStatus ≠ .authorized then
    return operationResult record (outcomeFor record.lifecycleStatus)
  else
  let now ← await .now
  if record.expiresAt ≤ now then expireBeforeAdmission record
  else
  let loaded ← loadPrivate definition.toActionDeclaration record
  match loaded, record.commitment with
  | none, _ =>
    block runtime record now RuntimeReasonCode.privateSnapshotUnavailable.value
  | some _, none =>
    block runtime record now RuntimeReasonCode.proposalCommitmentUnavailable.value
  | some snapshot, some commitment =>
    resolveCurrent runtime definition record commitment snapshot now

end Execute

/-! ## Reconciliation -/

def verificationReceipt (runtime : ActionRuntime) (definition : ActionDeclaration V)
    (record : StoredProposal) (reference : SafeReference) (now : Timestamp)
    (status : VerificationReceiptStatus) (verification : VerificationResult V) :
    VerificationReceipt where
  toReceiptBase := { receiptBase runtime record reference now verification.reasonCode with
    externalReference := verification.externalReference }
  status := status
  participant := definition.targetIdentity
  itemOutcomes := verification.itemOutcomes

/-- The receipt status of a verification status. -/
def VerificationStatus.receiptStatus : VerificationStatus → VerificationReceiptStatus
  | .verifiedCompletion => .verifiedCompletion
  | .verifiedTerminalFailure => .verifiedTerminalFailure
  | .provisionalAbsence => .provisionalAbsence
  | .authoritativeFinalAbsence => .authoritativeFinalAbsence
  | .targetUnavailable => .targetUnavailable

/-- What `_verification_transition` answers. -/
structure VerificationTransition where
  target : LifecycleStatus
  outcome : OperationOutcome
  reasonCode : Option SafeReference

/-- `_verification_transition`. -/
def verificationTransition (definition : ActionDeclaration V) (record : StoredProposal)
    (verification : VerificationResult V) (attempts : ℕ) : VerificationTransition :=
  match verification.status with
  | .verifiedCompletion =>
    if verification.itemOutcomes ≠ [] ∧
        (definition.effectKind ≠ .itemized ∨ record.effectKind ≠ .itemized) then
      ⟨.verificationUnresolved, .verificationUnresolved,
        some RuntimeReasonCode.partialNotDeclared.value⟩
    else if verification.itemOutcomes.any fun item ↦ item.status ≠ .succeeded then
      ⟨.partiallySucceeded, .partiallySucceeded, verification.reasonCode⟩
    else ⟨.verified, .verified, verification.reasonCode⟩
  | .verifiedTerminalFailure =>
    ⟨.failedKnown, .failedKnown,
      some (verification.reasonCode.getD RuntimeReasonCode.verifiedTerminalFailure.value)⟩
  | .authoritativeFinalAbsence =>
    if definition.allowResendAfterFinalAbsence && verification.settlingBoundaryPassed
        && verification.targetIdempotencyGuaranteed then
      ⟨.authorized, .resendAllowed, some RuntimeReasonCode.authoritativeFinalAbsence.value⟩
    else ⟨.failedKnown, .failedKnown, some RuntimeReasonCode.authoritativeFinalAbsence.value⟩
  | .provisionalAbsence | .targetUnavailable =>
    if record.maxVerificationAttempts ≤ attempts then
      ⟨.verificationUnresolved, .verificationUnresolved, some
        (verification.reasonCode.getD RuntimeReasonCode.verificationRetriesExhausted.value)⟩
    else ⟨.verificationPending, .verificationPending, verification.reasonCode⟩

def verificationSettledProposal (definition : ActionDeclaration V) (record : StoredProposal)
    (receipt : VerificationReceipt) (transition : VerificationTransition)
    (safeResult : Option JsonObject) (now : Timestamp) : StoredProposal :=
  { record with
    lifecycleStatus := transition.target
    receipts := record.receipts ++ [.verification receipt]
    safeResult := safeResult
    verificationAttempts :=
      if transition.outcome = .resendAllowed then 0 else record.verificationAttempts
    nextVerificationAt :=
      if transition.target = .verificationPending then some (now + definition.verificationDelay)
      else none
    revision := record.revision + 1 }

/-- `_settle_verification`. -/
def settleVerification (runtime : ActionRuntime) (definition : ActionDeclaration V)
    (record : StoredProposal) (verification : VerificationResult V) (now : Timestamp) :
    Coroutine V H ActionOperationResult := do
  orRaise (validateResultType definition verification.result)
  let reference ← await (.newIdentifier .receipt)
  let receipt := verificationReceipt runtime definition record reference now
    verification.status.receiptStatus verification
  let safeResult ← orRaise (safeResultOf verification.result record.safeResult)
  let transition :=
    verificationTransition definition record verification record.verificationAttempts
  let settled := verificationSettledProposal definition record receipt transition safeResult now
  let written ← cas record settled
  if written = false then
    let current ← required record.tenantReference record.proposalReference
    return operationResult current .inProgress
  else
  emit settled .verificationObserved now transition.reasonCode
  return operationResult settled transition.outcome none transition.reasonCode

def takenOverProposal (record : StoredProposal) : StoredProposal :=
  { record with lifecycleStatus := .verificationPending, revision := record.revision + 1 }

def unresolvedProposal (record : StoredProposal) : StoredProposal :=
  { record with
    lifecycleStatus := .verificationUnresolved
    nextVerificationAt := none
    revision := record.revision + 1 }

def verificationAdmittedProposal (definition : ActionDeclaration V) (record : StoredProposal)
    (now : Timestamp) : StoredProposal :=
  { record with
    nextVerificationAt := some (now + definition.verificationLeaseDuration)
    verificationAttempts := record.verificationAttempts + 1
    revision := record.revision + 1 }

/-- `next_verification_at is not None and next_verification_at > now`. -/
def notYetDue (record : StoredProposal) (now : Timestamp) : Bool :=
  match record.nextVerificationAt with
  | none => false
  | some at' => now < at'

/-- `reconcile` on a record in `verification_pending`: admit one verification, unless it is not
due or the attempts are exhausted. -/
def reconcilePending (runtime : ActionRuntime) (definition : ActionDeclaration V)
    (tenantReference proposalReference : SafeReference) (record : StoredProposal)
    (now : Timestamp) : Coroutine V H ActionOperationResult := do
  if notYetDue record now = true then
    return operationResult record .verificationPending
  else if record.maxVerificationAttempts ≤ record.verificationAttempts then
    let unresolved := unresolvedProposal record
    let written ← cas record unresolved
    if written = false then
      let current ← required tenantReference proposalReference
      return operationResult current .inProgress
    else
    emit unresolved .lifecycleChanged now
      (some RuntimeReasonCode.verificationRetriesExhausted.value)
    return operationResult unresolved .verificationUnresolved none
      (some RuntimeReasonCode.verificationRetriesExhausted.value)
  else
  let admitted := verificationAdmittedProposal definition record now
  let written ← cas record admitted
  if written = false then
    let current ← required tenantReference proposalReference
    return operationResult current .inProgress
  else
  let context ← orRaise (executionContext admitted now)
  let verification ← await (.verify definition context)
  settleVerification runtime definition admitted verification now

/-- `ActionRuntime.reconcile`. -/
def reconcile (runtime : ActionRuntime) (definition : ActionDeclaration V)
    (tenantReference proposalReference : SafeReference) :
    Coroutine V H ActionOperationResult := do
  let record ← required tenantReference proposalReference
  raiseIf (record.actionType ≠ definition.actionType) .proposalNotFound
  raiseIf (record.erasureMarked = true) .proposalNotFound
  let now ← await .now
  if record.lifecycleStatus = .executing ∧ notYetDue record now = true then
    return operationResult record .inProgress
  else if record.lifecycleStatus ∈ [.executing, .failedUnknown] then
    let pending := takenOverProposal record
    let written ← cas record pending
    if written = false then
      let current ← required tenantReference proposalReference
      return operationResult current .inProgress
    else reconcilePending runtime definition tenantReference proposalReference pending now
  else if record.lifecycleStatus ≠ .verificationPending then
    return operationResult record (outcomeFor record.lifecycleStatus)
  else reconcilePending runtime definition tenantReference proposalReference record now

/-! ## Operator recovery -/

/-- The receipt an operator's resumption is caused by: the last verification receipt, or the last
receipt of any kind. -/
def causalReceipt (record : StoredProposal) : Option Receipt :=
  match record.receipts.reverse.find? fun receipt ↦ receipt.verification?.isSome with
  | some receipt => some receipt
  | none => record.receipts.getLast?

def recoveryReceipt (runtime : ActionRuntime) (record : StoredProposal) (cause : Receipt)
    (reference : SafeReference) (now : Timestamp) (operator : RecoveryOperator)
    (interventionReference : SafeReference) : RecoveryReceipt where
  toReceiptBase :=
    { receiptBase runtime record reference now
        (some RuntimeReasonCode.operatorVerificationResumed.value) with
      causationReference := cause.receiptReference
      externalReference := some ⟨"host_operator_intervention", interventionReference⟩ }
  status := .verificationResumed
  participant := operator

def resumedProposal (record : StoredProposal) (receipt : RecoveryReceipt) (now : Timestamp) :
    StoredProposal :=
  { record with
    lifecycleStatus := .verificationPending
    verificationAttempts := 0
    nextVerificationAt := some now
    receipts := record.receipts ++ [.recovery receipt]
    revision := record.revision + 1 }

/-- `resume_verification`. -/
def resumeVerification (runtime : ActionRuntime) (definition : ActionDeclaration V)
    (tenantReference proposalReference : SafeReference) (expectedRevision : ℕ)
    (operator : RecoveryOperator) (interventionReference : SafeReference) :
    Coroutine V H ActionOperationResult := do
  let record ← required tenantReference proposalReference
  raiseIf (record.actionType ≠ definition.actionType) .proposalNotFound
  raiseIf (record.erasureMarked = true) .proposalNotFound
  let now ← await .now
  raiseIf (definition.hasRecoveryAuthorization = false)
    (.authorizationDenied RuntimeReasonCode.recoveryNotAuthorized.value)
  let recoveryAuthorization ← await (.canRecover definition proposalReference
    ⟨tenantReference, operator, interventionReference, now⟩)
  raiseIf (recoveryAuthorization.allowed = false) (.authorizationDenied
    (recoveryAuthorization.reasonCode.getD RuntimeReasonCode.recoveryNotAuthorized.value))
  if record.lifecycleStatus ∉ [.verificationPending, .verificationUnresolved] then
    return operationResult record (outcomeFor record.lifecycleStatus)
  else if record.revision ≠ expectedRevision then
    return operationResult record .conflict
  else
  match causalReceipt record with
  | none => throw (.storeInvariant "verification recovery requires a prior receipt")
  | some cause =>
    let reference ← await (.newIdentifier .receipt)
    let receipt := recoveryReceipt runtime record cause reference now operator
      interventionReference
    let resumed := resumedProposal record receipt now
    let written ← cas record resumed
    if written = false then
      let current ← required tenantReference proposalReference
      return operationResult current .conflict
    else
    emit resumed .verificationResumed now
      (some RuntimeReasonCode.operatorVerificationResumed.value)
    reconcile runtime definition tenantReference proposalReference

/-! ## Erasure -/

/-- `erase` once erasure is marked on `record`: destroy the protected material, then complete. -/
def destroyAndComplete (definition : ActionDeclaration V) (proposalReference : SafeReference)
    (context : ReadContext) (record : StoredProposal) (now : Timestamp) :
    Coroutine V H ActionOperationResult := do
  let proposalIdentity : ProposalIdentity := ⟨record.tenantReference, record.proposalReference⟩
  destroyPayload definition proposalIdentity record.protectedPrivateSnapshot
  destroyCommitment definition proposalIdentity record.commitment
  let completed ← await (.completeErasure
    ⟨record.tenantReference, record.proposalReference, record.revision, now⟩)
  if completed = false then
    let current ← required context.tenantReference proposalReference
    return operationResult current
      (if current.erasedAt.isSome then .erased else .conflict)
  else
  let erased ← required context.tenantReference proposalReference
  emit erased .proposalErased now
  return operationResult erased .erased

/-- `ActionRuntime.erase`. -/
def erase (runtime : ActionRuntime) (definition : ActionDeclaration V)
    (proposalReference : SafeReference) (context : ReadContext) :
    Coroutine V H ActionOperationResult := do
  raiseIf (runtime.hasRetentionStore = false) (.retentionStoreUnavailable
    "erasure requires a separately configured privileged retention store")
  let authorized ← await (.authorizeErasure definition proposalReference context)
  raiseIf (authorized = false) .proposalNotFound
  let record ← required context.tenantReference proposalReference
  raiseIf (record.actionType ≠ definition.actionType) .proposalNotFound
  if record.erasedAt.isSome then return operationResult record .erased
  else
  let now ← await .now
  if record.erasurePendingAt.isSome then
    destroyAndComplete definition proposalReference context record now
  else
  let marked ← await (.markErasurePending
    ⟨record.tenantReference, record.proposalReference, record.revision, now⟩)
  let record ← required context.tenantReference proposalReference
  if marked = false ∧ record.erasedAt.isSome then return operationResult record .erased
  else if marked = false ∧ record.erasurePendingAt = none then
    return operationResult record .conflict
  else destroyAndComplete definition proposalReference context record now

end ThrevoActions
