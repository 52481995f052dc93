import ThrevoActions.Authority
import ThrevoActions.Canonical
import ThrevoActions.Receipts

/-!
# Action definitions and their boundary values

What an action declares about itself, and the values that cross the boundary between the runtime
and host ports. Results whose validator rejects them cannot be built: each structure carries its
validator as fields.

Host-defined models are values of one type `V`. `HostModels` says what the runtime needs of them:
their class, their JSON dump and their validation from JSON text.
-/

namespace ThrevoActions

/-- The Pydantic side of host-defined models. -/
class HostModels (V : Type) where
  ModelClass : Type
  classDecidable : DecidableEq ModelClass
  /-- `type(value)`. -/
  modelClass : V → ModelClass
  /-- `model_json_object(value)`. -/
  modelJsonObject : V → Except Exn JsonObject
  /-- `model.model_validate_json(payload)`. -/
  modelValidateJson : ModelClass → Bytes → Except Exn V

export HostModels (ModelClass modelClass modelJsonObject modelValidateJson)

instance {V : Type} [HostModels V] : DecidableEq (ModelClass V) := HostModels.classDecidable

/-! ## Contexts -/

structure PreparationContext where
  tenantReference : SafeReference
  requestingPrincipal : RequestingPrincipal
  proposingAgent : Option ProposingAgent := none
  preparedAt : Timestamp

structure DecisionContext where
  tenantReference : SafeReference
  authority : ConfirmingAuthority
  decidedAt : Timestamp

structure ReadContext where
  tenantReference : SafeReference
  consumer : EvidenceConsumer

/-- Authenticated host context for an operator-requested verification reset. -/
structure RecoveryContext where
  tenantReference : SafeReference
  operator : RecoveryOperator
  interventionReference : SafeReference
  requestedAt : Timestamp

structure ExecutionContext where
  tenantReference : SafeReference
  proposalReference : SafeReference
  semanticEffectReference : SafeReference
  requestingPrincipal : RequestingPrincipal
  authorities : List ConfirmingAuthority
  observedAt : Timestamp
  deriving DecidableEq

/-! ## Answers of host ports -/

structure AuthorizationResult where
  allowed : Bool
  reasonCode : Option SafeReference := none
  deriving DecidableEq, Repr

structure AuthorityEvaluation where
  satisfied : Bool
  reasonCode : Option SafeReference := none
  deriving DecidableEq, Repr

structure PreparedAction (V : Type) where
  privateSnapshot : V
  displayPreview : V
  semanticEffectReference : SafeReference

structure ResolvedState (V : Type) where
  currentSnapshot : V
  executionPrecondition : SafeReference
  materiallyDrifted : Bool
  replacement : Option (PreparedAction V) := none

inductive ExecutionStatus
  | accepted
  | staleNoEffect
  | failedKnown
  | failedUnknown
  | partiallySucceeded
  deriving DecidableEq, Repr

/-- The checks of `partial_requires_items`. -/
structure ExecutionResult (V : Type) where
  status : ExecutionStatus
  result : Option V := none
  itemOutcomes : List ItemOutcome := []
  externalReference : Option ExternalReference := none
  reasonCode : Option SafeReference := none
  partial_mixes_outcomes : status = .partiallySucceeded →
    (∃ item ∈ itemOutcomes, item.status ≠ .succeeded) ∧
      ∃ item ∈ itemOutcomes, item.status = .succeeded := by nofun
  stale_carries_nothing : status = .staleNoEffect →
    result = none ∧ itemOutcomes = [] ∧ externalReference = none := by simp

theorem accepted_mixes_nothing : ExecutionStatus.accepted = .partiallySucceeded →
    (∃ item ∈ ([] : List ItemOutcome), item.status ≠ .succeeded) ∧
      ∃ item ∈ ([] : List ItemOutcome), item.status = .succeeded := by nofun

theorem failedKnown_mixes_nothing : ExecutionStatus.failedKnown = .partiallySucceeded →
    (∃ item ∈ ([] : List ItemOutcome), item.status ≠ .succeeded) ∧
      ∃ item ∈ ([] : List ItemOutcome), item.status = .succeeded := by nofun

inductive VerificationStatus
  | verifiedCompletion
  | verifiedTerminalFailure
  | provisionalAbsence
  | authoritativeFinalAbsence
  | targetUnavailable
  deriving DecidableEq, Repr

/-- The checks of `absence_requires_consistent_evidence`. -/
structure VerificationResult (V : Type) where
  status : VerificationStatus
  result : Option V := none
  itemOutcomes : List ItemOutcome := []
  externalReference : Option ExternalReference := none
  reasonCode : Option SafeReference := none
  settlingBoundaryPassed : Bool := false
  targetIdempotencyGuaranteed : Bool := false
  absence_carries_nothing : status = .provisionalAbsence ∨ status = .authoritativeFinalAbsence →
    result = none ∧ itemOutcomes = [] := by simp
  completion_has_success : status = .verifiedCompletion → itemOutcomes ≠ [] →
    ∃ item ∈ itemOutcomes, item.status = .succeeded := by simp
  terminal_knows_items : status = .verifiedCompletion ∨ status = .verifiedTerminalFailure →
    ∀ item ∈ itemOutcomes, item.status ≠ .failedUnknown := by simp
  settled_iff_final_absence :
    settlingBoundaryPassed = true ↔ status = .authoritativeFinalAbsence := by simp

/-! ## Definitions -/

/-- The declared part of an `ActionDefinition`: everything but the ports themselves. Durations and
bounds that its `__post_init__` rejects cannot be declared. -/
structure ActionDeclaration (V : Type) [HostModels V] where
  actionType : ActionType
  privateSnapshotModel : ModelClass V
  displayPreviewModel : ModelClass V
  resultModel : ModelClass V
  proposalTtl : Duration
  executorIdentity : GovernedExecutor
  targetIdentity : AuthoritativeTarget
  authorityAudience : SafeReference
  authorityChannelAssurance : SafeReference
  /-- `recovery_authorization is not None`. -/
  hasRecoveryAuthorization : Bool := false
  verificationDelay : Duration := 0
  maxVerificationAttempts : ℕ := 3
  effectKind : EffectKind := .single
  allowResendAfterFinalAbsence : Bool := false
  verificationLeaseDuration : Duration := 60000000
  proposalTtl_pos : 0 < proposalTtl
  verificationDelay_nonneg : 0 ≤ verificationDelay := by decide
  maxVerificationAttempts_pos : 0 < maxVerificationAttempts := by decide
  verificationLeaseDuration_pos : 0 < verificationLeaseDuration := by decide

end ThrevoActions
