import ThrevoActions.Store.Base

/-!
# Outcomes and reason codes of runtime operations
-/

namespace ThrevoActions

inductive OperationOutcome
  | prepared
  | authorityPending
  | authorized
  | denied
  | blocked
  | stale
  | inProgress
  | expired
  | replayed
  | conflict
  | verificationPending
  | verified
  | partiallySucceeded
  | failedKnown
  | failedUnknown
  | verificationUnresolved
  | resendAllowed
  | erased
  deriving DecidableEq, Repr

/-- Reason codes generated by the runtime; hosts may still return their own. -/
inductive RuntimeReasonCode
  | prepareDenied
  | authorityRejected
  | proposalExpired
  | privateSnapshotUnavailable
  | proposalCommitmentUnavailable
  | authorityExpired
  | executionLeaseExpired
  | authorityNoLongerSatisfied
  | reauthorizationFailed
  | verificationRetriesExhausted
  | materialDrift
  | partialNotDeclared
  | verifiedTerminalFailure
  | authoritativeFinalAbsence
  | operatorVerificationResumed
  | recoveryNotAuthorized
  deriving DecidableEq, Repr

def RuntimeReasonCode.value : RuntimeReasonCode → SafeReference
  | .prepareDenied => "prepare_denied"
  | .authorityRejected => "authority_rejected"
  | .proposalExpired => "proposal_expired"
  | .privateSnapshotUnavailable => "private_snapshot_unavailable"
  | .proposalCommitmentUnavailable => "proposal_commitment_unavailable"
  | .authorityExpired => "authority_expired"
  | .executionLeaseExpired => "execution_lease_expired"
  | .authorityNoLongerSatisfied => "authority_no_longer_satisfied"
  | .reauthorizationFailed => "reauthorization_failed"
  | .verificationRetriesExhausted => "verification_retries_exhausted"
  | .materialDrift => "material_drift"
  | .partialNotDeclared => "partial_not_declared"
  | .verifiedTerminalFailure => "verified_terminal_failure"
  | .authoritativeFinalAbsence => "authoritative_final_absence"
  | .operatorVerificationResumed => "operator_verification_resumed"
  | .recoveryNotAuthorized => "recovery_not_authorized"

structure ActionOperationResult where
  proposalReference : SafeReference
  lifecycleStatus : LifecycleStatus
  outcome : OperationOutcome
  revision : ℕ
  displayPreview : JsonObject := []
  safeResult : Option JsonObject := none
  freshProposalReference : Option SafeReference := none
  reasonCode : Option SafeReference := none
  deriving DecidableEq

/-- `_result`. -/
def operationResult (record : StoredProposal) (outcome : OperationOutcome)
    (freshProposalReference reasonCode : Option SafeReference := none)
    (includeDisplayPreview : Bool := false) : ActionOperationResult where
  proposalReference := record.proposalReference
  lifecycleStatus := record.lifecycleStatus
  outcome := outcome
  revision := record.revision
  displayPreview := if includeDisplayPreview then record.displayPreview else []
  safeResult := record.safeResult
  freshProposalReference := freshProposalReference
  reasonCode := reasonCode

/-- `_outcome_for`. -/
def outcomeFor : LifecycleStatus → OperationOutcome
  | .awaitingAuthority => .authorityPending
  | .authorized => .authorized
  | .denied => .denied
  | .expired => .expired
  | .blocked => .blocked
  | .stale => .stale
  | .superseded => .stale
  | .executing => .inProgress
  | .failedKnown => .failedKnown
  | .failedUnknown => .inProgress
  | .verificationPending => .inProgress
  | .verificationUnresolved => .verificationUnresolved
  | .partiallySucceeded => .partiallySucceeded
  | .verified => .verified

end ThrevoActions
