import ThrevoActions.Models

/-!
# Typed lifecycle receipts

The closed families of receipts a proposal accumulates, with the wire values of their statuses.
What the families share is `ReceiptBase`; `schema_version` is the same literal for every receipt
and is therefore a constant here (`Receipt.schemaVersion`).
-/

namespace ThrevoActions

inductive ProposalReceiptStatus
  | prepared
  | failed
  | missing
  deriving DecidableEq, Repr

def ProposalReceiptStatus.value : ProposalReceiptStatus → String
  | .prepared => "prepared"
  | .failed => "failed"
  | .missing => "missing"

inductive AuthorityReceiptStatus
  | recorded
  | rejected
  | failed
  | missing
  deriving DecidableEq, Repr

def AuthorityReceiptStatus.value : AuthorityReceiptStatus → String
  | .recorded => "recorded"
  | .rejected => "rejected"
  | .failed => "failed"
  | .missing => "missing"

inductive ExecutionReceiptStatus
  | started
  | accepted
  | partiallySucceeded
  | staleNoEffect
  | failedKnown
  | failedUnknown
  | missing
  deriving DecidableEq, Repr

def ExecutionReceiptStatus.value : ExecutionReceiptStatus → String
  | .started => "started"
  | .accepted => "accepted"
  | .partiallySucceeded => "partially_succeeded"
  | .staleNoEffect => "stale_no_effect"
  | .failedKnown => "failed_known"
  | .failedUnknown => "failed_unknown"
  | .missing => "missing"

inductive VerificationReceiptStatus
  | verifiedCompletion
  | verifiedTerminalFailure
  | provisionalAbsence
  | authoritativeFinalAbsence
  | targetUnavailable
  | verificationUnresolved
  | missing
  deriving DecidableEq, Repr

def VerificationReceiptStatus.value : VerificationReceiptStatus → String
  | .verifiedCompletion => "verified_completion"
  | .verifiedTerminalFailure => "verified_terminal_failure"
  | .provisionalAbsence => "provisional_absence"
  | .authoritativeFinalAbsence => "authoritative_final_absence"
  | .targetUnavailable => "target_unavailable"
  | .verificationUnresolved => "verification_unresolved"
  | .missing => "missing"

inductive RecoveryReceiptStatus
  | verificationResumed
  deriving DecidableEq, Repr

def RecoveryReceiptStatus.value : RecoveryReceiptStatus → String
  | .verificationResumed => "verification_resumed"

/-- A minimized provider reference safe for an evidence projection. -/
structure ExternalReference where
  system : SafeReference
  reference : SafeReference
  deriving DecidableEq, Repr

inductive ItemOutcomeStatus
  | succeeded
  | failedKnown
  | failedUnknown
  deriving DecidableEq, Repr

def ItemOutcomeStatus.value : ItemOutcomeStatus → String
  | .succeeded => "succeeded"
  | .failedKnown => "failed_known"
  | .failedUnknown => "failed_unknown"

/-- A minimized authoritative outcome for one declared itemized effect. -/
structure ItemOutcome where
  itemReference : SafeReference
  status : ItemOutcomeStatus
  reasonCode : Option SafeReference := none
  deriving DecidableEq, Repr

/-- The fields every receipt family shares. -/
structure ReceiptBase where
  receiptReference : SafeReference
  correlationReference : SafeReference
  causationReference : SafeReference
  observedAt : Timestamp
  runtimeRevision : Option SafeReference := none
  externalReference : Option ExternalReference := none
  correctsReceiptReference : Option SafeReference := none
  supersedesReceiptReference : Option SafeReference := none
  reasonCode : Option SafeReference := none
  deriving DecidableEq, Repr

structure ProposalReceipt extends ReceiptBase where
  status : ProposalReceiptStatus
  requestingPrincipal : RequestingPrincipal
  proposingAgent : Option ProposingAgent := none
  deriving DecidableEq, Repr

structure AuthorityReceipt extends ReceiptBase where
  status : AuthorityReceiptStatus
  participant : ConfirmingAuthority
  deriving DecidableEq, Repr

structure ExecutionReceipt extends ReceiptBase where
  status : ExecutionReceiptStatus
  participant : GovernedExecutor
  itemOutcomes : List ItemOutcome := []
  deriving DecidableEq, Repr

structure VerificationReceipt extends ReceiptBase where
  status : VerificationReceiptStatus
  participant : AuthoritativeTarget
  itemOutcomes : List ItemOutcome := []
  deriving DecidableEq, Repr

structure RecoveryReceipt extends ReceiptBase where
  status : RecoveryReceiptStatus
  participant : RecoveryOperator
  deriving DecidableEq, Repr

inductive Receipt
  | proposal (receipt : ProposalReceipt)
  | authority (receipt : AuthorityReceipt)
  | execution (receipt : ExecutionReceipt)
  | verification (receipt : VerificationReceipt)
  | recovery (receipt : RecoveryReceipt)
  deriving DecidableEq, Repr

namespace Receipt

def base : Receipt → ReceiptBase
  | .proposal r => r.toReceiptBase
  | .authority r => r.toReceiptBase
  | .execution r => r.toReceiptBase
  | .verification r => r.toReceiptBase
  | .recovery r => r.toReceiptBase

def schemaVersion (_ : Receipt) : SafeReference := "internal/v0"

def receiptReference (r : Receipt) : SafeReference := r.base.receiptReference

def correlationReference (r : Receipt) : SafeReference := r.base.correlationReference

def causationReference (r : Receipt) : SafeReference := r.base.causationReference

def reasonCode (r : Receipt) : Option SafeReference := r.base.reasonCode

/-- `isinstance(receipt, VerificationReceipt)`, with the receipt. -/
def verification? : Receipt → Option VerificationReceipt
  | .verification r => some r
  | _ => none

/-- An execution receipt with the given status. -/
def isExecution (status : ExecutionReceiptStatus) : Receipt → Bool
  | .execution r => r.status == status
  | _ => false

/-- A verification receipt with the given status. -/
def isVerification (status : VerificationReceiptStatus) : Receipt → Bool
  | .verification r => r.status == status
  | _ => false

end Receipt

inductive RuntimeEventType
  | proposalPrepared
  | authorityRecorded
  | lifecycleChanged
  | verificationObserved
  | verificationResumed
  | proposalErased
  deriving DecidableEq, Repr

/-- Allowlisted event metadata; snapshots and result payloads are impossible. -/
structure RuntimeEvent where
  eventType : RuntimeEventType
  tenantReference : SafeReference
  proposalReference : SafeReference
  actionType : ActionType
  lifecycleStatus : LifecycleStatus
  correlationReference : SafeReference
  observedAt : Timestamp
  reasonCode : Option SafeReference := none
  deriving DecidableEq

end ThrevoActions
