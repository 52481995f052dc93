import ThrevoActions.Store.Base

/-!
# Recovery projections of governed actions

`recovery.py` as far as it computes: the condition of a stored proposal, the step it recommends,
and the views these are reported in. The due-work query of the PostgreSQL work source is a filter
over rows, stated here on one row.
-/

namespace ThrevoActions

/-! ## Vocabulary -/

/-- Operational condition derived from an authorized stored revision. -/
inductive ActionRecoveryCondition
  | waitingForAuthority
  | readyForExecution
  | effectOwnedElsewhere
  | activeExecutionLease
  | waitingForProvider
  | observationUnavailable
  | outcomeUnproven
  | operatorAttention
  | resolved
  | replacementRequired
  | refused
  | expiryDue
  | erased
  deriving DecidableEq, Repr

/-- Existing public operation that may be considered after a fresh check. -/
inductive ActionRecoveryOperation
  | awaitAuthority
  | expire
  | execute
  | wait
  | reconcile
  | inspectOwner
  | operatorReview
  | viewRecordedOutcome
  | prepareReplacement
  | noAction
  deriving DecidableEq, Repr

/-- Runtime operation suggested by authoritative due-work discovery. -/
inductive ActionWorkOperation
  | execute
  | expire
  | reconcile
  | attention
  deriving DecidableEq, Repr

/-- Advisory relationship between a proposal and the effect claim. -/
inductive ActionEffectOwnership
  | unclaimed
  | ownedByThisProposal
  | ownedElsewhere
  | observationUncertain
  deriving DecidableEq, Repr

structure ActionRecoveryStep where
  operation : ActionRecoveryOperation
  notBefore : Option Timestamp := none
  reasonCode : Option SafeReference := none
  deriving DecidableEq, Repr

/-- Minimized sibling-owner state, returned only after the owner may be read. -/
structure ActionRecoveryOwnerView where
  proposalReference : SafeReference
  revision : ℕ
  lifecycleStatus : LifecycleStatus
  condition : ActionRecoveryCondition
  nextCheckAt : Option Timestamp := none
  deriving DecidableEq, Repr

/-- Read-only explanation of one proposal's recovery state. -/
structure ActionRecoveryView where
  proposalReference : SafeReference
  lifecycleStatus : LifecycleStatus
  revision : ℕ
  erased : Bool
  observedAt : Timestamp
  expiresAt : Option Timestamp := none
  nextVerificationAt : Option Timestamp := none
  verificationAttempts : Option ℕ := none
  maxVerificationAttempts : Option ℕ := none
  lastVerificationStatus : Option VerificationReceiptStatus := none
  reasonCode : Option SafeReference := none
  condition : ActionRecoveryCondition
  effectOwnership : ActionEffectOwnership
  owner : Option ActionRecoveryOwnerView := none
  recommendedSteps : List ActionRecoveryStep := []
  deriving DecidableEq, Repr

/-! ## Work -/

/-- Stable keyset position within one caller-pinned discovery cutoff. -/
structure ActionWorkCursor where
  dueAt : Timestamp
  proposalReference : SafeReference
  deriving DecidableEq, Repr

/-- Minimal due-work reference. -/
structure ActionWorkItem where
  actionType : ActionType
  proposalReference : SafeReference
  operation : ActionWorkOperation
  dueAt : Timestamp
  reasonCode : Option SafeReference := none
  deriving DecidableEq

/-- One bounded tenant-scoped page at an explicit scan cutoff. -/
structure ActionWorkPage where
  tenantReference : SafeReference
  cutoff : Timestamp
  items : List ActionWorkItem
  nextCursor : Option ActionWorkCursor := none
  deriving DecidableEq

/-! ## Conditions and steps -/

/-- `recovery_condition`. -/
def recoveryCondition (lifecycleStatus : LifecycleStatus) (observedAt expiresAt : Timestamp)
    (nextVerificationAt : Option Timestamp)
    (lastVerificationStatus : Option VerificationReceiptStatus) : ActionRecoveryCondition :=
  if lifecycleStatus ∈ [.awaitingAuthority, .authorized] ∧ expiresAt ≤ observedAt then .expiryDue
  else
    match lifecycleStatus with
    | .awaitingAuthority => .waitingForAuthority
    | .authorized => .readyForExecution
    | .executing =>
      if nextVerificationAt.any (observedAt < ·) then .activeExecutionLease else .outcomeUnproven
    | .failedUnknown => .outcomeUnproven
    | .verificationPending =>
      if nextVerificationAt.any (observedAt < ·) then .waitingForProvider
      else if lastVerificationStatus = some .targetUnavailable then .observationUnavailable
      else if lastVerificationStatus = some .provisionalAbsence then .waitingForProvider
      else .outcomeUnproven
    | .verificationUnresolved | .partiallySucceeded => .operatorAttention
    | .verified | .failedKnown => .resolved
    | .stale | .superseded => .replacementRequired
    | .denied | .expired | .blocked => .refused

/-- The operation each condition recommends. -/
def ActionRecoveryCondition.operation : ActionRecoveryCondition → ActionRecoveryOperation
  | .waitingForAuthority => .awaitAuthority
  | .readyForExecution => .execute
  | .effectOwnedElsewhere => .inspectOwner
  | .activeExecutionLease => .wait
  | .waitingForProvider => .wait
  | .observationUnavailable => .reconcile
  | .outcomeUnproven => .reconcile
  | .operatorAttention => .operatorReview
  | .resolved => .viewRecordedOutcome
  | .replacementRequired => .prepareReplacement
  | .refused => .noAction
  | .expiryDue => .expire
  | .erased => .noAction

/-- `recovery_steps`. -/
def recoverySteps (condition : ActionRecoveryCondition) (nextVerificationAt : Option Timestamp)
    (reasonCode : Option SafeReference) : List ActionRecoveryStep :=
  [{ operation := condition.operation
     notBefore :=
       if condition ∈ [.activeExecutionLease, .waitingForProvider] then nextVerificationAt
       else none
     reasonCode := reasonCode }]

/-- The newest verification receipt on file. -/
def lastVerification (record : StoredProposal) : Option VerificationReceipt :=
  record.receipts.reverse.findSome? Receipt.verification?

/-- A receipt put on file last is the newest verification receipt, if it is one at all. -/
theorem lastVerification_append (record : StoredProposal) (receipt : Receipt)
    {updated : StoredProposal} (hreceipts : updated.receipts = record.receipts ++ [receipt]) :
    lastVerification updated = receipt.verification?.or (lastVerification record) := by
  rw [lastVerification, hreceipts, List.reverse_append, List.reverse_singleton,
    List.singleton_append, List.findSome?_cons, lastVerification]
  cases receipt.verification? <;> rfl

/-! ## Due work -/

/-- What the due-work query says about one row. -/
structure DueRow where
  operation : ActionWorkOperation
  dueAt : Timestamp
  reasonCode : Option SafeReference
  deriving DecidableEq, Repr

/-- The statuses whose rows are due by `next_verification_at`. -/
def unsettledStatuses : List LifecycleStatus := [.executing, .failedUnknown, .verificationPending]

/-- The `WHERE` clause of the due-work query, tenant aside. `statusChangedAt` is the column of that
name, which the runtime never reads. -/
def isDue (record : StoredProposal) (statusChangedAt cutoff : Timestamp) : Bool :=
  record.erasurePendingAt.isNone && record.erasedAt.isNone &&
    (decide (record.lifecycleStatus = .awaitingAuthority ∧ record.expiresAt ≤ cutoff) ||
      decide (record.lifecycleStatus = .authorized ∧ statusChangedAt ≤ cutoff) ||
      decide (record.lifecycleStatus ∈ unsettledStatuses) &&
        record.nextVerificationAt.all (· ≤ cutoff))

/-- The `SELECT` clause of the due-work query. -/
def dueRow (record : StoredProposal) (statusChangedAt cutoff : Timestamp) : DueRow where
  operation :=
    if record.lifecycleStatus ∈ [.awaitingAuthority, .authorized] ∧ record.expiresAt ≤ cutoff then
      .expire
    else if record.lifecycleStatus = .authorized then .execute
    else if record.lifecycleStatus ∈ unsettledStatuses ∧ record.nextVerificationAt = none then
      .attention
    else .reconcile
  dueAt :=
    if record.lifecycleStatus ∈ [.awaitingAuthority, .authorized] ∧ record.expiresAt ≤ cutoff then
      record.expiresAt
    else if record.lifecycleStatus = .authorized then statusChangedAt
    else record.nextVerificationAt.getD statusChangedAt
  reasonCode :=
    if record.lifecycleStatus ∈ unsettledStatuses ∧ record.nextVerificationAt = none then
      some "recovery_schedule_missing"
    else none

/-- The due-work query on one row. -/
def dueWork (record : StoredProposal) (statusChangedAt cutoff : Timestamp) : Option DueRow :=
  if isDue record statusChangedAt cutoff then some (dueRow record statusChangedAt cutoff) else none

end ThrevoActions
