import ThrevoActions.Stripe.Host

/-!
# The Stripe workflows

`execute` of the three workflows, as coroutines of the runtime: `_Workflow.execute` shared by
subscription cancellations and credit notes (`_operation.py`), and `_RefundWorkflow.execute` with
the connector's `submit` (`actions.py`, `gateway.py`).
-/

namespace ThrevoActions.Stripe

open Interleaving Interleaving.Program

variable [UnicodeNormalization] [StripeJson]

/-! ## Results -/

/-- A result without an effect or with an unknown one. -/
def refusedExecution (status : ExecutionStatus) (reasonCode : SafeReference)
    (h : status ≠ .partiallySucceeded := by decide) : ExecutionResult StripeModel where
  status := status
  reasonCode := some reasonCode
  partial_mixes_outcomes := fun hpartial ↦ absurd hpartial h
  stale_carries_nothing := fun _ ↦ ⟨rfl, rfl, rfl⟩

/-- A result the provider accepted. -/
def acceptedExecution (result : Option StripeModel) (correlation : String) :
    ExecutionResult StripeModel where
  status := .accepted
  result := result
  externalReference := some ⟨"stripe", correlation⟩

/-- The statuses with which a workflow reports that it submitted nothing. -/
def ExecutionStatus.isNoSubmission (status : ExecutionStatus) : Bool :=
  status == .failedKnown || status == .staleNoEffect

/-- `statuses[reservation]` for a reservation that was not acquired. -/
def refusedReservation (reasonPrefix : String) : StripeReservationStatus →
    Option (ExecutionResult StripeModel)
  | .acquired => none
  | .alreadySubmitted => some (refusedExecution .failedUnknown
    (reasonPrefix ++ StripeReservationStatus.alreadySubmitted.value))
  | .unavailable => some (refusedExecution .failedKnown
    (reasonPrefix ++ StripeReservationStatus.unavailable.value))
  | .stale => some (refusedExecution .staleNoEffect
    (reasonPrefix ++ StripeReservationStatus.stale.value))

/-- The deadline both kinds of workflow take from the record they read: expiry, the time at which
verification is next due, and the end of every piece of authority evidence. -/
def submissionDeadline (record : Option StoredProposal) : Option Timestamp :=
  match record with
  | none => none
  | some record =>
    match record.nextVerificationAt with
    | none => none
    | some nextVerificationAt =>
      if record.authorityEvidence.isEmpty then none
      else some (record.authorityEvidence.foldl (fun earliest item ↦ min earliest item.expiresAt)
        (min record.expiresAt nextVerificationAt))

/-- `isinstance(exc, StripeBoundaryError)`. -/
def isBoundaryError : Exn → Bool
  | .stripeBoundary _ => true
  | _ => false

/-- `p` if the condition holds, otherwise `False` without running `p`. -/
def onlyIf (condition : Prop) [Decidable condition] (p : StripeCoroutine Bool) :
    StripeCoroutine Bool :=
  if condition then p else pure false

/-- Close the intent if nothing was submitted, and report the result. -/
def reportResult (group : StripeHostActionGroup) (tenantReference effectReference : SafeReference)
    (result : ExecutionResult StripeModel) : StripeCoroutine (ExecutionResult StripeModel) :=
  if ExecutionStatus.isNoSubmission result.status then do
    call (.recordNoSubmission group tenantReference effectReference)
    return result
  else pure result

/-! ## The shared workflow -/

/-- What `_Workflow` leaves to its subclasses. -/
structure Workflow (S : Type) where
  toSnapshot : S → StripeSnapshot
  /-- `_current`. -/
  current : S → StripeCoroutine Bool
  /-- `_submit`. -/
  submit : S → Timestamp → StripeCoroutine (ExecutionResult StripeModel)

namespace Workflow

variable {S : Type} (workflow : Workflow S) (definition : ActionDeclaration StripeModel)

/-- `authorization.can_execute(snapshot, context=context)`. -/
def canExecute (snapshot : S) (context : ExecutionContext) : StripeCoroutine Bool := do
  let authorization ← await (V := StripeModel) (H := stripeSignature)
    (.canExecute definition (.snapshot (workflow.toSnapshot snapshot)) context)
  return authorization.allowed

/-- `not (await self.resolve(snapshot, context=context)).materially_drifted`. -/
def unchanged (snapshot : S) (context : ExecutionContext) (effectReference : SafeReference) :
    StripeCoroutine Bool :=
  onlyIf ((workflow.toSnapshot snapshot).tenantReference = context.tenantReference ∧
      effectReference = context.semanticEffectReference)
    (workflow.current snapshot)

/-- The part of `execute` after the reservation, up to the submission. -/
def submitReserved (snapshot : S) (context : ExecutionContext) (deadline : Timestamp) :
    StripeCoroutine (ExecutionResult StripeModel) := do
  let allowed ← workflow.canExecute definition snapshot context
  if allowed = false then return refusedExecution .failedKnown "stripe_authority_revoked"
  else
  let current ← workflow.current snapshot
  if current = false then return refusedExecution .staleNoEffect "stripe_state_changed"
  else
  let allowed ← workflow.canExecute definition snapshot context
  if allowed = false then return refusedExecution .failedKnown "stripe_authority_revoked"
  else
  let now ← await (V := StripeModel) (H := stripeSignature) .now
  if deadline ≤ now then
    return refusedExecution .failedKnown "stripe_submission_deadline_expired"
  else workflow.submit snapshot deadline

/-- `execute` from the reservation on. -/
def reserveAndSubmit (snapshot : S) (context : ExecutionContext) (effectReference : SafeReference)
    (deadline : Timestamp) : StripeCoroutine (ExecutionResult StripeModel) := do
  let reservation ← call (.reserve (workflow.toSnapshot snapshot) deadline)
  match refusedReservation "stripe_reservation_" reservation with
  | some refused => return refused
  | none =>
    let result ← workflow.submitReserved definition snapshot context deadline
    reportResult (workflow.toSnapshot snapshot).group context.tenantReference effectReference result

/-- `_Workflow.execute`. -/
def execute (snapshot : S) (context : ExecutionContext) (executionPrecondition : SafeReference) :
    StripeCoroutine (ExecutionResult StripeModel) := do
  let effectReference ← orRaise (workflow.toSnapshot snapshot).effectReference
  let unchanged ← onlyIf (executionPrecondition = effectReference)
    (workflow.unchanged snapshot context effectReference)
  if unchanged = false then
    return refusedExecution .staleNoEffect "stripe_precondition_changed"
  else
  let allowed ← workflow.canExecute definition snapshot context
  if allowed = false then
    return refusedExecution .staleNoEffect "stripe_precondition_changed"
  else
  let record ← await (V := StripeModel) (H := stripeSignature)
    (.get context.tenantReference context.proposalReference)
  match submissionDeadline record with
  | none => return refusedExecution .failedKnown "stripe_admission_unavailable"
  | some deadline =>
    workflow.reserveAndSubmit definition snapshot context effectReference deadline

end Workflow

/-! ## Subscription cancellations -/

/-- `_SubscriptionWorkflow._current`. -/
def subscriptionCurrent (policy : SubscriptionCancellationPolicy)
    (snapshot : SubscriptionCancellationSnapshot) : StripeCoroutine Bool := do
  let fingerprint ← orRaise policy.fingerprint
  if snapshot.binding.tenantReference ≠ snapshot.tenantReference
      ∨ snapshot.policyFingerprint ≠ fingerprint
      ∨ policy.permits snapshot.operation snapshot.binding.account.livemode = false then
    return false
  else
  let binding ← call (.subscription snapshot.tenantReference snapshot.binding.subscriptionReference)
  if binding ≠ snapshot.binding then return false
  else
  let observed ← call (.retrieveSubscription binding)
  if (observed == snapshot.observed && observed.boundTo binding) = false then return false
  else
  let now ← await (V := StripeModel) (H := stripeSignature) .now
  return observed.permits snapshot.operation now

/-- The `gateway.update` of `_SubscriptionWorkflow._submit` with its handler. -/
def submitCancellation (snapshot : SubscriptionCancellationSnapshot) :
    StripeCoroutine (ExecutionResult StripeModel) := do
  let updated ← (call (.updateSubscription snapshot)).attempt
  match updated with
  | .error failure =>
    if isBoundaryError failure then
      return refusedExecution .failedUnknown "stripe_subscription_submission_unknown"
    else throw failure
  | .ok observed =>
    let matched ← orRaise (snapshot.matchesResult observed)
    if matched = false then
      return refusedExecution .failedUnknown "stripe_subscription_binding_mismatch"
    else
    let correlation ← orRaise snapshot.correlation
    return acceptedExecution none correlation

/-- `_SubscriptionWorkflow._submit`. -/
def subscriptionSubmit (snapshot : SubscriptionCancellationSnapshot) (notAfter : Timestamp) :
    StripeCoroutine (ExecutionResult StripeModel) := do
  let now ← await (V := StripeModel) (H := stripeSignature) .now
  if min notAfter snapshot.observed.periodEnd.instant ≤ now then
    return refusedExecution .staleNoEffect "stripe_cancellation_deadline_expired"
  else submitCancellation snapshot

/-- `_SubscriptionWorkflow`. -/
def subscriptionWorkflow (policy : SubscriptionCancellationPolicy) :
    Workflow SubscriptionCancellationSnapshot where
  toSnapshot := .subscription
  current := subscriptionCurrent policy
  submit := subscriptionSubmit

/-! ## Credit notes -/

/-- `_CreditNoteWorkflow._current`. -/
def creditNoteCurrent (policy : CreditNotePolicy) (snapshot : CreditNoteSnapshot) :
    StripeCoroutine Bool := do
  let fingerprint ← orRaise policy.fingerprint
  if snapshot.draft.invoice.tenantReference ≠ snapshot.tenantReference
      ∨ snapshot.draft.request.intentReference ≠ snapshot.intentReference
      ∨ snapshot.policyFingerprint ≠ fingerprint
      ∨ policy.permits snapshot.draft.request snapshot.draft.invoice.account.livemode = false then
    return false
  else
  let binding ← call (.invoice snapshot.tenantReference snapshot.draft.invoice.invoiceReference)
  if binding ≠ snapshot.draft.invoice then return false
  else
  let observed ← call (.retrieveInvoice binding)
  if observed ≠ snapshot.observedInvoice
      ∨ observed.boundTo binding = false
      ∨ observed.permits snapshot.draft.request.disposition snapshot.draft.totalMinor = false then
    return false
  else
  let calculation ← call (.previewCreditNote snapshot.draft)
  return calculation == snapshot.calculation

/-- The `gateway.create` of `_CreditNoteWorkflow._submit` with its handler. -/
def submitCreditNote (snapshot : CreditNoteSnapshot) :
    StripeCoroutine (ExecutionResult StripeModel) := do
  let created ← (call (.createCreditNote snapshot)).attempt
  match created with
  | .error failure =>
    if isBoundaryError failure then
      return refusedExecution .failedUnknown "stripe_credit_submission_unknown"
    else throw failure
  | .ok observed =>
    let matched ← orRaise (observed.matchesSnapshot snapshot)
    if matched = false ∨ observed.status ≠ .issued then
      return refusedExecution .failedUnknown "stripe_credit_binding_mismatch"
    else
    let correlation ← orRaise snapshot.correlation
    return acceptedExecution none correlation

/-- `_CreditNoteWorkflow._submit`. -/
def creditNoteSubmit (snapshot : CreditNoteSnapshot) (notAfter : Timestamp) :
    StripeCoroutine (ExecutionResult StripeModel) := do
  let now ← await (V := StripeModel) (H := stripeSignature) .now
  if notAfter ≤ now then
    return refusedExecution .failedKnown "stripe_submission_deadline_expired"
  else submitCreditNote snapshot

/-- `_CreditNoteWorkflow`. -/
def creditNoteWorkflow (policy : CreditNotePolicy) : Workflow CreditNoteSnapshot where
  toSnapshot := .creditNote
  current := creditNoteCurrent policy
  submit := creditNoteSubmit

/-! ## Refunds -/

/-- `not resolved.materially_drifted` of `_RefundWorkflow.resolve`. -/
def refundUnchanged (policy : RefundPolicy) (snapshot : RefundSnapshot)
    (context : ExecutionContext) (effectReference : SafeReference) : StripeCoroutine Bool := do
  let fingerprint ← orRaise policy.fingerprint
  if snapshot.intent.tenantReference ≠ context.tenantReference
      ∨ effectReference ≠ context.semanticEffectReference
      ∨ snapshot.policyFingerprint ≠ fingerprint
      ∨ policy.permits snapshot.intent.amount snapshot.intent.account.livemode = false then
    return false
  else
  let payment ← call (.payment context.tenantReference snapshot.paymentReference)
  if snapshot.matchesPayment payment = false then return false
  else
  let charge ← call (.charge snapshot.intent)
  return charge.permits snapshot.intent && charge.refundedMinor == snapshot.refundedMinor

/-- The `gateway.create` of `StripeRefundConnector.submit` with its handler. -/
def submitRefund (intent : RefundIntent) : StripeCoroutine (ExecutionResult StripeModel) := do
  let created ← (call (.createRefund intent)).attempt
  match created with
  | .error failure =>
    if isBoundaryError failure then
      return refusedExecution .failedUnknown "stripe_submission_unknown"
    else throw failure
  | .ok observed =>
    let matched ← orRaise (observed.matchesIntent intent)
    if matched = false then return refusedExecution .failedUnknown "stripe_binding_mismatch"
    else
    let correlation ← orRaise intent.correlation
    return acceptedExecution (some (.refundOutcome ⟨intent.amount, observed.status⟩)) correlation

/-- `StripeRefundConnector.submit`. -/
def connectorSubmit (intent : RefundIntent) (notAfter : Timestamp) :
    StripeCoroutine (ExecutionResult StripeModel) := do
  let charge ← (call (.charge intent)).attempt
  match charge with
  | .error failure =>
    if isBoundaryError failure then
      return refusedExecution .failedKnown "stripe_preflight_unavailable"
    else throw failure
  | .ok charge =>
    if charge.permits intent = false then
      return refusedExecution .staleNoEffect "stripe_charge_changed"
    else
    let now ← await (V := StripeModel) (H := stripeSignature) .now
    if notAfter ≤ now then
      return refusedExecution .failedKnown "stripe_submission_deadline_expired"
    else submitRefund intent

/-- `host.authorization.can_execute(snapshot, context=context)`. -/
def refundCanExecute (definition : ActionDeclaration StripeModel) (snapshot : RefundSnapshot)
    (context : ExecutionContext) : StripeCoroutine Bool := do
  let permitted ← await (V := StripeModel) (H := stripeSignature)
    (.canExecute definition (.snapshot (.refund snapshot)) context)
  return permitted.allowed

/-- The part of `_RefundWorkflow.execute` after the reservation, up to the submission. -/
def refundSubmitReserved (definition : ActionDeclaration StripeModel) (snapshot : RefundSnapshot)
    (context : ExecutionContext) (deadline : Timestamp) :
    StripeCoroutine (ExecutionResult StripeModel) := do
  let permitted ← refundCanExecute definition snapshot context
  if permitted = false then return refusedExecution .failedKnown "refund_authority_revoked"
  else connectorSubmit snapshot.intent deadline

/-- `_RefundWorkflow.execute` from the reservation on. -/
def refundReserveAndSubmit (definition : ActionDeclaration StripeModel) (snapshot : RefundSnapshot)
    (context : ExecutionContext) (effectReference : SafeReference) (deadline : Timestamp) :
    StripeCoroutine (ExecutionResult StripeModel) := do
  let reservation ← call (.reserve (.refund snapshot) deadline)
  match refusedReservation "refund_reservation_" reservation with
  | some refused => return refused
  | none =>
    let result ← refundSubmitReserved definition snapshot context deadline
    reportResult .refunds context.tenantReference effectReference result

/-- `_RefundWorkflow.execute`. -/
def refundExecute (policy : RefundPolicy) (definition : ActionDeclaration StripeModel)
    (snapshot : RefundSnapshot) (context : ExecutionContext)
    (executionPrecondition : SafeReference) : StripeCoroutine (ExecutionResult StripeModel) := do
  let effectReference ← orRaise snapshot.effectReference
  let unchanged ← refundUnchanged policy snapshot context effectReference
  let permitted ← refundCanExecute definition snapshot context
  if unchanged = false ∨ executionPrecondition ≠ effectReference ∨ permitted = false then
    return refusedExecution .staleNoEffect "refund_precondition_changed"
  else
  let record ← await (V := StripeModel) (H := stripeSignature)
    (.get context.tenantReference context.proposalReference)
  match submissionDeadline record with
  | none => return refusedExecution .failedKnown "refund_admission_unavailable"
  | some deadline => refundReserveAndSubmit definition snapshot context effectReference deadline

/-! ## Executors -/

/-- The policies of the configured action groups. -/
structure StripePolicies where
  refunds : RefundPolicy
  subscriptions : SubscriptionCancellationPolicy
  creditNotes : CreditNotePolicy

/-- `execute` of the workflow a snapshot belongs to. -/
def executeSnapshot (policies : StripePolicies) (definition : ActionDeclaration StripeModel)
    (snapshot : StripeSnapshot) (context : ExecutionContext)
    (executionPrecondition : SafeReference) : StripeCoroutine (ExecutionResult StripeModel) :=
  match snapshot with
  | .refund snapshot =>
    refundExecute policies.refunds definition snapshot context executionPrecondition
  | .subscription snapshot => (subscriptionWorkflow policies.subscriptions).execute definition
    snapshot context executionPrecondition
  | .creditNote snapshot => (creditNoteWorkflow policies.creditNotes).execute definition snapshot
    context executionPrecondition

/-- The executors of the Stripe action definitions. Each definition's private snapshot model belongs
to one workflow, so the class of the snapshot tells the workflow. -/
def stripeExecutors (policies : StripePolicies) : ExecutorOf StripeModel stripeSignature :=
  fun definition model context executionPrecondition ↦
    match model with
    | .snapshot snapshot =>
      executeSnapshot policies definition snapshot context executionPrecondition
    | _ => throw (.host "AttributeError")

end ThrevoActions.Stripe
