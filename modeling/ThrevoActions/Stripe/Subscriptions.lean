import ThrevoActions.Stripe.Models

/-!
# Period-end cancellation

The models of `subscriptions.py`: scheduling and withdrawal are distinct from termination.
-/

namespace ThrevoActions.Stripe

inductive SubscriptionOperation
  | schedule
  | withdraw
  deriving DecidableEq, Repr

def SubscriptionOperation.value : SubscriptionOperation → String
  | .schedule => "schedule"
  | .withdraw => "withdraw"

structure SubscriptionCancellationRequest where
  intentReference : SafeReference
  subscriptionReference : SafeReference
  operation : SubscriptionOperation
  deriving DecidableEq

def SubscriptionCancellationRequest.dump (request : SubscriptionCancellationRequest) :
    JsonObject :=
  [jsonField "intent_reference" (jsonText request.intentReference),
    jsonField "subscription_reference" (jsonText request.subscriptionReference),
    jsonField "operation" (jsonText request.operation.value)]

@[ext]
structure SubscriptionBinding where
  tenantReference : SafeReference
  subscriptionReference : SafeReference
  version : ℕ
  account : StripeAccount
  subscriptionId : String
  customerId : String
  version_pos : 1 ≤ version

instance : DecidableEq SubscriptionBinding := fun _ _ ↦ decidable_of_iff' _ SubscriptionBinding.ext_iff

def SubscriptionBinding.dump (binding : SubscriptionBinding) : JsonValue :=
  .dict [jsonField "tenant_reference" (jsonText binding.tenantReference),
    jsonField "subscription_reference" (jsonText binding.subscriptionReference),
    jsonField "version" (.int binding.version), jsonField "account" binding.account.dump,
    jsonField "subscription_id" (jsonText binding.subscriptionId),
    jsonField "customer_id" (jsonText binding.customerId)]

inductive SubscriptionStatus
  | active
  | canceled
  | incomplete
  | incompleteExpired
  | pastDue
  | paused
  | trialing
  | unpaid
  deriving DecidableEq, Repr

def SubscriptionStatus.value : SubscriptionStatus → String
  | .active => "active"
  | .canceled => "canceled"
  | .incomplete => "incomplete"
  | .incompleteExpired => "incomplete_expired"
  | .pastDue => "past_due"
  | .paused => "paused"
  | .trialing => "trialing"
  | .unpaid => "unpaid"

structure SubscriptionObservation where
  subscriptionId : String
  customerId : String
  status : SubscriptionStatus
  livemode : Bool
  itemId : SafeReference
  priceId : SafeReference
  quantity : ℕ
  periodStart : AwareDatetime
  periodEnd : AwareDatetime
  cancelAtPeriodEnd : Bool
  cancelAt : Option AwareDatetime
  supported : Bool
  correlation : String
  deriving BEq

namespace SubscriptionObservation

def boundTo (observed : SubscriptionObservation) (binding : SubscriptionBinding) : Bool :=
  observed.subscriptionId == binding.subscriptionId
    && observed.customerId == binding.customerId
    && observed.livemode == binding.account.livemode

def permits (observed : SubscriptionObservation) (operation : SubscriptionOperation)
    (now : Timestamp) : Bool :=
  observed.supported
    && (observed.status == .active || observed.status == .trialing)
    && decide (observed.periodStart.instant ≤ now)
    && decide (now < observed.periodEnd.instant)
    && observed.cancelAtPeriodEnd == (operation == .withdraw)
    && (observed.cancelAt.isNone
      || (observed.cancelAtPeriodEnd && observed.cancelAt == some observed.periodEnd))

def dump [DatetimeText] (observed : SubscriptionObservation) : JsonValue :=
  .dict [jsonField "subscription_id" (jsonText observed.subscriptionId),
    jsonField "customer_id" (jsonText observed.customerId),
    jsonField "status" (jsonText observed.status.value),
    jsonField "livemode" (.bool observed.livemode), jsonField "item_id" (jsonText observed.itemId),
    jsonField "price_id" (jsonText observed.priceId),
    jsonField "quantity" (.int observed.quantity),
    jsonField "period_start" observed.periodStart.dump,
    jsonField "period_end" observed.periodEnd.dump,
    jsonField "cancel_at_period_end" (.bool observed.cancelAtPeriodEnd),
    jsonField "cancel_at" (jsonOptional AwareDatetime.dump observed.cancelAt),
    jsonField "supported" (.bool observed.supported),
    jsonField "correlation" (jsonText observed.correlation)]

end SubscriptionObservation

structure SubscriptionCancellationPolicy where
  allowLive : Bool := false
  allowWithdrawal : Bool := true
  deriving DecidableEq, Repr

namespace SubscriptionCancellationPolicy

def dump (policy : SubscriptionCancellationPolicy) : JsonObject :=
  [jsonField "allow_live" (.bool policy.allowLive),
    jsonField "allow_withdrawal" (.bool policy.allowWithdrawal)]

def fingerprint [UnicodeNormalization] (policy : SubscriptionCancellationPolicy) :
    Except Exn String :=
  canonicalDigest (.dict policy.dump)

def permits (policy : SubscriptionCancellationPolicy) (operation : SubscriptionOperation)
    (livemode : Bool) : Bool :=
  (!livemode || policy.allowLive) && (operation == .schedule || policy.allowWithdrawal)

end SubscriptionCancellationPolicy

structure SubscriptionCancellationSnapshot where
  tenantReference : SafeReference
  intentReference : SafeReference
  policyFingerprint : String
  binding : SubscriptionBinding
  operation : SubscriptionOperation
  observed : SubscriptionObservation
  consistent_binding :
    binding.tenantReference = tenantReference ∧ observed.boundTo binding = true

namespace SubscriptionCancellationSnapshot

def dump [DatetimeText] (snapshot : SubscriptionCancellationSnapshot) : JsonObject :=
  [jsonField "tenant_reference" (jsonText snapshot.tenantReference),
    jsonField "intent_reference" (jsonText snapshot.intentReference),
    jsonField "policy_fingerprint" (jsonText snapshot.policyFingerprint),
    jsonField "binding" snapshot.binding.dump,
    jsonField "operation" (jsonText snapshot.operation.value),
    jsonField "observed" snapshot.observed.dump]

section

variable [UnicodeNormalization]

def effectReference (snapshot : SubscriptionCancellationSnapshot) : Except Exn SafeReference :=
  effectReferenceOf "subscription-cancellation" snapshot.tenantReference snapshot.intentReference

def correlation [DatetimeText] (snapshot : SubscriptionCancellationSnapshot) :
    Except Exn String :=
  canonicalDigest (.dict snapshot.dump)

/-- `expected` of `matches_result`: what the provider reports after the change. -/
def expected (snapshot : SubscriptionCancellationSnapshot) (correlation : String) :
    SubscriptionObservation :=
  { snapshot.observed with
    cancelAtPeriodEnd := snapshot.operation == .schedule
    cancelAt := if snapshot.operation = .schedule then some snapshot.observed.periodEnd else none
    correlation := correlation }

def matchesResult [DatetimeText] (snapshot : SubscriptionCancellationSnapshot)
    (observed : SubscriptionObservation) : Except Exn Bool := do
  let correlation ← snapshot.correlation
  return observed == snapshot.expected correlation && observed.boundTo snapshot.binding

end

end SubscriptionCancellationSnapshot

structure SubscriptionCancellationPreview where
  subscriptionReference : SafeReference
  operation : SubscriptionOperation
  currentPeriodEnd : AwareDatetime
  scheduledEnd : Option AwareDatetime

/-- The literal `billing_notice` is the same for every preview. -/
def SubscriptionCancellationPreview.dump [DatetimeText]
    (preview : SubscriptionCancellationPreview) : JsonObject :=
  [jsonField "subscription_reference" (jsonText preview.subscriptionReference),
    jsonField "operation" (jsonText preview.operation.value),
    jsonField "current_period_end" preview.currentPeriodEnd.dump,
    jsonField "scheduled_end" (jsonOptional AwareDatetime.dump preview.scheduledEnd),
    jsonField "billing_notice" (jsonText "Existing invoice items and usage may still be billed.")]

inductive CancellationStatus
  | scheduled
  | withdrawn
  deriving DecidableEq, Repr

def CancellationStatus.value : CancellationStatus → String
  | .scheduled => "scheduled"
  | .withdrawn => "withdrawn"

structure SubscriptionCancellationOutcome where
  subscriptionReference : SafeReference
  status : CancellationStatus
  scheduledEnd : Option AwareDatetime

def SubscriptionCancellationOutcome.dump [DatetimeText]
    (outcome : SubscriptionCancellationOutcome) : JsonObject :=
  [jsonField "subscription_reference" (jsonText outcome.subscriptionReference),
    jsonField "status" (jsonText outcome.status.value),
    jsonField "scheduled_end" (jsonOptional AwareDatetime.dump outcome.scheduledEnd)]

end ThrevoActions.Stripe
