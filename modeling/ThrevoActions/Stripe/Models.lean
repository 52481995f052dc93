import ThrevoActions.Money
import ThrevoActions.Sha256

/-!
# Typed refund semantics

The refund part of `gateway.py` and `models.py` of the Stripe integration: intents, observations,
policies and snapshots, with the digests computed from their JSON form. Identifiers whose syntax
Pydantic checks are plain texts here.

An aware datetime keeps its UTC offset, because its JSON text does; two datetimes are equal when
they are the same instant.
-/

namespace ThrevoActions.Stripe

/-! ## Aware datetimes -/

/-- An aware datetime with its own UTC offset. -/
structure AwareDatetime where
  instant : Timestamp
  utcOffset : Duration := 0
  deriving Repr

/-- Python compares aware datetimes as instants. -/
instance : BEq AwareDatetime where
  beq a b := a.instant == b.instant

/-- The JSON text Pydantic gives an aware datetime. -/
class DatetimeText where
  isoformat : AwareDatetime → PyStr

def AwareDatetime.dump [DatetimeText] (datetime : AwareDatetime) : JsonValue :=
  .str (DatetimeText.isoformat datetime)

/-! ## Digests -/

section Digests

variable [UnicodeNormalization]

/-- `hashlib.sha256(canonicalize_v1(document)).hexdigest()`. -/
def canonicalDigest (document : JsonValue) : Except Exn String := do
  return Sha256.hexdigest (← canonicalizeV1 document)

/-- The identity of a business intent within its namespace. -/
def effectReferenceOf (effectNamespace tenantReference intentReference : SafeReference) :
    Except Exn SafeReference := do
  let digest ← canonicalDigest (.list [jsonText tenantReference, jsonText intentReference])
  return effectNamespace ++ ":" ++ digest

end Digests

/-! ## Refunds -/

/-- Host-resolved scope; `none` means the platform account of the injected key. -/
structure StripeAccount where
  reference : SafeReference
  connectedAccount : Option String := none
  livemode : Bool := false
  deriving DecidableEq, Repr

def StripeAccount.dump (account : StripeAccount) : JsonValue :=
  .dict [jsonField "reference" (jsonText account.reference),
    jsonField "connected_account" (jsonOptional jsonText account.connectedAccount),
    jsonField "livemode" (.bool account.livemode)]

structure RefundIntent where
  tenantReference : SafeReference
  intentReference : SafeReference
  account : StripeAccount
  chargeId : String
  amount : Money
  currencyExponent : ℕ
  currencyExponent_le : currencyExponent ≤ 3
  exact_minor_units : (amount.amount.scaleb currencyExponent).isPositiveUnits 99999999 = true
  deriving DecidableEq

namespace RefundIntent

def amountMinor (intent : RefundIntent) : ℤ :=
  (intent.amount.amount.scaleb intent.currencyExponent).toInt

def dump (intent : RefundIntent) : JsonObject :=
  [jsonField "tenant_reference" (jsonText intent.tenantReference),
    jsonField "intent_reference" (jsonText intent.intentReference),
    jsonField "account" intent.account.dump, jsonField "charge_id" (jsonText intent.chargeId),
    jsonField "amount" intent.amount.dump,
    jsonField "currency_exponent" (.int intent.currencyExponent)]

/-- Stable across action and library versions. -/
def correlation [UnicodeNormalization] (intent : RefundIntent) : Except Exn String :=
  canonicalDigest (.dict intent.dump)

end RefundIntent

inductive RefundStatus
  | pending
  | requiresAction
  | succeeded
  | failed
  | canceled
  deriving DecidableEq, Repr

def RefundStatus.value : RefundStatus → String
  | .pending => "pending"
  | .requiresAction => "requires_action"
  | .succeeded => "succeeded"
  | .failed => "failed"
  | .canceled => "canceled"

structure ChargeObservation where
  chargeId : String
  currency : String
  amountMinor : ℕ
  refundedMinor : ℕ
  captured : Bool
  paid : Bool
  disputed : Bool
  livemode : Bool
  indirectCharge : Bool
  deriving DecidableEq, Repr

def ChargeObservation.permits (charge : ChargeObservation) (intent : RefundIntent) : Bool :=
  charge.chargeId == intent.chargeId
    && charge.currency == intent.amount.currency.toLower
    && charge.livemode == intent.account.livemode
    && charge.captured
    && charge.paid
    && !charge.disputed
    && !charge.indirectCharge
    && decide (intent.amountMinor ≤ (charge.amountMinor : ℤ) - charge.refundedMinor)

structure RefundObservation where
  refundId : String
  chargeId : String
  currency : String
  amountMinor : ℕ
  status : RefundStatus
  correlation : String
  amountMinor_pos : 0 < amountMinor
  deriving DecidableEq

/-- Raises if the intent has no canonical form. -/
def RefundObservation.matchesIntent [UnicodeNormalization] (observed : RefundObservation)
    (intent : RefundIntent) : Except Exn Bool := do
  let correlation ← intent.correlation
  return observed.chargeId == intent.chargeId
    && observed.currency == intent.amount.currency.toLower
    && observed.amountMinor == intent.amountMinor
    && observed.correlation == correlation

structure RefundOutcome where
  amount : Money
  status : RefundStatus
  deriving DecidableEq

def RefundOutcome.dump (outcome : RefundOutcome) : JsonObject :=
  [jsonField "amount" outcome.amount.dump, jsonField "status" (jsonText outcome.status.value)]

/-- Model-visible intent. -/
structure RefundRequest where
  intentReference : SafeReference
  paymentReference : SafeReference
  amount : Money
  deriving DecidableEq

def RefundRequest.dump (request : RefundRequest) : JsonObject :=
  [jsonField "intent_reference" (jsonText request.intentReference),
    jsonField "payment_reference" (jsonText request.paymentReference),
    jsonField "amount" request.amount.dump]

/-- Canonical host payment; `version` changes whenever its refund binding changes. -/
@[ext]
structure RefundPayment where
  tenantReference : SafeReference
  paymentReference : SafeReference
  version : ℕ
  account : StripeAccount
  chargeId : String
  currency : String
  currencyExponent : ℕ
  version_pos : 1 ≤ version
  currencyExponent_le : currencyExponent ≤ 3

instance : DecidableEq RefundPayment := fun _ _ ↦ decidable_of_iff' _ RefundPayment.ext_iff

/-- Explicit per-currency ceilings. -/
structure RefundPolicy where
  limits : List Money
  allowLive : Bool := false
  limits_ne_nil : limits ≠ []
  unique_limits : (limits.map Money.currency).Nodup
  positive_limits : ∀ limit ∈ limits, limit.amount.isPositive = true
  deriving DecidableEq

namespace RefundPolicy

def permits (policy : RefundPolicy) (amount : Money) (livemode : Bool) : Bool :=
  (!livemode || policy.allowLive)
    && policy.limits.any fun limit ↦
      limit.currency == amount.currency && amount.amount.isPositive && amount.amount.le limit.amount

def dump (policy : RefundPolicy) : JsonObject :=
  [jsonField "limits" (.list (policy.limits.map Money.dump)),
    jsonField "allow_live" (.bool policy.allowLive)]

def fingerprint [UnicodeNormalization] (policy : RefundPolicy) : Except Exn String :=
  canonicalDigest (.dict policy.dump)

end RefundPolicy

@[ext]
structure RefundSnapshot where
  intent : RefundIntent
  paymentReference : SafeReference
  paymentVersion : ℕ
  refundedMinor : ℕ
  policyFingerprint : String
  paymentVersion_pos : 1 ≤ paymentVersion

instance : DecidableEq RefundSnapshot := fun _ _ ↦ decidable_of_iff' _ RefundSnapshot.ext_iff

namespace RefundSnapshot

def dump (snapshot : RefundSnapshot) : JsonObject :=
  [jsonField "intent" (.dict snapshot.intent.dump),
    jsonField "payment_reference" (jsonText snapshot.paymentReference),
    jsonField "payment_version" (.int snapshot.paymentVersion),
    jsonField "refunded_minor" (.int snapshot.refundedMinor),
    jsonField "policy_fingerprint" (jsonText snapshot.policyFingerprint)]

def effectReference [UnicodeNormalization] (snapshot : RefundSnapshot) :
    Except Exn SafeReference :=
  effectReferenceOf "refund" snapshot.intent.tenantReference snapshot.intent.intentReference

/-- `_matches_payment`. -/
def matchesPayment (snapshot : RefundSnapshot) (payment : RefundPayment) : Bool :=
  payment.tenantReference == snapshot.intent.tenantReference
    && payment.paymentReference == snapshot.paymentReference
    && payment.version == snapshot.paymentVersion
    && payment.chargeId == snapshot.intent.chargeId
    && payment.account == snapshot.intent.account
    && payment.currency == snapshot.intent.amount.currency
    && payment.currencyExponent == snapshot.intent.currencyExponent

end RefundSnapshot

structure RefundPreview where
  paymentReference : SafeReference
  amount : Money
  deriving DecidableEq

def RefundPreview.dump (preview : RefundPreview) : JsonObject :=
  [jsonField "payment_reference" (jsonText preview.paymentReference),
    jsonField "amount" preview.amount.dump]

/-- The answer of a host repository to a reservation. `RefundReservationStatus` has the same
values. -/
inductive StripeReservationStatus
  | acquired
  | alreadySubmitted
  | unavailable
  | stale
  deriving DecidableEq, Repr

def StripeReservationStatus.value : StripeReservationStatus → String
  | .acquired => "acquired"
  | .alreadySubmitted => "already_submitted"
  | .unavailable => "unavailable"
  | .stale => "stale"

end ThrevoActions.Stripe
