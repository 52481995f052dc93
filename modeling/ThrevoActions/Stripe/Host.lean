import ThrevoActions.Runtime.Machine
import ThrevoActions.Stripe.CreditNotes
import ThrevoActions.Stripe.Subscriptions

/-!
# The host of the Stripe workflows

The models the Stripe action definitions are declared over, and the calls their workflows make on
the host's repositories and on the provider's gateways. The clock, the proposal store and the
authorization port of a workflow are those of the runtime, and so are its operations on them.
-/

namespace ThrevoActions.Stripe

open Interleaving

/-! ## Snapshots -/

/-- `StripeHostActionGroup`. -/
inductive StripeHostActionGroup
  | refunds
  | subscriptions
  | creditNotes
  deriving DecidableEq, Repr

def StripeHostActionGroup.value : StripeHostActionGroup → String
  | .refunds => "refunds"
  | .subscriptions => "subscriptions"
  | .creditNotes => "credit_notes"

/-- A private snapshot of one of the action groups. -/
inductive StripeSnapshot
  | refund (snapshot : RefundSnapshot)
  | subscription (snapshot : SubscriptionCancellationSnapshot)
  | creditNote (snapshot : CreditNoteSnapshot)

namespace StripeSnapshot

def group : StripeSnapshot → StripeHostActionGroup
  | .refund _ => .refunds
  | .subscription _ => .subscriptions
  | .creditNote _ => .creditNotes

def tenantReference : StripeSnapshot → SafeReference
  | .refund snapshot => snapshot.intent.tenantReference
  | .subscription snapshot => snapshot.tenantReference
  | .creditNote snapshot => snapshot.tenantReference

def effectReference [UnicodeNormalization] : StripeSnapshot → Except Exn SafeReference
  | .refund snapshot => snapshot.effectReference
  | .subscription snapshot => snapshot.effectReference
  | .creditNote snapshot => snapshot.effectReference

def dump [DatetimeText] : StripeSnapshot → JsonObject
  | .refund snapshot => snapshot.dump
  | .subscription snapshot => snapshot.dump
  | .creditNote snapshot => snapshot.dump

end StripeSnapshot

/-! ## Models -/

/-- The models of the Stripe action definitions. -/
inductive StripeModel
  | refundRequest (request : RefundRequest)
  | subscriptionRequest (request : SubscriptionCancellationRequest)
  | creditNoteRequest (request : CreditNoteRequest)
  | snapshot (snapshot : StripeSnapshot)
  | refundPreview (preview : RefundPreview)
  | subscriptionPreview (preview : SubscriptionCancellationPreview)
  | creditNotePreview (preview : CreditNotePreview)
  | refundOutcome (outcome : RefundOutcome)
  | subscriptionOutcome (outcome : SubscriptionCancellationOutcome)
  | creditNoteOutcome (outcome : CreditNoteOutcome)

/-- What a model is used for. -/
inductive StripeModelRole
  | request
  | snapshot
  | preview
  | outcome
  deriving DecidableEq, Repr

namespace StripeModel

/-- Every action group has one model class for each role. -/
def modelClass : StripeModel → StripeHostActionGroup × StripeModelRole
  | .refundRequest _ => (.refunds, .request)
  | .subscriptionRequest _ => (.subscriptions, .request)
  | .creditNoteRequest _ => (.creditNotes, .request)
  | .snapshot value => (value.group, .snapshot)
  | .refundPreview _ => (.refunds, .preview)
  | .subscriptionPreview _ => (.subscriptions, .preview)
  | .creditNotePreview _ => (.creditNotes, .preview)
  | .refundOutcome _ => (.refunds, .outcome)
  | .subscriptionOutcome _ => (.subscriptions, .outcome)
  | .creditNoteOutcome _ => (.creditNotes, .outcome)

def dump [DatetimeText] : StripeModel → JsonObject
  | .refundRequest request => request.dump
  | .subscriptionRequest request => request.dump
  | .creditNoteRequest request => request.dump
  | .snapshot value => value.dump
  | .refundPreview preview => preview.dump
  | .subscriptionPreview preview => preview.dump
  | .creditNotePreview preview => preview.dump
  | .refundOutcome outcome => outcome.dump
  | .subscriptionOutcome outcome => outcome.dump
  | .creditNoteOutcome outcome => outcome.dump

end StripeModel

/-- The Pydantic side of the Stripe models: the texts of datetimes, and validation from JSON. -/
class StripeJson extends DatetimeText where
  validateJson : StripeHostActionGroup × StripeModelRole → Bytes → Except Exn StripeModel

instance [StripeJson] : HostModels StripeModel where
  ModelClass := StripeHostActionGroup × StripeModelRole
  classDecidable := inferInstance
  modelClass := StripeModel.modelClass
  modelJsonObject model := .ok model.dump
  modelValidateJson := StripeJson.validateJson

/-! ## Operations -/

/-- The calls of a workflow's `execute` on repositories and gateways. -/
inductive StripeOp
  | payment (tenantReference paymentReference : SafeReference)
  | subscription (tenantReference subscriptionReference : SafeReference)
  | invoice (tenantReference invoiceReference : SafeReference)
  | reserve (snapshot : StripeSnapshot) (notAfter : Timestamp)
  | recordNoSubmission (group : StripeHostActionGroup)
      (tenantReference effectReference : SafeReference)
  | charge (intent : RefundIntent)
  | retrieveSubscription (binding : SubscriptionBinding)
  | retrieveInvoice (binding : CreditNoteInvoice)
  | previewCreditNote (draft : CreditNoteDraft)
  | createRefund (intent : RefundIntent)
  | updateSubscription (snapshot : SubscriptionCancellationSnapshot)
  | createCreditNote (snapshot : CreditNoteSnapshot)

namespace StripeOp

@[reducible] def Ans : StripeOp → Type
  | .payment _ _ => RefundPayment
  | .subscription _ _ => SubscriptionBinding
  | .invoice _ _ => CreditNoteInvoice
  | .reserve _ _ => StripeReservationStatus
  | .recordNoSubmission _ _ _ => Unit
  | .charge _ => ChargeObservation
  | .retrieveSubscription _ => SubscriptionObservation
  | .retrieveInvoice _ => InvoiceObservation
  | .previewCreditNote _ => CreditNoteCalculation
  | .createRefund _ => RefundObservation
  | .updateSubscription _ => SubscriptionObservation
  | .createCreditNote _ => CreditNoteObservation

/-- The gateway calls that change the provider's state. -/
def isMutation : StripeOp → Bool
  | .createRefund _ | .updateSubscription _ | .createCreditNote _ => true
  | _ => false

/-- The gateway calls that only read the provider's state. -/
def isGatewayRead : StripeOp → Bool
  | .charge _ | .retrieveSubscription _ | .retrieveInvoice _ | .previewCreditNote _ => true
  | _ => false

end StripeOp

/-- The host operations of the Stripe workflows. -/
@[reducible] def stripeSignature : Signature := ⟨StripeOp, StripeOp.Ans⟩

/-- A coroutine of a Stripe workflow. -/
abbrev StripeCoroutine [StripeJson] (α : Type) := Coroutine StripeModel stripeSignature α

/-- `await` a call on a repository or a gateway. -/
abbrev call [StripeJson] (operation : StripeOp) : StripeCoroutine operation.Ans :=
  await (V := StripeModel) (H := stripeSignature) (.host operation)

end ThrevoActions.Stripe
