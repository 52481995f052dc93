import ThrevoActions.Stripe.Models

/-!
# Invoice-bound credit notes

The models of `credit_notes.py`: explicit allocation and provider-computed totals.
-/

namespace ThrevoActions.Stripe

inductive CreditDisposition
  | invoiceReduction
  | customerBalance
  deriving DecidableEq, Repr

def CreditDisposition.value : CreditDisposition → String
  | .invoiceReduction => "invoice_reduction"
  | .customerBalance => "customer_balance"

inductive CreditNoteReason
  | duplicate
  | fraudulent
  | orderChange
  | productUnsatisfactory
  deriving DecidableEq, Repr

def CreditNoteReason.value : CreditNoteReason → String
  | .duplicate => "duplicate"
  | .fraudulent => "fraudulent"
  | .orderChange => "order_change"
  | .productUnsatisfactory => "product_unsatisfactory"

/-! ## Requests and bindings -/

structure CreditNoteLineRequest where
  lineReference : SafeReference
  amount : Money
  deriving DecidableEq

def CreditNoteLineRequest.dump (line : CreditNoteLineRequest) : JsonValue :=
  .dict [jsonField "line_reference" (jsonText line.lineReference),
    jsonField "amount" line.amount.dump]

structure CreditNoteRequest where
  intentReference : SafeReference
  invoiceReference : SafeReference
  lines : List CreditNoteLineRequest
  expectedTotal : Money
  disposition : CreditDisposition
  reason : CreditNoteReason
  lines_length : 1 ≤ lines.length ∧ lines.length ≤ 10
  distinct_lines : (lines.map CreditNoteLineRequest.lineReference).Nodup
  same_currency : ∀ line ∈ lines, line.amount.currency = expectedTotal.currency
  positive_amounts : expectedTotal.amount.isPositive = true ∧
    ∀ line ∈ lines, line.amount.amount.isPositive = true
  deriving DecidableEq

def CreditNoteRequest.dump (request : CreditNoteRequest) : JsonObject :=
  [jsonField "intent_reference" (jsonText request.intentReference),
    jsonField "invoice_reference" (jsonText request.invoiceReference),
    jsonField "lines" (.list (request.lines.map CreditNoteLineRequest.dump)),
    jsonField "expected_total" request.expectedTotal.dump,
    jsonField "disposition" (jsonText request.disposition.value),
    jsonField "reason" (jsonText request.reason.value)]

structure InvoiceLineBinding where
  lineReference : SafeReference
  invoiceLineId : String
  deriving DecidableEq

def InvoiceLineBinding.dump (line : InvoiceLineBinding) : JsonValue :=
  .dict [jsonField "line_reference" (jsonText line.lineReference),
    jsonField "invoice_line_id" (jsonText line.invoiceLineId)]

@[ext]
structure CreditNoteInvoice where
  tenantReference : SafeReference
  invoiceReference : SafeReference
  version : ℕ
  account : StripeAccount
  invoiceId : String
  customerId : String
  currency : String
  currencyExponent : ℕ
  lines : List InvoiceLineBinding
  version_pos : 1 ≤ version
  currencyExponent_le : currencyExponent ≤ 3
  lines_ne_nil : lines ≠ []
  unique_lines : (lines.map InvoiceLineBinding.lineReference).Nodup ∧
    (lines.map InvoiceLineBinding.invoiceLineId).Nodup

instance : DecidableEq CreditNoteInvoice := fun _ _ ↦ decidable_of_iff' _ CreditNoteInvoice.ext_iff

def CreditNoteInvoice.dump (invoice : CreditNoteInvoice) : JsonValue :=
  .dict [jsonField "tenant_reference" (jsonText invoice.tenantReference),
    jsonField "invoice_reference" (jsonText invoice.invoiceReference),
    jsonField "version" (.int invoice.version), jsonField "account" invoice.account.dump,
    jsonField "invoice_id" (jsonText invoice.invoiceId),
    jsonField "customer_id" (jsonText invoice.customerId),
    jsonField "currency" (jsonText invoice.currency),
    jsonField "currency_exponent" (.int invoice.currencyExponent),
    jsonField "lines" (.list (invoice.lines.map InvoiceLineBinding.dump))]

inductive InvoiceStatus
  | draft
  | open'
  | paid
  | uncollectible
  | void
  deriving DecidableEq, Repr

def InvoiceStatus.value : InvoiceStatus → String
  | .draft => "draft"
  | .open' => "open"
  | .paid => "paid"
  | .uncollectible => "uncollectible"
  | .void => "void"

structure InvoiceObservation where
  invoiceId : String
  customerId : String
  currency : String
  livemode : Bool
  status : InvoiceStatus
  totalMinor : ℤ
  amountDueMinor : ℤ
  amountPaidMinor : ℕ
  remainingMinor : ℕ
  prePaymentCreditsMinor : ℕ
  postPaymentCreditsMinor : ℕ
  supported : Bool
  deriving DecidableEq, Repr

namespace InvoiceObservation

def boundTo (observed : InvoiceObservation) (binding : CreditNoteInvoice) : Bool :=
  observed.invoiceId == binding.invoiceId
    && observed.customerId == binding.customerId
    && observed.currency == binding.currency.toLower
    && observed.livemode == binding.account.livemode

def permits (observed : InvoiceObservation) (disposition : CreditDisposition) (totalMinor : ℕ) :
    Bool :=
  if !observed.supported then false
  else if disposition = .invoiceReduction then
    observed.status == .open' && decide (totalMinor ≤ observed.remainingMinor)
  else observed.status == .paid && observed.remainingMinor == 0

def dump (observed : InvoiceObservation) : JsonValue :=
  .dict [jsonField "invoice_id" (jsonText observed.invoiceId),
    jsonField "customer_id" (jsonText observed.customerId),
    jsonField "currency" (jsonText observed.currency),
    jsonField "livemode" (.bool observed.livemode),
    jsonField "status" (jsonText observed.status.value),
    jsonField "total_minor" (.int observed.totalMinor),
    jsonField "amount_due_minor" (.int observed.amountDueMinor),
    jsonField "amount_paid_minor" (.int observed.amountPaidMinor),
    jsonField "remaining_minor" (.int observed.remainingMinor),
    jsonField "pre_payment_credits_minor" (.int observed.prePaymentCreditsMinor),
    jsonField "post_payment_credits_minor" (.int observed.postPaymentCreditsMinor),
    jsonField "supported" (.bool observed.supported)]

end InvoiceObservation

@[ext]
structure CreditNotePolicy where
  limits : List Money
  allowLive : Bool := false
  allowCustomerBalance : Bool := true
  limits_ne_nil : limits ≠ []
  unique_limits : (limits.map Money.currency).Nodup
  positive_limits : ∀ limit ∈ limits, limit.amount.isPositive = true

instance : DecidableEq CreditNotePolicy := fun _ _ ↦ decidable_of_iff' _ CreditNotePolicy.ext_iff

namespace CreditNotePolicy

def permits (policy : CreditNotePolicy) (request : CreditNoteRequest) (livemode : Bool) : Bool :=
  (!livemode || policy.allowLive)
    && (request.disposition == .invoiceReduction || policy.allowCustomerBalance)
    && policy.limits.any fun limit ↦
      limit.currency == request.expectedTotal.currency
        && request.expectedTotal.amount.isPositive && request.expectedTotal.amount.le limit.amount

def dump (policy : CreditNotePolicy) : JsonObject :=
  [jsonField "limits" (.list (policy.limits.map Money.dump)),
    jsonField "allow_live" (.bool policy.allowLive),
    jsonField "allow_customer_balance" (.bool policy.allowCustomerBalance)]

def fingerprint [UnicodeNormalization] (policy : CreditNotePolicy) : Except Exn String :=
  canonicalDigest (.dict policy.dump)

end CreditNotePolicy

/-! ## Calculations and drafts -/

structure CreditNoteLine where
  invoiceLineId : String
  amountMinor : ℕ
  amountMinor_bounds : 0 < amountMinor ∧ amountMinor ≤ 99999999
  deriving DecidableEq

def CreditNoteLine.dump (line : CreditNoteLine) : JsonValue :=
  .dict [jsonField "invoice_line_id" (jsonText line.invoiceLineId),
    jsonField "amount_minor" (.int line.amountMinor)]

inductive TaxBehavior
  | exclusive
  | inclusive
  deriving DecidableEq, Repr

def TaxBehavior.value : TaxBehavior → String
  | .exclusive => "exclusive"
  | .inclusive => "inclusive"

structure CreditNoteTax where
  amountMinor : ℤ
  taxableMinor : Option ℤ
  behavior : TaxBehavior
  rateReference : Option String
  reason : String
  deriving DecidableEq, Repr

def CreditNoteTax.dump (tax : CreditNoteTax) : JsonValue :=
  .dict [jsonField "amount_minor" (.int tax.amountMinor),
    jsonField "taxable_minor" (jsonOptional JsonValue.int tax.taxableMinor),
    jsonField "behavior" (jsonText tax.behavior.value),
    jsonField "rate_reference" (jsonOptional jsonText tax.rateReference),
    jsonField "reason" (jsonText tax.reason)]

structure CreditNoteCalculatedLine where
  invoiceLineId : String
  amountMinor : ℕ
  discountMinor : ℕ
  taxes : List CreditNoteTax
  deriving DecidableEq, Repr

def CreditNoteCalculatedLine.dump (line : CreditNoteCalculatedLine) : JsonValue :=
  .dict [jsonField "invoice_line_id" (jsonText line.invoiceLineId),
    jsonField "amount_minor" (.int line.amountMinor),
    jsonField "discount_minor" (.int line.discountMinor),
    jsonField "taxes" (.list (line.taxes.map CreditNoteTax.dump))]

@[ext]
structure CreditNoteCalculation where
  currency : String
  totalMinor : ℕ
  prePaymentMinor : ℕ
  postPaymentMinor : ℕ
  lines : List CreditNoteCalculatedLine
  totalMinor_pos : 0 < totalMinor
  lines_length : 1 ≤ lines.length ∧ lines.length ≤ 10

instance : DecidableEq CreditNoteCalculation := fun _ _ ↦ decidable_of_iff' _ CreditNoteCalculation.ext_iff

def CreditNoteCalculation.dump (calculation : CreditNoteCalculation) : JsonValue :=
  .dict [jsonField "currency" (jsonText calculation.currency),
    jsonField "total_minor" (.int calculation.totalMinor),
    jsonField "pre_payment_minor" (.int calculation.prePaymentMinor),
    jsonField "post_payment_minor" (.int calculation.postPaymentMinor),
    jsonField "lines" (.list (calculation.lines.map CreditNoteCalculatedLine.dump))]

structure CreditNoteDraft where
  invoice : CreditNoteInvoice
  request : CreditNoteRequest
  lines : List CreditNoteLine
  totalMinor : ℕ
  totalMinor_bounds : 0 < totalMinor ∧ totalMinor ≤ 99999999
  deriving DecidableEq

/-- `{key: value for …}[id]`: of several entries under one key a dictionary keeps the last. -/
def lastAmount (entries : List (String × ℕ)) (id : String) : Option ℕ :=
  (entries.reverse.find? fun entry ↦ entry.1 == id).map Prod.snd

/-- Equality of the dictionaries built from two lists of entries. -/
def sameAmounts (a b : List (String × ℕ)) : Bool :=
  (a ++ b).all fun entry ↦ lastAmount a entry.1 == lastAmount b entry.1

namespace CreditNoteDraft

def creditMinor (draft : CreditNoteDraft) : ℕ :=
  if draft.request.disposition = .customerBalance then draft.totalMinor else 0

def matchesCalculation (draft : CreditNoteDraft) (calculation : CreditNoteCalculation) : Bool :=
  calculation.currency == draft.invoice.currency.toLower
    && calculation.totalMinor == draft.totalMinor
    && (calculation.prePaymentMinor : ℤ) == draft.totalMinor - draft.creditMinor
    && calculation.postPaymentMinor == draft.creditMinor
    && calculation.lines.length == draft.lines.length
    && sameAmounts (calculation.lines.map fun line ↦ (line.invoiceLineId, line.amountMinor))
      (draft.lines.map fun line ↦ (line.invoiceLineId, line.amountMinor))

def dump (draft : CreditNoteDraft) : JsonValue :=
  .dict [jsonField "invoice" draft.invoice.dump, jsonField "request" (.dict draft.request.dump),
    jsonField "lines" (.list (draft.lines.map CreditNoteLine.dump)),
    jsonField "total_minor" (.int draft.totalMinor)]

end CreditNoteDraft

/-! ## Snapshots and outcomes -/

structure CreditNoteSnapshot where
  tenantReference : SafeReference
  intentReference : SafeReference
  policyFingerprint : String
  draft : CreditNoteDraft
  observedInvoice : InvoiceObservation
  calculation : CreditNoteCalculation
  consistent_binding : draft.invoice.tenantReference = tenantReference ∧
    draft.request.intentReference = intentReference ∧
    draft.request.invoiceReference = draft.invoice.invoiceReference ∧
    observedInvoice.boundTo draft.invoice = true ∧
    draft.matchesCalculation calculation = true
  deriving DecidableEq

namespace CreditNoteSnapshot

def dump (snapshot : CreditNoteSnapshot) : JsonObject :=
  [jsonField "tenant_reference" (jsonText snapshot.tenantReference),
    jsonField "intent_reference" (jsonText snapshot.intentReference),
    jsonField "policy_fingerprint" (jsonText snapshot.policyFingerprint),
    jsonField "draft" snapshot.draft.dump,
    jsonField "observed_invoice" snapshot.observedInvoice.dump,
    jsonField "calculation" snapshot.calculation.dump]

variable [UnicodeNormalization]

def effectReference (snapshot : CreditNoteSnapshot) : Except Exn SafeReference :=
  effectReferenceOf "credit-note" snapshot.tenantReference snapshot.intentReference

def correlation (snapshot : CreditNoteSnapshot) : Except Exn String :=
  canonicalDigest (.dict snapshot.dump)

end CreditNoteSnapshot

inductive CreditNoteStatus
  | issued
  | void
  deriving DecidableEq, Repr

def CreditNoteStatus.value : CreditNoteStatus → String
  | .issued => "issued"
  | .void => "void"

structure CreditNoteObservation where
  noteId : String
  invoiceId : String
  customerId : String
  livemode : Bool
  status : CreditNoteStatus
  reason : Option CreditNoteReason
  calculation : CreditNoteCalculation
  correlation : String
  balanceTransactionId : Option String
  hasRefunds : Bool
  outOfBandMinor : ℕ
  deriving DecidableEq

def CreditNoteObservation.matchesSnapshot [UnicodeNormalization]
    (observed : CreditNoteObservation) (snapshot : CreditNoteSnapshot) : Except Exn Bool := do
  let correlation ← snapshot.correlation
  return observed.invoiceId == snapshot.draft.invoice.invoiceId
    && observed.customerId == snapshot.draft.invoice.customerId
    && observed.livemode == snapshot.draft.invoice.account.livemode
    && observed.reason == some snapshot.draft.request.reason
    && observed.correlation == correlation
    && observed.calculation == snapshot.calculation
    && !observed.hasRefunds
    && observed.outOfBandMinor == 0
    && observed.balanceTransactionId.isSome == decide (0 < snapshot.draft.creditMinor)

structure CreditNotePreview where
  invoiceReference : SafeReference
  lines : List CreditNoteLineRequest
  total : Money
  disposition : CreditDisposition
  reason : CreditNoteReason
  deriving DecidableEq

/-- `cash_refunded` and `sends_email` are literally false. -/
def CreditNotePreview.dump (preview : CreditNotePreview) : JsonObject :=
  [jsonField "invoice_reference" (jsonText preview.invoiceReference),
    jsonField "lines" (.list (preview.lines.map CreditNoteLineRequest.dump)),
    jsonField "total" preview.total.dump,
    jsonField "disposition" (jsonText preview.disposition.value),
    jsonField "reason" (jsonText preview.reason.value), jsonField "cash_refunded" (.bool false),
    jsonField "sends_email" (.bool false)]

structure CreditNoteOutcome where
  invoiceReference : SafeReference
  total : Money
  disposition : CreditDisposition
  status : CreditNoteStatus
  deriving DecidableEq

/-- `cash_refunded` is literally false. -/
def CreditNoteOutcome.dump (outcome : CreditNoteOutcome) : JsonObject :=
  [jsonField "invoice_reference" (jsonText outcome.invoiceReference),
    jsonField "total" outcome.total.dump,
    jsonField "disposition" (jsonText outcome.disposition.value),
    jsonField "status" (jsonText outcome.status.value), jsonField "cash_refunded" (.bool false)]

end ThrevoActions.Stripe
