import ThrevoActions.DecimalTexts
import ThrevoActions.Decimals
import ThrevoActions.Json.CanonicalForms
import ThrevoActions.Stripe.CreditNotes
import ThrevoActions.Stripe.Subscriptions

/-!
# The keys of equal models

A correlation, a provider idempotency key and a policy fingerprint are digests of the JSON text of
a model. Models compare decimals as numbers and datetimes as instants, while the text shows the
exponent of a decimal and the offset of a datetime, so equal models can have different keys.
-/

namespace ThrevoActions

/-! ## Equality of amounts -/

/-- `a == b`, as numbers. -/
def Decimal.equal (a b : Decimal) : Bool :=
  a.signedAt (min a.exponent b.exponent) == b.signedAt (min a.exponent b.exponent)

theorem Decimal.equal_iff {a b : Decimal} : a.equal b = true ↔ a.value = b.value := by
  have ha := a.signedAt_value (min_le_left a.exponent b.exponent)
  have hb := b.signedAt_value (min_le_right a.exponent b.exponent)
  rw [Decimal.equal, beq_iff_eq, ← ha, ← hb,
    mul_right_cancel_iff_of_pos (Decimal.ten_zpow_pos _)]
  exact Int.cast_inj.symm

/-- A positive decimal is its number at its exponent. -/
theorem Decimal.eq_of_equal {a b : Decimal} (ha : a.isPositive = true) (hb : b.isPositive = true)
    (h : a.equal b = true) (hexponent : a.exponent = b.exponent) : a = b := by
  have hpositive : ∀ {d : Decimal}, d.isPositive = true →
      d.negative = false ∧ d.signed = d.coefficient := by
    intro d hd
    rw [Decimal.isPositive, decide_eq_true_iff, Decimal.signed] at hd
    rw [Decimal.signed]
    cases hnegative : d.negative with
    | false => exact ⟨rfl, rfl⟩
    | true =>
      rw [hnegative, if_pos rfl] at hd
      omega
  obtain ⟨hnegativeA, hsignedA⟩ := hpositive ha
  obtain ⟨hnegativeB, hsignedB⟩ := hpositive hb
  rw [Decimal.equal, beq_iff_eq, Decimal.signedAt, Decimal.signedAt, hexponent, min_self, sub_self,
    Int.toNat_zero, pow_zero, mul_one, mul_one, hsignedA, hsignedB, Int.natCast_inj] at h
  obtain ⟨_, _, _⟩ := a
  obtain ⟨_, _, _⟩ := b
  dsimp only at h hexponent hnegativeA hnegativeB
  rw [h, hexponent, hnegativeA, hnegativeB]

namespace Money

def equal (a b : Money) : Bool := a.amount.equal b.amount && a.currency == b.currency

end Money

/-- Normalization keeps ASCII texts as they are. -/
def KeepsAscii [UnicodeNormalization] : Prop :=
  ∀ s : PyStr, (∀ c ∈ s, c.val < 0x80) → UnicodeNormalization.nfc s = s

open JsonValue

/-! ## Forms of dumped values -/

theorem shape_list_eq {α : Type} {equal : α → α → Bool} {dump : α → JsonValue} {xs ys : List α}
    (h : xs.isEqv ys equal = true) (hshape : ∀ x y, shape (dump x) = shape (dump y)) :
    shape (.list (xs.map dump)) = shape (.list (ys.map dump)) := by
  rw [shape, shape, shapeList_eq_map, shapeList_eq_map, list.injEq, List.map_map, List.map_map]
  induction xs generalizing ys with
  | nil =>
    cases ys with
    | nil => rfl
    | cons y ys => cases h
  | cons x xs ih =>
    cases ys with
    | nil => cases h
    | cons y ys =>
      rw [List.isEqv_cons_cons, Bool.and_eq_true] at h
      rw [List.map_cons, List.map_cons, ih h.2]
      exact congrArg (· :: _) (hshape x y)

section Forms

variable [UnicodeNormalization]

theorem nfc_text (hascii : KeepsAscii) (d : Decimal) :
    UnicodeNormalization.nfc (PyStr.ofString d.text) = PyStr.ofString d.text := by
  refine hascii _ fun c hc ↦ ?_
  obtain ⟨char, hchar, rfl⟩ := List.mem_map.mp hc
  exact Decimal.text_ascii hchar

/-- Equal amounts have one normal form exactly when they have one exponent. -/
theorem Money.form_iff (hascii : KeepsAscii) {a b : Money} (ha : a.amount.isPositive = true)
    (hb : b.amount.isPositive = true) (h : a.equal b = true) :
    nfcForm a.dump = nfcForm b.dump ↔ a.amount.exponent = b.amount.exponent := by
  rw [Money.equal, Bool.and_eq_true, beq_iff_eq] at h
  constructor
  · intro hform
    have htext : nfcForm (jsonText a.amount.text) = nfcForm (jsonText b.amount.text) := by
      injection hform with hentries
      injection hentries with hamount
      exact (Prod.ext_iff.mp hamount).2
    injection htext with htext
    rw [nfc_text hascii, nfc_text hascii] at htext
    exact Decimal.exponent_of_text_eq (ofString_injective htext)
  · intro hexponent
    rw [Money.dump, Money.dump, Decimal.eq_of_equal ha hb h.1 hexponent, h.2]

/-- Lists of dumped values, the values of one list taken with those of the other in order. -/
theorem form_list_iff {α β : Type} {equal : α → α → Bool} {dump : α → JsonValue} {key : α → β}
    {xs ys : List α} (h : xs.isEqv ys equal = true)
    (hform : ∀ x ∈ xs, ∀ y ∈ ys, equal x y = true →
      (nfcForm (dump x) = nfcForm (dump y) ↔ key x = key y)) :
    nfcForm (.list (xs.map dump)) = nfcForm (.list (ys.map dump)) ↔ xs.map key = ys.map key := by
  rw [nfcForm, nfcForm, nfcFormList_eq_map, nfcFormList_eq_map, list.injEq, List.map_map,
    List.map_map]
  induction xs generalizing ys with
  | nil =>
    cases ys with
    | nil => exact iff_of_true rfl rfl
    | cons y ys => cases h
  | cons x xs ih =>
    cases ys with
    | nil => cases h
    | cons y ys =>
      rw [List.isEqv_cons_cons, Bool.and_eq_true] at h
      have hrest := ih h.2 fun a ha b hb ↦
        hform a (List.mem_cons_of_mem x ha) b (List.mem_cons_of_mem y hb)
      rw [List.map_cons, List.map_cons, List.map_cons, List.map_cons, List.cons.injEq,
        List.cons.injEq, hrest, Function.comp_apply, Function.comp_apply,
        hform x List.mem_cons_self y List.mem_cons_self h.1]

/-- Dumped models with the same fields, compared field by field. -/
theorem form_field_iff {name : String} {v w : JsonValue} {fields others : JsonObject} :
    nfcForm (.dict (jsonField name v :: fields)) = nfcForm (.dict (jsonField name w :: others)) ↔
      nfcForm v = nfcForm w ∧ nfcForm (.dict fields) = nfcForm (.dict others) := by
  simp only [nfcForm, nfcFormEntries, jsonField, dict.injEq, List.cons.injEq, Prod.mk.injEq,
    true_and]

end Forms

namespace Stripe

/-! ## Equality of models

Pydantic compares models field by field. -/

def RefundIntent.equal (a b : RefundIntent) : Bool :=
  a.tenantReference == b.tenantReference && a.intentReference == b.intentReference
    && a.account == b.account && a.chargeId == b.chargeId && a.amount.equal b.amount
    && a.currencyExponent == b.currencyExponent

def RefundPolicy.equal (a b : RefundPolicy) : Bool :=
  a.limits.isEqv b.limits Money.equal && a.allowLive == b.allowLive

def CreditNotePolicy.equal (a b : CreditNotePolicy) : Bool :=
  a.limits.isEqv b.limits Money.equal && a.allowLive == b.allowLive
    && a.allowCustomerBalance == b.allowCustomerBalance

def SubscriptionCancellationSnapshot.equal (a b : SubscriptionCancellationSnapshot) : Bool :=
  a.tenantReference == b.tenantReference && a.intentReference == b.intentReference
    && a.policyFingerprint == b.policyFingerprint && a.binding == b.binding
    && a.operation == b.operation && a.observed == b.observed

def CreditNoteLineRequest.equal (a b : CreditNoteLineRequest) : Bool :=
  a.lineReference == b.lineReference && a.amount.equal b.amount

def CreditNoteRequest.equal (a b : CreditNoteRequest) : Bool :=
  a.intentReference == b.intentReference && a.invoiceReference == b.invoiceReference
    && a.lines.isEqv b.lines CreditNoteLineRequest.equal && a.expectedTotal.equal b.expectedTotal
    && a.disposition == b.disposition && a.reason == b.reason

def CreditNoteDraft.equal (a b : CreditNoteDraft) : Bool :=
  a.invoice == b.invoice && a.request.equal b.request && a.lines == b.lines
    && a.totalMinor == b.totalMinor

def CreditNoteSnapshot.equal (a b : CreditNoteSnapshot) : Bool :=
  a.tenantReference == b.tenantReference && a.intentReference == b.intentReference
    && a.policyFingerprint == b.policyFingerprint && a.draft.equal b.draft
    && a.observedInvoice == b.observedInvoice && a.calculation == b.calculation

/-! ## Keys -/

section Keys

variable [UnicodeNormalization]

def RefundIntent.idempotencyKey (intent : RefundIntent) : Except Exn String := do
  return "threvo-refund-" ++ (← intent.correlation)

def SubscriptionCancellationSnapshot.idempotencyKey [DatetimeText]
    (snapshot : SubscriptionCancellationSnapshot) : Except Exn String := do
  return "threvo-subscription-cancellation-" ++ (← snapshot.correlation)

def CreditNoteSnapshot.idempotencyKey (snapshot : CreditNoteSnapshot) : Except Exn String := do
  return "threvo-credit-note-" ++ (← snapshot.correlation)

end Keys

/-- A model from which keys are computed. -/
inductive KeyedModel
  | refundIntent (intent : RefundIntent)
  | subscription (snapshot : SubscriptionCancellationSnapshot)
  | creditNote (snapshot : CreditNoteSnapshot)
  | refundPolicy (policy : RefundPolicy)
  | creditNotePolicy (policy : CreditNotePolicy)

namespace KeyedModel

def equal : KeyedModel → KeyedModel → Bool
  | .refundIntent a, .refundIntent b => a.equal b
  | .subscription a, .subscription b => a.equal b
  | .creditNote a, .creditNote b => a.equal b
  | .refundPolicy a, .refundPolicy b => a.equal b
  | .creditNotePolicy a, .creditNotePolicy b => a.equal b
  | _, _ => false

/-- The exponents of the decimals of a model. -/
def exponents : KeyedModel → List ℤ
  | .refundIntent intent => [intent.amount.amount.exponent]
  | .subscription _ => []
  | .creditNote snapshot =>
    snapshot.draft.request.expectedTotal.amount.exponent ::
      snapshot.draft.request.lines.map fun line ↦ line.amount.amount.exponent
  | .refundPolicy policy => policy.limits.map fun limit ↦ limit.amount.exponent
  | .creditNotePolicy policy => policy.limits.map fun limit ↦ limit.amount.exponent

section

variable [DatetimeText]

/-- The texts of the datetimes of a model. -/
def isoTexts : KeyedModel → List PyStr
  | .subscription snapshot =>
    DatetimeText.isoformat snapshot.observed.periodStart ::
      DatetimeText.isoformat snapshot.observed.periodEnd ::
        snapshot.observed.cancelAt.toList.map DatetimeText.isoformat
  | .refundIntent _ | .creditNote _ | .refundPolicy _ | .creditNotePolicy _ => []

/-- The document that is hashed. -/
def document : KeyedModel → JsonValue
  | .refundIntent intent => .dict intent.dump
  | .subscription snapshot => .dict snapshot.dump
  | .creditNote snapshot => .dict snapshot.dump
  | .refundPolicy policy => .dict policy.dump
  | .creditNotePolicy policy => .dict policy.dump

variable [UnicodeNormalization]

/-- The correlation and the idempotency key of an intent or a snapshot; the fingerprint of a
policy. -/
def keys : KeyedModel → Except Exn (List String)
  | .refundIntent intent => do return [← intent.correlation, ← intent.idempotencyKey]
  | .subscription snapshot => do return [← snapshot.correlation, ← snapshot.idempotencyKey]
  | .creditNote snapshot => do return [← snapshot.correlation, ← snapshot.idempotencyKey]
  | .refundPolicy policy => do return [← policy.fingerprint]
  | .creditNotePolicy policy => do return [← policy.fingerprint]

end

end KeyedModel

/-! ## Shapes and forms -/

section Compared

theorem shape_jsonOptional {α : Type} {dump : α → JsonValue} (h : ∀ a, shape (dump a) = .null)
    (value : Option α) : shape (jsonOptional dump value) = .null := by
  cases value with
  | none => rfl
  | some a => exact h a

theorem isPositive_of_intent (intent : RefundIntent) : intent.amount.amount.isPositive = true := by
  have hunits := intent.exact_minor_units
  rw [Decimal.isPositiveUnits, Bool.and_eq_true, Bool.and_eq_true] at hunits
  exact hunits.1.1

theorem RefundIntent.shape_eq {a b : RefundIntent} (h : a.equal b = true) :
    shape (.dict a.dump) = shape (.dict b.dump) := by
  simp only [RefundIntent.equal, Bool.and_eq_true, beq_iff_eq] at h
  obtain ⟨⟨⟨⟨⟨-, -⟩, haccount⟩, -⟩, -⟩, -⟩ := h
  rw [RefundIntent.dump, RefundIntent.dump, haccount]
  rfl

theorem RefundPolicy.shape_eq {a b : RefundPolicy} (h : a.equal b = true) :
    shape (.dict a.dump) = shape (.dict b.dump) := by
  rw [RefundPolicy.equal, Bool.and_eq_true] at h
  have hlimits := shape_list_eq h.1 fun x y ↦ (rfl : shape (Money.dump x) = shape (Money.dump y))
  simp only [RefundPolicy.dump, jsonField, shape, shapeEntries] at hlimits ⊢
  rw [hlimits]

theorem CreditNotePolicy.shape_eq {a b : CreditNotePolicy} (h : a.equal b = true) :
    shape (.dict a.dump) = shape (.dict b.dump) := by
  rw [CreditNotePolicy.equal, Bool.and_eq_true, Bool.and_eq_true] at h
  have hlimits := shape_list_eq h.1.1 fun x y ↦ (rfl : shape (Money.dump x) = shape (Money.dump y))
  simp only [CreditNotePolicy.dump, jsonField, shape, shapeEntries] at hlimits ⊢
  rw [hlimits]

theorem CreditNoteSnapshot.shape_eq {a b : CreditNoteSnapshot} (h : a.equal b = true) :
    shape (.dict a.dump) = shape (.dict b.dump) := by
  simp only [CreditNoteSnapshot.equal, CreditNoteDraft.equal, CreditNoteRequest.equal,
    Bool.and_eq_true, beq_iff_eq] at h
  obtain ⟨⟨⟨-, ⟨⟨hinvoice, hrequest⟩, hlines⟩, htotal⟩, hobserved⟩, hcalculation⟩ := h
  have hshape : ∀ x y : CreditNoteLineRequest, shape x.dump = shape y.dump := fun _ _ ↦ rfl
  have hrequested := shape_list_eq hrequest.1.1.1.2 hshape
  have hdocument : shape (.dict a.draft.request.dump) = shape (.dict b.draft.request.dump) := by
    simp only [CreditNoteRequest.dump, Money.dump, jsonText, jsonField, shape, shapeEntries]
      at hrequested ⊢
    rw [hrequested]
  simp only [CreditNoteSnapshot.dump, CreditNoteDraft.dump, jsonText, jsonField, shape,
    shapeEntries] at hdocument ⊢
  rw [hinvoice, hlines, hobserved, hcalculation, hdocument]

variable [DatetimeText]

theorem SubscriptionCancellationSnapshot.shape_eq {a b : SubscriptionCancellationSnapshot}
    (h : a.equal b = true) : shape (.dict a.dump) = shape (.dict b.dump) := by
  simp only [SubscriptionCancellationSnapshot.equal, Bool.and_eq_true, beq_iff_eq] at h
  obtain ⟨⟨⟨-, hbinding⟩, -⟩, -⟩ := h
  have hcancel : ∀ cancelAt : Option AwareDatetime,
      shape (jsonOptional AwareDatetime.dump cancelAt) = .null :=
    shape_jsonOptional fun _ ↦ rfl
  have hobserved : shape a.observed.dump = shape b.observed.dump := by
    simp only [SubscriptionObservation.dump, AwareDatetime.dump, jsonText, jsonField, shape,
      shapeEntries] at hcancel ⊢
    rw [hcancel, hcancel]
  simp only [SubscriptionCancellationSnapshot.dump, jsonText, jsonField, shape,
    shapeEntries] at hobserved ⊢
  rw [hbinding, hobserved]

variable [UnicodeNormalization]

omit [DatetimeText] in
theorem RefundIntent.form_iff (hascii : KeepsAscii) {a b : RefundIntent} (h : a.equal b = true) :
    nfcForm (.dict a.dump) = nfcForm (.dict b.dump) ↔
      a.amount.amount.exponent = b.amount.amount.exponent := by
  simp only [RefundIntent.equal, Bool.and_eq_true, beq_iff_eq] at h
  obtain ⟨⟨⟨⟨⟨htenant, hintent⟩, haccount⟩, hcharge⟩, hamount⟩, hexponent⟩ := h
  rw [← Money.form_iff hascii (isPositive_of_intent a) (isPositive_of_intent b) hamount,
    RefundIntent.dump, RefundIntent.dump, htenant, hintent, haccount, hcharge, hexponent]
  simp only [form_field_iff, true_and, and_true]

omit [DatetimeText] in
theorem form_limits_iff (hascii : KeepsAscii) {xs ys : List Money}
    (hx : ∀ limit ∈ xs, limit.amount.isPositive = true)
    (hy : ∀ limit ∈ ys, limit.amount.isPositive = true) (h : xs.isEqv ys Money.equal = true) :
    nfcForm (.list (xs.map Money.dump)) = nfcForm (.list (ys.map Money.dump)) ↔
      (xs.map fun limit ↦ limit.amount.exponent) = ys.map fun limit ↦ limit.amount.exponent :=
  form_list_iff h fun x hmemX y hmemY ↦ Money.form_iff hascii (hx x hmemX) (hy y hmemY)

omit [DatetimeText] in
theorem RefundPolicy.form_iff (hascii : KeepsAscii) {a b : RefundPolicy} (h : a.equal b = true) :
    nfcForm (.dict a.dump) = nfcForm (.dict b.dump) ↔
      (a.limits.map fun limit ↦ limit.amount.exponent) =
        b.limits.map fun limit ↦ limit.amount.exponent := by
  rw [RefundPolicy.equal, Bool.and_eq_true, beq_iff_eq] at h
  rw [← form_limits_iff hascii a.positive_limits b.positive_limits h.1, RefundPolicy.dump,
    RefundPolicy.dump, h.2]
  simp only [form_field_iff, and_true]

omit [DatetimeText] in
theorem CreditNotePolicy.form_iff (hascii : KeepsAscii) {a b : CreditNotePolicy}
    (h : a.equal b = true) : nfcForm (.dict a.dump) = nfcForm (.dict b.dump) ↔
      (a.limits.map fun limit ↦ limit.amount.exponent) =
        b.limits.map fun limit ↦ limit.amount.exponent := by
  simp only [CreditNotePolicy.equal, Bool.and_eq_true, beq_iff_eq] at h
  rw [← form_limits_iff hascii a.positive_limits b.positive_limits h.1.1, CreditNotePolicy.dump,
    CreditNotePolicy.dump, h.1.2, h.2]
  simp only [form_field_iff, and_true]

omit [DatetimeText] in
theorem CreditNoteLineRequest.form_iff (hascii : KeepsAscii) {a b : CreditNoteLineRequest}
    (ha : a.amount.amount.isPositive = true) (hb : b.amount.amount.isPositive = true)
    (h : a.equal b = true) :
    nfcForm a.dump = nfcForm b.dump ↔ a.amount.amount.exponent = b.amount.amount.exponent := by
  rw [CreditNoteLineRequest.equal, Bool.and_eq_true, beq_iff_eq] at h
  rw [← Money.form_iff hascii ha hb h.2, CreditNoteLineRequest.dump, CreditNoteLineRequest.dump,
    h.1]
  simp only [form_field_iff, true_and, and_true]

omit [DatetimeText] in
theorem CreditNoteSnapshot.form_iff (hascii : KeepsAscii) {a b : CreditNoteSnapshot}
    (h : a.equal b = true) : nfcForm (.dict a.dump) = nfcForm (.dict b.dump) ↔
      a.draft.request.expectedTotal.amount.exponent =
          b.draft.request.expectedTotal.amount.exponent ∧
        (a.draft.request.lines.map fun line ↦ line.amount.amount.exponent) =
          b.draft.request.lines.map fun line ↦ line.amount.amount.exponent := by
  simp only [CreditNoteSnapshot.equal, CreditNoteDraft.equal, CreditNoteRequest.equal,
    Bool.and_eq_true, beq_iff_eq] at h
  obtain ⟨⟨⟨⟨⟨htenant, hintent⟩, hfingerprint⟩, ⟨⟨hinvoice, hrequest⟩, hlines⟩, htotal⟩,
    hobserved⟩, hcalculation⟩ := h
  obtain ⟨⟨⟨⟨⟨hreference, hinvoiceReference⟩, hlineRequests⟩, hexpected⟩, hdisposition⟩,
    hreason⟩ := hrequest
  have hpositiveA := a.draft.request.positive_amounts
  have hpositiveB := b.draft.request.positive_amounts
  have hlist := form_list_iff hlineRequests fun x hx y hy ↦
    CreditNoteLineRequest.form_iff hascii (hpositiveA.2 x hx) (hpositiveB.2 y hy)
  rw [← Money.form_iff hascii hpositiveA.1 hpositiveB.1 hexpected, ← hlist,
    CreditNoteSnapshot.dump, CreditNoteSnapshot.dump, CreditNoteDraft.dump, CreditNoteDraft.dump,
    CreditNoteRequest.dump, CreditNoteRequest.dump, htenant, hintent, hfingerprint, hinvoice,
    hlines, htotal, hobserved, hcalculation, hreference, hinvoiceReference, hdisposition, hreason]
  simp only [form_field_iff, true_and, and_true]
  exact and_comm

/-- The texts of datetimes are ASCII texts. -/
def AsciiDatetimes : Prop :=
  ∀ datetime : AwareDatetime, ∀ c ∈ DatetimeText.isoformat datetime, c.val < 0x80

theorem AwareDatetime.form_iff (hascii : KeepsAscii) (htexts : AsciiDatetimes)
    {a b : AwareDatetime} :
    nfcForm a.dump = nfcForm b.dump ↔ DatetimeText.isoformat a = DatetimeText.isoformat b := by
  rw [AwareDatetime.dump, AwareDatetime.dump, nfcForm, nfcForm, str.injEq,
    hascii _ (htexts a), hascii _ (htexts b)]

theorem AwareDatetime.form_optional_iff (hascii : KeepsAscii) (htexts : AsciiDatetimes)
    {a b : Option AwareDatetime} (h : (a == b) = true) :
    nfcForm (jsonOptional AwareDatetime.dump a) = nfcForm (jsonOptional AwareDatetime.dump b) ↔
      a.toList.map DatetimeText.isoformat = b.toList.map DatetimeText.isoformat := by
  cases a with
  | none =>
    cases b with
    | none => exact iff_of_true rfl rfl
    | some y => cases h
  | some x =>
    cases b with
    | none => cases h
    | some y =>
      rw [jsonOptional, jsonOptional, AwareDatetime.form_iff hascii htexts, Option.toList_some,
        Option.toList_some, List.map_singleton, List.map_singleton, List.singleton_inj]

omit [DatetimeText] [UnicodeNormalization] in
/-- Observations that are equal as models. -/
theorem SubscriptionObservation.beq_fields {a b : SubscriptionObservation}
    (h : (a == b) = true) : a.subscriptionId = b.subscriptionId ∧ a.customerId = b.customerId ∧
      a.status = b.status ∧ a.livemode = b.livemode ∧ a.itemId = b.itemId ∧
      a.priceId = b.priceId ∧ a.quantity = b.quantity ∧
      a.cancelAtPeriodEnd = b.cancelAtPeriodEnd ∧ (a.cancelAt == b.cancelAt) = true ∧
      a.supported = b.supported ∧ a.correlation = b.correlation := by
  change instBEqSubscriptionObservation.beq a b = true at h
  simp only [instBEqSubscriptionObservation.beq, Bool.and_eq_true, beq_iff_eq] at h
  obtain ⟨hsubscription, hcustomer, hstatus, hlivemode, hitem, hprice, hquantity, -, -, hperiodEnd,
    hcancel, hsupported, hcorrelation⟩ := h
  exact ⟨hsubscription, hcustomer, hstatus, hlivemode, hitem, hprice, hquantity, hperiodEnd,
    hcancel, hsupported, hcorrelation⟩

theorem SubscriptionObservation.form_iff (hascii : KeepsAscii) (htexts : AsciiDatetimes)
    {a b : SubscriptionObservation} (h : (a == b) = true) :
    nfcForm a.dump = nfcForm b.dump ↔
      DatetimeText.isoformat a.periodStart = DatetimeText.isoformat b.periodStart ∧
        DatetimeText.isoformat a.periodEnd = DatetimeText.isoformat b.periodEnd ∧
        a.cancelAt.toList.map DatetimeText.isoformat =
          b.cancelAt.toList.map DatetimeText.isoformat := by
  obtain ⟨hsubscription, hcustomer, hstatus, hlivemode, hitem, hprice, hquantity, hperiodEnd,
    hcancel, hsupported, hcorrelation⟩ := SubscriptionObservation.beq_fields h
  rw [← AwareDatetime.form_iff hascii htexts, ← AwareDatetime.form_iff hascii htexts,
    ← AwareDatetime.form_optional_iff hascii htexts hcancel, SubscriptionObservation.dump,
    SubscriptionObservation.dump, hsubscription, hcustomer, hstatus, hlivemode, hitem, hprice,
    hquantity, hperiodEnd, hsupported, hcorrelation]
  simp only [form_field_iff, true_and, and_true]

theorem SubscriptionCancellationSnapshot.form_iff (hascii : KeepsAscii) (htexts : AsciiDatetimes)
    {a b : SubscriptionCancellationSnapshot} (h : a.equal b = true) :
    nfcForm (.dict a.dump) = nfcForm (.dict b.dump) ↔
      DatetimeText.isoformat a.observed.periodStart =
          DatetimeText.isoformat b.observed.periodStart ∧
        DatetimeText.isoformat a.observed.periodEnd =
          DatetimeText.isoformat b.observed.periodEnd ∧
        a.observed.cancelAt.toList.map DatetimeText.isoformat =
          b.observed.cancelAt.toList.map DatetimeText.isoformat := by
  simp only [SubscriptionCancellationSnapshot.equal, Bool.and_eq_true] at h
  simp only [beq_iff_eq] at h
  obtain ⟨⟨⟨⟨⟨htenant, hintent⟩, hfingerprint⟩, hbinding⟩, hoperation⟩, hobserved⟩ := h
  rw [← SubscriptionObservation.form_iff hascii htexts hobserved,
    SubscriptionCancellationSnapshot.dump, SubscriptionCancellationSnapshot.dump, htenant, hintent,
    hfingerprint, hbinding, hoperation]
  simp only [form_field_iff, true_and, and_true]

end Compared

namespace KeyedModel

section

variable [DatetimeText]

theorem shape_eq {x y : KeyedModel} (h : x.equal y = true) :
    shape x.document = shape y.document := by
  cases x <;> cases y <;> try cases h
  · exact RefundIntent.shape_eq h
  · exact SubscriptionCancellationSnapshot.shape_eq h
  · exact CreditNoteSnapshot.shape_eq h
  · exact RefundPolicy.shape_eq h
  · exact CreditNotePolicy.shape_eq h

variable [UnicodeNormalization]

/-- **Forms of equal models.** Models that are equal have one normal form exactly when their
decimals have the same exponents and their datetimes the same texts. -/
theorem form_iff (hascii : KeepsAscii) (htexts : AsciiDatetimes) {x y : KeyedModel}
    (h : x.equal y = true) : nfcForm x.document = nfcForm y.document ↔
      x.exponents = y.exponents ∧ x.isoTexts = y.isoTexts := by
  cases x <;> cases y <;> try cases h
  · rw [document, document, RefundIntent.form_iff hascii h, exponents, exponents,
      List.singleton_inj]
    exact (and_iff_left rfl).symm
  · rw [document, document, SubscriptionCancellationSnapshot.form_iff hascii htexts h, isoTexts,
      isoTexts, List.cons.injEq, List.cons.injEq]
    exact (and_iff_right rfl).symm
  · rw [document, document, CreditNoteSnapshot.form_iff hascii h, exponents, exponents,
      List.cons.injEq]
    exact (and_iff_left rfl).symm
  · rw [document, document, RefundPolicy.form_iff hascii h]
    exact (and_iff_left rfl).symm
  · rw [document, document, CreditNotePolicy.form_iff hascii h]
    exact (and_iff_left rfl).symm

end

/-- What the keys of a model are made of its digest. -/
def keysOf : KeyedModel → String → List String
  | .refundIntent _, digest => [digest, "threvo-refund-" ++ digest]
  | .subscription _, digest => [digest, "threvo-subscription-cancellation-" ++ digest]
  | .creditNote _, digest => [digest, "threvo-credit-note-" ++ digest]
  | .refundPolicy _, digest | .creditNotePolicy _, digest => [digest]

theorem keysOf_inj {x y : KeyedModel} (h : x.equal y = true) {digest other : String} :
    x.keysOf digest = y.keysOf other ↔ digest = other := by
  constructor
  · intro hkeys
    cases x <;> cases y <;> exact (List.cons.inj hkeys).1
  · rintro rfl
    cases x <;> cases y <;> first | rfl | cases h

section

variable [DatetimeText] [UnicodeNormalization]

theorem keys_eq (x : KeyedModel) :
    x.keys = (canonicalDigest x.document).map x.keysOf := by
  cases x <;> simp only [keys, document, RefundIntent.idempotencyKey, RefundIntent.correlation,
    SubscriptionCancellationSnapshot.idempotencyKey, SubscriptionCancellationSnapshot.correlation,
    CreditNoteSnapshot.idempotencyKey, CreditNoteSnapshot.correlation, RefundPolicy.fingerprint,
    CreditNotePolicy.fingerprint] <;> cases canonicalDigest _ <;> rfl

theorem keys_eq_ok_iff {x : KeyedModel} {values : List String} :
    x.keys = .ok values ↔ ∃ data, canonicalizeV1 x.document = .ok data ∧
      x.keysOf (Sha256.hexdigest data) = values := by
  rw [keys_eq, canonicalDigest]
  cases canonicalizeV1 x.document with
  | error e =>
    constructor
    · intro h
      cases h
    · rintro ⟨data, h, -⟩
      cases h
  | ok data =>
    constructor
    · intro h
      exact ⟨data, rfl, Except.ok.inj h⟩
    · rintro ⟨_, hdata, rfl⟩
      cases hdata
      rfl

/-- Two documents that SHA-256 does not tell apart. -/
def Collides (a b : JsonValue) : Prop :=
  ∃ x y, canonicalizeV1 a = .ok x ∧ canonicalizeV1 b = .ok y ∧ x ≠ y ∧
    Sha256.hexdigest x = Sha256.hexdigest y

/-- **When equal models have the same keys**: exactly when their decimals have the same exponents
and their datetimes the same texts, collisions of SHA-256 apart. -/
theorem keys_eq_iff (hascii : KeepsAscii) (htexts : AsciiDatetimes) {x y : KeyedModel}
    {values : List String} (hequal : x.equal y = true) (hx : x.keys = .ok values) :
    y.keys = .ok values ↔ (x.exponents = y.exponents ∧ x.isoTexts = y.isoTexts) ∨
      Collides x.document y.document := by
  obtain ⟨data, hdata, rfl⟩ := keys_eq_ok_iff.mp hx
  rw [← form_iff hascii htexts hequal, keys_eq_ok_iff]
  constructor
  · rintro ⟨other, hother, hkeys⟩
    have hdigest := (keysOf_inj hequal).mp hkeys.symm
    by_cases hsame : data = other
    · exact Or.inl ((canonicalizeV1_eq_iff_of_shape (shape_eq hequal) hdata hother).mp hsame)
    · exact Or.inr ⟨data, other, hdata, hother, hsame, hdigest⟩
  · rintro (hform | ⟨a, other, ha, hother, -, hdigest⟩)
    · exact ⟨data, canonicalizeV1_congr hform hdata, ((keysOf_inj hequal).mpr rfl).symm⟩
    · rw [hdata, Except.ok.injEq] at ha
      rw [ha]
      exact ⟨other, hother, ((keysOf_inj hequal).mpr hdigest).symm⟩

end

section Sample

attribute [local instance] normalizedTexts

/-- Every datetime of the samples is the epoch. -/
@[reducible] def epochTexts : DatetimeText := ⟨fun _ ↦ PyStr.ofString "1970-01-01T00:00:00Z"⟩

attribute [local instance] epochTexts

/-- A refund of one dollar, the amount written with the given decimal. -/
def sampleIntent (amount : Decimal) (h : (amount.scaleb 2).isPositiveUnits 99999999 = true) :
    KeyedModel :=
  .refundIntent ⟨"tenant", "intent", ⟨"account", none, false⟩, "ch_sample", ⟨amount, "USD"⟩, 2,
    Nat.le_succ 2, h⟩

/-- The amount `1.0`, and the amount `1.00`. -/
def sampleTenths : KeyedModel := sampleIntent ⟨false, 10, -1⟩ (by decide)

def sampleHundredths : KeyedModel := sampleIntent ⟨false, 100, -2⟩ (by decide)

/-- The keys of a model, if it has any. -/
def keysOrNone (x : KeyedModel) : List String := x.keys.toOption.getD []

theorem keys_sampleTenths : sampleTenths.keys = .ok (keysOrNone sampleTenths) := by
  decide +kernel

/-- **Equal models with different keys.** Two intents to refund one dollar are equal, and have
different correlations and idempotency keys. -/
theorem equal_with_other_keys :
    ¬∀ x y : KeyedModel, x.equal y = true → ∀ values, x.keys = .ok values → y.keys = .ok values := by
  intro h
  have hkeys := h sampleTenths sampleHundredths (by decide) _ keys_sampleTenths
  exact absurd hkeys (by decide +kernel)

theorem epochTexts_ascii : AsciiDatetimes := by
  intro datetime c hc
  obtain ⟨char, hchar, rfl⟩ := List.mem_map.mp hc
  have hascii : ("1970-01-01T00:00:00Z".toList.all fun c ↦ decide (c.toNat < 0x80)) = true := by
    decide
  exact of_decide_eq_true (List.all_eq_true.mp hascii char hchar)

theorem keys_eq_iff_sample :
    sampleHundredths.keys = .ok (keysOrNone sampleTenths) ↔
      (sampleTenths.exponents = sampleHundredths.exponents ∧
        sampleTenths.isoTexts = sampleHundredths.isoTexts) ∨
      Collides sampleTenths.document sampleHundredths.document :=
  keys_eq_iff (fun _ _ ↦ rfl) epochTexts_ascii (by decide) keys_sampleTenths

end Sample

end KeyedModel

end Stripe

end ThrevoActions
