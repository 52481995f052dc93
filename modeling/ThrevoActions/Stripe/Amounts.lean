import Mathlib.Data.Multiset.MapFold
import ThrevoActions.Decimals
import ThrevoActions.Stripe.Workflows

/-!
# Exact amounts

The conversions of decimal amounts to the provider's minor units, and `_CreditNoteWorkflow._prepare`,
which holds a provider calculation against the request. Nothing is rounded: an amount that is not
a whole number of minor units, or too large for the provider, is refused.

`ExactUnits` and `Agrees` say in numbers what the code decides on digits and dictionaries.
-/

namespace ThrevoActions.Stripe

/-! ## Minor units -/

/-- `m` minor units are exactly the amount, and within the provider's range. -/
def ExactUnits (amount : Decimal) (exponent : ℕ) (m : ℤ) : Prop :=
  1 ≤ m ∧ m ≤ 99999999 ∧ (m : ℚ) * 10 ^ (-(exponent : ℤ)) = amount.value

theorem exactUnits_iff {amount : Decimal} {exponent : ℕ} {m : ℤ} :
    ExactUnits amount exponent m ↔
      (amount.scaleb exponent).isPositiveUnits 99999999 = true ∧
        (amount.scaleb exponent).toInt = m := by
  have hpower : (10 : ℚ) ^ (exponent : ℤ) * 10 ^ (-(exponent : ℤ)) = 1 := by
    rw [← zpow_add₀ (by norm_num)]
    simp
  rw [Decimal.isPositiveUnits_iff]
  constructor
  · rintro ⟨hone, hle, hvalue⟩
    have hscaled : (amount.scaleb exponent).value = m := by
      rw [Decimal.scaleb_value, ← hvalue]
      linear_combination (m : ℚ) * hpower
    refine ⟨⟨m, hscaled, hone, hle⟩, ?_⟩
    have hint := Decimal.toInt_value (Decimal.isIntegral_of_value hscaled)
    rw [hscaled] at hint
    exact_mod_cast hint
  · rintro ⟨⟨n, hscaled, hone, hle⟩, rfl⟩
    have hint := Decimal.toInt_value (Decimal.isIntegral_of_value hscaled)
    rw [hscaled, Int.cast_inj] at hint
    rw [hint]
    refine ⟨hone, hle, ?_⟩
    rw [← hscaled, Decimal.scaleb_value]
    linear_combination amount.value * hpower

/-- `RefundIntent.exact_minor_units`, and then `RefundIntent.amount_minor`. -/
def refundMinorUnits (amount : Decimal) (currencyExponent : ℕ) : Except Exn ℤ :=
  let units := amount.scaleb currencyExponent
  if !units.isPositive || !units.isIntegral then
    .error (.valueError "refund amount must be positive and exact in the currency minor unit")
  else if !units.le ⟨false, 99999999, 0⟩ then
    .error (.valueError "refund amount exceeds the supported Stripe amount range")
  else .ok units.toInt

theorem refundMinorUnits_eq_ok {amount : Decimal} {exponent : ℕ} {m : ℤ} :
    refundMinorUnits amount exponent = .ok m ↔ ExactUnits amount exponent m := by
  rw [exactUnits_iff, Decimal.isPositiveUnits, refundMinorUnits]
  cases (amount.scaleb exponent).isPositive <;> cases (amount.scaleb exponent).isIntegral <;>
    cases (amount.scaleb exponent).le ⟨false, 99999999, 0⟩ <;> simp

/-- The amount of an intent passed the check. -/
theorem RefundIntent.refundMinorUnits_eq (intent : RefundIntent) :
    refundMinorUnits intent.amount.amount intent.currencyExponent = .ok intent.amountMinor :=
  refundMinorUnits_eq_ok.mpr (exactUnits_iff.mpr ⟨intent.exact_minor_units, rfl⟩)

/-- `StripePreparationError` with its message, or what a host or a gateway raised. -/
inductive PreparationFailure
  | refused (message : String)
  | raised (failure : Exn)
  deriving DecidableEq, Repr

/-- An amount the provider accepts. -/
abbrev SupportedUnits := {units : ℕ // 0 < units ∧ units ≤ 99999999}

theorem supported_of_isPositiveUnits {units : Decimal}
    (h : units.isPositiveUnits 99999999 = true) :
    0 < units.toInt.toNat ∧ units.toInt.toNat ≤ 99999999 := by
  obtain ⟨n, hvalue, hone, hle⟩ := Decimal.isPositiveUnits_iff.mp h
  have hint := Decimal.toInt_value (Decimal.isIntegral_of_value hvalue)
  rw [hvalue, Int.cast_inj] at hint
  omega

/-- `_minor_units`. -/
def minorUnits (amount : Money) (exponent : ℕ) : Except PreparationFailure SupportedUnits :=
  if h : (amount.amount.scaleb exponent).isPositiveUnits 99999999 = true then
    .ok ⟨(amount.amount.scaleb exponent).toInt.toNat, supported_of_isPositiveUnits h⟩
  else .error (.refused "credit amount must be positive and exact in supported minor units")

theorem minorUnits_eq_ok {amount : Money} {exponent : ℕ} {units : SupportedUnits} :
    minorUnits amount exponent = .ok units ↔ ExactUnits amount.amount exponent units.1 := by
  rw [exactUnits_iff, minorUnits]
  by_cases h : (amount.amount.scaleb exponent).isPositiveUnits 99999999 = true
  · have hpositive := (supported_of_isPositiveUnits h).1
    rw [dif_pos h, Except.ok.injEq, Subtype.ext_iff]
    dsimp only
    constructor
    · intro heq
      exact ⟨h, by omega⟩
    · rintro ⟨-, heq⟩
      omega
  · rw [dif_neg h]
    constructor
    · intro heq
      cases heq
    · rintro ⟨h', -⟩
      exact absurd h' h

/-! ## Preparing a credit note -/

/-- `mapping.get(line_reference)`, where `mapping` is `{line_reference: invoice_line_id}`: the
references of a binding are unique. -/
def CreditNoteInvoice.lineId (binding : CreditNoteInvoice) (lineReference : SafeReference) :
    Option String :=
  (binding.lines.find? fun line ↦ line.lineReference == lineReference).map
    InvoiceLineBinding.invoiceLineId

/-- The lines of the draft, in the order of the request. -/
def draftLines (binding : CreditNoteInvoice) :
    List CreditNoteLineRequest → Except PreparationFailure (List CreditNoteLine)
  | [] => .ok []
  | line :: rest => do
    match binding.lineId line.lineReference with
    | none => throw (.raised .keyError)
    | some invoiceLineId =>
      let units ← minorUnits line.amount binding.currencyExponent
      let lines ← draftLines binding rest
      return ⟨invoiceLineId, units.1, units.2⟩ :: lines

/-- `sorted(lines, key=lambda line: line.invoice_line_id)`. -/
def sortLines (lines : List CreditNoteLine) : List CreditNoteLine :=
  lines.insertionSort fun a b ↦ a.invoiceLineId ≤ b.invoiceLineId

/-- The draft of `_prepare`, for the binding that the repository answered with. -/
def draftCreditNote (policy : CreditNotePolicy) (tenantReference : SafeReference)
    (command : CreditNoteRequest) (binding : CreditNoteInvoice) :
    Except PreparationFailure CreditNoteDraft :=
  if binding.tenantReference ≠ tenantReference
      ∨ binding.invoiceReference ≠ command.invoiceReference
      ∨ binding.currency ≠ command.expectedTotal.currency
      ∨ policy.permits command binding.account.livemode = false then
    .error (.refused "invoice binding or policy does not permit this credit")
  else if command.lines.any fun line ↦ (binding.lineId line.lineReference).isNone then
    .error (.refused "credit line does not belong to the invoice")
  else do
    let lines ← draftLines binding command.lines
    let total ← minorUnits command.expectedTotal binding.currencyExponent
    return ⟨binding, command, sortLines lines, total.1, total.2⟩

/-- The snapshot, if it passes its validator. -/
def validateCreditNoteSnapshot (tenantReference policyFingerprint : String)
    (command : CreditNoteRequest) (draft : CreditNoteDraft) (observed : InvoiceObservation)
    (calculation : CreditNoteCalculation) : Except PreparationFailure CreditNoteSnapshot :=
  if h : draft.invoice.tenantReference = tenantReference ∧
      draft.request.intentReference = command.intentReference ∧
      draft.request.invoiceReference = draft.invoice.invoiceReference ∧
      observed.boundTo draft.invoice = true ∧ draft.matchesCalculation calculation = true then
    .ok ⟨tenantReference, command.intentReference, policyFingerprint, draft, observed, calculation,
      h⟩
  else .error (.raised .validationError)

/-- `_CreditNoteWorkflow._prepare`, where the gateway answers as `invoice` and `preview` say. -/
def creditNotePrepare [UnicodeNormalization] (policy : CreditNotePolicy)
    (tenantReference : SafeReference) (command : CreditNoteRequest) (binding : CreditNoteInvoice)
    (invoice : CreditNoteInvoice → Except Exn InvoiceObservation)
    (preview : CreditNoteDraft → Except Exn CreditNoteCalculation) :
    Except PreparationFailure (PreparedAction StripeModel) := do
  let draft ← draftCreditNote policy tenantReference command binding
  let observed ← (invoice binding).mapError .raised
  if observed.boundTo binding = false
      ∨ observed.permits command.disposition draft.totalMinor = false then
    throw (.refused "invoice is not eligible for this credit allocation")
  else
  let calculation ← (preview draft).mapError .raised
  if draft.matchesCalculation calculation = false then
    throw (.refused "Stripe credit preview differs from requested lines, total or allocation")
  else
  let policyFingerprint ← policy.fingerprint.mapError .raised
  let snapshot ← validateCreditNoteSnapshot tenantReference policyFingerprint command draft observed
    calculation
  let effectReference ← snapshot.effectReference.mapError .raised
  return {
    privateSnapshot := .snapshot (.creditNote snapshot)
    displayPreview := .creditNotePreview ⟨command.invoiceReference, command.lines,
      command.expectedTotal, command.disposition, command.reason⟩
    semanticEffectReference := effectReference }

/-! ## Comparing dictionaries -/

theorem lastAmount_mem {entries : List (String × ℕ)} {id : String} {amount : ℕ}
    (h : lastAmount entries id = some amount) : (id, amount) ∈ entries := by
  rw [lastAmount, Option.map_eq_some_iff] at h
  obtain ⟨⟨id', amount'⟩, hfound, hamount⟩ := h
  have hid := List.find?_some hfound
  rw [beq_iff_eq] at hid
  have hmem := List.mem_reverse.mp (List.mem_of_find?_eq_some hfound)
  rw [← hid, ← hamount]
  exact hmem

theorem lastAmount_isSome {entries : List (String × ℕ)} {id : String} {amount : ℕ}
    (h : (id, amount) ∈ entries) : ∃ amount', lastAmount entries id = some amount' := by
  rw [← Option.isSome_iff_exists, lastAmount, Option.isSome_map, List.find?_isSome]
  exact ⟨(id, amount), List.mem_reverse.mpr h, beq_iff_eq.mpr rfl⟩

/-- Where no key repeats, a dictionary has all its entries. -/
theorem lastAmount_eq_some_iff {entries : List (String × ℕ)} (hkeys : (entries.map Prod.fst).Nodup)
    {id : String} {amount : ℕ} : lastAmount entries id = some amount ↔ (id, amount) ∈ entries := by
  constructor
  · exact lastAmount_mem
  · intro hmem
    obtain ⟨amount', hamount'⟩ := lastAmount_isSome hmem
    have heq : (id, amount') = (id, amount) :=
      List.inj_on_of_nodup_map hkeys (lastAmount_mem hamount') hmem rfl
    injection heq with _ hvalue
    rw [hamount', hvalue]

theorem sameAmounts_iff {a b : List (String × ℕ)} :
    sameAmounts a b = true ↔ ∀ id, lastAmount a id = lastAmount b id := by
  rw [sameAmounts, List.all_eq_true]
  constructor
  · intro hsame id
    by_cases hid : ∃ amount, (id, amount) ∈ a ++ b
    · obtain ⟨amount, hmem⟩ := hid
      exact beq_iff_eq.mp (hsame _ hmem)
    · have hnone : ∀ entries : List (String × ℕ), (∀ amount, (id, amount) ∉ entries) →
          lastAmount entries id = none := by
        intro entries hnot
        rw [Option.eq_none_iff_forall_ne_some]
        intro amount hamount
        exact hnot amount (lastAmount_mem hamount)
      rw [hnone a fun amount hmem ↦ hid ⟨amount, List.mem_append_left b hmem⟩,
        hnone b fun amount hmem ↦ hid ⟨amount, List.mem_append_right a hmem⟩]
  · intro hsame entry _
    exact beq_iff_eq.mpr (hsame entry.1)

/-- **Equal dictionaries of equally many entries have the same entries**, if one of them has no
repeated key: then the other one cannot have any either. -/
theorem sameAmounts_iff_perm {a b : List (String × ℕ)} (hkeys : (b.map Prod.fst).Nodup)
    (hlength : a.length = b.length) : sameAmounts a b = true ↔ a.Perm b := by
  rw [sameAmounts_iff]
  constructor
  · intro hsame
    have hsubset : b ⊆ a := by
      rintro ⟨id, amount⟩ hmem
      have hamount := (lastAmount_eq_some_iff hkeys).mpr hmem
      rw [← hsame] at hamount
      exact lastAmount_mem hamount
    have hsubperm : b.Subperm a := List.subperm_of_subset (List.Nodup.of_map Prod.fst hkeys) hsubset
    exact (hsubperm.perm_of_length_le hlength.le).symm
  · intro hperm id
    have hkeys' : (a.map Prod.fst).Nodup := (hperm.map Prod.fst).nodup_iff.mpr hkeys
    refine Option.ext fun amount ↦ ?_
    rw [lastAmount_eq_some_iff hkeys, lastAmount_eq_some_iff hkeys', hperm.mem_iff]

/-! ## The draft's lines -/

theorem lineId_mem {binding : CreditNoteInvoice} {lineReference : SafeReference} {id : String}
    (h : binding.lineId lineReference = some id) : ⟨lineReference, id⟩ ∈ binding.lines := by
  rw [CreditNoteInvoice.lineId, Option.map_eq_some_iff] at h
  obtain ⟨⟨reference, id'⟩, hfound, hid⟩ := h
  have hreference := List.find?_some hfound
  rw [beq_iff_eq] at hreference
  dsimp only at hreference
  have hmem := List.mem_of_find?_eq_some hfound
  rw [hreference] at hmem
  rw [← hid]
  exact hmem

/-- Different references are bound to different lines. -/
theorem lineId_inj {binding : CreditNoteInvoice} {lineReference lineReference' : SafeReference}
    {id : String} (h : binding.lineId lineReference = some id)
    (h' : binding.lineId lineReference' = some id) : lineReference = lineReference' := by
  have heq := List.inj_on_of_nodup_map binding.unique_lines.2 (lineId_mem h) (lineId_mem h') rfl
  exact congrArg InvoiceLineBinding.lineReference heq

/-- A line of the draft is the line of the request under the invoice line bound to it, its amount in
minor units. -/
structure Drafted (binding : CreditNoteInvoice) (request : CreditNoteLineRequest)
    (line : CreditNoteLine) : Prop where
  lineId : binding.lineId request.lineReference = some line.invoiceLineId
  units : ExactUnits request.amount.amount binding.currencyExponent line.amountMinor

theorem draftLines_drafted {binding : CreditNoteInvoice} {requests : List CreditNoteLineRequest}
    {lines : List CreditNoteLine} (h : draftLines binding requests = .ok lines) :
    List.Forall₂ (Drafted binding) requests lines := by
  induction requests generalizing lines with
  | nil =>
    cases h
    exact .nil
  | cons request rest ih =>
    rw [draftLines] at h
    split at h
    · cases h
    · rename_i id hid
      rw [Except.bind_eq_ok] at h
      obtain ⟨units, hunits, h⟩ := h
      rw [Except.bind_eq_ok] at h
      obtain ⟨lines', hlines, h⟩ := h
      cases h
      exact .cons ⟨hid, minorUnits_eq_ok.mp hunits⟩ (ih hlines)

/-- The number that minor units are. -/
def unitsValue (exponent : ℕ) (units : ℤ) : ℚ := units * 10 ^ (-(exponent : ℤ))

/-- The request and the draft have the same lines with the same amounts. -/
theorem Drafted.map_eq {binding : CreditNoteInvoice} {requests : List CreditNoteLineRequest}
    {lines : List CreditNoteLine} (hdrafted : List.Forall₂ (Drafted binding) requests lines) :
    (requests.map fun request ↦
        (binding.lineId request.lineReference, request.amount.amount.value)) =
      lines.map fun line ↦
        (some line.invoiceLineId, unitsValue binding.currencyExponent line.amountMinor) := by
  induction hdrafted with
  | nil => rfl
  | cons hline _ ih =>
    rw [List.map_cons, List.map_cons, ih, hline.lineId, unitsValue, hline.units.2.2]

/-- The lines of a draft name each invoice line once. -/
theorem Drafted.nodup {binding : CreditNoteInvoice} {requests : List CreditNoteLineRequest}
    {lines : List CreditNoteLine} (hdrafted : List.Forall₂ (Drafted binding) requests lines)
    (hdistinct : (requests.map CreditNoteLineRequest.lineReference).Nodup) :
    (lines.map CreditNoteLine.invoiceLineId).Nodup := by
  have hids := congrArg (List.map Prod.fst) (Drafted.map_eq hdrafted)
  rw [List.map_map, List.map_map] at hids
  have hmapped : (lines.map CreditNoteLine.invoiceLineId).map some =
      (requests.map CreditNoteLineRequest.lineReference).map binding.lineId := by
    rw [List.map_map, List.map_map]
    exact hids.symm
  refine List.Nodup.of_map some ?_
  rw [hmapped]
  refine List.Nodup.map_on (fun reference hreference reference' _ heq ↦ ?_) hdistinct
  have hmem := List.mem_map_of_mem (f := binding.lineId) hreference
  rw [← hmapped, List.mem_map] at hmem
  obtain ⟨id, -, hid⟩ := hmem
  exact lineId_inj hid.symm (heq ▸ hid.symm)

/-! ## Agreement -/

/-- An amount of money, by its number and its provider currency. -/
def moneyAmount (money : Money) : ℚ × String := (money.amount.value, money.currency.toLower)

/-- Minor units of a provider calculation, as an amount of money. -/
def calculatedAmount (binding : CreditNoteInvoice) (calculation : CreditNoteCalculation)
    (units : ℕ) : ℚ × String :=
  (unitsValue binding.currencyExponent units, calculation.currency)

/-- The whole total is on the side the disposition asks for. -/
def OnRequestedSide (disposition : CreditDisposition) (calculation : CreditNoteCalculation) :
    Prop :=
  match disposition with
  | .invoiceReduction => calculation.prePaymentMinor = calculation.totalMinor ∧
      calculation.postPaymentMinor = 0
  | .customerBalance => calculation.prePaymentMinor = 0 ∧
      calculation.postPaymentMinor = calculation.totalMinor

/-- A calculation is what was requested: as multisets, its lines are the requested lines under the
invoice lines bound to them; its total is the expected one, and wholly on the requested side. -/
structure Agrees (binding : CreditNoteInvoice) (command : CreditNoteRequest)
    (calculation : CreditNoteCalculation) : Prop where
  lines : (↑(calculation.lines.map fun line ↦
      (some line.invoiceLineId, calculatedAmount binding calculation line.amountMinor)) :
        Multiset (Option String × ℚ × String)) =
    ↑(command.lines.map fun line ↦ (binding.lineId line.lineReference, moneyAmount line.amount))
  total : calculatedAmount binding calculation calculation.totalMinor =
    moneyAmount command.expectedTotal
  side : OnRequestedSide command.disposition calculation

theorem unitsValue_injective (exponent : ℕ) : Function.Injective (unitsValue exponent) := by
  intro m n h
  have hne : (10 : ℚ) ^ (-(exponent : ℤ)) ≠ 0 := (Decimal.ten_zpow_pos _).ne'
  exact_mod_cast mul_right_cancel₀ hne h

/-- What a draft that was accepted is. -/
structure DraftOf (binding : CreditNoteInvoice) (command : CreditNoteRequest)
    (draft : CreditNoteDraft) : Prop where
  invoice : draft.invoice = binding
  request : draft.request = command
  currency : binding.currency = command.expectedTotal.currency
  lines : ∃ lines, List.Forall₂ (Drafted binding) command.lines lines ∧ draft.lines.Perm lines
  total : ExactUnits command.expectedTotal.amount binding.currencyExponent draft.totalMinor

theorem draftCreditNote_eq_ok {policy : CreditNotePolicy} {tenantReference : SafeReference}
    {command : CreditNoteRequest} {binding : CreditNoteInvoice} {draft : CreditNoteDraft}
    (h : draftCreditNote policy tenantReference command binding = .ok draft) :
    DraftOf binding command draft := by
  rw [draftCreditNote] at h
  split at h
  · cases h
  · rename_i hpermits
    split at h
    · cases h
    · rw [Except.bind_eq_ok] at h
      obtain ⟨lines, hlines, h⟩ := h
      rw [Except.bind_eq_ok] at h
      obtain ⟨total, htotal, h⟩ := h
      cases h
      have hcurrency : binding.currency = command.expectedTotal.currency := by
        by_contra hne
        exact hpermits (Or.inr (Or.inr (Or.inl hne)))
      exact ⟨rfl, rfl, hcurrency, ⟨lines, draftLines_drafted hlines, List.perm_insertionSort _ _⟩,
        minorUnits_eq_ok.mp htotal⟩

namespace DraftOf

variable {binding : CreditNoteInvoice} {command : CreditNoteRequest} {draft : CreditNoteDraft}
  {calculation : CreditNoteCalculation}

/-- The requested lines, as the draft has them. -/
theorem requested_lines (hdraft : DraftOf binding command draft) :
    (command.lines.map fun line ↦ (binding.lineId line.lineReference, moneyAmount line.amount)).Perm
      (draft.lines.map fun line ↦ (some line.invoiceLineId,
        unitsValue binding.currencyExponent line.amountMinor, binding.currency.toLower)) := by
  obtain ⟨lines, hdrafted, hperm⟩ := hdraft.lines
  refine List.Perm.trans (List.Perm.of_eq ?_) (hperm.map _).symm
  have hwith := congrArg (List.map fun entry ↦ (entry.1, entry.2, binding.currency.toLower))
    (Drafted.map_eq hdrafted)
  rw [List.map_map, List.map_map] at hwith
  refine Eq.trans (List.map_congr_left fun line hline ↦ ?_) hwith
  have hcurrency : line.amount.currency = binding.currency :=
    (command.same_currency line hline).trans hdraft.currency.symm
  rw [moneyAmount, hcurrency]
  rfl

/-- Comparing the dictionaries of lines is comparing the multisets of lines and amounts. -/
theorem lines_iff (hdraft : DraftOf binding command draft)
    (hcurrency : calculation.currency = binding.currency.toLower) :
    (calculation.lines.length = draft.lines.length ∧
      sameAmounts (calculation.lines.map fun line ↦ (line.invoiceLineId, line.amountMinor))
        (draft.lines.map fun line ↦ (line.invoiceLineId, line.amountMinor)) = true) ↔
    (↑(calculation.lines.map fun line ↦
      (some line.invoiceLineId, calculatedAmount binding calculation line.amountMinor)) :
        Multiset (Option String × ℚ × String)) =
    ↑(command.lines.map fun line ↦
      (binding.lineId line.lineReference, moneyAmount line.amount)) := by
  let g : String × ℕ → Option String × ℚ × String := fun entry ↦
    (some entry.1, unitsValue binding.currencyExponent entry.2, binding.currency.toLower)
  have hg : Function.Injective g := by
    rintro ⟨id, amount⟩ ⟨id', amount'⟩ heq
    simp only [g, Prod.mk.injEq, Option.some.injEq, and_true] at heq
    rw [heq.1, Int.ofNat_inj.mp (unitsValue_injective _ heq.2)]
  have hkeys : ((draft.lines.map fun line ↦ (line.invoiceLineId, line.amountMinor)).map
      Prod.fst).Nodup := by
    obtain ⟨lines, hdrafted, hperm⟩ := hdraft.lines
    rw [List.map_map]
    exact ((hperm.map _).nodup_iff).mpr (Drafted.nodup hdrafted command.distinct_lines)
  have hcalculated : (calculation.lines.map fun line ↦
      (some line.invoiceLineId, calculatedAmount binding calculation line.amountMinor)) =
      (calculation.lines.map fun line ↦ (line.invoiceLineId, line.amountMinor)).map g := by
    rw [List.map_map]
    refine List.map_congr_left fun line _ ↦ ?_
    rw [calculatedAmount, hcurrency]
    rfl
  have hdrafted : (draft.lines.map fun line ↦ (some line.invoiceLineId,
      unitsValue binding.currencyExponent line.amountMinor, binding.currency.toLower)) =
      (draft.lines.map fun line ↦ (line.invoiceLineId, line.amountMinor)).map g := by
    rw [List.map_map]
    rfl
  have hrequested := hdraft.requested_lines
  rw [hdrafted] at hrequested
  rw [hcalculated, Multiset.coe_eq_coe]
  constructor
  · rintro ⟨hlength, hsame⟩
    have hlength' : (calculation.lines.map fun line ↦ (line.invoiceLineId, line.amountMinor)).length =
        (draft.lines.map fun line ↦ (line.invoiceLineId, line.amountMinor)).length := by
      rw [List.length_map, List.length_map, hlength]
    exact (((sameAmounts_iff_perm hkeys hlength').mp hsame).map g).trans hrequested.symm
  · intro hperm
    have hperm' := (List.map_perm_map_iff hg).mp (hperm.trans hrequested)
    have hlength := hperm'.length_eq
    refine ⟨?_, (sameAmounts_iff_perm hkeys hlength).mpr hperm'⟩
    rw [List.length_map, List.length_map] at hlength
    exact hlength

/-- **A calculation matches the draft exactly when it is what was requested.** -/
theorem matches_iff (hdraft : DraftOf binding command draft) :
    draft.matchesCalculation calculation = true ↔ Agrees binding command calculation := by
  have htotal : unitsValue binding.currencyExponent draft.totalMinor =
      command.expectedTotal.amount.value := hdraft.total.2.2
  simp only [CreditNoteDraft.matchesCalculation, Bool.and_eq_true, beq_iff_eq, hdraft.invoice]
  constructor
  · rintro ⟨⟨⟨⟨⟨hcurrency, hminor⟩, hpre⟩, hpost⟩, hlength⟩, hlines⟩
    refine ⟨(hdraft.lines_iff hcurrency).mp ⟨hlength, hlines⟩, ?_, ?_⟩
    · rw [calculatedAmount, hminor, htotal, hcurrency, hdraft.currency]
      rfl
    · rw [CreditNoteDraft.creditMinor, hdraft.request] at hpre hpost
      cases hdisposition : command.disposition with
      | invoiceReduction =>
        rw [hdisposition, if_neg (by decide)] at hpre hpost
        rw [OnRequestedSide]
        exact ⟨by omega, hpost⟩
      | customerBalance =>
        rw [hdisposition, if_pos rfl] at hpre hpost
        rw [OnRequestedSide]
        exact ⟨by omega, by omega⟩
  · rintro ⟨hlines, htotal', hside⟩
    rw [calculatedAmount, moneyAmount, ← htotal, Prod.mk.injEq] at htotal'
    obtain ⟨hminor, hcurrency⟩ := htotal'
    have hminor' : calculation.totalMinor = draft.totalMinor :=
      Int.ofNat_inj.mp (unitsValue_injective _ hminor)
    rw [← hdraft.currency] at hcurrency
    obtain ⟨hlength, hsame⟩ := (hdraft.lines_iff hcurrency).mpr hlines
    refine ⟨⟨⟨⟨⟨hcurrency, hminor'⟩, ?_⟩, ?_⟩, hlength⟩, hsame⟩
    all_goals
      rw [CreditNoteDraft.creditMinor, hdraft.request]
      cases hdisposition : command.disposition with
      | invoiceReduction =>
        rw [hdisposition, OnRequestedSide] at hside
        obtain ⟨hpre, hpost⟩ := hside
        rw [if_neg (by decide)]
        omega
      | customerBalance =>
        rw [hdisposition, OnRequestedSide] at hside
        obtain ⟨hpre, hpost⟩ := hside
        rw [if_pos rfl]
        omega

end DraftOf

/-- A prepared credit note has a calculation that is what was requested. -/
theorem creditNotePrepare_agrees [UnicodeNormalization] {policy : CreditNotePolicy}
    {tenantReference : SafeReference} {command : CreditNoteRequest} {binding : CreditNoteInvoice}
    {invoice : CreditNoteInvoice → Except Exn InvoiceObservation}
    {preview : CreditNoteDraft → Except Exn CreditNoteCalculation}
    {prepared : PreparedAction StripeModel}
    (h : creditNotePrepare policy tenantReference command binding invoice preview = .ok prepared) :
    ∃ draft calculation, draftCreditNote policy tenantReference command binding = .ok draft ∧
      preview draft = .ok calculation ∧ Agrees binding command calculation := by
  rw [creditNotePrepare, Except.bind_eq_ok] at h
  obtain ⟨draft, hdraft, h⟩ := h
  rw [Except.bind_eq_ok] at h
  obtain ⟨observed, -, h⟩ := h
  split at h
  · cases h
  · rw [Except.bind_eq_ok] at h
    obtain ⟨calculation, hcalculation, h⟩ := h
    have hpreview : preview draft = .ok calculation := by
      cases hanswer : preview draft with
      | error failure =>
        rw [hanswer] at hcalculation
        cases hcalculation
      | ok answer =>
        rw [hanswer] at hcalculation
        cases hcalculation
        rfl
    split at h
    · cases h
    · rename_i hmatches
      rw [Bool.not_eq_false] at hmatches
      exact ⟨draft, calculation, hdraft, hpreview, (draftCreditNote_eq_ok hdraft).matches_iff.mp
        hmatches⟩

section Sample

attribute [local instance] normalizedTexts

/-- Two lines of an invoice in dollars. -/
def sampleInvoice : CreditNoteInvoice where
  tenantReference := "tenant"
  invoiceReference := "invoice"
  version := 1
  account := ⟨"account", none, false⟩
  invoiceId := "in_sample"
  customerId := "cus_sample"
  currency := "USD"
  currencyExponent := 2
  lines := [⟨"first", "il_b"⟩, ⟨"second", "il_a"⟩]
  version_pos := Nat.one_pos
  currencyExponent_le := by decide
  lines_ne_nil := by decide
  unique_lines := by decide

/-- A credit of twelve dollars and a half. -/
def sampleCredit : CreditNoteRequest where
  intentReference := "intent"
  invoiceReference := "invoice"
  lines := [⟨"first", ⟨⟨false, 10, 0⟩, "USD"⟩⟩, ⟨"second", ⟨⟨false, 25, -1⟩, "USD"⟩⟩]
  expectedTotal := ⟨⟨false, 1250, -2⟩, "USD"⟩
  disposition := .customerBalance
  reason := .duplicate
  lines_length := by decide
  distinct_lines := by decide
  same_currency := by decide
  positive_amounts := by decide

def sampleCreditPolicy : CreditNotePolicy where
  limits := [⟨⟨false, 100, 0⟩, "USD"⟩]
  limits_ne_nil := by decide
  unique_limits := by decide
  positive_limits := by decide

/-- The provider's calculation lists the lines in an order of its own. -/
def sampleCalculation : CreditNoteCalculation where
  currency := "usd"
  totalMinor := 1250
  prePaymentMinor := 0
  postPaymentMinor := 1250
  lines := [⟨"il_b", 1000, 0, []⟩, ⟨"il_a", 250, 0, []⟩]
  totalMinor_pos := by decide
  lines_length := by decide

end Sample

end ThrevoActions.Stripe
