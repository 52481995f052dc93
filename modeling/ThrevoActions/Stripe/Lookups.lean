import ThrevoActions.Paging.Lookup
import ThrevoActions.Stripe.Outcomes

/-!
# Observing refunds and credit notes

`observe` and `verify` of `StripeRefundConnector` and of `_CreditNoteWorkflow`: a bounded lookup over
the provider's list, and what the workflow makes of it. Both lookups are the one of
`Paging.Lookup`, with their own entries and their own errors.
-/

namespace ThrevoActions.Stripe

open Interleaving Interleaving.Program Paging

/-! ## What is read -/

abbrev RefundPage := Page RefundObservation

structure CreditNoteLookup where
  noteId : String
  correlation : String
  deriving DecidableEq, Repr

abbrev CreditNotePage := Page CreditNoteLookup

structure CustomerCreditObservation where
  transactionId : String
  customerId : String
  noteId : String
  currency : String
  amountMinor : ℤ
  kind : String
  deriving DecidableEq, Repr

/-- The calls of `verify` on the refund gateway and on the credit-note gateway. -/
inductive StripeReadOp
  | charge (intent : RefundIntent)
  | refunds (intent : RefundIntent) (after : Option String)
  | retrieveRefund (intent : RefundIntent) (refundId : String)
  | invoice (binding : CreditNoteInvoice)
  | notes (binding : CreditNoteInvoice) (after : Option String)
  | retrieveNote (binding : CreditNoteInvoice) (noteId : String)
  | customerCredit (binding : CreditNoteInvoice) (transactionId : String)

@[reducible] def StripeReadOp.Ans : StripeReadOp → Type
  | .charge _ => ChargeObservation
  | .refunds _ _ => RefundPage
  | .retrieveRefund _ _ => RefundObservation
  | .invoice _ => InvoiceObservation
  | .notes _ _ => CreditNotePage
  | .retrieveNote _ _ => CreditNoteObservation
  | .customerCredit _ _ => CustomerCreditObservation

@[reducible] def stripeReads : Signature := ⟨StripeReadOp, StripeReadOp.Ans⟩

/-- A coroutine that only reads the provider's state. -/
abbrev StripeReading (α : Type) := Program stripeReads Exn α

/-- `await` a read of the provider's state. -/
abbrev read (operation : StripeReadOp) : StripeReading operation.Ans :=
  Program.perform (S := stripeReads) operation

/-- Whatever a gateway raises is a `StripeBoundaryError`. -/
def GatewayAnswers (o : StripeReadOp) (r : Except Exn o.Ans) : Prop :=
  ∀ failure, r = .error failure → isBoundaryError failure = true

/-! ## Results -/

/-- Nothing is known of the target. -/
def unavailableTarget (reasonCode : SafeReference) : VerificationResult StripeModel :=
  { status := .targetUnavailable, reasonCode := some reasonCode }

theorem success_of_noItems (status : VerificationStatus) :
    status = .verifiedCompletion → ([] : List ItemOutcome) ≠ [] →
      ∃ item ∈ ([] : List ItemOutcome), item.status = .succeeded :=
  fun _ hitems ↦ absurd rfl hitems

theorem known_of_noItems (status : VerificationStatus) :
    status = .verifiedCompletion ∨ status = .verifiedTerminalFailure →
      ∀ item ∈ ([] : List ItemOutcome), item.status ≠ .failedUnknown :=
  fun _ _ hitem ↦ absurd hitem List.not_mem_nil

theorem provisionalAbsence_unsettled :
    false = true ↔ VerificationStatus.provisionalAbsence = .authoritativeFinalAbsence := by
  decide

theorem verifiedCompletion_unsettled :
    false = true ↔ VerificationStatus.verifiedCompletion = .authoritativeFinalAbsence := by
  decide

/-- The effect is not there, for the time being. -/
def provisionallyAbsent (reasonCode : SafeReference) : VerificationResult StripeModel :=
  { status := .provisionalAbsence, reasonCode := some reasonCode,
    completion_has_success := success_of_noItems .provisionalAbsence,
    terminal_knows_items := known_of_noItems .provisionalAbsence,
    settled_iff_final_absence := provisionalAbsence_unsettled }

/-- The effect was found, and has come about or has not. -/
def settledOutcome (completed : Bool) (result : StripeModel) (correlation : String) :
    VerificationResult StripeModel :=
  if completed then
    { status := .verifiedCompletion, result := some result,
      externalReference := some ⟨"stripe", correlation⟩,
      completion_has_success := success_of_noItems .verifiedCompletion,
      terminal_knows_items := known_of_noItems .verifiedCompletion,
      settled_iff_final_absence := verifiedCompletion_unsettled }
  else
    { status := .verifiedTerminalFailure, result := some result,
      externalReference := some ⟨"stripe", correlation⟩ }

/-- Only a success is settled as completed. -/
theorem settledOutcome_completed {completed : Bool} {result : StripeModel} {correlation : String}
    (h : (settledOutcome completed result correlation).status = .verifiedCompletion) :
    completed = true := by
  rw [settledOutcome] at h
  by_contra hfalse
  rw [if_neg hfalse] at h
  cases h

section Reading

variable [UnicodeNormalization]

/-! ## Refunds -/

/-- How refunds are looked up: a listed entry correlates by its metadata, and has to match the
intent already as it is listed. -/
def refundLookup (intent : RefundIntent) :
    Lookup stripeReads Exn String RefundObservation RefundObservation where
  readPage after := read (.refunds intent after)
  retrieve refundId := read (.retrieveRefund intent refundId)
  idOf := RefundObservation.refundId
  correlates candidate := do return candidate.correlation == (← intent.correlation)
  accepts candidate := candidate.matchesIntent intent
  confirms found observed := do
    return (← observed.matchesIntent intent) && observed.refundId == found.refundId
  inconsistent := .stripeBoundary "Stripe refund correlation is inconsistent"
  mismatched := .stripeBoundary "Stripe refund binding is inconsistent"
  exceeded := .stripeBoundary "Stripe refund lookup exceeded its bound"

/-- `StripeRefundConnector.observe`. -/
def observeRefund (maxLookupPages : ℕ) (intent : RefundIntent) :
    StripeReading (Option RefundObservation) :=
  (refundLookup intent).search maxLookupPages none none

/-- The part of `StripeRefundConnector.verify` whose boundary errors are caught: the charge is
established again before the refund is looked up. -/
def observeChargedRefund (maxLookupPages : ℕ) (intent : RefundIntent) :
    StripeReading (Option RefundObservation) := do
  let charge ← read (.charge intent)
  raiseIf (charge.chargeId ≠ intent.chargeId
      ∨ charge.currency ≠ intent.amount.currency.toLower
      ∨ charge.livemode ≠ intent.account.livemode)
    (.stripeBoundary "Stripe account binding is inconsistent")
  observeRefund maxLookupPages intent

/-- `StripeRefundConnector.verify`. -/
def verifyRefund (maxLookupPages : ℕ) (intent : RefundIntent) :
    StripeReading (VerificationResult StripeModel) := do
  let observed ← (observeChargedRefund maxLookupPages intent).attempt
  match observed with
  | .error failure =>
    if isBoundaryError failure then return unavailableTarget "stripe_lookup_unavailable"
    else throw failure
  | .ok none => return provisionallyAbsent "stripe_refund_not_observed"
  | .ok (some observed) =>
    if observed.status = .pending ∨ observed.status = .requiresAction then
      return provisionallyAbsent "stripe_refund_pending"
    else
    let correlation ← orRaise intent.correlation
    return settledOutcome (observed.status == .succeeded)
      (.refundOutcome ⟨intent.amount, observed.status⟩) correlation

/-! ## Credit notes -/

/-- How credit notes are looked up: the list shows no more of an entry than its correlation. -/
def creditNoteLookup (snapshot : CreditNoteSnapshot) :
    Lookup stripeReads Exn String CreditNoteLookup CreditNoteObservation where
  readPage after := read (.notes snapshot.draft.invoice after)
  retrieve noteId := read (.retrieveNote snapshot.draft.invoice noteId)
  idOf := CreditNoteLookup.noteId
  correlates item := do return item.correlation == (← snapshot.correlation)
  accepts _ := .ok true
  confirms found note := do
    return note.noteId == found.noteId && (← note.matchesSnapshot snapshot)
  inconsistent := .stripeBoundary "Stripe credit correlation is inconsistent"
  mismatched := .stripeBoundary "Stripe credit binding is inconsistent"
  exceeded := .stripeBoundary "Stripe credit lookup exceeded its bound"

/-- `_CreditNoteWorkflow._observe`. -/
def observeCreditNote (snapshot : CreditNoteSnapshot) :
    StripeReading (Option CreditNoteObservation) :=
  (creditNoteLookup snapshot).search 10 none none

/-- The balance transaction of an issued note is the customer's credit for it. -/
def checkCustomerCredit (snapshot : CreditNoteSnapshot) (note : CreditNoteObservation)
    (transactionId : String) : StripeReading Unit := do
  let binding := snapshot.draft.invoice
  let credit ← read (.customerCredit binding transactionId)
  raiseIf (credit.transactionId ≠ transactionId
      ∨ credit.customerId ≠ binding.customerId
      ∨ credit.noteId ≠ note.noteId
      ∨ credit.kind ≠ "credit_note"
      ∨ credit.currency ≠ binding.currency.toLower
      ∨ credit.amountMinor ≠ -snapshot.draft.creditMinor)
    (.stripeBoundary "Stripe customer credit is inconsistent")

/-- The part of `_CreditNoteWorkflow._verify` whose boundary errors are caught. -/
def observeCheckedNote (snapshot : CreditNoteSnapshot) :
    StripeReading (Option CreditNoteObservation) := do
  let invoice ← read (.invoice snapshot.draft.invoice)
  raiseIf (invoice.boundTo snapshot.draft.invoice = false)
    (.stripeBoundary "Stripe invoice binding is inconsistent")
  let note ← observeCreditNote snapshot
  match note with
  | none => return none
  | some note =>
    match note.status, note.balanceTransactionId with
    | .issued, some transactionId =>
      checkCustomerCredit snapshot note transactionId
      return some note
    | _, _ => return some note

/-- `_CreditNoteWorkflow._verify`. -/
def verifyCreditNote (snapshot : CreditNoteSnapshot) :
    StripeReading (VerificationResult StripeModel) := do
  let note ← (observeCheckedNote snapshot).attempt
  match note with
  | .error failure =>
    if isBoundaryError failure then
      return unavailableTarget "stripe_credit_lookup_unavailable"
    else throw failure
  | .ok none => return provisionallyAbsent "stripe_credit_not_observed"
  | .ok (some note) =>
    let correlation ← orRaise snapshot.correlation
    return settledOutcome (note.status == .issued)
      (.creditNoteOutcome ⟨snapshot.draft.invoice.invoiceReference,
        snapshot.draft.request.expectedTotal, snapshot.draft.request.disposition, note.status⟩)
      correlation

end Reading

/-! ## What was read -/

/-- The calls that read a page of a list. -/
def StripeReadOp.isListing : StripeReadOp → Bool
  | .refunds _ _ | .notes _ _ => true
  | _ => false

/-- How many pages were asked for. -/
def listings (h : History stripeReads Exn) : ℕ := h.countP fun ev ↦ ev.op.isListing

/-- The pages of refunds that were read, in order. -/
def refundPages : History stripeReads Exn → List RefundPage
  | [] => []
  | ⟨.refunds _ _, .ok page⟩ :: h => refundPages h ++ [page]
  | _ :: h => refundPages h

/-- The refunds that were retrieved by themselves, in order. -/
def retrievedRefunds : History stripeReads Exn → List (String × RefundObservation)
  | [] => []
  | ⟨.retrieveRefund _ refundId, .ok observed⟩ :: h => retrievedRefunds h ++ [(refundId, observed)]
  | _ :: h => retrievedRefunds h

/-- The pages of credit notes that were read, in order. -/
def notePages : History stripeReads Exn → List CreditNotePage
  | [] => []
  | ⟨.notes _ _, .ok page⟩ :: h => notePages h ++ [page]
  | _ :: h => notePages h

/-- The credit notes that were retrieved by themselves, in order. -/
def retrievedNotes : History stripeReads Exn → List (String × CreditNoteObservation)
  | [] => []
  | ⟨.retrieveNote _ noteId, .ok note⟩ :: h => retrievedNotes h ++ [(noteId, note)]
  | _ :: h => retrievedNotes h

/-- Reads are always allowed, and gateways raise boundary errors only. -/
def gatewayContract : Contract stripeReads Exn := ⟨GatewayAnswers, fun _ _ ↦ True⟩

/-- A boundary error, or the error that says that there is no correlation value. -/
def Expected (correlation : Except Exn String) (failure : Exn) : Prop :=
  isBoundaryError failure = true ∨ correlation = .error failure

/-- What follows a computation by a pure step raises only what the computation raises. -/
theorem error_of_map_error {α β : Type} {x : Except Exn α} {f : α → β} {failure : Exn}
    (h : (do return f (← x)) = Except.error failure) : x = .error failure := by
  cases x with
  | error failure' =>
    injection h with hfailure
    rw [hfailure]
  | ok a => cases h

section Reading

variable [UnicodeNormalization]

theorem RefundObservation.matchesIntent_error {observed : RefundObservation}
    {intent : RefundIntent} {failure : Exn} (h : observed.matchesIntent intent = .error failure) :
    intent.correlation = .error failure := by
  exact error_of_map_error h

theorem CreditNoteObservation.matchesSnapshot_error {observed : CreditNoteObservation}
    {snapshot : CreditNoteSnapshot} {failure : Exn}
    (h : observed.matchesSnapshot snapshot = .error failure) :
    snapshot.correlation = .error failure := by
  exact error_of_map_error h

/-- A judgement on refunds raises only if the intent has no correlation value. -/
theorem refundLookup_raises {intent : RefundIntent} {failure : Exn}
    (hraises : (refundLookup intent).Raises failure) : intent.correlation = .error failure := by
  rcases hraises with ⟨item, h⟩ | ⟨item, h⟩ | ⟨item, observed, h⟩
  · exact error_of_map_error h
  · exact RefundObservation.matchesIntent_error h
  · exact RefundObservation.matchesIntent_error (error_of_map_error h)

theorem refundLookup_shown (intent : RefundIntent) :
    (refundLookup intent).Shown gatewayContract listings refundPages retrievedRefunds
      (Expected intent.correlation) where
  readPage h after := by
    refine meets_perform.mpr ⟨trivial, fun r hr ↦ ?_⟩
    cases r with
    | ok page => exact ⟨List.countP_cons_of_pos rfl, rfl, rfl⟩
    | error failure =>
      exact ⟨List.countP_cons_of_pos rfl, rfl, rfl, Or.inl (hr failure rfl)⟩
  retrieve h refundId := by
    refine meets_perform.mpr ⟨trivial, fun r hr ↦ ?_⟩
    cases r with
    | ok observed => exact ⟨rfl, rfl, rfl⟩
    | error failure => exact ⟨rfl, rfl, rfl, Or.inl (hr failure rfl)⟩
  raises _ hraises := Or.inr (refundLookup_raises hraises)
  inconsistent := Or.inl rfl
  mismatched := Or.inl rfl
  exceeded := Or.inl rfl

/-- A judgement on credit notes raises only if the snapshot has no correlation value. -/
theorem creditNoteLookup_raises {snapshot : CreditNoteSnapshot} {failure : Exn}
    (hraises : (creditNoteLookup snapshot).Raises failure) :
    snapshot.correlation = .error failure := by
  rcases hraises with ⟨item, h⟩ | ⟨item, h⟩ | ⟨item, note, h⟩
  · exact error_of_map_error h
  · cases h
  · exact CreditNoteObservation.matchesSnapshot_error (error_of_map_error h)

theorem creditNoteLookup_shown (snapshot : CreditNoteSnapshot) :
    (creditNoteLookup snapshot).Shown gatewayContract listings notePages retrievedNotes
      (Expected snapshot.correlation) where
  readPage h after := by
    refine meets_perform.mpr ⟨trivial, fun r hr ↦ ?_⟩
    cases r with
    | ok page => exact ⟨List.countP_cons_of_pos rfl, rfl, rfl⟩
    | error failure =>
      exact ⟨List.countP_cons_of_pos rfl, rfl, rfl, Or.inl (hr failure rfl)⟩
  retrieve h noteId := by
    refine meets_perform.mpr ⟨trivial, fun r hr ↦ ?_⟩
    cases r with
    | ok note => exact ⟨rfl, rfl, rfl⟩
    | error failure => exact ⟨rfl, rfl, rfl, Or.inl (hr failure rfl)⟩
  raises _ hraises := Or.inr (creditNoteLookup_raises hraises)
  inconsistent := Or.inl rfl
  mismatched := Or.inl rfl
  exceeded := Or.inl rfl

/-! ## What is concluded -/

/-- What a lookup of refunds makes of what it read. -/
abbrev RefundOutcomeOf (maxLookupPages : ℕ) (intent : RefundIntent) (h : History stripeReads Exn)
    (r : Except Exn (Option RefundObservation)) : Prop :=
  (refundLookup intent).Outcome (Expected intent.correlation) maxLookupPages (listings h)
    (refundPages h) (retrievedRefunds h) r

/-- What a lookup of credit notes makes of what it read. -/
abbrev CreditNoteOutcomeOf (snapshot : CreditNoteSnapshot) (h : History stripeReads Exn)
    (r : Except Exn (Option CreditNoteObservation)) : Prop :=
  (creditNoteLookup snapshot).Outcome (Expected snapshot.correlation) 10 (listings h)
    (notePages h) (retrievedNotes h) r

theorem observeRefund_meets (maxLookupPages : ℕ) (intent : RefundIntent)
    {h : History stripeReads Exn} (hlistings : listings h = 0) (hpages : refundPages h = [])
    (hretrieved : retrievedRefunds h = []) :
    (observeRefund maxLookupPages intent).Meets gatewayContract
      (RefundOutcomeOf maxLookupPages intent) h := by
  refine Lookup.search_meets (refundLookup_shown intent) maxLookupPages ?_ ?_ ?_ hretrieved
  · rw [hlistings, Nat.zero_add]
  · rw [hpages]
    exact List.forall_mem_nil _
  · rw [hpages]
    exact List.forall_mem_nil _

theorem observeCreditNote_meets (snapshot : CreditNoteSnapshot) {h : History stripeReads Exn}
    (hlistings : listings h = 0) (hpages : notePages h = []) (hretrieved : retrievedNotes h = []) :
    (observeCreditNote snapshot).Meets gatewayContract (CreditNoteOutcomeOf snapshot) h := by
  refine Lookup.search_meets (creditNoteLookup_shown snapshot) 10 ?_ ?_ ?_ hretrieved
  · rw [hlistings]
  · rw [hpages]
    exact List.forall_mem_nil _
  · rw [hpages]
    exact List.forall_mem_nil _

/-- A refund is reported as completed only if it was found, and has succeeded. -/
theorem verifyRefund_meets (maxLookupPages : ℕ) (intent : RefundIntent) :
    (verifyRefund maxLookupPages intent).Meets gatewayContract (fun h r ↦
      ∀ result, r = .ok result → result.status = .verifiedCompletion →
        ∃ observed, RefundOutcomeOf maxLookupPages intent h (.ok (some observed)) ∧
          observed.status = .succeeded) [] := by
  have hobserved : (observeChargedRefund maxLookupPages intent).Meets gatewayContract (fun h r ↦
      ∀ observed, r = .ok observed → RefundOutcomeOf maxLookupPages intent h (.ok observed)) [] := by
    refine Meets.perform_bind trivial (fun _ _ _ h ↦ (by cases h)) fun charge _ ↦ ?_
    refine Meets.raiseIf_bind (fun _ _ h ↦ (by cases h)) fun _ ↦ ?_
    refine (observeRefund_meets maxLookupPages intent rfl rfl rfl).imp fun h r _ houtcome ↦ ?_
    rintro observed rfl
    exact houtcome
  refine Meets.attempt_bind_of hobserved fun h r _ houtcome ↦ ?_
  cases r with
  | error failure =>
    dsimp only
    split
    · rintro result hresult hstatus
      cases hresult
      cases hstatus
    · rintro result hresult
      cases hresult
  | ok conclusion =>
    cases conclusion with
    | none =>
      rintro result hresult hstatus
      cases hresult
      cases hstatus
    | some observed =>
      dsimp only
      split
      · rintro result hresult hstatus
        cases hresult
        cases hstatus
      · refine Meets.orRaise_bind (fun _ _ _ h ↦ (by cases h)) fun correlation _ ↦ ?_
        rintro result hresult hstatus
        cases hresult
        have hcompleted := settledOutcome_completed hstatus
        exact ⟨observed, houtcome _ rfl, beq_iff_eq.mp hcompleted⟩

theorem observeCheckedNote_meets (snapshot : CreditNoteSnapshot) :
    (observeCheckedNote snapshot).Meets gatewayContract (fun h r ↦
      ∀ note, r = .ok note → CreditNoteOutcomeOf snapshot h (.ok note)) [] := by
  refine Meets.perform_bind trivial (fun _ _ _ h ↦ (by cases h)) fun invoice _ ↦ ?_
  refine Meets.raiseIf_bind (fun _ _ h ↦ (by cases h)) fun _ ↦ ?_
  refine Meets.bind_of (observeCreditNote_meets snapshot rfl rfl rfl)
    (fun _ _ _ _ _ h ↦ (by cases h)) fun h note _ houtcome ↦ ?_
  have hreturn : ∀ note', Except.ok (ε := Exn) note = .ok note' →
      CreditNoteOutcomeOf snapshot h (.ok note') := by
    rintro note' ⟨⟩
    exact houtcome
  cases note with
  | none => exact hreturn
  | some note =>
    dsimp only
    split
    · rename_i transactionId _ _
      -- checking the customer's credit reads no list and retrieves no note
      have hchecked : (checkCustomerCredit snapshot note transactionId).Meets gatewayContract (fun h' r ↦
          ∀ a, r = .ok a → CreditNoteOutcomeOf snapshot h' (.ok (some note))) h := by
        refine Meets.perform_bind trivial (fun _ _ _ h ↦ (by cases h)) fun credit _ ↦ ?_
        rw [raiseIf]
        split
        · rintro _ ⟨⟩
        · exact fun _ _ ↦ houtcome
      refine Meets.bind_of hchecked (fun _ _ _ _ _ h ↦ (by cases h)) fun h' _ _ hkept ↦ ?_
      rintro note' ⟨⟩
      exact hkept _ rfl
    · exact hreturn

/-- A credit note is reported as completed only if it was found, and is issued. -/
theorem verifyCreditNote_meets (snapshot : CreditNoteSnapshot) :
    (verifyCreditNote snapshot).Meets gatewayContract (fun h r ↦
      ∀ result, r = .ok result → result.status = .verifiedCompletion →
        ∃ note, CreditNoteOutcomeOf snapshot h (.ok (some note)) ∧ note.status = .issued) [] := by
  refine Meets.attempt_bind_of (observeCheckedNote_meets snapshot) fun h r _ houtcome ↦ ?_
  cases r with
  | error failure =>
    dsimp only
    split
    · rintro result hresult hstatus
      cases hresult
      cases hstatus
    · rintro result hresult
      cases hresult
  | ok conclusion =>
    cases conclusion with
    | none =>
      rintro result hresult hstatus
      cases hresult
      cases hstatus
    | some note =>
      refine Meets.orRaise_bind (fun _ _ _ h ↦ (by cases h)) fun correlation _ ↦ ?_
      rintro result hresult hstatus
      cases hresult
      have hcompleted := settledOutcome_completed hstatus
      exact ⟨note, houtcome _ rfl, beq_iff_eq.mp hcompleted⟩

/-- **Lookups conclude from complete lists only.** Whatever pages and objects the provider answers
with: an observation returns an object only if the list was read on to its end, exactly one entry of
it correlates, and the object retrieved for that entry is it and matches; it returns nothing only
if the list was read on to its end and no entry correlates; otherwise it raises a boundary error,
unless there is no correlation value to look for. It asks for at most the bounded number of pages,
and completion is reported only for such an object. -/
theorem lookups_conclusive (h : History stripeReads Exn) :
    (∀ (maxLookupPages : ℕ) (intent : RefundIntent) (r : Except Exn (Option RefundObservation)),
      Finishes GatewayAnswers (observeRefund maxLookupPages intent) h r →
      RefundOutcomeOf maxLookupPages intent h r) ∧
    (∀ (snapshot : CreditNoteSnapshot) (r : Except Exn (Option CreditNoteObservation)),
      Finishes GatewayAnswers (observeCreditNote snapshot) h r →
      CreditNoteOutcomeOf snapshot h r) ∧
    (∀ (maxLookupPages : ℕ) (intent : RefundIntent) (result : VerificationResult StripeModel),
      Finishes GatewayAnswers (verifyRefund maxLookupPages intent) h (.ok result) →
      result.status = .verifiedCompletion →
      ∃ observed, RefundOutcomeOf maxLookupPages intent h (.ok (some observed)) ∧
        observed.status = .succeeded) ∧
    ∀ (snapshot : CreditNoteSnapshot) (result : VerificationResult StripeModel),
      Finishes GatewayAnswers (verifyCreditNote snapshot) h (.ok result) →
      result.status = .verifiedCompletion →
      ∃ note, CreditNoteOutcomeOf snapshot h (.ok (some note)) ∧ note.status = .issued := by
  refine ⟨fun maxLookupPages intent r hfinishes ↦ ?_, fun snapshot r hfinishes ↦ ?_,
    fun maxLookupPages intent result hfinishes ↦ ?_, fun snapshot result hfinishes ↦ ?_⟩
  · exact (observeRefund_meets maxLookupPages intent rfl rfl rfl).finishes hfinishes
  · exact (observeCreditNote_meets snapshot rfl rfl rfl).finishes hfinishes
  · exact (verifyRefund_meets maxLookupPages intent).finishes hfinishes result rfl
  · exact (verifyCreditNote_meets snapshot).finishes hfinishes result rfl

end Reading

section Sample

attribute [local instance] normalizedTexts

/-- The refund of one dollar, as the provider has it. -/
def sampleRefunded : RefundObservation where
  refundId := "re_sample"
  chargeId := "ch_sample"
  currency := "usd"
  amountMinor := 100
  status := .succeeded
  correlation := textOf sampleRefund.intent.correlation
  amountMinor_pos := Nat.zero_lt_succ 99

/-- A provider that has the sample refund. -/
def sampleReads (_ : History stripeReads Exn) : (o : StripeReadOp) → Except Exn o.Ans
  | .charge _ => .ok sampleCharge
  | .refunds _ _ => .ok ⟨[sampleRefunded], false⟩
  | .retrieveRefund _ _ => .ok sampleRefunded
  | _ => .error (.stripeBoundary "not available")

theorem sampleReads_gateway (h : History stripeReads Exn) (o : StripeReadOp) :
    GatewayAnswers o (sampleReads h o) := by
  intro failure hfailure
  cases o <;> cases hfailure
  all_goals rfl

/-- The verification of the sample refund, after its three reads. -/
def sampleVerified : StripeReading (VerificationResult StripeModel) × History stripeReads Exn :=
  (verifyRefund 1 sampleRefund.intent).replay sampleReads 3 []

theorem sampleVerified_ended : (match sampleVerified.1.ending with
    | some (.ok result) => result.status == .verifiedCompletion
    | _ => false) = true := by
  decide +kernel

/-- The sample refund is reported as completed, for a complete list. -/
theorem lookups_conclusive_sample : ∃ result,
    Finishes GatewayAnswers (verifyRefund 1 sampleRefund.intent) sampleVerified.2 (.ok result) ∧
    result.status = .verifiedCompletion ∧
    ∃ observed, RefundOutcomeOf 1 sampleRefund.intent sampleVerified.2 (.ok (some observed)) ∧
      observed.status = .succeeded := by
  have hended := sampleVerified_ended
  split at hended
  · rename_i result hending
    have hstatus := beq_iff_eq.mp hended
    obtain ⟨r, hr⟩ := Program.exists_orRaise (p := sampleVerified.1) (by rw [hending]; rfl)
    obtain rfl : r = .ok result := by
      rw [hr] at hending
      cases r <;> cases hending
      rfl
    have hfinishes : Finishes GatewayAnswers (verifyRefund 1 sampleRefund.intent)
        sampleVerified.2 (.ok result) := by
      rw [Finishes, ← hr]
      exact Executes.replay sampleReads_gateway 3 .refl
    exact ⟨result, hfinishes, hstatus,
      (lookups_conclusive sampleVerified.2).2.2.1 _ _ result hfinishes hstatus⟩
  · cases hended

end Sample

end ThrevoActions.Stripe
