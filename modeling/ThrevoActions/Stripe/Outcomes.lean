import ThrevoActions.Runtime.Schedules
import ThrevoActions.Stripe.LawfulWorkflows

/-!
# What a workflow reports, and what it leaves behind

A workflow that reports that nothing was submitted never invoked the provider mutation, and one
that invoked it never records that nothing was submitted, whatever its host does
(`no_submission_is_truthful`).

A reservation that was acquired and not used is not always released. The refund connector catches
what its read of the charge raises; `_Workflow.execute` lets what the reads of its second `_current`
raise pass to the caller, and the intent stays reserved. `reservation_released_iff` says that these
are all the executions that leak.
-/

namespace ThrevoActions.Stripe

open Interleaving Interleaving.Program

section Workflows

variable [StripeJson]

/-! ## Reads that raise while the reservation is held -/

/-- A gateway read raised after the reservation was acquired. -/
def RaisedWhileHeld (h : StripeHistory) : Prop :=
  ∃ ev past, ev :: past <:+ h ∧ isGatewayRead ev.op = true ∧ (∃ e, ev.answer = .error e) ∧
    HasAcquired past

theorem Clean.not_raisedWhileHeld {h : StripeHistory} (hclean : Clean h) : ¬RaisedWhileHeld h := by
  rintro ⟨ev, past, hev, -, ⟨e, he⟩, -⟩
  obtain ⟨a, ha⟩ := hclean ev (hev.subset List.mem_cons_self)
  rw [ha] at he
  cases he

/-- One more operation that is no gateway read. -/
theorem RaisedWhileHeld.of_cons {o : StripeOperation} {answer : Except Exn o.Ans}
    {h : StripeHistory} (hraised : RaisedWhileHeld (⟨o, answer⟩ :: h))
    (ho : isGatewayRead o = false) : RaisedWhileHeld h := by
  obtain ⟨ev, past, hev, hgateway, hrest⟩ := hraised
  rcases List.suffix_cons_iff.mp hev with heq | hev
  · obtain ⟨rfl, rfl⟩ := List.cons.inj heq
    rw [ho] at hgateway
    cases hgateway
  · exact ⟨ev, past, hev, hgateway, hrest⟩

section

variable {policies : StripePolicies} {definition : ActionDeclaration StripeModel}
  {snapshot : StripeSnapshot} {context : ExecutionContext} {executionPrecondition : SafeReference}
  {h : StripeHistory}

/-! ## Truthful refusals -/

theorem SubmissionReady.not_closed {operation : StripeOp}
    (hready : SubmissionReady snapshot context h operation) : ¬Closed h := by
  obtain ⟨deadline, reading, past, rfl, hheld, -⟩ := hready.checked
  exact (hheld.cons rfl).not_closed

variable [UnicodeNormalization]

/-- In every execution, finished or not, whatever was answered. -/
theorem not_mutated_and_closed {q : StripeCoroutine (ExecutionResult StripeModel)}
    (hx : Executes (fun _ _ ↦ True) (executeSnapshot policies definition snapshot context
      executionPrecondition) [] q h) (hmutated : Mutated h) : ¬Closed h := by
  have hmeets := executeSnapshot_meets policies definition snapshot context executionPrecondition
  obtain ⟨mutation, hmutation, hop⟩ := hmutated
  rintro ⟨closing, hclosing, hop'⟩
  obtain ⟨past, hpast⟩ := exists_suffix_of_mem hmutation
  obtain ⟨past', hpast'⟩ := exists_suffix_of_mem hclosing
  obtain ⟨operation, hoperation, hready⟩ :=
    submissionContract_mutation (hmeets.issued hx hpast) hop
  obtain ⟨deadline, hheld⟩ := submissionContract_closing (hmeets.issued hx hpast') hop'
  -- Whichever came later found the reservation held, and nothing but reads since.
  rcases suffix_trichotomy hpast hpast' with heq | hlater | hlater
  · cases (List.cons.inj heq).1
    rw [not_isClosing_of_isMutation hop] at hop'
    cases hop'
  · exact hheld.not_mutated ⟨mutation, hlater.subset List.mem_cons_self, hop⟩
  · exact hready.not_closed ⟨closing, hlater.subset List.mem_cons_self, hop'⟩

theorem Ending.not_mutated {result : ExecutionResult StripeModel}
    (hending : Ending snapshot context h (.ok result))
    (hstatus : ExecutionStatus.isNoSubmission result.status = true) : ¬Mutated h := by
  cases hending with
  | refused _ hmutated => exact hmutated
  | submitted _ _ _ hsubmitted =>
    rw [hsubmitted result rfl] at hstatus
    cases hstatus
  | closed _ hheld _ =>
    rintro ⟨ev, hev, hmutation⟩
    rcases List.mem_cons.mp hev with rfl | hev
    · cases hmutation
    · exact hheld.not_mutated ⟨ev, hev, hmutation⟩

/-- **A refusal is truthful.** A workflow that returns a known failure or a stale result did not
invoke the provider mutation, and an execution that invoked it never records that nothing was
submitted. -/
theorem no_submission_is_truthful {q : StripeCoroutine (ExecutionResult StripeModel)}
    (hx : Executes (fun _ _ ↦ True) (executeSnapshot policies definition snapshot context
      executionPrecondition) [] q h) :
    (∀ result, q = .ret result →
      result.status = .failedKnown ∨ result.status = .staleNoEffect → ¬Mutated h) ∧
    (Mutated h → ¬Closed h) := by
  refine ⟨?_, not_mutated_and_closed hx⟩
  rintro result rfl hstatus
  have hmeets := executeSnapshot_meets policies definition snapshot context executionPrecondition
  have hending : Ending snapshot context h (.ok result) := hmeets.finishes (r := .ok result) hx
  refine hending.not_mutated ?_
  rcases hstatus with hstatus | hstatus <;> rw [hstatus] <;> rfl

/-! ## Leaked reservations -/

/-- What the host is supposed to do here: its repositories, its authorization, its store and its
clock answer, and the reads of a gateway answer or raise `StripeBoundaryError`. Mutations may do
anything. -/
def Calm (o : StripeOperation) : Except Exn o.Ans → Prop
  | .ok _ => True
  | .error e => isMutation o = true ∨ isGatewayRead o = true ∧ isBoundaryError e = true

instance (o : StripeOperation) (answer : Except Exn o.Ans) : Decidable (Calm o answer) :=
  match answer with
  | .ok _ => inferInstanceAs (Decidable True)
  | .error e => inferInstanceAs
    (Decidable (isMutation o = true ∨ isGatewayRead o = true ∧ isBoundaryError e = true))

/-- The repository recorded that nothing was submitted for the intent of `snapshot`. -/
def RecordedNoSubmission (snapshot : StripeSnapshot) (h : StripeHistory) : Prop :=
  ∃ effectReference, snapshot.effectReference = .ok effectReference ∧
    Answered h (.host (.recordNoSubmission snapshot.group snapshot.tenantReference
      effectReference)) ()

theorem Ending.released_iff {r : Except Exn (ExecutionResult StripeModel)}
    (hending : Ending snapshot context h r) (hcalm : ∀ ev ∈ h, Calm ev.op ev.answer) :
    (HasAcquired h → ¬Mutated h → RecordedNoSubmission snapshot h) ↔
      snapshot.group = .refunds ∨ ¬RaisedWhileHeld h := by
  cases hending with
  | refused hacquired =>
    refine iff_of_true (fun hacquired' ↦ absurd hacquired' hacquired) (Or.inr ?_)
    rintro ⟨ev, past, hev, -, -, snapshot', notAfter, hanswered⟩
    exact hacquired ⟨snapshot', notAfter,
      hev.subset (List.mem_cons_of_mem _ hanswered)⟩
  | @submitted past deadline operation answer r hheld htidy hmutation _ =>
    have hmutated : Mutated (⟨.host operation, answer⟩ :: past) :=
      ⟨_, List.mem_cons_self, hmutation⟩
    refine iff_of_true (fun _ hnot ↦ absurd hmutated hnot) ?_
    rw [or_iff_not_imp_left]
    intro hgroup hraised
    refine (htidy hgroup).not_raisedWhileHeld (hraised.of_cons ?_)
    cases operation <;> first | rfl | cases hmutation
  | @closed past deadline effectReference answer r heffect hheld htidy =>
    refine iff_of_true (fun _ _ ↦ ⟨effectReference, heffect, ?_⟩) ?_
    · -- The repository answered: it is neither a mutation nor a gateway read that raised.
      cases answer with
      | error e =>
        rcases hcalm _ List.mem_cons_self with hmutation | ⟨hgateway, -⟩
        · cases hmutation
        · cases hgateway
      | ok a => exact List.mem_cons_self
    · rw [or_iff_not_imp_left]
      intro hgroup hraised
      exact (htidy hgroup).not_raisedWhileHeld (hraised.of_cons rfl)
  | @abandoned past deadline o e hheld hread hunhandled =>
    have hraised : isGatewayRead o = true ∧ isBoundaryError e = true := by
      rcases hcalm _ List.mem_cons_self with hmutation | hgateway
      · rw [not_isMutation_of_isQuiet (isQuiet_of_isRead hread)] at hmutation
        cases hmutation
      · exact hgateway
    have hgroup : snapshot.group ≠ .refunds := by
      intro hgroup
      rw [hunhandled hgroup hraised.1] at hraised
      cases hraised.2
    refine iff_of_false (fun hreleased ↦ ?_) ?_
    · have hheld' : Held snapshot context deadline (⟨o, .error e⟩ :: past) :=
        hheld.cons (isQuiet_of_isRead hread)
      obtain ⟨effectReference, -, hrecorded⟩ :=
        hreleased ⟨_, _, hheld'.acquired⟩ hheld'.not_mutated
      exact hheld'.not_closed ⟨_, hrecorded, rfl⟩
    · rintro (hgroup' | hnot)
      · exact hgroup hgroup'
      · exact hnot ⟨_, past, List.suffix_refl _, hraised.1, ⟨e, rfl⟩, _, _, hheld.acquired⟩

/-- **When a reservation is released.** Of the executions in which the host behaves, exactly those
of a subscription or credit note workflow leak in which a gateway read raises after the reservation
was acquired. -/
theorem reservation_released_iff {r : Except Exn (ExecutionResult StripeModel)}
    (hx : Finishes Calm (executeSnapshot policies definition snapshot context
      executionPrecondition) h r) :
    (HasAcquired h → ¬Mutated h → RecordedNoSubmission snapshot h) ↔
      snapshot.group = .refunds ∨ ¬RaisedWhileHeld h := by
  have hmeets := executeSnapshot_meets policies definition snapshot context executionPrecondition
  refine (hmeets.finishes (hx.of_history fun _ _ ↦ trivial)).released_iff (hx.legal ?_)
  intro ev hev
  cases hev

end

end Workflows

/-! ## A sample host -/

section Sample

attribute [local instance] normalizedTexts

/-- The epoch is the only datetime of the sample models, and nothing is validated from JSON. -/
@[reducible] def sampleStripeJson : StripeJson where
  isoformat _ := PyStr.ofString "1970-01-01T00:00:00Z"
  validateJson _ _ := .error .validationError

attribute [local instance] sampleStripeJson

/-- Ten dollars at most, nothing live. -/
def sampleLimits : List Money := [⟨⟨false, 1000, -2⟩, "USD"⟩]

def samplePolicies : StripePolicies where
  refunds := ⟨sampleLimits, false, by decide, by decide, by decide⟩
  subscriptions := {}
  creditNotes := ⟨sampleLimits, false, true, by decide, by decide, by decide⟩

def stripeActionType : StripeHostActionGroup → ActionType
  | .refunds => ⟨"stripe.refunds", "create", 1, Nat.one_pos⟩
  | .subscriptions => ⟨"stripe.subscriptions", "change_cancellation", 1, Nat.one_pos⟩
  | .creditNotes => ⟨"stripe.credit_notes", "issue", 1, Nat.one_pos⟩

def sampleStripeDefinition (group : StripeHostActionGroup) : ActionDeclaration StripeModel where
  actionType := stripeActionType group
  privateSnapshotModel := (group, StripeModelRole.snapshot)
  displayPreviewModel := (group, StripeModelRole.preview)
  resultModel := (group, StripeModelRole.outcome)
  proposalTtl := 600000000
  executorIdentity := ⟨"executor"⟩
  targetIdentity := ⟨"stripe"⟩
  authorityAudience := "audience"
  authorityChannelAssurance := "assurance"
  proposalTtl_pos := sampleDefinition.proposalTtl_pos
  verificationDelay_nonneg := sampleDefinition.verificationDelay_nonneg
  maxVerificationAttempts_pos := sampleDefinition.maxVerificationAttempts_pos
  verificationLeaseDuration_pos := sampleDefinition.verificationLeaseDuration_pos

/-- A digest, or nothing. -/
def textOf (digest : Except Exn String) : String := (digest.toOption).getD ""

theorem centExponent_le : 2 ≤ 3 := by decide

def samplePayment : RefundPayment where
  tenantReference := "tenant"
  paymentReference := "payment"
  version := 1
  account := ⟨"account", none, false⟩
  chargeId := "ch_sample"
  currency := "USD"
  currencyExponent := 2
  version_pos := Nat.one_pos
  currencyExponent_le := centExponent_le

/-- A refund of one dollar. -/
def sampleRefund : RefundSnapshot where
  intent := ⟨"tenant", "intent", samplePayment.account, samplePayment.chargeId,
    ⟨⟨false, 100, -2⟩, "USD"⟩, 2, samplePayment.currencyExponent_le, by decide⟩
  paymentReference := samplePayment.paymentReference
  paymentVersion := 1
  refundedMinor := 0
  policyFingerprint := textOf samplePolicies.refunds.fingerprint
  paymentVersion_pos := Nat.one_pos

def sampleCharge : ChargeObservation where
  chargeId := "ch_sample"
  currency := "usd"
  amountMinor := 500
  refundedMinor := 0
  captured := true
  paid := true
  disputed := false
  livemode := false
  indirectCharge := false

def sampleSubscription : SubscriptionBinding where
  tenantReference := "tenant"
  subscriptionReference := "subscription"
  version := 1
  account := samplePayment.account
  subscriptionId := "sub_sample"
  customerId := "cus_sample"
  version_pos := Nat.one_pos

def sampleObservation : SubscriptionObservation where
  subscriptionId := "sub_sample"
  customerId := "cus_sample"
  status := .active
  livemode := false
  itemId := "item"
  priceId := "price"
  quantity := 1
  periodStart := ⟨0, 0⟩
  periodEnd := ⟨2592000000000, 0⟩
  cancelAtPeriodEnd := false
  cancelAt := none
  supported := true
  correlation := ""

/-- A cancellation at the end of the period. -/
def sampleCancellation : SubscriptionCancellationSnapshot where
  tenantReference := "tenant"
  intentReference := "intent"
  policyFingerprint := textOf samplePolicies.subscriptions.fingerprint
  binding := sampleSubscription
  operation := .schedule
  observed := sampleObservation
  consistent_binding := by decide

/-- The context of an execution of `snapshot`. -/
def sampleStripeContext (snapshot : StripeSnapshot) : ExecutionContext where
  tenantReference := "tenant"
  proposalReference := "proposal"
  semanticEffectReference := textOf snapshot.effectReference
  requestingPrincipal := ⟨"requester"⟩
  authorities := [⟨"approver"⟩]
  observedAt := 0

/-- The record of the attempt. -/
def sampleStripeRecord (snapshot : StripeSnapshot) : StoredProposal where
  tenantReference := "tenant"
  proposalReference := "proposal"
  actionType := stripeActionType snapshot.group
  semanticEffectReference := textOf snapshot.effectReference
  effectKind := .single
  lifecycleStatus := .executing
  revision := 2
  protectedPrivateSnapshot := some ⟨"codec", "handle", "version", "ciphertext"⟩
  commitment := some ⟨"algorithm", "handle", "version", "digest"⟩
  createdAt := 0
  expiresAt := 600000000
  authorityEvidence := [sampleEvidence "proposal"]
  maxVerificationAttempts := 3
  nextVerificationAt := some 60000000

/-- A host that knows the sample objects. Its clock stands still, what its provider is told to do
stays unknown, and the provider's subscriptions cannot be read once a reservation is held. -/
def sampleStripeHost (snapshot : StripeSnapshot) (h : StripeHistory) :
    (o : StripeOperation) → Except Exn o.Ans
  | .now => .ok 0
  | .get _ _ => .ok (some (sampleStripeRecord snapshot))
  | .canExecute _ _ _ => .ok { allowed := true }
  | .host (.payment _ _) => .ok samplePayment
  | .host (.charge _) => .ok sampleCharge
  | .host (.subscription _ _) => .ok sampleSubscription
  | .host (.retrieveSubscription _) =>
    if h.any fun ev ↦ match ev.op with
      | .host (.reserve _ _) => true
      | _ => false
    then .error (.stripeBoundary "retrieve") else .ok sampleObservation
  | .host (.reserve _ _) => .ok .acquired
  | .host (.recordNoSubmission _ _ _) => .ok ()
  | .host (.createRefund _) => .error (.stripeBoundary "create")
  | _ => .error (.host "not available")

/-- An execution of `snapshot` over the sample host. -/
def sampleStripeRun (snapshot : StripeSnapshot) (n : ℕ) :
    StripeCoroutine (ExecutionResult StripeModel) × StripeHistory :=
  (executeSnapshot samplePolicies (sampleStripeDefinition snapshot.group) snapshot
    (sampleStripeContext snapshot) (textOf snapshot.effectReference)).replay (sampleStripeHost snapshot) n []


theorem sampleStripeRun_executes (snapshot : StripeSnapshot) (n : ℕ) :
    Executes (fun _ _ ↦ True) (executeSnapshot samplePolicies
      (sampleStripeDefinition snapshot.group) snapshot (sampleStripeContext snapshot)
      (textOf snapshot.effectReference)) []
      (sampleStripeRun snapshot n).1 (sampleStripeRun snapshot n).2 :=
  Executes.replay (fun _ _ ↦ trivial) n .refl

/-- The provider was told to refund, and nobody records that it was not. -/
theorem no_submission_is_truthful_sample :
    Mutated (sampleStripeRun (.refund sampleRefund) 9).2 ∧
      ¬Closed (sampleStripeRun (.refund sampleRefund) 9).2 := by
  have hmutated : (sampleStripeRun (.refund sampleRefund) 9).2.any (isMutation ·.op) = true := by
    decide +kernel
  have hmutated' : Mutated (sampleStripeRun (.refund sampleRefund) 9).2 :=
    List.any_eq_true.mp hmutated
  exact ⟨hmutated', (no_submission_is_truthful (sampleStripeRun_executes _ 9)).2 hmutated'⟩

/-- The event answers that a resource was reserved. -/
def isAcquired : Event (runtimeSignature StripeModel stripeSignature) Exn → Bool
  | ⟨.host (.reserve _ _), .ok .acquired⟩ => true
  | _ => false

theorem hasAcquired_of_any {h : StripeHistory} (hany : h.any isAcquired = true) :
    HasAcquired h := by
  obtain ⟨⟨o, answer⟩, hev, hacquired⟩ := List.any_eq_true.mp hany
  cases o with
  | host operation =>
    cases operation with
    | reserve snapshot notAfter =>
      cases answer with
      | error e => cases hacquired
      | ok status =>
        cases status with
        | acquired => exact ⟨snapshot, notAfter, hev⟩
        | _ => cases hacquired
    | _ => cases hacquired
  | _ => cases hacquired

/-- The sample cancellation over the sample host. -/
abbrev sampleLeak : StripeCoroutine (ExecutionResult StripeModel) × StripeHistory :=
  sampleStripeRun (.subscription sampleCancellation) 9

/-- The host behaves, and `execute` raises what the second read of the subscription raised. -/
theorem sampleLeak_finishes : ∃ r, Finishes Calm (executeSnapshot samplePolicies
    (sampleStripeDefinition .subscriptions) (.subscription sampleCancellation)
    (sampleStripeContext (.subscription sampleCancellation))
    (textOf (StripeSnapshot.subscription sampleCancellation).effectReference)) sampleLeak.2 r := by
  have hfacts : (sampleLeak.2.all fun ev ↦ decide (Calm ev.op ev.answer)) = true ∧
      sampleLeak.1.ending.isSome = true := by
    decide +kernel
  obtain ⟨r, hr⟩ := Program.exists_orRaise hfacts.2
  refine ⟨r, ?_⟩
  rw [Finishes, ← hr]
  refine (sampleStripeRun_executes (.subscription sampleCancellation) 9).of_history fun ev hev ↦ ?_
  exact of_decide_eq_true (List.all_eq_true.mp hfacts.1 ev hev)

/-- It holds its reservation, has submitted nothing and has not said so. -/
theorem sampleLeak_facts : HasAcquired sampleLeak.2 ∧ ¬Mutated sampleLeak.2 ∧
    ¬RecordedNoSubmission (.subscription sampleCancellation) sampleLeak.2 := by
  have hfacts : sampleLeak.2.any isAcquired = true ∧
      (sampleLeak.2.all fun ev ↦ !isMutation ev.op && !isClosing ev.op) = true := by
    decide +kernel
  have hnone : ∀ ev ∈ sampleLeak.2, isMutation ev.op = false ∧ isClosing ev.op = false := by
    intro ev hev
    simpa using List.all_eq_true.mp hfacts.2 ev hev
  refine ⟨hasAcquired_of_any hfacts.1, ?_, ?_⟩
  · rintro ⟨ev, hev, hmutation⟩
    rw [(hnone ev hev).1] at hmutation
    cases hmutation
  · rintro ⟨effectReference, -, hrecorded⟩
    cases (hnone _ hrecorded).2

/-- The leak is a read that raised while the reservation was held. -/
theorem reservation_released_sample : RaisedWhileHeld sampleLeak.2 := by
  obtain ⟨r, hr⟩ := sampleLeak_finishes
  obtain ⟨hacquired, hmutated, hrecorded⟩ := sampleLeak_facts
  by_contra hraised
  exact hrecorded ((reservation_released_iff hr).mpr (Or.inr hraised) hacquired hmutated)

/-- Not every reservation that was acquired and not used is released. -/
theorem reservation_leaked : ∃ r, Finishes Calm (executeSnapshot samplePolicies
    (sampleStripeDefinition .subscriptions) (.subscription sampleCancellation)
    (sampleStripeContext (.subscription sampleCancellation))
    (textOf (StripeSnapshot.subscription sampleCancellation).effectReference)) sampleLeak.2 r ∧
    HasAcquired sampleLeak.2 ∧ ¬Mutated sampleLeak.2 ∧
    ¬RecordedNoSubmission (.subscription sampleCancellation) sampleLeak.2 := by
  obtain ⟨r, hr⟩ := sampleLeak_finishes
  exact ⟨r, hr, sampleLeak_facts⟩

end Sample

end ThrevoActions.Stripe
