import ThrevoActions.Stripe.Submission

/-!
# The workflows meet their contract

The parts of a workflow that only read are specified first, apart from any context
(`ReadEnding`), and then used wherever the workflow runs them: before the reservation and, for the
shared workflow, once more after it. What the first run establishes about the policy is what leaves
the second no reason to raise but a failed read.
-/

namespace ThrevoActions.Stripe

open Interleaving Interleaving.Program

variable [StripeJson]

/-! ## Parts that only read -/

/-- Nothing but `isRead` operations. -/
def Reads (h : StripeHistory) : Prop := ∀ ev ∈ h, isRead ev.op = true

/-- Only reads are issued. -/
def readContract : Contract (runtimeSignature StripeModel stripeSignature) Exn where
  legal _ _ := True
  issues _ o := isRead o = true

/-- How a check that only reads ends, on its own history: it answers, and `true` only if `facts`,
or it raises, and if `facts` then because its last read did. -/
def ReadEnding (facts : Prop) (h : StripeHistory) (r : Except Exn Bool) : Prop :=
  Reads h ∧ ((∃ b, r = .ok b ∧ Clean h ∧ (b = true → facts)) ∨
    ∃ e, r = .error e ∧ (facts → ∃ o past, h = ⟨o, .error e⟩ :: past ∧ Clean past))

theorem Reads.nil : Reads [] := by
  intro ev hev
  cases hev

theorem Reads.cons {o : StripeOperation} {answer : Except Exn o.Ans} {h : StripeHistory}
    (hh : Reads h) (ho : isRead o = true) : Reads (⟨o, answer⟩ :: h) := by
  intro ev hev
  rcases List.mem_cons.mp hev with rfl | hev
  · exact ho
  · exact hh ev hev

theorem Reads.quiet {h : StripeHistory} (hh : Reads h) : Quiet h :=
  fun ev hev ↦ isQuiet_of_isRead (hh ev hev)

theorem ReadEnding.answer {facts : Prop} {h : StripeHistory} (hreads : Reads h) (hclean : Clean h)
    {b : Bool} (hb : b = true → facts) : ReadEnding facts h (.ok b) :=
  ⟨hreads, Or.inl ⟨b, rfl, hclean, hb⟩⟩

theorem ReadEnding.refute {facts : Prop} {h : StripeHistory} (hreads : Reads h)
    (hclean : Clean h) : ReadEnding facts h (.ok false) :=
  .answer hreads hclean fun hfalse ↦ Bool.noConfusion hfalse

/-- One more read. -/
theorem meets_read {o : StripeOperation} {f : o.Ans → StripeCoroutine Bool} {facts : Prop}
    {h : StripeHistory} (ho : isRead o = true) (hreads : Reads h) (hclean : Clean h)
    (hok : ∀ a, Reads (⟨o, .ok a⟩ :: h) → Clean (⟨o, .ok a⟩ :: h) →
      (f a).Meets readContract (ReadEnding facts) (⟨o, .ok a⟩ :: h)) :
    (await o >>= f).Meets readContract (ReadEnding facts) h := by
  refine Meets.perform_bind ho (fun e _ ↦ ?_) fun a _ ↦ hok a (hreads.cons ho) hclean.cons
  exact ⟨hreads.cons ho, Or.inr ⟨e, rfl, fun _ ↦ ⟨o, h, rfl, hclean⟩⟩⟩

/-- A computation the facts say succeeds. -/
theorem meets_fact {α : Type} {r : Except Exn α} {f : α → StripeCoroutine Bool}
    {facts : Prop} {h : StripeHistory} (hfacts : facts → ∃ a, r = .ok a) (hreads : Reads h)
    (hok : ∀ a, r = .ok a → (f a).Meets readContract (ReadEnding facts) h) :
    (orRaise r >>= f).Meets readContract (ReadEnding facts) h := by
  refine Meets.orRaise_bind (fun e he ↦ ⟨hreads, Or.inr ⟨e, rfl, fun hholds ↦ ?_⟩⟩) hok
  obtain ⟨a, ha⟩ := hfacts hholds
  rw [ha] at he
  cases he

/-- An early `return False`. -/
theorem meets_unless {condition : Prop} [Decidable condition] {p : StripeCoroutine Bool}
    {facts : Prop} {h : StripeHistory} (hreads : Reads h) (hclean : Clean h)
    (hpass : ¬condition → p.Meets readContract (ReadEnding facts) h) :
    (if condition then pure false else p : StripeCoroutine Bool).Meets readContract
      (ReadEnding facts) h := by
  by_cases hc : condition
  · rw [if_pos hc]
    exact ReadEnding.refute hreads hclean
  · rw [if_neg hc]
    exact hpass hc

theorem meets_authorization {definition : ActionDeclaration StripeModel} {snapshot : StripeModel}
    {context : ExecutionContext} :
    (do
      let authorization ← await (V := StripeModel) (H := stripeSignature)
        (.canExecute definition snapshot context)
      return authorization.allowed : StripeCoroutine Bool).Meets readContract
        (ReadEnding True) [] :=
  meets_read rfl .nil .nil fun _ hreads hclean ↦ .answer hreads hclean fun _ ↦ trivial

variable [UnicodeNormalization]

/-- A check may be run wherever the workflow stands. -/
theorem meets_check {snapshot : StripeSnapshot} {context : ExecutionContext} {α : Type}
    {p : StripeCoroutine Bool} {f : Bool → StripeCoroutine α}
    {Q : StripeHistory → Except Exn α → Prop} {facts : Prop} {h : StripeHistory}
    (hp : p.Meets readContract (ReadEnding facts) [])
    (herror : ∀ recent e, Reads recent →
      (facts → ∃ o past, recent = ⟨o, .error e⟩ :: past ∧ Clean past) →
      Q (recent ++ h) (.error e))
    (hok : ∀ recent b, Reads recent → Clean recent → (b = true → facts) →
      (f b).Meets (submissionContract snapshot context) Q (recent ++ h)) :
    (p >>= f).Meets (submissionContract snapshot context) Q h := by
  rw [meets_bind]
  refine hp.frame h (fun _ o ho ↦ submissionContract_read ho) (fun _ _ _ ↦ trivial) ?_
  rintro recent r ⟨hreads, ⟨b, rfl, hclean, hb⟩ | ⟨e, rfl, he⟩⟩
  · exact hok recent b hreads hclean hb
  · exact herror recent e hreads he

/-! ### `_current` -/

theorem subscriptionCurrent_meets (policy : SubscriptionCancellationPolicy)
    (snapshot : SubscriptionCancellationSnapshot) :
    (subscriptionCurrent policy snapshot).Meets readContract
      (ReadEnding (∃ fingerprint, policy.fingerprint = .ok fingerprint)) [] := by
  refine meets_fact id .nil fun fingerprint hfingerprint ↦ ?_
  refine meets_unless .nil .nil fun _ ↦ ?_
  refine meets_read rfl .nil .nil fun binding hreads hclean ↦ ?_
  refine meets_unless hreads hclean fun _ ↦ ?_
  refine meets_read rfl hreads hclean fun observed hreads hclean ↦ ?_
  refine meets_unless hreads hclean fun _ ↦ ?_
  refine meets_read rfl hreads hclean fun now hreads hclean ↦ ?_
  exact .answer hreads hclean fun _ ↦ ⟨fingerprint, hfingerprint⟩

theorem creditNoteCurrent_meets (policy : CreditNotePolicy) (snapshot : CreditNoteSnapshot) :
    (creditNoteCurrent policy snapshot).Meets readContract
      (ReadEnding (∃ fingerprint, policy.fingerprint = .ok fingerprint)) [] := by
  refine meets_fact id .nil fun fingerprint hfingerprint ↦ ?_
  refine meets_unless .nil .nil fun _ ↦ ?_
  refine meets_read rfl .nil .nil fun binding hreads hclean ↦ ?_
  refine meets_unless hreads hclean fun _ ↦ ?_
  refine meets_read rfl hreads hclean fun observed hreads hclean ↦ ?_
  refine meets_unless hreads hclean fun _ ↦ ?_
  refine meets_read rfl hreads hclean fun calculation hreads hclean ↦ ?_
  exact .answer hreads hclean fun _ ↦ ⟨fingerprint, hfingerprint⟩

theorem refundUnchanged_meets (policy : RefundPolicy) (snapshot : RefundSnapshot)
    (context : ExecutionContext) (effectReference : SafeReference) :
    (refundUnchanged policy snapshot context effectReference).Meets readContract
      (ReadEnding ((∃ fingerprint, policy.fingerprint = .ok fingerprint) ∧
        snapshot.intent.tenantReference = context.tenantReference)) [] := by
  refine meets_fact And.left .nil fun fingerprint hfingerprint ↦ ?_
  refine meets_unless .nil .nil fun hbound ↦ ?_
  refine meets_read rfl .nil .nil fun payment hreads hclean ↦ ?_
  refine meets_unless hreads hclean fun _ ↦ ?_
  refine meets_read rfl hreads hclean fun charge hreads hclean ↦ ?_
  rw [not_or, not_not] at hbound
  exact .answer hreads hclean fun _ ↦ ⟨⟨fingerprint, hfingerprint⟩, hbound.1⟩

/-! ## Before the reservation -/

section

variable {snapshot : StripeSnapshot} {context : ExecutionContext}

theorem Ending.quiet {h : StripeHistory} {r : Except Exn (ExecutionResult StripeModel)}
    (hh : Quiet h) : Ending snapshot context h r :=
  .refused hh.not_acquired hh.not_mutated

/-- A check before the reservation: if it raises, `execute` does. -/
theorem Quiet.check_bind {p : StripeCoroutine Bool}
    {f : Bool → StripeCoroutine (ExecutionResult StripeModel)} {facts : Prop} {h : StripeHistory}
    (hh : Quiet h) (hclean : Clean h) (hp : p.Meets readContract (ReadEnding facts) [])
    (hok : ∀ h' b, Quiet h' → Clean h' → (b = true → facts) →
      (f b).Meets (submissionContract snapshot context) (Ending snapshot context) h') :
    (p >>= f).Meets (submissionContract snapshot context) (Ending snapshot context) h := by
  refine meets_check hp (fun recent e hreads _ ↦ ?_) fun recent b hreads hrecent hb ↦ ?_
  · exact .quiet (hreads.quiet.append hh)
  · exact hok (recent ++ h) b (hreads.quiet.append hh) (hrecent.append hclean) hb

/-- `execute` from the reservation on, whatever it does once it holds the reservation. -/
theorem meets_reserve {deadline : Timestamp} {reasonPrefix : String} {h : StripeHistory}
    {p : StripeCoroutine (ExecutionResult StripeModel)} {record : Option StoredProposal}
    (hh : Quiet h)
    (hrecord : Answered h (.get context.tenantReference context.proposalReference) record)
    (hdeadline : submissionDeadline record = some deadline)
    (hp : p.Meets (submissionContract snapshot context) (Ending snapshot context)
      (⟨.host (.reserve snapshot deadline), .ok StripeReservationStatus.acquired⟩ :: h)) :
    (do
      let reservation ← call (.reserve snapshot deadline)
      match refusedReservation reasonPrefix reservation with
      | some refused => return refused
      | none => p : StripeCoroutine (ExecutionResult StripeModel)).Meets
        (submissionContract snapshot context) (Ending snapshot context) h := by
  have hissue : (submissionContract snapshot context).issues h
      (.host (.reserve snapshot deadline)) := ⟨rfl, hh, record, hrecord, hdeadline⟩
  refine Meets.perform_bind hissue (fun e _ ↦ ?_) fun reservation _ ↦ ?_
  · exact .refused (not_acquired_reserve hh (by intro heq; cases heq)) (not_mutated_reserve hh)
  · cases reservation with
    | acquired => exact hp
    | _ =>
      exact .refused (not_acquired_reserve hh (by intro heq; cases heq)) (not_mutated_reserve hh)

/-! ## While the reservation is held -/

/-- A check while the reservation is held. -/
theorem Held.check_bind {deadline : Timestamp} {p : StripeCoroutine Bool}
    {f : Bool → StripeCoroutine (ExecutionResult StripeModel)} {facts : Prop} {h : StripeHistory}
    (hheld : Held snapshot context deadline h) (hclean : Clean h)
    (hgroup : snapshot.group ≠ .refunds) (hfacts : facts)
    (hp : p.Meets readContract (ReadEnding facts) [])
    (hok : ∀ h' b, Held snapshot context deadline h' → Clean h' →
      (f b).Meets (submissionContract snapshot context) (Attempted snapshot context) h') :
    (p >>= f).Meets (submissionContract snapshot context) (Attempted snapshot context) h := by
  refine meets_check hp (fun recent e hreads he ↦ ?_) fun recent b hreads hrecent _ ↦ ?_
  · obtain ⟨o, past, rfl, -⟩ := he hfacts
    refine .abandoned (hheld.append ?_) (hreads _ List.mem_cons_self)
      fun hrefunds ↦ absurd hrefunds hgroup
    exact fun ev hev ↦ hreads.quiet ev (List.mem_cons_of_mem _ hev)
  · exact hok (recent ++ h) b (hheld.append hreads.quiet) (hrecent.append hclean)

/-- The last check of the clock. -/
theorem Held.clock_bind {deadline : Timestamp}
    {f : Timestamp → StripeCoroutine (ExecutionResult StripeModel)} {h : StripeHistory}
    (hheld : Held snapshot context deadline h)
    (hok : ∀ now, (f now).Meets (submissionContract snapshot context)
      (Attempted snapshot context) (⟨.now, .ok now⟩ :: h)) :
    (await (V := StripeModel) (H := stripeSignature) .now >>= f).Meets
      (submissionContract snapshot context) (Attempted snapshot context) h := by
  refine Meets.perform_bind trivial (fun e _ ↦ ?_) fun now _ ↦ hok now
  exact .abandoned hheld rfl fun _ hgateway ↦ Bool.noConfusion hgateway

/-- What a workflow still does after the mutation: it reports a result that admits an effect, or
raises, and performs nothing. -/
def Settled (h h' : StripeHistory) (r : Except Exn (ExecutionResult StripeModel)) : Prop :=
  h' = h ∧ ∀ result, r = .ok result → ExecutionStatus.isNoSubmission result.status = false

/-- The mutation, right after the last check of the clock. -/
theorem Held.mutation_bind {deadline reading : Timestamp} {operation : StripeOp}
    {f : Except Exn operation.Ans → StripeCoroutine (ExecutionResult StripeModel)}
    {h : StripeHistory} (hheld : Held snapshot context deadline h) (htidy : Tidy snapshot h)
    (hmutation : operation.isMutation = true) (hsubmits : operation.Submits snapshot)
    (hreading : reading < deadline)
    (hnext : ∀ answer h', (f answer).Meets (submissionContract snapshot context) (Settled h') h') :
    ((call operation).attempt >>= f).Meets (submissionContract snapshot context)
      (Attempted snapshot context) (⟨.now, .ok reading⟩ :: h) := by
  have hready : SubmissionReady snapshot context (⟨.now, .ok reading⟩ :: h) operation :=
    ⟨hsubmits, deadline, reading, h, rfl, hheld, hreading⟩
  have hissue : (submissionContract snapshot context).issues (⟨.now, .ok reading⟩ :: h)
      (.host operation) := by
    cases operation with
    | createRefund | updateSubscription | createCreditNote => exact fun _ ↦ hready
    | _ => cases hmutation
  refine Meets.attempt_perform_bind hissue fun answer _ ↦ ?_
  refine (hnext answer _).imp ?_
  rintro h' r - ⟨rfl, hstatus⟩
  exact .submitted (hheld.cons rfl) htidy.cons hmutation hstatus

/-- Close the intent unless something may have been submitted. -/
theorem Attempted.report {effectReference : SafeReference} {h : StripeHistory}
    {p : StripeCoroutine (ExecutionResult StripeModel)}
    (heffect : snapshot.effectReference = .ok effectReference)
    (htenant : snapshot.tenantReference = context.tenantReference)
    (hp : p.Meets (submissionContract snapshot context) (Attempted snapshot context) h) :
    (p >>= reportResult snapshot.group context.tenantReference effectReference).Meets
      (submissionContract snapshot context) (Ending snapshot context) h := by
  refine Meets.bind_of hp (fun h' e _ hattempted ↦ ?_) fun h' result _ hattempted ↦ ?_
  · cases hattempted with
    | submitted hheld htidy hmutation hstatus => exact .submitted hheld htidy hmutation hstatus
    | abandoned hheld hread hunhandled => exact .abandoned hheld hread hunhandled
  · cases hattempted with
    | submitted hheld htidy hmutation hstatus =>
      rw [reportResult, hstatus result rfl]
      exact .submitted hheld htidy hmutation hstatus
    | withheld hheld htidy hstatus =>
      rw [reportResult, if_pos hstatus, ← htenant]
      have hissue : (submissionContract snapshot context).issues h' (.host (.recordNoSubmission
          snapshot.group snapshot.tenantReference effectReference)) :=
        ⟨rfl, rfl, heffect, _, hheld⟩
      exact Meets.perform_bind hissue (fun e _ ↦ .closed heffect hheld htidy)
        fun _ _ ↦ .closed heffect hheld htidy

end

/-! ## The shared workflow -/

namespace Workflow

variable {S : Type} {workflow : Workflow S} {definition : ActionDeclaration StripeModel}

/-- What `_Workflow` relies on in its subclasses. Under `facts` only a failed read makes `_current`
raise. -/
structure Lawful (workflow : Workflow S) (facts : Prop) : Prop where
  current : ∀ snapshot, (workflow.current snapshot).Meets readContract (ReadEnding facts) []
  submit : ∀ snapshot context deadline h,
    Held (workflow.toSnapshot snapshot) context deadline h → Clean h →
    (workflow.submit snapshot deadline).Meets
      (submissionContract (workflow.toSnapshot snapshot) context)
      (Attempted (workflow.toSnapshot snapshot) context) h
  group_ne : ∀ snapshot, (workflow.toSnapshot snapshot).group ≠ .refunds

variable {facts : Prop} (hlawful : workflow.Lawful facts)
include hlawful

theorem Lawful.unchanged (snapshot : S) (context : ExecutionContext)
    (executionPrecondition effectReference : SafeReference) :
    (onlyIf (executionPrecondition = effectReference)
      (workflow.unchanged snapshot context effectReference)).Meets readContract
        (ReadEnding (facts ∧
          (workflow.toSnapshot snapshot).tenantReference = context.tenantReference)) [] := by
  rw [onlyIf]
  split_ifs
  · rw [Workflow.unchanged, onlyIf]
    split_ifs with hbound
    · refine (hlawful.current snapshot).imp ?_
      rintro h r - ⟨hreads, ⟨b, rfl, hclean, hb⟩ | ⟨e, rfl, he⟩⟩
      · exact .answer hreads hclean fun htrue ↦ ⟨hb htrue, hbound.1⟩
      · exact ⟨hreads, Or.inr ⟨e, rfl, fun hholds ↦ he hholds.1⟩⟩
    · exact ReadEnding.refute .nil .nil
  · exact ReadEnding.refute .nil .nil

theorem Lawful.submitReserved (hfacts : facts) (snapshot : S) {context : ExecutionContext}
    {deadline : Timestamp} {h : StripeHistory}
    (hheld : Held (workflow.toSnapshot snapshot) context deadline h) (hclean : Clean h) :
    (workflow.submitReserved definition snapshot context deadline).Meets
      (submissionContract (workflow.toSnapshot snapshot) context)
      (Attempted (workflow.toSnapshot snapshot) context) h := by
  have hgroup := hlawful.group_ne snapshot
  refine hheld.check_bind hclean hgroup trivial meets_authorization fun h₁ b hheld hclean ↦ ?_
  split_ifs
  · exact .withheld hheld (.of_clean hclean) rfl
  refine hheld.check_bind hclean hgroup hfacts (hlawful.current snapshot)
    fun h₂ b hheld hclean ↦ ?_
  split_ifs
  · exact .withheld hheld (.of_clean hclean) rfl
  refine hheld.check_bind hclean hgroup trivial meets_authorization fun h₃ b hheld hclean ↦ ?_
  split_ifs
  · exact .withheld hheld (.of_clean hclean) rfl
  refine hheld.clock_bind fun now ↦ ?_
  split_ifs
  · exact .withheld (hheld.cons rfl) (.of_clean hclean.cons) rfl
  · exact hlawful.submit snapshot context deadline _ (hheld.cons rfl) hclean.cons

theorem Lawful.execute (snapshot : S) (context : ExecutionContext)
    (executionPrecondition : SafeReference) :
    (workflow.execute definition snapshot context executionPrecondition).Meets
      (submissionContract (workflow.toSnapshot snapshot) context)
      (Ending (workflow.toSnapshot snapshot) context) [] := by
  refine Meets.orRaise_bind (fun e _ ↦ .quiet .nil) fun effectReference heffect ↦ ?_
  refine Quiet.nil.check_bind .nil (hlawful.unchanged snapshot context executionPrecondition
    effectReference) fun h₁ b hh hclean hb ↦ ?_
  split_ifs with hunchanged
  · exact .quiet hh
  obtain ⟨hfacts, htenant⟩ := hb (Bool.eq_true_of_not_eq_false hunchanged)
  refine hh.check_bind hclean meets_authorization fun h₂ b hh hclean _ ↦ ?_
  split_ifs
  · exact .quiet hh
  refine Meets.perform_bind ⟨rfl, rfl⟩ (fun e _ ↦ .quiet (hh.cons rfl)) fun record _ ↦ ?_
  split
  · exact .quiet (hh.cons rfl)
  · rename_i deadline hdeadline
    refine meets_reserve (hh.cons rfl) List.mem_cons_self hdeadline ?_
    refine Attempted.report heffect htenant (hlawful.submitReserved hfacts snapshot ?_ ?_)
    · exact ⟨[], _, record, rfl, .nil, hh.cons rfl, List.mem_cons_self, hdeadline⟩
    · exact hclean.cons.cons

end Workflow

/-! ## The submissions -/

section Submissions

variable {context : ExecutionContext} {deadline : Timestamp} {h : StripeHistory}

/-- The mutation raised: the effect is unknown, or the exception is passed on. -/
theorem meets_unknown {snapshot : StripeSnapshot} {failure : Exn} {reasonCode : SafeReference} :
    (if isBoundaryError failure = true then pure (refusedExecution .failedUnknown reasonCode)
      else throw failure : StripeCoroutine (ExecutionResult StripeModel)).Meets
      (submissionContract snapshot context) (Settled h) h := by
  split_ifs
  · exact ⟨rfl, fun result heq ↦ by cases heq; rfl⟩
  · exact ⟨rfl, fun result heq ↦ by cases heq⟩

/-- The mutation returned: the effect is accepted if the observation matches, else unknown. -/
theorem meets_accepted {snapshot : StripeSnapshot} {matched : Except Exn Bool}
    {refuses : Bool → Prop} [DecidablePred refuses] {reasonCode : SafeReference}
    {correlation : Except Exn String} {outcome : Option StripeModel} :
    (do
      let matched ← orRaise matched
      if refuses matched then return refusedExecution .failedUnknown reasonCode
      else
      let correlation ← orRaise correlation
      return acceptedExecution outcome correlation :
        StripeCoroutine (ExecutionResult StripeModel)).Meets
      (submissionContract snapshot context) (Settled h) h := by
  have hraised : ∀ e, Settled h h (.error e) := fun e ↦ ⟨rfl, fun result heq ↦ by cases heq⟩
  refine Meets.orRaise_bind (fun e _ ↦ hraised e) fun matched _ ↦ ?_
  split_ifs
  · exact ⟨rfl, fun result heq ↦ by cases heq; rfl⟩
  · refine Meets.orRaise_bind (fun e _ ↦ hraised e) fun correlation _ ↦ ?_
    exact ⟨rfl, fun result heq ↦ by cases heq; rfl⟩

theorem submitCancellation_meets (snapshot : SubscriptionCancellationSnapshot)
    {reading : Timestamp} (hheld : Held (.subscription snapshot) context deadline h)
    (hclean : Clean h) (hreading : reading < deadline) :
    (submitCancellation snapshot).Meets (submissionContract (.subscription snapshot) context)
      (Attempted (.subscription snapshot) context) (⟨.now, .ok reading⟩ :: h) := by
  refine hheld.mutation_bind (.of_clean hclean) rfl rfl hreading fun answer h' ↦ ?_
  cases answer with
  | error failure => exact meets_unknown
  | ok observed => exact meets_accepted

theorem submitCreditNote_meets (snapshot : CreditNoteSnapshot) {reading : Timestamp}
    (hheld : Held (.creditNote snapshot) context deadline h) (hclean : Clean h)
    (hreading : reading < deadline) :
    (submitCreditNote snapshot).Meets (submissionContract (.creditNote snapshot) context)
      (Attempted (.creditNote snapshot) context) (⟨.now, .ok reading⟩ :: h) := by
  refine hheld.mutation_bind (.of_clean hclean) rfl rfl hreading fun answer h' ↦ ?_
  cases answer with
  | error failure => exact meets_unknown
  | ok observed => exact meets_accepted

theorem submitRefund_meets (snapshot : RefundSnapshot) {reading : Timestamp}
    (hheld : Held (.refund snapshot) context deadline h) (hreading : reading < deadline) :
    (submitRefund snapshot.intent).Meets (submissionContract (.refund snapshot) context)
      (Attempted (.refund snapshot) context) (⟨.now, .ok reading⟩ :: h) := by
  refine hheld.mutation_bind (fun hgroup ↦ absurd rfl hgroup) rfl rfl hreading
    fun answer h' ↦ ?_
  cases answer with
  | error failure => exact meets_unknown
  | ok observed => exact meets_accepted

theorem subscriptionWorkflow_lawful (policy : SubscriptionCancellationPolicy) :
    (subscriptionWorkflow policy).Lawful (∃ fingerprint, policy.fingerprint = .ok fingerprint) where
  current := subscriptionCurrent_meets policy
  submit snapshot context deadline h hheld hclean := by
    refine hheld.clock_bind fun now ↦ ?_
    split_ifs with hnow
    · exact .withheld (hheld.cons rfl) (.of_clean hclean.cons) rfl
    · exact submitCancellation_meets snapshot hheld hclean
        (lt_of_lt_of_le (not_le.mp hnow) (min_le_left _ _))
  group_ne _ := by intro heq; cases heq

theorem creditNoteWorkflow_lawful (policy : CreditNotePolicy) :
    (creditNoteWorkflow policy).Lawful (∃ fingerprint, policy.fingerprint = .ok fingerprint) where
  current := creditNoteCurrent_meets policy
  submit snapshot context deadline h hheld hclean := by
    refine hheld.clock_bind fun now ↦ ?_
    split_ifs with hnow
    · exact .withheld (hheld.cons rfl) (.of_clean hclean.cons) rfl
    · exact submitCreditNote_meets snapshot hheld hclean (not_le.mp hnow)
  group_ne _ := by intro heq; cases heq

end Submissions

/-! ## The refund workflow -/

theorem connectorSubmit_meets (snapshot : RefundSnapshot) {context : ExecutionContext}
    {deadline : Timestamp} {h : StripeHistory}
    (hheld : Held (.refund snapshot) context deadline h) :
    (connectorSubmit snapshot.intent deadline).Meets
      (submissionContract (.refund snapshot) context) (Attempted (.refund snapshot) context) h := by
  have htidy : ∀ past, Tidy (.refund snapshot) past := fun _ hgroup ↦ absurd rfl hgroup
  refine Meets.attempt_perform_bind (submissionContract_read rfl) fun answer _ ↦ ?_
  have hheld' : Held (.refund snapshot) context deadline
      (⟨.host (.charge snapshot.intent), answer⟩ :: h) := hheld.cons rfl
  cases answer with
  | error failure =>
    dsimp only
    split_ifs with hboundary
    · exact .withheld hheld' (htidy _) rfl
    · exact .abandoned hheld rfl fun _ _ ↦ Bool.eq_false_of_not_eq_true hboundary
  | ok charge =>
    dsimp only
    split_ifs
    · exact .withheld hheld' (htidy _) rfl
    · refine hheld'.clock_bind fun now ↦ ?_
      split_ifs with hnow
      · exact .withheld (hheld'.cons rfl) (htidy _) rfl
      · exact submitRefund_meets snapshot hheld' (not_le.mp hnow)

theorem refundSubmitReserved_meets (definition : ActionDeclaration StripeModel)
    (snapshot : RefundSnapshot) {context : ExecutionContext} {deadline : Timestamp}
    {h : StripeHistory} (hheld : Held (.refund snapshot) context deadline h) :
    (refundSubmitReserved definition snapshot context deadline).Meets
      (submissionContract (.refund snapshot) context) (Attempted (.refund snapshot) context) h := by
  rw [refundSubmitReserved, refundCanExecute, LawfulMonad.bind_assoc]
  refine Meets.perform_bind trivial (fun e _ ↦ ?_) fun authorization _ ↦ ?_
  · exact .abandoned hheld rfl fun _ hgateway ↦ Bool.noConfusion hgateway
  rw [pure_bind]
  split_ifs
  · exact .withheld (hheld.cons rfl) (fun hgroup ↦ absurd rfl hgroup) rfl
  · exact connectorSubmit_meets snapshot (hheld.cons rfl)

theorem refundExecute_meets (policy : RefundPolicy) (definition : ActionDeclaration StripeModel)
    (snapshot : RefundSnapshot) (context : ExecutionContext)
    (executionPrecondition : SafeReference) :
    (refundExecute policy definition snapshot context executionPrecondition).Meets
      (submissionContract (.refund snapshot) context) (Ending (.refund snapshot) context) [] := by
  refine Meets.orRaise_bind (fun e _ ↦ .quiet .nil) fun effectReference heffect ↦ ?_
  refine Quiet.nil.check_bind .nil (refundUnchanged_meets policy snapshot context effectReference)
    fun h₁ unchanged hh hclean hb ↦ ?_
  refine hh.check_bind hclean meets_authorization fun h₂ permitted hh hclean _ ↦ ?_
  split_ifs with hrefused
  · exact .quiet hh
  rw [not_or] at hrefused
  obtain ⟨-, htenant⟩ := hb (Bool.eq_true_of_not_eq_false hrefused.1)
  refine Meets.perform_bind ⟨rfl, rfl⟩ (fun e _ ↦ .quiet (hh.cons rfl)) fun record _ ↦ ?_
  split
  · exact .quiet (hh.cons rfl)
  · rename_i deadline hdeadline
    refine meets_reserve (hh.cons rfl) List.mem_cons_self hdeadline ?_
    refine Attempted.report heffect htenant (refundSubmitReserved_meets definition snapshot ?_)
    exact ⟨[], _, record, rfl, .nil, hh.cons rfl, List.mem_cons_self, hdeadline⟩

/-- **Every workflow meets the contract of its snapshot**, whatever its host answers. -/
theorem executeSnapshot_meets (policies : StripePolicies)
    (definition : ActionDeclaration StripeModel) (snapshot : StripeSnapshot)
    (context : ExecutionContext) (executionPrecondition : SafeReference) :
    (executeSnapshot policies definition snapshot context executionPrecondition).Meets
      (submissionContract snapshot context) (Ending snapshot context) [] := by
  cases snapshot with
  | refund snapshot =>
    exact refundExecute_meets policies.refunds definition snapshot context executionPrecondition
  | subscription snapshot =>
    exact (subscriptionWorkflow_lawful policies.subscriptions).execute snapshot context
      executionPrecondition
  | creditNote snapshot =>
    exact (creditNoteWorkflow_lawful policies.creditNotes).execute snapshot context
      executionPrecondition

end ThrevoActions.Stripe
