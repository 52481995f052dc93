import ThrevoActions.Runtime.Writes
import ThrevoActions.Stripe.Workflows

/-!
# From reservation to submission

What the three workflows do, and in which order. `submissionContract` says under which conditions
`execute` reserves, submits and records that nothing was submitted, and `Ending` lists the ways in
which it can end. Both speak about the history of one `execute` alone; whoever runs the coroutine
later may have a history of its own (`Program.Meets.frame`).

Every provider mutation directly follows a clock reading before the deadline, and the deadline was
taken from the record the workflow read before it reserved.
-/

namespace ThrevoActions.Stripe

open Interleaving Interleaving.Program

variable [StripeJson]

/-- An operation of a Stripe workflow. -/
abbrev StripeOperation := Op StripeModel stripeSignature

/-- What one `execute` did so far, newest first. -/
abbrev StripeHistory := RuntimeHistory StripeModel stripeSignature

/-! ## Operations -/

/-- A read of the host, of the provider or of the clock. -/
def isRead : StripeOperation → Bool
  | .now | .canExecute _ _ _ => true
  | .host (.payment _ _) | .host (.subscription _ _) | .host (.invoice _ _) | .host (.charge _)
  | .host (.retrieveSubscription _) | .host (.retrieveInvoice _) | .host (.previewCreditNote _) =>
    true
  | _ => false

/-- A read, of the proposal included. -/
def isQuiet : StripeOperation → Bool
  | .get _ _ => true
  | o => isRead o

/-- `isMutation` on all operations. -/
def isMutation : StripeOperation → Bool
  | .host operation => operation.isMutation
  | _ => false

/-- `isGatewayRead` on all operations. -/
def isGatewayRead : StripeOperation → Bool
  | .host operation => operation.isGatewayRead
  | _ => false

/-- The operation records that nothing was submitted. -/
def isClosing : StripeOperation → Bool
  | .host (.recordNoSubmission _ _ _) => true
  | _ => false

/-- The mutation submits the intent of `snapshot`. -/
def StripeOp.Submits : StripeOp → StripeSnapshot → Prop
  | .createRefund intent, .refund snapshot => snapshot.intent = intent
  | .updateSubscription updated, .subscription snapshot => snapshot = updated
  | .createCreditNote created, .creditNote snapshot => snapshot = created
  | _, _ => False

theorem isQuiet_of_isRead {o : StripeOperation} (h : isRead o = true) : isQuiet o = true := by
  cases o <;> first | rfl | exact h

theorem not_isMutation_of_isQuiet {o : StripeOperation} (h : isQuiet o = true) :
    isMutation o = false := by
  cases o with
  | host operation => cases operation <;> first | rfl | cases h
  | _ => rfl

theorem not_isClosing_of_isQuiet {o : StripeOperation} (h : isQuiet o = true) :
    isClosing o = false := by
  cases o with
  | host operation => cases operation <;> first | rfl | cases h
  | _ => rfl

theorem not_isClosing_of_isMutation {o : StripeOperation} (h : isMutation o = true) :
    isClosing o = false := by
  cases o with
  | host operation => cases operation <;> first | rfl | cases h
  | _ => cases h

/-! ## Histories -/

/-- Nothing but reads. -/
def Quiet (h : StripeHistory) : Prop := ∀ ev ∈ h, isQuiet ev.op = true

/-- Nothing was raised. -/
def Clean (h : StripeHistory) : Prop := ∀ ev ∈ h, ∃ a, ev.answer = .ok a

/-- The repository answered that it reserved the snapshot's resource. -/
def HasAcquired (h : StripeHistory) : Prop :=
  ∃ snapshot notAfter, Answered h (.host (.reserve snapshot notAfter)) .acquired

/-- The provider mutation was invoked. -/
def Mutated (h : StripeHistory) : Prop := ∃ ev ∈ h, isMutation ev.op = true

/-- The repository was asked to record that nothing was submitted. -/
def Closed (h : StripeHistory) : Prop := ∃ ev ∈ h, isClosing ev.op = true

theorem Quiet.nil : Quiet [] := by
  intro ev hev
  cases hev

theorem Quiet.cons {o : StripeOperation} {answer : Except Exn o.Ans} {h : StripeHistory}
    (hh : Quiet h) (ho : isQuiet o = true) : Quiet (⟨o, answer⟩ :: h) := by
  intro ev hev
  rcases List.mem_cons.mp hev with rfl | hev
  · exact ho
  · exact hh ev hev

theorem Quiet.append {recent h : StripeHistory} (hrecent : Quiet recent) (hh : Quiet h) :
    Quiet (recent ++ h) := by
  intro ev hev
  rcases List.mem_append.mp hev with hev | hev
  · exact hrecent ev hev
  · exact hh ev hev

theorem Clean.nil : Clean [] := by
  intro ev hev
  cases hev

theorem Clean.cons {o : StripeOperation} {a : o.Ans} {h : StripeHistory} (hh : Clean h) :
    Clean (⟨o, .ok a⟩ :: h) := by
  intro ev hev
  rcases List.mem_cons.mp hev with rfl | hev
  · exact ⟨a, rfl⟩
  · exact hh ev hev

theorem Clean.append {recent h : StripeHistory} (hrecent : Clean recent) (hh : Clean h) :
    Clean (recent ++ h) := by
  intro ev hev
  rcases List.mem_append.mp hev with hev | hev
  · exact hrecent ev hev
  · exact hh ev hev

theorem Quiet.not_mutated {h : StripeHistory} (hh : Quiet h) : ¬Mutated h := by
  rintro ⟨ev, hev, hmutation⟩
  rw [not_isMutation_of_isQuiet (hh ev hev)] at hmutation
  cases hmutation

theorem Quiet.not_closed {h : StripeHistory} (hh : Quiet h) : ¬Closed h := by
  rintro ⟨ev, hev, hclosing⟩
  rw [not_isClosing_of_isQuiet (hh ev hev)] at hclosing
  cases hclosing

theorem Quiet.not_acquired {h : StripeHistory} (hh : Quiet h) : ¬HasAcquired h := by
  rintro ⟨snapshot, notAfter, hanswered⟩
  cases hh _ hanswered

theorem not_acquired_reserve {reserved : StripeSnapshot} {deadline : Timestamp}
    {answer : Except Exn StripeReservationStatus} {h : StripeHistory} (hh : Quiet h)
    (hanswer : answer ≠ .ok .acquired) :
    ¬HasAcquired (⟨.host (.reserve reserved deadline), answer⟩ :: h) := by
  rintro ⟨snapshot, notAfter, hanswered⟩
  rcases List.mem_cons.mp hanswered with heq | hanswered
  · cases heq
    exact hanswer rfl
  · exact hh.not_acquired ⟨snapshot, notAfter, hanswered⟩

theorem not_mutated_reserve {reserved : StripeSnapshot} {deadline : Timestamp}
    {answer : Except Exn StripeReservationStatus} {h : StripeHistory} (hh : Quiet h) :
    ¬Mutated (⟨.host (.reserve reserved deadline), answer⟩ :: h) := by
  rintro ⟨ev, hev, hmutation⟩
  rcases List.mem_cons.mp hev with rfl | hev
  · cases hmutation
  · exact hh.not_mutated ⟨ev, hev, hmutation⟩

/-! ## The contract -/

/-- The workflow read the proposal, took its deadline from it and acquired the reservation. Since
then it only read. -/
def Held (snapshot : StripeSnapshot) (context : ExecutionContext) (deadline : Timestamp)
    (h : StripeHistory) : Prop :=
  ∃ recent past record, h = recent ++
      ⟨.host (.reserve snapshot deadline), .ok StripeReservationStatus.acquired⟩ :: past ∧
    Quiet recent ∧ Quiet past ∧
    Answered past (.get context.tenantReference context.proposalReference) record ∧
    submissionDeadline record = some deadline

theorem Held.cons {snapshot : StripeSnapshot} {context : ExecutionContext} {deadline : Timestamp}
    {h : StripeHistory} (hheld : Held snapshot context deadline h) {o : StripeOperation}
    {answer : Except Exn o.Ans} (ho : isQuiet o = true) :
    Held snapshot context deadline (⟨o, answer⟩ :: h) := by
  obtain ⟨recent, past, record, rfl, hrecent, hrest⟩ := hheld
  exact ⟨⟨o, answer⟩ :: recent, past, record, rfl, hrecent.cons ho, hrest⟩

theorem Held.append {snapshot : StripeSnapshot} {context : ExecutionContext}
    {deadline : Timestamp} {h recent : StripeHistory} (hheld : Held snapshot context deadline h)
    (hrecent : Quiet recent) : Held snapshot context deadline (recent ++ h) := by
  obtain ⟨recent', past, record, rfl, hrecent', hrest⟩ := hheld
  exact ⟨recent ++ recent', past, record, (List.append_assoc _ _ _).symm,
    hrecent.append hrecent', hrest⟩

/-- What was done while a reservation is held. -/
theorem Held.cases {snapshot : StripeSnapshot} {context : ExecutionContext}
    {deadline : Timestamp} {h : StripeHistory} (hheld : Held snapshot context deadline h)
    {ev : Event (runtimeSignature StripeModel stripeSignature) Exn} (hev : ev ∈ h) :
    isQuiet ev.op = true ∨
      ev = ⟨.host (.reserve snapshot deadline), .ok StripeReservationStatus.acquired⟩ := by
  obtain ⟨recent, past, record, rfl, hrecent, hpast, -⟩ := hheld
  rcases List.mem_append.mp hev with hev | hev
  · exact Or.inl (hrecent ev hev)
  · rcases List.mem_cons.mp hev with rfl | hev
    · exact Or.inr rfl
    · exact Or.inl (hpast ev hev)

theorem Held.not_mutated {snapshot : StripeSnapshot} {context : ExecutionContext}
    {deadline : Timestamp} {h : StripeHistory} (hheld : Held snapshot context deadline h) :
    ¬Mutated h := by
  rintro ⟨ev, hev, hmutation⟩
  rcases hheld.cases hev with hquiet | rfl
  · rw [not_isMutation_of_isQuiet hquiet] at hmutation
    cases hmutation
  · cases hmutation

theorem Held.not_closed {snapshot : StripeSnapshot} {context : ExecutionContext}
    {deadline : Timestamp} {h : StripeHistory} (hheld : Held snapshot context deadline h) :
    ¬Closed h := by
  rintro ⟨ev, hev, hclosing⟩
  rcases hheld.cases hev with hquiet | rfl
  · rw [not_isClosing_of_isQuiet hquiet] at hclosing
    cases hclosing
  · cases hclosing

theorem Held.acquired {snapshot : StripeSnapshot} {context : ExecutionContext}
    {deadline : Timestamp} {h : StripeHistory} (hheld : Held snapshot context deadline h) :
    Answered h (.host (.reserve snapshot deadline)) .acquired := by
  obtain ⟨recent, past, record, rfl, -⟩ := hheld
  exact List.mem_append_right _ List.mem_cons_self

/-- What the workflow has established when it invokes the provider mutation. -/
structure SubmissionReady (snapshot : StripeSnapshot) (context : ExecutionContext)
    (h : StripeHistory) (operation : StripeOp) : Prop where
  submits : operation.Submits snapshot
  checked : ∃ deadline reading past, h = ⟨.now, .ok reading⟩ :: past ∧
    Held snapshot context deadline past ∧ reading < deadline

section Contract

variable [UnicodeNormalization]

/-- The conditions under which `execute` performs its operations. -/
def submissionContract (snapshot : StripeSnapshot) (context : ExecutionContext) :
    Contract (runtimeSignature StripeModel stripeSignature) Exn where
  legal _ _ := True
  issues h
    | .get tenantReference proposalReference =>
      tenantReference = context.tenantReference ∧ proposalReference = context.proposalReference
    | .host (.reserve reserved deadline) => reserved = snapshot ∧ Quiet h ∧
      ∃ record, Answered h (.get context.tenantReference context.proposalReference) record ∧
        submissionDeadline record = some deadline
    | .host (.recordNoSubmission group tenantReference effectReference) =>
      group = snapshot.group ∧ tenantReference = snapshot.tenantReference ∧
        snapshot.effectReference = .ok effectReference ∧
        ∃ deadline, Held snapshot context deadline h
    | .host operation => operation.isMutation = true → SubmissionReady snapshot context h operation
    | .now | .canExecute _ _ _ => True
    | _ => False

theorem submissionContract_read {snapshot : StripeSnapshot} {context : ExecutionContext}
    {h : StripeHistory} {o : StripeOperation} (ho : isRead o = true) :
    (submissionContract snapshot context).issues h o := by
  cases o with
  | now | canExecute => trivial
  | host operation =>
    cases operation <;> first | exact fun hmutation ↦ Bool.noConfusion hmutation | cases ho
  | _ => cases ho

theorem submissionContract_mutation {snapshot : StripeSnapshot} {context : ExecutionContext}
    {h : StripeHistory} {o : StripeOperation}
    (hissued : (submissionContract snapshot context).issues h o)
    (ho : isMutation o = true) :
    ∃ operation, o = .host operation ∧ SubmissionReady snapshot context h operation := by
  cases o with
  | host operation =>
    cases operation with
    | createRefund | updateSubscription | createCreditNote => exact ⟨_, rfl, hissued rfl⟩
    | _ => cases ho
  | _ => cases ho

theorem submissionContract_closing {snapshot : StripeSnapshot} {context : ExecutionContext}
    {h : StripeHistory} {o : StripeOperation}
    (hissued : (submissionContract snapshot context).issues h o)
    (ho : isClosing o = true) : ∃ deadline, Held snapshot context deadline h := by
  cases o with
  | host operation =>
    cases operation with
    | recordNoSubmission => exact hissued.2.2.2
    | _ => cases ho
  | _ => cases ho

end Contract

/-! ## How `execute` ends -/

/-- Nothing was raised, except by the refund connector's first read of the charge. -/
def Tidy (snapshot : StripeSnapshot) (h : StripeHistory) : Prop :=
  snapshot.group ≠ .refunds → Clean h

theorem Tidy.of_clean {snapshot : StripeSnapshot} {h : StripeHistory} (hclean : Clean h) : Tidy snapshot h :=
  fun _ ↦ hclean

theorem Tidy.cons {snapshot : StripeSnapshot} {o : StripeOperation} {a : o.Ans} {h : StripeHistory}
    (htidy : Tidy snapshot h) : Tidy snapshot (⟨o, .ok a⟩ :: h) :=
  fun hgroup ↦ (htidy hgroup).cons

/-- The ways in which a workflow can end while it holds a reservation: it withholds the submission,
it submits, or a read is raised to the caller. -/
inductive Attempted (snapshot : StripeSnapshot) (context : ExecutionContext) :
    StripeHistory → Except Exn (ExecutionResult StripeModel) → Prop
  | withheld {h : StripeHistory} {deadline : Timestamp} {result : ExecutionResult StripeModel}
      (hheld : Held snapshot context deadline h) (htidy : Tidy snapshot h)
      (hstatus : ExecutionStatus.isNoSubmission result.status = true) :
      Attempted snapshot context h (.ok result)
  | submitted {past : StripeHistory} {deadline : Timestamp} {operation : StripeOp}
      {answer : Except Exn operation.Ans} {r : Except Exn (ExecutionResult StripeModel)}
      (hheld : Held snapshot context deadline past) (htidy : Tidy snapshot past)
      (hmutation : operation.isMutation = true)
      (hstatus : ∀ result, r = .ok result →
        ExecutionStatus.isNoSubmission result.status = false) :
      Attempted snapshot context (⟨.host operation, answer⟩ :: past) r
  | abandoned {past : StripeHistory} {deadline : Timestamp} {o : StripeOperation} {e : Exn}
      (hheld : Held snapshot context deadline past) (hread : isRead o = true)
      (hunhandled : snapshot.group = .refunds → isGatewayRead o = true →
        isBoundaryError e = false) :
      Attempted snapshot context (⟨o, .error e⟩ :: past) (.error e)

variable [UnicodeNormalization] in
/-- The ways in which `execute` can end: without a reservation, or with one that it closes, keeps
because it submitted, or abandons. -/
inductive Ending (snapshot : StripeSnapshot) (context : ExecutionContext) :
    StripeHistory → Except Exn (ExecutionResult StripeModel) → Prop
  | refused {h : StripeHistory} {r : Except Exn (ExecutionResult StripeModel)}
      (hacquired : ¬HasAcquired h) (hmutated : ¬Mutated h) : Ending snapshot context h r
  | submitted {past : StripeHistory} {deadline : Timestamp} {operation : StripeOp}
      {answer : Except Exn operation.Ans} {r : Except Exn (ExecutionResult StripeModel)}
      (hheld : Held snapshot context deadline past) (htidy : Tidy snapshot past)
      (hmutation : operation.isMutation = true)
      (hstatus : ∀ result, r = .ok result →
        ExecutionStatus.isNoSubmission result.status = false) :
      Ending snapshot context (⟨.host operation, answer⟩ :: past) r
  | closed {past : StripeHistory} {deadline : Timestamp} {effectReference : SafeReference}
      {answer : Except Exn Unit} {r : Except Exn (ExecutionResult StripeModel)}
      (heffect : snapshot.effectReference = .ok effectReference)
      (hheld : Held snapshot context deadline past) (htidy : Tidy snapshot past) :
      Ending snapshot context (⟨.host (.recordNoSubmission snapshot.group
        snapshot.tenantReference effectReference), answer⟩ :: past) r
  | abandoned {past : StripeHistory} {deadline : Timestamp} {o : StripeOperation} {e : Exn}
      (hheld : Held snapshot context deadline past) (hread : isRead o = true)
      (hunhandled : snapshot.group = .refunds → isGatewayRead o = true →
        isBoundaryError e = false) :
      Ending snapshot context (⟨o, .error e⟩ :: past) (.error e)

end ThrevoActions.Stripe
