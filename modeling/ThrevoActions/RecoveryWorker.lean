import ThrevoActions.Interleaving.Program
import ThrevoActions.Recovery
import ThrevoActions.Registry
import ThrevoActions.Runtime.Outcomes

/-!
# The recovery worker

`RecoveryWorker.scan`: page by page, every item of due work is claimed, worked on and acknowledged.
The work source, the schedule and the action groups are whatever the host configured, so the worker
is a program over its calls on them, each of which answers anything or raises.

An item is acknowledged outside the `try` block that works on it, but for one acknowledgement: the
deferral of an execution that is not recommended. If that call raises an exception, the handlers of
the block acknowledge the same token once more. A scan acknowledges every token at most once exactly
when no deferral raises an exception (`scan_sound_iff`).
-/

namespace ThrevoActions

open Interleaving Interleaving.Program

/-! ## Calls of the worker -/

/-- The arguments of `RecoveryLeaseSchedule.complete`. -/
structure LeaseCompletion where
  proposalReference : SafeReference
  token : String
  nextAttemptAt : Option Timestamp
  attentionReason : Option SafeReference
  deriving DecidableEq, Repr

/-- A call on the work source, the schedule or an action group of type `G`. -/
inductive RecoveryCall (G : Type)
  | discoverDue (tenantReference : SafeReference) (cutoff : Timestamp) (limit : ℤ)
      (cursor : Option ActionWorkCursor)
  | claim (item : ActionWorkItem) (now leaseUntil : Timestamp)
  | complete (args : LeaseCompletion)
  | readRecovery (group : G) (proposalReference : SafeReference) (context : ReadContext)
  | execute (group : G) (tenantReference proposalReference : SafeReference)
  | expireDue (group : G) (tenantReference proposalReference : SafeReference)
  | reconcile (group : G) (tenantReference proposalReference : SafeReference)

/-- What such a call answers. -/
@[reducible] def RecoveryCall.Ans {G : Type} : RecoveryCall G → Type
  | .discoverDue _ _ _ _ => ActionWorkPage
  | .claim _ _ _ => Option String
  | .complete _ => Bool
  | .readRecovery _ _ _ => ActionRecoveryView
  | .execute _ _ _ => ActionOperationResult
  | .expireDue _ _ _ => ActionOperationResult
  | .reconcile _ _ _ => ActionOperationResult

/-- The signature of the worker. -/
abbrev recoveryCalls (G : Type) : Signature := ⟨RecoveryCall G, RecoveryCall.Ans⟩

abbrev RecoveryProgram (G α : Type) := Program (recoveryCalls G) Exn α

abbrev RecoveryHistory (G : Type) := History (recoveryCalls G) Exn

/-- `await` one call. -/
def awaitCall {G : Type} (o : RecoveryCall G) : RecoveryProgram G o.Ans :=
  Program.perform (S := recoveryCalls G) o

/-! ## Results -/

inductive RecoveryWorkerDisposition
  | completed
  | deferred
  | attention
  | alreadyLeased
  | leaseLost
  deriving DecidableEq, Repr

structure RecoveryWorkerResult where
  proposalReference : SafeReference
  disposition : RecoveryWorkerDisposition
  operation : ActionWorkOperation
  reasonCode : Option SafeReference := none
  deriving DecidableEq, Repr

/-- `_lease_lost`. -/
def leaseLost (item : ActionWorkItem) : RecoveryWorkerResult where
  proposalReference := item.proposalReference
  disposition := .leaseLost
  operation := item.operation
  reasonCode := some "recovery_lease_lost"

def alreadyLeased (item : ActionWorkItem) : RecoveryWorkerResult where
  proposalReference := item.proposalReference
  disposition := .alreadyLeased
  operation := item.operation

/-! ## The worker -/

/-- `RecoveryWorker`, its source and schedule aside. -/
structure RecoveryWorker (G : Type) where
  /-- `actions`, by the namespace, name and version of an action type. -/
  actions : ActionType → Option G
  readContext : ReadContext
  leaseDuration : Duration := 60000000
  retryDelay : Duration := 30000000

variable {G : Type}

/-- Acknowledge an item, and report what was acknowledged. -/
def acknowledge (item : ActionWorkItem) (token : String) (nextAttemptAt : Option Timestamp)
    (attentionReason : Option SafeReference) (disposition : RecoveryWorkerDisposition) :
    RecoveryProgram G RecoveryWorkerResult := do
  let acknowledged ← awaitCall (.complete
    ⟨item.proposalReference, token, nextAttemptAt, attentionReason⟩)
  if acknowledged = false then return leaseLost item
  else return ⟨item.proposalReference, disposition, item.operation, attentionReason⟩

namespace RecoveryWorker

variable (worker : RecoveryWorker G)

/-- The `try` block of `_run`: the result it returns, if it returns one. -/
def attemptItem (group : G) (item : ActionWorkItem) (token : String) (now : Timestamp) :
    RecoveryProgram G (Option RecoveryWorkerResult) :=
  match item.operation with
  | .execute => do
    let view ← awaitCall (.readRecovery group item.proposalReference worker.readContext)
    if (view.recommendedSteps.any fun step ↦ step.operation == .execute) = false then
      return some (← acknowledge item token (some (now + worker.retryDelay))
        (some "recovery_execution_deferred") .deferred)
    else
    let _ ← awaitCall
      (.execute group worker.readContext.tenantReference item.proposalReference)
    return none
  | .expire => do
    let _ ← awaitCall
      (.expireDue group worker.readContext.tenantReference item.proposalReference)
    return none
  | .reconcile | .attention => do
    let _ ← awaitCall
      (.reconcile group worker.readContext.tenantReference item.proposalReference)
    return none

/-- `_run` once the item is claimed and its group found. -/
def workOn (group : G) (item : ActionWorkItem) (token : String) (now : Timestamp) :
    RecoveryProgram G RecoveryWorkerResult := do
  let attempted ← (worker.attemptItem group item token now).attempt
  match attempted with
  | .error (.authorizationDenied _) =>
    acknowledge item token none (some "recovery_authorization_denied") .attention
  | .error failure =>
    if failure.isException then
      acknowledge item token (some (now + worker.retryDelay)) (some "recovery_operation_failed")
        .deferred
    else throw failure
  | .ok (some result) => return result
  | .ok none => acknowledge item token none none .completed

/-- `_run`. -/
def run (item : ActionWorkItem) (now : Timestamp) : RecoveryProgram G RecoveryWorkerResult := do
  let claimed ← awaitCall (.claim item now (now + worker.leaseDuration))
  match claimed with
  | none => return alreadyLeased item
  | some token =>
    match worker.actions item.actionType with
    | none =>
      acknowledge item token none (some (item.reasonCode.getD "recovery_action_unconfigured"))
        .attention
    | some group =>
      if item.operation = .attention then
        acknowledge item token none (some (item.reasonCode.getD "recovery_action_unconfigured"))
          .attention
      else worker.workOn group item token now

/-- The items of one page. -/
def runItems (now : Timestamp) : List ActionWorkItem → List RecoveryWorkerResult →
    RecoveryProgram G (List RecoveryWorkerResult)
  | [], results => return results
  | item :: items, results => do
    let result ← worker.run item now
    runItems now items (results ++ [result])

/-- `scan`, for at most `pages` pages. It returns nothing if there are more. -/
def scanFrom (cutoff : Timestamp) (pageSize : ℤ) :
    (pages : ℕ) → Option ActionWorkCursor → List RecoveryWorkerResult →
    RecoveryProgram G (Option (List RecoveryWorkerResult))
  | 0, _, _ => return none
  | pages + 1, cursor, results => do
    let page ← awaitCall
      (.discoverDue worker.readContext.tenantReference cutoff pageSize cursor)
    let results ← worker.runItems cutoff page.items results
    match page.nextCursor with
    | none => return some results
    | some cursor => scanFrom cutoff pageSize pages (some cursor) results

def scan (cutoff : Timestamp) (pageSize : ℤ) (pages : ℕ) :
    RecoveryProgram G (Option (List RecoveryWorkerResult)) :=
  worker.scanFrom cutoff pageSize pages none []

end RecoveryWorker

/-! ## What a history shows -/

/-- The pages that were discovered, newest first. -/
def pagesOf : RecoveryHistory G → List ActionWorkPage
  | [] => []
  | ⟨.discoverDue _ _ _ _, .ok page⟩ :: h => page :: pagesOf h
  | _ :: h => pagesOf h

/-- Their items, in the order of discovery. -/
def discovered (h : RecoveryHistory G) : List ActionWorkItem :=
  (pagesOf h).reverse.flatMap ActionWorkPage.items

/-- The claim of an item that was answered with a token and has not been acknowledged. -/
def openClaim : RecoveryHistory G → Option (SafeReference × String)
  | [] => none
  | ⟨.claim item _ _, .ok (some token)⟩ :: _ => some (item.proposalReference, token)
  | ⟨.claim _ _ _, _⟩ :: _ => none
  | ⟨.complete _, _⟩ :: _ => none
  | _ :: h => openClaim h

/-- The disposition that the arguments of `complete` say. -/
def LeaseCompletion.disposition (args : LeaseCompletion) : RecoveryWorkerDisposition :=
  if args.nextAttemptAt.isSome then .deferred
  else if args.attentionReason.isSome then .attention
  else .completed

/-- What was reported about an item, its operation aside. -/
def RecoveryWorkerResult.report (result : RecoveryWorkerResult) :
    SafeReference × RecoveryWorkerDisposition × Option SafeReference :=
  (result.proposalReference, result.disposition, result.reasonCode)

/-- What the schedule answered about items, oldest first: that an item is claimed already, that a
completion was acknowledged, or that its lease was lost. -/
def answered : RecoveryHistory G →
    List (SafeReference × RecoveryWorkerDisposition × Option SafeReference)
  | [] => []
  | ⟨.claim item _ _, .ok none⟩ :: h =>
    answered h ++ [(item.proposalReference, .alreadyLeased, none)]
  | ⟨.complete args, .ok true⟩ :: h =>
    answered h ++ [(args.proposalReference, args.disposition, args.attentionReason)]
  | ⟨.complete args, .ok false⟩ :: h =>
    answered h ++ [(args.proposalReference, .leaseLost, some "recovery_lease_lost")]
  | _ :: h => answered h

/-- The completion defers an execution that is not recommended. -/
def LeaseCompletion.isDeferral (args : LeaseCompletion) : Bool :=
  args.nextAttemptAt.isSome && args.attentionReason == some "recovery_execution_deferred"

/-- A call of `complete` that defers an execution raised an exception. -/
def DeferralRaised (h : RecoveryHistory G) : Prop :=
  ∃ args failure, args.isDeferral = true ∧ failure.isException = true ∧
    ⟨.complete args, .error failure⟩ ∈ h

/-- The last call read a view of the proposal, of the same group, that recommends executing. -/
def Recommended (group : G) (proposalReference : SafeReference) : RecoveryHistory G → Prop
  | ⟨.readRecovery group' proposalReference' _, .ok view⟩ :: _ =>
    group' = group ∧ proposalReference' = proposalReference ∧
      ∃ step ∈ view.recommendedSteps, step.operation = .execute
  | _ => False

/-- What a scan is to do. -/
structure ScanSound (h : RecoveryHistory G)
    (r : Except Exn (Option (List RecoveryWorkerResult))) : Prop where
  /-- One result for every item, in the order of discovery. -/
  complete : ∀ results, r = .ok (some results) →
    results.map (fun result ↦ (result.proposalReference, result.operation)) =
      (discovered h).map fun item ↦ (item.proposalReference, item.operation)
  /-- Every result reports what the schedule answered. -/
  reported : ∀ results, r = .ok (some results) →
    results.map RecoveryWorkerResult.report = answered h
  /-- Every completion is of the token of the last claim, and the only one since. -/
  once : ∀ args answer past, ⟨.complete args, answer⟩ :: past <:+ h →
    openClaim past = some (args.proposalReference, args.token)
  /-- An execution is what the view just read recommends. -/
  recommended : ∀ group tenantReference proposalReference answer past,
    ⟨.execute group tenantReference proposalReference, answer⟩ :: past <:+ h →
    Recommended group proposalReference past

/-! ## One item -/

/-- A completion whose claim was not open any more. -/
def Twice (h : RecoveryHistory G) : Prop :=
  ∃ args answer past, ⟨.complete args, answer⟩ :: past <:+ h ∧ openClaim past = none

theorem Twice.mono {h h' : RecoveryHistory G} (htwice : Twice h) (hsuffix : h <:+ h') : Twice h' := by
  obtain ⟨args, answer, past, hpast, hopen⟩ := htwice
  exact ⟨args, answer, past, hpast.trans hsuffix, hopen⟩

theorem DeferralRaised.mono {h h' : RecoveryHistory G} (hraised : DeferralRaised h)
    (hsuffix : h <:+ h') : DeferralRaised h' := by
  obtain ⟨args, failure, hdeferral, hexception, hmem⟩ := hraised
  exact ⟨args, failure, hdeferral, hexception, hsuffix.subset hmem⟩

/-- Whether the newest call is a deferral that raised, or an older one is. -/
theorem DeferralRaised.of_cons {o : RecoveryCall G} {r : Except Exn o.Ans} {h : RecoveryHistory G}
    (hraised : DeferralRaised (⟨o, r⟩ :: h))
    (hnew : ∀ args failure, (⟨o, r⟩ : Event (recoveryCalls G) Exn) = ⟨.complete args, .error failure⟩ →
      failure.isException = true → args.isDeferral = false) : DeferralRaised h := by
  obtain ⟨args, failure, hdeferral, hexception, hmem⟩ := hraised
  rcases List.mem_cons.mp hmem with heq | hmem
  · rw [hnew args failure heq.symm hexception] at hdeferral
    cases hdeferral
  · exact ⟨args, failure, hdeferral, hexception, hmem⟩

/-- A completion is for the open claim, unless a deferral has raised an exception; an execution is
recommended. -/
def workerContract : Contract (recoveryCalls G) Exn where
  legal _ _ := True
  issues h
    | .complete args =>
      openClaim h = some (args.proposalReference, args.token) ∨ DeferralRaised h
    | .execute group _ proposalReference => Recommended group proposalReference h
    | _ => True

/-- The item got its result. -/
structure ItemDone (item : ActionWorkItem) (h h' : RecoveryHistory G)
    (result : RecoveryWorkerResult) : Prop where
  item : result.proposalReference = item.proposalReference ∧ result.operation = item.operation
  answered : answered h' = answered h ++ [result.report]
  pages : pagesOf h' = pagesOf h

theorem acknowledge_meets {item : ActionWorkItem} {token : String}
    {nextAttemptAt : Option Timestamp} {attentionReason : Option SafeReference}
    {disposition : RecoveryWorkerDisposition} {h : RecoveryHistory G}
    (hdisposition : LeaseCompletion.disposition
      ⟨item.proposalReference, token, nextAttemptAt, attentionReason⟩ = disposition)
    (hissues : openClaim h = some (item.proposalReference, token) ∨ DeferralRaised h) :
    (acknowledge item token nextAttemptAt attentionReason disposition).Meets workerContract
      (fun h' r ↦ (∃ answer, h' = ⟨.complete ⟨item.proposalReference, token, nextAttemptAt,
          attentionReason⟩, answer⟩ :: h ∧ ∀ e, answer = .error e ↔ r = .error e) ∧
        ∀ result, r = .ok result → ItemDone item h h' result) h := by
  subst hdisposition
  refine Meets.perform_bind hissues (fun e _ ↦ ⟨⟨_, rfl, fun e' ↦ ?_⟩, ?_⟩) fun acknowledged _ ↦ ?_
  · simp
  · rintro result ⟨⟩
  cases acknowledged with
  | false =>
    refine ⟨⟨_, rfl, fun e ↦ ?_⟩, ?_⟩
    · simp
    · rintro result ⟨⟩
      exact ⟨⟨rfl, rfl⟩, rfl, rfl⟩
  | true =>
    refine ⟨⟨_, rfl, fun e ↦ ?_⟩, ?_⟩
    · simp
    · rintro result ⟨⟩
      exact ⟨⟨rfl, rfl⟩, rfl, rfl⟩

/-- What an acknowledgement that raised nothing adds is not a deferral that raised. -/
theorem raised_of_acknowledged {args : LeaseCompletion} {answer : Except Exn Bool}
    {h : RecoveryHistory G} (hanswer : ∀ e, answer = .error e → args.isDeferral = false)
    (hraised : DeferralRaised (⟨.complete args, answer⟩ :: h)) : DeferralRaised h := by
  refine hraised.of_cons fun args' failure heq _ ↦ ?_
  injection heq with hop hfailure
  injection hop with hargs
  subst hargs
  exact hanswer failure hfailure

/-- Nothing was claimed, acknowledged or discovered. -/
structure Worked (h h' : RecoveryHistory G) : Prop where
  openClaim : openClaim h' = openClaim h
  answered : answered h' = answered h
  pages : pagesOf h' = pagesOf h
  raised : DeferralRaised h' → DeferralRaised h

theorem Worked.trans {h h' h'' : RecoveryHistory G} (hfirst : Worked h h')
    (hsecond : Worked h' h'') : Worked h h'' :=
  ⟨hsecond.openClaim.trans hfirst.openClaim, hsecond.answered.trans hfirst.answered,
    hsecond.pages.trans hfirst.pages, fun hraised ↦ hfirst.raised (hsecond.raised hraised)⟩

/-- The call is one on an action group. -/
def RecoveryCall.isGroupCall : RecoveryCall G → Bool
  | .readRecovery _ _ _ | .execute _ _ _ | .expireDue _ _ _ | .reconcile _ _ _ => true
  | _ => false

theorem worked_groupCall {o : RecoveryCall G} (ho : o.isGroupCall = true) (r : Except Exn o.Ans)
    (h : RecoveryHistory G) : Worked h (⟨o, r⟩ :: h) := by
  have hraised : DeferralRaised (⟨o, r⟩ :: h) → DeferralRaised h := by
    refine fun hraised ↦ hraised.of_cons ?_
    intro args failure heq
    injection heq with hop
    rw [hop] at ho
    cases ho
  cases o with
  | readRecovery | execute | expireDue | reconcile => exact ⟨rfl, rfl, rfl, hraised⟩
  | discoverDue | claim | complete => cases ho

/-- How the `try` block ended. -/
inductive Attempted (item : ActionWorkItem) (h h' : RecoveryHistory G) :
    Except Exn (Option RecoveryWorkerResult) → Prop
  | worked (hworked : Worked h h') : Attempted item h h' (.ok none)
  | failed (failure : Exn) (hworked : Worked h h') : Attempted item h h' (.error failure)
  | deferred {result : RecoveryWorkerResult} (hdone : ItemDone item h h' result)
      (hraised : DeferralRaised h' → DeferralRaised h) : Attempted item h h' (.ok (some result))
  /-- The deferral raised. -/
  | unacknowledged (failure : Exn) (hopen : openClaim h' = none) (hanswered : answered h' = answered h)
      (hpages : pagesOf h' = pagesOf h)
      (hraised : failure.isException = true → DeferralRaised h')
      (hpassed : failure.isException = false → DeferralRaised h' → DeferralRaised h) :
      Attempted item h h' (.error failure)

variable {worker : RecoveryWorker G}

theorem attemptItem_meets {group : G} {item : ActionWorkItem} {token : String} {now : Timestamp}
    {h : RecoveryHistory G} (hopen : openClaim h = some (item.proposalReference, token)) :
    (worker.attemptItem group item token now).Meets workerContract
      (fun h' r ↦ Attempted item h h' r) h := by
  rw [RecoveryWorker.attemptItem]
  split
  · refine Meets.perform_bind trivial (fun e _ ↦ .failed e (worked_groupCall rfl _ h)) fun view _ ↦ ?_
    have hread : Worked h (⟨.readRecovery group item.proposalReference worker.readContext,
        .ok view⟩ :: h) := worked_groupCall rfl _ h
    split
    · have hdeferred : LeaseCompletion.disposition ⟨item.proposalReference, token,
          some (now + worker.retryDelay), some "recovery_execution_deferred"⟩ = .deferred := rfl
      refine Meets.bind_of (acknowledge_meets hdeferred (Or.inl (hread.openClaim.trans hopen))) ?_ ?_
      · rintro h' e - ⟨⟨answer, rfl, hanswer⟩, -⟩
        obtain rfl := (hanswer e).mpr rfl
        refine .unacknowledged e rfl hread.answered hread.pages ?_ ?_
        · intro hexception
          exact ⟨_, e, rfl, hexception, List.mem_cons_self⟩
        · intro hpassed hraised
          refine hread.raised (hraised.of_cons ?_)
          rintro args failure heq hexception
          injection heq with _ hanswer
          injection hanswer with hfailure
          rw [hfailure, hexception] at hpassed
          cases hpassed
      · rintro h' result - ⟨⟨answer, rfl, hanswer⟩, hdone⟩
        obtain ⟨hitem, hanswered, hpages⟩ := hdone result rfl
        refine .deferred ⟨hitem, ?_, hpages.trans hread.pages⟩ fun hraised ↦ ?_
        · rw [hanswered, hread.answered]
        · refine hread.raised (raised_of_acknowledged (fun e he ↦ ?_) hraised)
          cases (hanswer e).mp he
    · rename_i hrecommended
      rw [Bool.not_eq_false, List.any_eq_true] at hrecommended
      obtain ⟨step, hstep, hexecute⟩ := hrecommended
      refine Meets.perform_bind ⟨rfl, rfl, step, hstep, beq_iff_eq.mp hexecute⟩ ?_ ?_
      · exact fun e _ ↦ .failed e (hread.trans (worked_groupCall rfl _ _))
      · exact fun result _ ↦ .worked (hread.trans (worked_groupCall rfl _ _))
  · refine Meets.perform_bind trivial (fun e _ ↦ .failed e (worked_groupCall rfl _ h)) fun _ _ ↦ ?_
    exact .worked (worked_groupCall rfl _ h)
  · refine Meets.perform_bind trivial (fun e _ ↦ .failed e (worked_groupCall rfl _ h)) fun _ _ ↦ ?_
    exact .worked (worked_groupCall rfl _ h)
  · refine Meets.perform_bind trivial (fun e _ ↦ .failed e (worked_groupCall rfl _ h)) fun _ _ ↦ ?_
    exact .worked (worked_groupCall rfl _ h)

/-- The item was handled: it got its result, unless something was raised, and if its deferral raised
an exception, its token was acknowledged twice. -/
structure Handled (item : ActionWorkItem) (h h' : RecoveryHistory G)
    (r : Except Exn RecoveryWorkerResult) : Prop where
  done : ∀ result, r = .ok result → ItemDone item h h' result
  raised : DeferralRaised h' → DeferralRaised h ∨ Twice h'

/-- The end of the functions that acknowledge an item. -/
theorem acknowledge_handled {item : ActionWorkItem} {token : String}
    {nextAttemptAt : Option Timestamp} {attentionReason : Option SafeReference}
    {disposition : RecoveryWorkerDisposition} {h h₀ : RecoveryHistory G}
    (hdisposition : LeaseCompletion.disposition
      ⟨item.proposalReference, token, nextAttemptAt, attentionReason⟩ = disposition)
    (hdeferral : LeaseCompletion.isDeferral
      ⟨item.proposalReference, token, nextAttemptAt, attentionReason⟩ = false)
    (hanswered : answered h = answered h₀) (hpages : pagesOf h = pagesOf h₀)
    (hopen : openClaim h = some (item.proposalReference, token) ∧
        (DeferralRaised h → DeferralRaised h₀) ∨
      openClaim h = none ∧ DeferralRaised h) :
    (acknowledge item token nextAttemptAt attentionReason disposition).Meets workerContract
      (fun h' r ↦ Handled item h₀ h' r) h := by
  refine (acknowledge_meets hdisposition (hopen.imp And.left And.right)).imp ?_
  rintro h' r - ⟨⟨answer, rfl, -⟩, hdone⟩
  refine ⟨fun result hr ↦ ?_, fun hraised ↦ ?_⟩
  · obtain ⟨hitem, hdone, hsame⟩ := hdone result hr
    exact ⟨hitem, by rw [hdone, hanswered], hsame.trans hpages⟩
  · rcases hopen with ⟨-, hraises⟩ | ⟨hclosed, -⟩
    · exact Or.inl (hraises (raised_of_acknowledged (fun _ _ ↦ hdeferral) hraised))
    · exact Or.inr ⟨_, answer, h, List.suffix_refl _, hclosed⟩

theorem workOn_meets {group : G} {item : ActionWorkItem} {token : String} {now : Timestamp}
    {h : RecoveryHistory G} (hopen : openClaim h = some (item.proposalReference, token)) :
    (worker.workOn group item token now).Meets workerContract
      (fun h' r ↦ Handled item h h' r) h := by
  refine Meets.attempt_bind_of (attemptItem_meets hopen) fun h' attempted _ hattempted ↦ ?_
  cases hattempted with
  | worked hworked =>
    exact acknowledge_handled rfl rfl hworked.answered hworked.pages
      (Or.inl ⟨hworked.openClaim.trans hopen, hworked.raised⟩)
  | deferred hdone hraised =>
    refine ⟨?_, fun hraised' ↦ Or.inl (hraised hraised')⟩
    rintro result ⟨⟩
    exact hdone
  | failed failure hworked =>
    have hopened := hworked.openClaim.trans hopen
    split
    · exact acknowledge_handled rfl rfl hworked.answered hworked.pages
        (Or.inl ⟨hopened, hworked.raised⟩)
    · split
      · exact acknowledge_handled rfl rfl hworked.answered hworked.pages
          (Or.inl ⟨hopened, hworked.raised⟩)
      · refine ⟨?_, fun hraised ↦ Or.inl (hworked.raised hraised)⟩
        rintro result ⟨⟩
    all_goals
      rename_i heq
      cases heq
  | unacknowledged failure hclosed hanswered hpages hraised hpassed =>
    split
    · rename_i heq
      cases heq
      exact acknowledge_handled rfl rfl hanswered hpages (Or.inr ⟨hclosed, hraised rfl⟩)
    · rename_i heq
      cases heq
      split
      · rename_i hexception
        exact acknowledge_handled rfl rfl hanswered hpages (Or.inr ⟨hclosed, hraised hexception⟩)
      · rename_i hexception
        rw [Bool.not_eq_true] at hexception
        refine ⟨?_, fun hraised' ↦ Or.inl (hpassed hexception hraised')⟩
        rintro result ⟨⟩
    all_goals
      rename_i heq
      cases heq

/-- **One item** is handled. -/
theorem run_meets (item : ActionWorkItem) (now : Timestamp) (h : RecoveryHistory G) :
    (worker.run item now).Meets workerContract (fun h' r ↦ Handled item h h' r) h := by
  have hclaimed : ∀ answer : Except Exn (Option String),
      DeferralRaised (⟨.claim item now (now + worker.leaseDuration), answer⟩ :: h) →
      DeferralRaised h := by
    intro answer hraised
    refine hraised.of_cons ?_
    rintro args failure ⟨⟩
  refine Meets.perform_bind trivial (fun e _ ↦ ⟨?_, fun hraised ↦ Or.inl (hclaimed _ hraised)⟩)
    fun claimed _ ↦ ?_
  · rintro result ⟨⟩
  cases claimed with
  | none =>
    refine ⟨?_, fun hraised ↦ Or.inl (hclaimed _ hraised)⟩
    rintro result ⟨⟩
    exact ⟨⟨rfl, rfl⟩, rfl, rfl⟩
  | some token =>
    -- from here on the claim is open
    have hattention : (acknowledge (G := G) item token none
        (some (item.reasonCode.getD "recovery_action_unconfigured")) .attention).Meets workerContract
        (fun h' r ↦ Handled item h h' r)
        (⟨.claim item now (now + worker.leaseDuration), .ok (some token)⟩ :: h) :=
      acknowledge_handled rfl rfl rfl rfl (Or.inl ⟨rfl, hclaimed _⟩)
    dsimp only
    split
    · exact hattention
    · split
      · exact hattention
      · rename_i group _ _
        refine (@workOn_meets G worker group _ _ _ _ rfl).imp fun h' r _ hhandled ↦ ⟨fun result hr ↦ ?_, ?_⟩
        · obtain ⟨hitem, hanswered, hpages⟩ := hhandled.done result hr
          exact ⟨hitem, hanswered, hpages⟩
        · intro hraised
          exact (hhandled.raised hraised).imp_left (hclaimed _)

/-! ## The scan -/

/-- The items got their results, in order. -/
structure ItemsDone (items : List ActionWorkItem) (h h' : RecoveryHistory G)
    (results : List RecoveryWorkerResult) : Prop where
  items : results.map (fun result ↦ (result.proposalReference, result.operation)) =
    items.map fun item ↦ (item.proposalReference, item.operation)
  answered : answered h' = answered h ++ results.map RecoveryWorkerResult.report
  pages : pagesOf h' = pagesOf h

theorem runItems_meets (now : Timestamp) (items : List ActionWorkItem)
    (results : List RecoveryWorkerResult) (h : RecoveryHistory G) :
    (worker.runItems now items results).Meets workerContract (fun h' r ↦
      (∀ results', r = .ok results' →
        ∃ new, results' = results ++ new ∧ ItemsDone items h h' new) ∧
      (DeferralRaised h' → DeferralRaised h ∨ Twice h')) h := by
  induction items generalizing results h with
  | nil =>
    refine ⟨?_, Or.inl⟩
    rintro results' ⟨⟩
    exact ⟨[], (List.append_nil _).symm, rfl, (List.append_nil _).symm, rfl⟩
  | cons item items ih =>
    refine Meets.bind_of (run_meets item now h) (fun h' e _ hhandled ↦ ⟨?_, hhandled.raised⟩)
      fun h' result _ hhandled ↦ ?_
    · rintro results' ⟨⟩
    obtain ⟨⟨hreference, hoperation⟩, hanswered, hpages⟩ := hhandled.done result rfl
    refine (ih (results ++ [result]) h').imp fun h'' r hsuffix hrest ↦ ⟨fun results' hr ↦ ?_, ?_⟩
    · obtain ⟨new, rfl, hitems, hanswered', hpages'⟩ := hrest.1 results' hr
      refine ⟨result :: new, by simp, ?_, ?_, hpages'.trans hpages⟩
      · rw [List.map_cons, List.map_cons, hitems, hreference, hoperation]
      · rw [hanswered', hanswered, List.append_assoc]
        rfl
    · intro hraised
      rcases hrest.2 hraised with hraised | htwice
      · exact (hhandled.raised hraised).imp_right fun htwice ↦ htwice.mono hsuffix
      · exact Or.inr htwice

/-- The results so far are those of the items discovered so far. -/
structure ResultsSoFar (h : RecoveryHistory G) (results : List RecoveryWorkerResult) : Prop where
  items : results.map (fun result ↦ (result.proposalReference, result.operation)) =
    (discovered h).map fun item ↦ (item.proposalReference, item.operation)
  reported : results.map RecoveryWorkerResult.report = answered h

theorem scanFrom_meets (cutoff : Timestamp) (pageSize : ℤ) (pages : ℕ)
    (cursor : Option ActionWorkCursor) (results : List RecoveryWorkerResult) (h : RecoveryHistory G)
    (hresults : ResultsSoFar h results) :
    (worker.scanFrom cutoff pageSize pages cursor results).Meets workerContract (fun h' r ↦
      (∀ results', r = .ok (some results') → ResultsSoFar h' results') ∧
      (DeferralRaised h' → DeferralRaised h ∨ Twice h') ∧
      (r = .ok none → ∃ read, pagesOf h' = read ++ pagesOf h ∧ read.length = pages ∧
        ∀ page ∈ read, page.nextCursor ≠ none)) h := by
  induction pages generalizing cursor results h with
  | zero =>
    refine ⟨?_, Or.inl, fun _ ↦ ⟨[], rfl, rfl, ?_⟩⟩
    · rintro results' ⟨⟩
    · rintro page ⟨⟩
  | succ pages ih =>
    have hdiscovered : ∀ answer : Except Exn ActionWorkPage, DeferralRaised
        (⟨.discoverDue worker.readContext.tenantReference cutoff pageSize cursor, answer⟩ :: h) →
        DeferralRaised h := by
      intro answer hraised
      refine hraised.of_cons ?_
      rintro args failure ⟨⟩
    refine Meets.perform_bind trivial
      (fun e _ ↦ ⟨?_, fun hraised ↦ Or.inl (hdiscovered _ hraised), ?_⟩) fun page _ ↦ ?_
    · rintro results' ⟨⟩
    · rintro ⟨⟩
    refine Meets.bind_of (runItems_meets cutoff page.items results _) ?_ ?_
    · rintro h' e - ⟨-, hraised⟩
      refine ⟨?_, fun hraised' ↦ (hraised hraised').imp_left (hdiscovered _), ?_⟩
      · rintro results' ⟨⟩
      · rintro ⟨⟩
    · rintro h' results' hsuffix ⟨hdone, hraised⟩
      obtain ⟨new, rfl, hitems, hanswered, hpages⟩ := hdone results' rfl
      have hpages' : pagesOf h' = page :: pagesOf h := hpages
      have hsofar : ResultsSoFar h' (results ++ new) := by
        refine ⟨?_, ?_⟩
        · rw [discovered, hpages', List.reverse_cons, List.flatMap_append, List.map_append,
            List.map_append, hitems, hresults.items, discovered]
          simp
        · rw [List.map_append, hanswered, hresults.reported]
          rfl
      have hraised' := fun hraised' ↦ (hraised hraised').imp_left (hdiscovered _)
      split
      · refine ⟨?_, hraised', ?_⟩
        · rintro results' ⟨⟩
          exact hsofar
        · rintro ⟨⟩
      · rename_i cursor' hcursor
        refine (ih (some cursor') _ h' hsofar).imp fun h'' r hsuffix' hrest ↦ ?_
        refine ⟨hrest.1, fun hraised'' ↦ ?_, fun hr ↦ ?_⟩
        · rcases hrest.2.1 hraised'' with hraised'' | htwice
          · exact (hraised' hraised'').imp_right fun htwice ↦ htwice.mono hsuffix'
          · exact Or.inr htwice
        · obtain ⟨read, hread, hlength, hnext⟩ := hrest.2.2 hr
          refine ⟨read ++ [page], ?_, ?_, fun page' hpage ↦ ?_⟩
          · rw [hread, hpages', List.append_assoc]
            rfl
          · rw [List.length_append, hlength]
            rfl
          · rcases List.mem_append.mp hpage with hpage | hpage
            · exact hnext page' hpage
            · rw [List.mem_singleton.mp hpage, hcursor]
              exact Option.some_ne_none cursor'

/-- **Scans.** However the schedule and the action groups answer, a scan that has ended is sound
exactly when no deferral has raised an exception. It ends without results, nothing having been
raised, only if none of the pages it was to read is the last one. -/
theorem scan_sound_iff {cutoff : Timestamp} {pageSize : ℤ} {pages : ℕ} {h : RecoveryHistory G}
    {r : Except Exn (Option (List RecoveryWorkerResult))}
    (hscan : Finishes (fun _ _ ↦ True) (worker.scan cutoff pageSize pages) h r) :
    (ScanSound h r ↔ ¬DeferralRaised h) ∧
      (r = .ok none → (pagesOf h).length = pages ∧
        ∀ page ∈ pagesOf h, page.nextCursor ≠ none) := by
  have hmeets := @scanFrom_meets G worker cutoff pageSize pages none [] [] ⟨rfl, rfl⟩
  have hissued : ∀ {ev : Event (recoveryCalls G) Exn} {past : RecoveryHistory G},
      ev :: past <:+ h → workerContract.issues past ev.op := fun hev ↦ hmeets.issued hscan hev
  obtain ⟨hresults, hraised, hmore⟩ := hmeets.finishes hscan
  refine ⟨⟨fun hsound hdeferral ↦ ?_, fun hdeferral ↦ ?_⟩, fun hr ↦ ?_⟩
  · rcases hraised hdeferral with ⟨_, _, _, _, hmem⟩ | ⟨args, answer, past, hpast, hclosed⟩
    · cases hmem
    · have hopen := hsound.once args answer past hpast
      rw [hclosed] at hopen
      cases hopen
  · refine ⟨fun results hr ↦ (hresults results hr).items,
      fun results hr ↦ (hresults results hr).reported, fun args answer past hpast ↦ ?_,
      fun group tenantReference proposalReference answer past hpast ↦ ?_⟩
    · refine (hissued hpast).resolve_right fun hraised' ↦ hdeferral (hraised'.mono ?_)
      exact (List.suffix_cons _ _).trans hpast
    · exact hissued hpast
  · obtain ⟨read, hread, hlength, hnext⟩ := hmore hr
    have hpages : pagesOf h = read := by rw [hread, pagesOf, List.append_nil]
    rw [hpages]
    exact ⟨hlength, hnext⟩

section Sample

def sampleWorker : RecoveryWorker Unit where
  actions _ := some ()
  readContext := ⟨"tenant", ⟨"consumer"⟩⟩

/-- An execution is due. -/
def sampleWork : ActionWorkItem where
  actionType := ⟨"sample.actions", "act", 1, Nat.one_pos⟩
  proposalReference := "proposal"
  operation := .execute
  dueAt := 0

/-- By now another proposal owns the effect. -/
def sampleView : ActionRecoveryView where
  proposalReference := "proposal"
  lifecycleStatus := .authorized
  revision := 1
  erased := false
  observedAt := 0
  condition := .effectOwnedElsewhere
  effectOwnership := .ownedElsewhere
  recommendedSteps := [{ operation := .inspectOwner }]

/-- A host with one item of work, whose schedule answers the first completion as `first` says, and
acknowledges every other. -/
def scheduleAnswers (first : Except Exn Bool) (h : RecoveryHistory Unit) :
    (o : RecoveryCall Unit) → Except Exn o.Ans
  | .discoverDue tenantReference cutoff _ _ => .ok ⟨tenantReference, cutoff, [sampleWork], none⟩
  | .claim _ _ _ => .ok (some "token")
  | .readRecovery _ _ _ => .ok sampleView
  | .complete _ =>
    if (h.any fun ev ↦ ev.op matches .complete _) = true then .ok true else first
  | _ => .error (.host "not called")

/-- What is left of the sample scan after `n` calls. -/
def sampleScan (first : Except Exn Bool) (n : ℕ) :
    RecoveryProgram Unit (Option (List RecoveryWorkerResult)) × RecoveryHistory Unit :=
  (sampleWorker.scan 0 100 1).replay (scheduleAnswers first) n []

theorem sampleScan_finishes {first : Except Exn Bool} {n : ℕ}
    {r : Except Exn (Option (List RecoveryWorkerResult))} (hr : (sampleScan first n).1 = .orRaise r) :
    Finishes (fun _ _ ↦ True) (sampleWorker.scan 0 100 1) (sampleScan first n).2 r := by
  rw [Finishes, ← hr]
  exact Executes.replay (fun _ _ ↦ trivial) n .refl

/-- **A token acknowledged twice.** The schedule raises on the deferral, and the token is
acknowledged once more, as one of a failed operation. -/
theorem deferral_acknowledged_twice :
    Finishes (fun _ _ ↦ True) (sampleWorker.scan 0 100 1)
        (sampleScan (.error (.host "ConnectionError")) 5).2
        (.ok (some [⟨"proposal", .deferred, .execute, some "recovery_operation_failed"⟩])) ∧
      ¬ScanSound (sampleScan (.error (.host "ConnectionError")) 5).2
        (.ok (some [⟨"proposal", .deferred, .execute, some "recovery_operation_failed"⟩])) := by
  refine ⟨sampleScan_finishes rfl, fun hsound ↦ ?_⟩
  have hopen := hsound.once _ _ _ (List.suffix_refl _)
  cases hopen

/-- The scan of a schedule that acknowledges the deferral. -/
theorem scan_sound_iff_sample :
    (ScanSound (sampleScan (.ok true) 4).2
        (.ok (some [⟨"proposal", .deferred, .execute, some "recovery_execution_deferred"⟩])) ↔
      ¬DeferralRaised (sampleScan (.ok true) 4).2) ∧
    (.ok (some [⟨"proposal", .deferred, .execute, some "recovery_execution_deferred"⟩]) =
        (.ok none : Except Exn (Option (List RecoveryWorkerResult))) →
      (pagesOf (sampleScan (.ok true) 4).2).length = 1 ∧
        ∀ page ∈ pagesOf (sampleScan (.ok true) 4).2, page.nextCursor ≠ none) :=
  scan_sound_iff (sampleScan_finishes rfl)

end Sample

end ThrevoActions
