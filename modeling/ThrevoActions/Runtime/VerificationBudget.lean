import ThrevoActions.Runtime.Lease

/-!
# The verification budget

A proposal counts the verifications that were admitted since the counter last started again: with
its creation, with a resend, or when an operator resumes verification. The counter never exceeds the
budget of the proposal (`attempts_le_budget`), it grows with every call of the verifier before the
call (`verification_budget`), and it starts again in no other way (`CounterStep`).

A call of the verifier may be late: admitted before an operator resumes verification, performed
afterwards. So it is the admissions between two starts that are bounded, not the calls
(`late_call_exceeds_budget`).
-/

namespace ThrevoActions

open Interleaving Interleaving.Program

variable {V : Type} [HostModels V] {H : Signature}

/-! ## The counter of a proposal -/

def Receipt.isRecovery : Receipt → Bool
  | .recovery _ => true
  | _ => false

/-- A resend makes a proposal whose verification was pending authorized again. -/
def isResend (current updated : StoredProposal) : Bool :=
  current.lifecycleStatus == .verificationPending && updated.lifecycleStatus == .authorized

/-- An operator who resumes verification leaves a recovery receipt. -/
def isResume (current updated : StoredProposal) : Bool :=
  (updated.receipts.drop current.receipts.length).any Receipt.isRecovery

/-- The counter is reset with a resend, and when an operator resumes verification. -/
def startsAgain (current updated : StoredProposal) : Bool :=
  isResend current updated || isResume current updated

/-- What a change of a proposal does to its counter. -/
inductive CounterStep (current updated : StoredProposal) : Prop
  | kept (hattempts : updated.verificationAttempts = current.verificationAttempts)
  | advanced (hbudget : current.verificationAttempts < current.maxVerificationAttempts)
      (hattempts : updated.verificationAttempts = current.verificationAttempts + 1)
  | restarted (hstarts : startsAgain current updated = true)
      (hattempts : updated.verificationAttempts = 0)

theorem verificationTransition_resendAllowed (definition : ActionDeclaration V)
    (record : StoredProposal) (verification : VerificationResult V) (attempts : ℕ)
    (hresend : (verificationTransition definition record verification attempts).outcome =
      .resendAllowed) :
    (verificationTransition definition record verification attempts).target = .authorized := by
  rw [verificationTransition] at hresend ⊢
  cases hstatus : verification.status with
  | authoritativeFinalAbsence =>
    simp only [hstatus] at hresend ⊢
    split_ifs at hresend ⊢
    rfl
  | verifiedCompletion =>
    simp only [hstatus] at hresend
    split_ifs at hresend
  | verifiedTerminalFailure =>
    rw [hstatus] at hresend
    cases hresend
  | provisionalAbsence | targetUnavailable =>
    simp only [hstatus] at hresend
    split_ifs at hresend

theorem Write.counterStep {h : RuntimeHistory V H} {current updated : StoredProposal}
    (hwrite : Write h current updated) : CounterStep current updated := by
  cases hwrite with
  | expired | authorityRecorded | blocked | stale | superseded | executionSettled | takenOver
  | unresolved => exact .kept rfl
  | verificationAdmitted definition _ _ _ hattempts => exact .advanced hattempts rfl
  | @verificationSettled _ definition previous verification now _ _ _ hstatus =>
    by_cases hresend : (verificationTransition definition
        (verificationAdmittedProposal definition previous now) verification
        (verificationAdmittedProposal definition previous now).verificationAttempts).outcome =
          .resendAllowed
    · refine .restarted ?_ (if_pos hresend)
      have htarget := verificationTransition_resendAllowed _ _ _ _ hresend
      have hpending : (verificationAdmittedProposal definition previous now).lifecycleStatus =
        .verificationPending := hstatus
      rw [startsAgain, isResend, hpending, verificationSettledProposal, htarget]
      rfl
    · exact .kept (if_neg hresend)
  | resumed =>
    refine .restarted ?_ rfl
    rw [startsAgain, isResume, resumedProposal, List.drop_left]
    exact Bool.or_true _

theorem Write.maxVerificationAttempts {h : RuntimeHistory V H} {current updated : StoredProposal}
    (hwrite : Write h current updated) :
    updated.maxVerificationAttempts = current.maxVerificationAttempts := by
  cases hwrite <;> rfl

/-- **A change of a proposal** keeps its budget and takes a step of its counter. -/
theorem Change.counterStep {h : RuntimeHistory V H} {o : Op V H} {current updated : StoredProposal}
    (hchange : Change h o (some current) updated) :
    updated.maxVerificationAttempts = current.maxVerificationAttempts ∧
      CounterStep current updated := by
  cases hchange with
  | written _ hissued =>
    exact ⟨hissued.write.maxVerificationAttempts, hissued.write.counterStep⟩
  | admitted _ hissued =>
    rw [hissued.updated]
    exact ⟨rfl, .kept rfl⟩
  | erasureMarked | erased => exact ⟨rfl, .kept rfl⟩

theorem Change.created_attempts {h : RuntimeHistory V H} {o : Op V H} {record : StoredProposal}
    (hchange : Change h o none record) : record.verificationAttempts = 0 := by
  cases hchange with
  | created _ hissued =>
    obtain ⟨_, _, _, _, _, _, _, _, _, _, _, _, rfl, -⟩ := hissued
    rfl

section Reachable

variable [UnicodeNormalization] {env : Env V H} {executorOf : ExecutorOf V H}
  {hostIssues : RuntimeHistory V H → H.Op → Prop} {start : Timestamp} {c : RuntimeConfig V H}

/-- **The counter never exceeds the budget.** -/
theorem RuntimeReachable.attempts_le_budget
    (hexecutors : ∀ definition, LawfulExecutor hostIssues definition (executorOf definition))
    (hc : RuntimeReachable env executorOf start c) {key : ProposalKey} {record : StoredProposal}
    (hrecord : c.shared.store.proposals key = some record) :
    record.verificationAttempts ≤ record.maxVerificationAttempts := by
  refine RuntimeReachable.induction (P := fun _ world ↦ ∀ record,
    world.store.proposals key = some record →
      record.verificationAttempts ≤ record.maxVerificationAttempts)
    hexecutors ?_ ?_ ?_ hc record hrecord
  · intro record hrecord
    cases hrecord
  · intro c hc i o answer world' hissues hexec ih record hrecord
    rcases hc.change hissues hexec key with hsame | ⟨record', hafter, hchange⟩
    · exact ih record (hsame ▸ hrecord)
    · rw [hafter] at hrecord
      cases hrecord
      cases hbefore : c.shared.store.proposals key with
      | none =>
        rw [hbefore] at hchange
        rw [hchange.created_attempts]
        exact Nat.zero_le _
      | some current =>
        rw [hbefore] at hchange
        obtain ⟨hmax, hstep⟩ := hchange.counterStep
        have hcurrent := ih current hbefore
        rw [hmax]
        cases hstep with
        | kept hattempts => omega
        | advanced hbudget hattempts => omega
        | restarted _ hattempts => omega
  · exact fun _ _ _ _ ih ↦ ih

end Reachable

/-! ## A stretch of the log -/

/-- What the operation does to the proposal under `key`, if that is on file before and after. -/
def onProposal (key : ProposalKey) (judge : StoredProposal → StoredProposal → Bool)
    (e : Entry (runtimeSignature V H) Exn World) : Bool :=
  match e.before.store.proposals key, e.after.store.proposals key with
  | some current, some updated => judge current updated
  | _, _ => false

/-- The operation takes the counter up. -/
def advancesCounter (key : ProposalKey) : Entry (runtimeSignature V H) Exn World → Bool :=
  onProposal key fun current updated ↦ current.verificationAttempts < updated.verificationAttempts

/-- The operation is a resend, or an operator resumes verification with it. -/
def restartsCounter (key : ProposalKey) : Entry (runtimeSignature V H) Exn World → Bool :=
  onProposal key startsAgain

/-- An operator resumes verification with the operation. -/
def resumesVerification (key : ProposalKey) : Entry (runtimeSignature V H) Exn World → Bool :=
  onProposal key isResume

theorem onProposal_eq {key : ProposalKey} {judge : StoredProposal → StoredProposal → Bool}
    {e : Entry (runtimeSignature V H) Exn World} {current updated : StoredProposal}
    (hbefore : e.before.store.proposals key = some current)
    (hafter : e.after.store.proposals key = some updated) :
    onProposal key judge e = judge current updated := by
  rw [onProposal, hbefore, hafter]

/-- The store after the operations of a log. -/
def storeAfter : RuntimeLog V H → MemoryActionStore
  | [] => .empty
  | e :: _ => e.after.store

/-- How far the counter of the proposal under `key` is. -/
def MemoryActionStore.attemptsOf (store : MemoryActionStore) (key : ProposalKey) : ℕ :=
  (store.proposals key).elim 0 (·.verificationAttempts)

section Stretches

variable [UnicodeNormalization] {env : Env V H} {executorOf : ExecutorOf V H}
  {hostIssues : RuntimeHistory V H → H.Op → Prop} {start : Timestamp} {c : RuntimeConfig V H}
  {key : ProposalKey}

/-- One operation that does not restart the counter. -/
theorem RuntimeReachable.step_attempts (hc : RuntimeReachable env executorOf start c) {i : ℕ} {o : Op V H}
    {answer : Except Exn o.Ans} {world' : World}
    (hissues : (runtimeContract hostIssues).issues (historyOf c.log i) o)
    (hexec : c.shared.exec env o answer world')
    (hrestart : restartsCounter (V := V) (H := H) key ⟨i, ⟨o, answer⟩, c.shared, world'⟩ = false) :
    c.shared.store.attemptsOf key +
        (if advancesCounter (V := V) (H := H) key ⟨i, ⟨o, answer⟩, c.shared, world'⟩ = true
          then 1 else 0) ≤ world'.store.attemptsOf key ∧
      ∀ current, c.shared.store.proposals key = some current →
        ∃ updated, world'.store.proposals key = some updated ∧
          updated.maxVerificationAttempts = current.maxVerificationAttempts := by
  cases hbefore : c.shared.store.proposals key with
  | none =>
    refine ⟨?_, by rintro current ⟨⟩⟩
    rw [MemoryActionStore.attemptsOf, advancesCounter, onProposal, hbefore]
    exact Nat.zero_le _
  | some current =>
    rcases hc.change hissues hexec key with hsame | ⟨updated, hafter, hchange⟩
    · rw [hbefore] at hsame
      refine ⟨?_, by rintro _ ⟨⟩; exact ⟨current, hsame, rfl⟩⟩
      rw [advancesCounter, onProposal_eq hbefore hsame, MemoryActionStore.attemptsOf,
        MemoryActionStore.attemptsOf, hbefore, hsame]
      simp
    · rw [hbefore] at hchange
      obtain ⟨hmax, hstep⟩ := hchange.counterStep
      refine ⟨?_, by rintro _ ⟨⟩; exact ⟨updated, hafter, hmax⟩⟩
      rw [restartsCounter, onProposal_eq hbefore hafter] at hrestart
      rw [advancesCounter, onProposal_eq hbefore hafter, MemoryActionStore.attemptsOf,
        MemoryActionStore.attemptsOf, hbefore, hafter]
      simp only [Option.elim_some, decide_eq_true_eq]
      cases hstep with
      | kept hattempts => simp [hattempts]
      | advanced hbudget hattempts => simp [hattempts]
      | restarted hstarts =>
        rw [hrestart] at hstarts
        cases hstarts

/-- **A stretch without a restart takes the counter up with every admission in it.** -/
theorem RuntimeReachable.stretch_attempts
    (hexecutors : ∀ definition, LawfulExecutor hostIssues definition (executorOf definition))
    (hc : RuntimeReachable env executorOf start c) {stretch older : RuntimeLog V H}
    (hlog : c.log = stretch ++ older)
    (hrestart : ∀ x ∈ stretch, restartsCounter key x = false) :
    (storeAfter older).attemptsOf key + stretch.countP (advancesCounter key) ≤
        c.shared.store.attemptsOf key ∧
      ∀ first, (storeAfter older).proposals key = some first →
        ∃ record, c.shared.store.proposals key = some record ∧
          record.maxVerificationAttempts = first.maxVerificationAttempts := by
  refine RuntimeReachable.induction (P := fun log world ↦ ∀ stretch, log = stretch ++ older →
    (∀ x ∈ stretch, restartsCounter key x = false) →
    (storeAfter older).attemptsOf key + stretch.countP (advancesCounter key) ≤
        world.store.attemptsOf key ∧
      ∀ first, (storeAfter older).proposals key = some first →
        ∃ record, world.store.proposals key = some record ∧
          record.maxVerificationAttempts = first.maxVerificationAttempts)
    hexecutors ?_ ?_ ?_ hc stretch hlog hrestart
  · intro stretch hlog _
    obtain ⟨rfl, rfl⟩ := List.append_eq_nil_iff.mp hlog.symm
    exact ⟨Nat.le_refl _, fun first hfirst ↦ ⟨first, hfirst, rfl⟩⟩
  · intro c hc i o answer world' hissues hexec ih stretch hlog hrestart
    cases stretch with
    | nil =>
      obtain rfl := hlog
      exact ⟨Nat.le_refl _, fun first hfirst ↦ ⟨first, hfirst, rfl⟩⟩
    | cons e stretch =>
      obtain ⟨rfl, hrest⟩ := List.cons.inj hlog
      obtain ⟨hcount, hfirst⟩ := ih stretch hrest fun x hx ↦ hrestart x (List.mem_cons_of_mem _ hx)
      obtain ⟨hadvance, hkeeps⟩ := hc.step_attempts hissues hexec (hrestart _ List.mem_cons_self)
      rw [List.countP_cons]
      refine ⟨by omega, fun first hfirst' ↦ ?_⟩
      obtain ⟨current, hcurrent, hmax⟩ := hfirst first hfirst'
      obtain ⟨record, hrecord, hmax'⟩ := hkeeps current hcurrent
      exact ⟨record, hrecord, hmax'.trans hmax⟩
  · exact fun _ _ _ _ ih ↦ ih

end Stretches

/-! ## Calls of the verifier -/

/-- The operation calls the verifier for the proposal under `key`. -/
def callsVerifier (key : ProposalKey) (e : Entry (runtimeSignature V H) Exn World) : Bool :=
  match e.event.op with
  | .verify _ context => (context.tenantReference, context.proposalReference) == key
  | _ => false

/-- The last thing caller `i` has done is to take the counter up. -/
def justAdvanced (key : ProposalKey) (log : RuntimeLog V H) (i : ℕ) : Bool :=
  (log.find? fun x ↦ x.caller == i).any (advancesCounter key)

/-- The calls of the verifier whose admission is logged, too. -/
def admittedCalls (key : ProposalKey) : RuntimeLog V H → ℕ
  | [] => 0
  | e :: log =>
    admittedCalls key log + if callsVerifier key e && justAdvanced key log e.caller then 1 else 0

/-- The callers that have just taken the counter up. -/
def outstanding (key : ProposalKey) : RuntimeLog V H → List ℕ
  | [] => []
  | e :: log =>
    if advancesCounter key e then e.caller :: (outstanding key log).filter (· ≠ e.caller)
    else (outstanding key log).filter (· ≠ e.caller)

theorem mem_outstanding {key : ProposalKey} {log : RuntimeLog V H} {i : ℕ} :
    i ∈ outstanding key log ↔ justAdvanced key log i = true := by
  induction log with
  | nil => simp [outstanding, justAdvanced]
  | cons e log ih =>
    rw [outstanding, justAdvanced, List.find?_cons]
    by_cases hcaller : e.caller = i
    · subst hcaller
      by_cases hadvances : advancesCounter key e = true
      · simp [hadvances]
      · simp [hadvances]
    · have hother : (e.caller == i) = false := beq_eq_false_iff_ne.mpr hcaller
      have hmem : i ∈ (outstanding key log).filter (· ≠ e.caller) ↔ i ∈ outstanding key log := by
        simp [Ne.symm hcaller]
      rw [hother]
      split_ifs
      · rw [List.mem_cons, or_iff_right (Ne.symm hcaller), hmem, ih, justAdvanced]
      · rw [hmem, ih, justAdvanced]

theorem length_filter_ne_lt {l : List ℕ} {i : ℕ} (hi : i ∈ l) :
    (l.filter (· ≠ i)).length < l.length :=
  List.length_filter_lt_length_iff_exists.mpr ⟨i, hi, by simp⟩

/-- **Every call of the verifier uses up an admission of its own.** -/
theorem admittedCalls_le {key : ProposalKey} (log : RuntimeLog V H) :
    admittedCalls key log + (outstanding key log).length ≤ log.countP (advancesCounter key) := by
  induction log with
  | nil => exact Nat.le_refl _
  | cons e log ih =>
    have hrest := List.length_filter_le (· ≠ e.caller) (outstanding key log)
    have hused : justAdvanced key log e.caller = true →
        ((outstanding key log).filter (· ≠ e.caller)).length < (outstanding key log).length :=
      fun h ↦ length_filter_ne_lt (mem_outstanding.mpr h)
    rw [admittedCalls, outstanding, List.countP_cons]
    by_cases hadvances : advancesCounter key e = true
    · rw [if_pos hadvances, if_pos hadvances, List.length_cons]
      by_cases hcall : (callsVerifier key e && justAdvanced key log e.caller) = true
      · have hlt := hused (Bool.and_eq_true_iff.mp hcall).2
        rw [if_pos hcall]
        omega
      · rw [if_neg hcall]
        omega
    · rw [if_neg hadvances, if_neg hadvances]
      by_cases hcall : (callsVerifier key e && justAdvanced key log e.caller) = true
      · have hlt := hused (Bool.and_eq_true_iff.mp hcall).2
        rw [if_pos hcall]
        omega
      · rw [if_neg hcall]
        omega

theorem historyOf_append (newer older : RuntimeLog V H) (i : ℕ) :
    historyOf (newer ++ older) i = historyOf newer i ++ historyOf older i := by
  induction newer with
  | nil => rfl
  | cons e newer ih =>
    by_cases hcaller : e.caller = i
    · subst hcaller
      rw [List.cons_append, historyOf_cons_self, historyOf_cons_self, ih, List.cons_append]
    · rw [List.cons_append, historyOf_cons_of_ne hcaller, historyOf_cons_of_ne hcaller, ih]

/-- The newest event of a caller's history is that of its newest entry. -/
theorem find?_caller {log older : RuntimeLog V H} {x : Entry (runtimeSignature V H) Exn World}
    (hx : x :: older <:+ log)
    (hhistory : historyOf log x.caller = x.event :: historyOf older x.caller) :
    (log.find? fun y ↦ y.caller == x.caller) = some x := by
  obtain ⟨newer, rfl⟩ := hx
  have hnone : historyOf newer x.caller = [] := by
    rw [historyOf_append, historyOf_cons_self] at hhistory
    have hlength := congrArg List.length hhistory
    simp only [List.length_append] at hlength
    exact List.eq_nil_of_length_eq_zero (by omega)
  refine List.find?_eq_some_iff_append.mpr ⟨beq_self_eq_true _, newer, older, rfl, fun y hy ↦ ?_⟩
  rw [Bool.not_eq_true', beq_eq_false_iff_ne]
  intro hcaller
  have hmem : y.event ∈ historyOf newer x.caller := mem_historyOf.mpr ⟨y, hy, hcaller, rfl⟩
  rw [hnone] at hmem
  cases hmem

section Admissions

variable [UnicodeNormalization] {env : Env V H} {executorOf : ExecutorOf V H}
  {hostIssues : RuntimeHistory V H → H.Op → Prop} {start : Timestamp} {c : RuntimeConfig V H}
  {key : ProposalKey}

/-- A guarded write over a known record that was answered with success has replaced it. -/
theorem RuntimeReachable.written_known (hc : RuntimeReachable env executorOf start c)
    {e : Entry (runtimeSignature V H) Exn World} {past : RuntimeLog V H} (he : e :: past <:+ c.log)
    {record updated : StoredProposal} (hknown : Known (historyOf past e.caller) record)
    (hevent : e.event = ⟨.compareAndSet (casArguments record updated), .ok true⟩)
    (hkey : updated.key = record.key) :
    e.before.store.proposals record.key = some record ∧
      e.after.store.proposals record.key = some updated := by
  have hexec := hc.exec (he.subset List.mem_cons_self)
  rw [hevent] at hexec
  obtain ⟨hanswer, hafter⟩ := World.StoreCall.ok hexec
  obtain ⟨⟨c₁, hc₁, rfl, hshared⟩, -⟩ := hc.at_entry he
  have hupToDate := RuntimeReachable.knows_current hc₁ hknown
  rw [hshared] at hupToDate
  rcases MemoryActionStore.compareAndSet_cases e.before.store (casArguments record updated) with
    ⟨-, hrefused⟩ | ⟨found, happlied⟩
  · exact absurd hanswer hrefused
  · obtain rfl := hupToDate.eq_of_revision happlied.found happlied.revision
    refine ⟨happlied.found, ?_⟩
    rw [hafter, happlied.result, ← hkey]
    exact MemoryActionStore.put_proposals_self _ _

/-- **Every call of the verifier has been admitted**: the last thing its caller did was to take the
counter up. -/
theorem RuntimeReachable.justAdvanced_of_callsVerifier
    (hexecutors : ∀ definition, LawfulExecutor hostIssues definition (executorOf definition))
    (hc : RuntimeReachable env executorOf start c)
    {e : Entry (runtimeSignature V H) Exn World} {past : RuntimeLog V H} (he : e :: past <:+ c.log)
    (hcalls : callsVerifier key e = true) : justAdvanced key past e.caller = true := by
  rw [callsVerifier] at hcalls
  split at hcalls
  · rename_i definition context hop
    have hpast : past <:+ c.log := (List.suffix_cons _ _).trans he
    have hissued := hc.issued hexecutors he
    rw [hop] at hissued
    obtain ⟨previous, hready⟩ := hissued
    obtain ⟨pastHistory, hhistory⟩ := hready.justAdmitted
    obtain ⟨v, before, hv, hown, hevent, hbefore⟩ := exists_entry_of_historyOf hhistory
    have hknown := hready.known
    rw [hhistory, List.tail_cons, ← hbefore, ← hown] at hknown
    obtain ⟨hcurrent, hadmitted⟩ := hc.written_known (hv.trans hpast) hknown hevent rfl
    have hkey : previous.key = key := by
      rw [(executionContext_fields hready.contextOf).1] at hcalls
      exact eq_of_beq hcalls
    rw [hkey] at hcurrent hadmitted
    rw [← hbefore, ← hevent, ← hown] at hhistory
    rw [justAdvanced, ← hown, find?_caller hv hhistory, Option.any_some, advancesCounter,
      onProposal_eq hcurrent hadmitted, decide_eq_true_eq]
    exact Nat.lt_succ_self _
  · cases hcalls

end Admissions

/-! ## Calls of `reconcile` -/

/-- What call `i` of `reconcile` did after the operations `older`: it read a proposal whose
verification was pending, and a time at which it was due, and every guarded write it tried was
answered with success. -/
structure ReconcilesDue (c : RuntimeConfig V H) (older : RuntimeLog V H) (key : ProposalKey)
    (i : ℕ) : Prop where
  finished : ∃ runtime definition r,
    c.calls[i]? = some (.reconcile runtime definition key.1 key.2, orRaise r)
  begins : historyOf older i = []
  due : ∃ later record now, historyOf c.log i = later ++ [⟨.now, .ok now⟩,
      ⟨.get record.tenantReference record.proposalReference, .ok (some record)⟩] ∧
    record.lifecycleStatus = .verificationPending ∧ notYetDue record now = false
  wins : ∀ args answer, ⟨.compareAndSet args, answer⟩ ∈ historyOf c.log i → answer = .ok true

/-- If a coroutine with history `h` had read a pending proposal that is due, and has lost no guarded
write, then its first one was the end of the verification or the admission of another attempt. -/
def Attempts (definition : ActionDeclaration V) (key : ProposalKey) (h : RuntimeHistory V H) :
    Prop :=
  ∀ later record now, h = later ++ [⟨.now, .ok now⟩,
      ⟨.get record.tenantReference record.proposalReference, .ok (some record)⟩] →
    record.lifecycleStatus = .verificationPending → notYetDue record now = false →
    (∀ args answer, ⟨.compareAndSet args, answer⟩ ∈ h → answer = .ok true) →
    record.key = key ∧ ∃ updated, (updated = unresolvedProposal record ∨
        updated = verificationAdmittedProposal definition record now) ∧
      ⟨.compareAndSet (casArguments record updated), .ok true⟩ :: [⟨.now, .ok now⟩,
        ⟨.get record.tenantReference record.proposalReference, .ok (some record)⟩] <:+ h

section Reconcile

variable {definition : ActionDeclaration V} {key : ProposalKey} {record : StoredProposal}
  {now : Timestamp}

/-- Two readings that are the same have read the same. -/
theorem eq_of_read {record record' : StoredProposal}
    (hread : (⟨.get record.tenantReference record.proposalReference, .ok (some record)⟩ :
        Event (runtimeSignature V H) Exn) =
      ⟨.get record'.tenantReference record'.proposalReference, .ok (some record')⟩) :
    record = record' := by
  injection hread with hop hanswer
  injection hop with htenant hproposal
  rw [htenant, hproposal] at hanswer
  exact Option.some.inj (Except.ok.inj hanswer)

/-- Too little was done to have read both. -/
theorem Attempts.of_length {h : RuntimeHistory V H} (hlength : h.length < 2) :
    Attempts definition key h := by
  rintro later record now rfl
  simp at hlength

/-- What a coroutine has read first it goes on to have read first. -/
theorem Attempts.of_reading {h : RuntimeHistory V H}
    (hreading : [⟨.now, .ok now⟩,
      ⟨.get record.tenantReference record.proposalReference, .ok (some record)⟩] <:+ h)
    (hattempts : record.lifecycleStatus = .verificationPending → notYetDue record now = false →
      (∀ args answer, ⟨.compareAndSet args, answer⟩ ∈ h → answer = .ok true) →
      record.key = key ∧ ∃ updated, (updated = unresolvedProposal record ∨
          updated = verificationAdmittedProposal definition record now) ∧
        ⟨.compareAndSet (casArguments record updated), .ok true⟩ :: [⟨.now, .ok now⟩,
          ⟨.get record.tenantReference record.proposalReference, .ok (some record)⟩] <:+ h) :
    Attempts definition key h := by
  intro later record' now' hh
  obtain ⟨newer, rfl⟩ := hreading
  obtain ⟨hnow, hrest⟩ := List.cons.inj (List.append_inj' hh rfl).2
  obtain ⟨hget, -⟩ := List.cons.inj hrest
  cases hnow
  have hsame := eq_of_read hget
  subst hsame
  exact hattempts

/-- The rest of a coroutine whose first guarded write was `args`. -/
theorem attempts_after {p : Coroutine V H ActionOperationResult} {updated : StoredProposal}
    (hkey : record.key = key) (hupdated : updated = unresolvedProposal record ∨
      updated = verificationAdmittedProposal definition record now) (answer : Except Exn Bool) :
    p.Meets free (fun h _ ↦ Attempts definition key h)
      [⟨.compareAndSet (casArguments record updated), answer⟩, ⟨.now, .ok now⟩,
        ⟨.get record.tenantReference record.proposalReference, .ok (some record)⟩] := by
  refine Meets.imp (meets_free p _) fun h r hsuffix _ ↦ ?_
  refine Attempts.of_reading ((List.suffix_cons _ _).trans hsuffix) fun _ _ hwins ↦ ?_
  obtain rfl := hwins _ _ (hsuffix.subset List.mem_cons_self)
  exact ⟨hkey, updated, hupdated, hsuffix⟩

/-- **A due verification is attempted or given up.** -/
theorem reconcile_attempts (runtime : ActionRuntime) (definition : ActionDeclaration V)
    (tenantReference proposalReference : SafeReference) :
    (reconcile (H := H) runtime definition tenantReference proposalReference).Meets free
      (fun h _ ↦ Attempts definition (tenantReference, proposalReference) h) [] := by
  refine required_cases trivial (fun _ ↦ .of_length Nat.one_lt_two)
    (fun _ _ ↦ .of_length Nat.one_lt_two) fun record hkey ↦ ?_
  refine Meets.raiseIf_bind (fun _ ↦ .of_length Nat.one_lt_two) fun _ ↦
    Meets.raiseIf_bind (fun _ ↦ .of_length Nat.one_lt_two) fun _ ↦ ?_
  refine Meets.perform_bind trivial (fun e _ ↦ ?_) fun now _ ↦ ?_
  · intro later record' now' hh
    rw [← List.nil_append (_ :: _)] at hh
    obtain ⟨hnow, -⟩ := List.cons.inj (List.append_inj' hh rfl).2
    cases hnow
  -- a proposal in another status is no concern of the claim
  have hother : record.lifecycleStatus ≠ .verificationPending →
      ∀ p : Coroutine V H ActionOperationResult, p.Meets free
        (fun h _ ↦ Attempts definition (tenantReference, proposalReference) h)
        [⟨.now, .ok now⟩,
          ⟨.get record.tenantReference record.proposalReference, .ok (some record)⟩] := by
    intro hstatus p
    refine Meets.imp (meets_free p _) fun h r hsuffix _ ↦ ?_
    exact Attempts.of_reading hsuffix fun hpending ↦ absurd hpending hstatus
  split
  · rename_i hleased
    refine hother ?_ (pure _)
    rw [hleased.1]
    decide
  split
  · rename_i hstatus
    refine hother (fun hpending ↦ ?_) _
    rw [hpending] at hstatus
    revert hstatus
    decide
  split
  · rename_i hstatus
    exact hother hstatus (pure _)
  rw [reconcilePending]
  split
  · rename_i hdue
    refine Attempts.of_reading (List.suffix_refl _) fun _ hnotYet ↦ ?_
    rw [hdue] at hnotYet
    cases hnotYet
  split
  · refine Meets.perform_bind trivial (fun e _ ↦ ?_) fun written _ ↦ ?_
    · exact (attempts_after (p := throw e) hkey (.inl rfl) _)
    · exact attempts_after hkey (.inl rfl) _
  · refine Meets.perform_bind trivial (fun e _ ↦ ?_) fun written _ ↦ ?_
    · exact (attempts_after (p := throw e) hkey (.inr rfl) _)
    · exact attempts_after hkey (.inr rfl) _

end Reconcile

/-- Without an operator, the counter starts again only when the proposal leaves
`VERIFICATION_PENDING`. -/
theorem restartsCounter_eq_false {key : ProposalKey}
    {x : Entry (runtimeSignature V H) Exn World}
    (hresume : resumesVerification key x = false)
    (hpending : x.after.store.statusOf key = some .verificationPending) :
    restartsCounter key x = false := by
  rw [resumesVerification, onProposal] at hresume
  rw [restartsCounter, onProposal]
  cases hbefore : x.before.store.proposals key with
  | none => rfl
  | some current =>
    cases hafter : x.after.store.proposals key with
    | none => rfl
    | some updated =>
      rw [hbefore, hafter] at hresume
      rw [MemoryActionStore.statusOf, hafter, Option.map_some, Option.some_inj] at hpending
      have hresend : isResend current updated = false := by
        rw [isResend, hpending]
        exact Bool.and_false _
      simp only [startsAgain, hresend, hresume, Bool.or_false]

section Budget

variable [UnicodeNormalization] {env : Env V H} {executorOf : ExecutorOf V H}
  {hostIssues : RuntimeHistory V H → H.Op → Prop} {start : Timestamp} {c : RuntimeConfig V H}
  {key : ProposalKey}

/-- A call of `reconcile` that is due and loses no write takes the counter up, or takes the proposal
out of `VERIFICATION_PENDING`. -/
theorem RuntimeReachable.advances_of_due (hc : RuntimeReachable env executorOf start c)
    {stretch older : RuntimeLog V H} (hlog : c.log = stretch ++ older) {i : ℕ}
    (hdue : ReconcilesDue c older key i) :
    ∃ x ∈ stretch, x.caller = i ∧ (advancesCounter key x = true ∨
      x.after.store.statusOf key ≠ some .verificationPending) := by
  obtain ⟨runtime, definition, r, hcall⟩ := hdue.finished
  obtain ⟨later, record, now, hreading, hstatus, hdue'⟩ := hdue.due
  have hattempts : Attempts definition key (historyOf c.log i) := by
    have hexecutes : Executes (fun _ _ ↦ True) _ [] (orRaise r) (historyOf c.log i) :=
      Reachable.executes (fun _ _ _ _ _ ↦ trivial) hc hcall
    have hmeets := (reconcile_attempts (H := H) runtime definition key.1 key.2).executes hexecutes
    cases r <;> exact hmeets
  obtain ⟨hkey, updated, hupdated, hwrite⟩ := hattempts later record now hreading hstatus hdue'
    hdue.wins
  obtain ⟨x, past, hx, hcaller, hevent, hpast⟩ := exists_entry_of_suffix hwrite
  have hknown : Known (historyOf past x.caller) record := by
    rw [hcaller, hpast]
    exact .read (List.mem_cons_of_mem _ List.mem_cons_self)
  have hsamekey : updated.key = record.key := by
    rcases hupdated with rfl | rfl <;> rfl
  obtain ⟨hbefore, hafter⟩ := hc.written_known hx hknown hevent hsamekey
  rw [hkey] at hbefore hafter
  refine ⟨x, ?_, hcaller, ?_⟩
  · have hmem : x ∈ stretch ++ older := hlog ▸ hx.subset List.mem_cons_self
    refine (List.mem_append.mp hmem).resolve_right fun hold ↦ ?_
    have hbegun : x.event ∈ historyOf older i := mem_historyOf.mpr ⟨x, hold, hcaller, rfl⟩
    rw [hdue.begins] at hbegun
    cases hbegun
  · rcases hupdated with rfl | rfl
    · right
      rw [MemoryActionStore.statusOf, hafter, Option.map_some]
      intro hpending
      cases hpending
    · left
      rw [advancesCounter, onProposal_eq hbefore hafter, decide_eq_true_eq]
      exact Nat.lt_succ_self _

/-- **Enough calls of `reconcile` end a pending verification.** -/
theorem RuntimeReachable.leaves_pending
    (hexecutors : ∀ definition, LawfulExecutor hostIssues definition (executorOf definition))
    (hc : RuntimeReachable env executorOf start c) {stretch older : RuntimeLog V H}
    (hlog : c.log = stretch ++ older) (hresume : ∀ x ∈ stretch, resumesVerification key x = false)
    {first : StoredProposal} (hfirst : (storeAfter older).proposals key = some first)
    {calls : List ℕ} (hdistinct : calls.Nodup) (hdue : ∀ i ∈ calls, ReconcilesDue c older key i)
    (henough : first.maxVerificationAttempts - first.verificationAttempts < calls.length) :
    ∃ x ∈ stretch, x.after.store.statusOf key ≠ some .verificationPending := by
  by_contra hstays
  push Not at hstays
  have hrestart : ∀ x ∈ stretch, restartsCounter key x = false := fun x hx ↦
    restartsCounter_eq_false (hresume x hx) (hstays x hx)
  obtain ⟨hcount, hkept⟩ := hc.stretch_attempts hexecutors hlog hrestart
  obtain ⟨record, hrecord, hmax⟩ := hkept first hfirst
  have hbudget := hc.attempts_le_budget hexecutors hrecord
  -- every call has an entry of its own that takes the counter up
  have hsubset : calls ⊆ (stretch.filter (advancesCounter key)).map Entry.caller := by
    intro i hi
    obtain ⟨x, hx, hcaller, hadvances⟩ := hc.advances_of_due hlog (hdue i hi)
    have hadvance := hadvances.resolve_right (not_not.mpr (hstays x hx))
    exact List.mem_map.mpr ⟨x, List.mem_filter.mpr ⟨hx, hadvance⟩, hcaller⟩
  have hlength := (hdistinct.subperm hsubset).length_le
  rw [List.length_map, ← List.countP_eq_length_filter] at hlength
  rw [MemoryActionStore.attemptsOf, MemoryActionStore.attemptsOf, hfirst, hrecord,
    Option.elim_some, Option.elim_some] at hcount
  omega

/-- **The verification budget.** The counter never exceeds its budget. Every call of the verifier
was admitted: the last thing its caller did was to take the counter up. Between two restarts of the
counter no more of these calls are admitted than the budget allows. And as many calls of `reconcile`
as are left in the budget, and one, take a pending verification to its end. -/
theorem verification_budget (key : ProposalKey)
    (hc : RuntimeReachable env (hostExecutors V H) start c) :
    (∀ record, c.shared.store.proposals key = some record →
      record.verificationAttempts ≤ record.maxVerificationAttempts) ∧
    (∀ e past, e :: past <:+ c.log → callsVerifier key e = true →
      justAdvanced key past e.caller = true) ∧
    (∀ stretch older record, c.log = stretch ++ older →
      (∀ x ∈ stretch, restartsCounter key x = false) →
      c.shared.store.proposals key = some record →
      admittedCalls key stretch ≤ record.maxVerificationAttempts) ∧
    (∀ (stretch older) (first : StoredProposal) (calls : List ℕ), c.log = stretch ++ older →
      (∀ x ∈ stretch, resumesVerification key x = false) →
      (storeAfter older).proposals key = some first →
      first.lifecycleStatus = .verificationPending →
      calls.Nodup → (∀ i ∈ calls, ReconcilesDue c older key i) →
      first.maxVerificationAttempts - first.verificationAttempts < calls.length →
      ∃ x ∈ stretch, x.after.store.statusOf key ≠ some .verificationPending) := by
  refine ⟨fun record hrecord ↦ ?_, fun e past he hcalls ↦ ?_, ?_, ?_⟩
  · exact hc.attempts_le_budget hostExecutors_lawful_any hrecord
  · exact hc.justAdvanced_of_callsVerifier hostExecutors_lawful_any he hcalls
  · intro stretch older record hlog hrestart hrecord
    have hcount := (hc.stretch_attempts hostExecutors_lawful_any hlog hrestart).1
    have hbudget := hc.attempts_le_budget hostExecutors_lawful_any hrecord
    have hadmitted : admittedCalls key stretch + _ ≤ _ := admittedCalls_le stretch
    rw [MemoryActionStore.attemptsOf, MemoryActionStore.attemptsOf, hrecord, Option.elim_some]
      at hcount
    omega
  · intro stretch older first calls hlog hresume hfirst _ hdistinct hdue henough
    exact hc.leaves_pending hostExecutors_lawful_any hlog hresume hfirst hdistinct hdue henough

end Budget

section Sample

attribute [local instance] normalizedTexts

/-- One verification is all this action allows, and an operator may ask for more. -/
def singleCheck : ActionDeclaration SampleModel :=
  { sampleDefinition with
    maxVerificationAttempts := 1
    hasRecoveryAuthorization := true
    maxVerificationAttempts_pos := Nat.one_pos }

/-- Calls 0, 1 and 2 bring a proposal of this action to its verification, and call 3 of `reconcile`
is admitted to it. -/
def singleCheckAdmitted : SampleTurns :=
  [.spawn (.prepare sampleRuntime singleCheck "tenant" .command ⟨"requester"⟩ none
    (some "proposal"))] ++ turnsOf 0 8 ++
  [.spawn (.recordAuthority sampleRuntime singleCheck (sampleEvidence "proposal")
    ⟨"approver"⟩ none)] ++ turnsOf 1 7 ++
  [.spawn (.execute sampleRuntime singleCheck "tenant" "proposal")] ++ turnsOf 2 18 ++
  [.spawn (.reconcile sampleRuntime singleCheck "tenant" "proposal")] ++ turnsOf 3 3

/-- An operator resumes the verification, twice. -/
def singleCheckResumed (expectedRevision : ℕ) : RuntimeCall SampleModel :=
  .resumeVerification sampleRuntime singleCheck "tenant" "proposal" expectedRevision ⟨"operator"⟩
    "intervention"

/-- Call 3 is admitted, an operator resumes verification and has the verifier called, call 3 calls
the verifier, and the operator resumes verification again. -/
def lateCheck : RuntimeConfig SampleModel noOperations :=
  sampleRun sampleAcceptance sampleNotYet
    (singleCheckAdmitted ++ [.spawn (singleCheckResumed 4)] ++ turnsOf 4 10 ++ turnsOf 3 1 ++
      turnsOf 4 3 ++ [.spawn (singleCheckResumed 7)] ++ turnsOf 5 5)

/-- **A late call of the verifier.** Between two restarts of the counter the verifier is called
twice, with a budget of one. -/
theorem late_call_exceeds_budget :
    ∃ c, RuntimeReachable (Env.oneClock fun _ ↦ false)
        (hostExecutors SampleModel noOperations) 0 c ∧
      ∃ later earlier stretch older record, c.log = later :: (stretch ++ earlier :: older) ∧
        restartsCounter ("tenant", "proposal") later = true ∧
        restartsCounter ("tenant", "proposal") earlier = true ∧
        (∀ x ∈ stretch, restartsCounter ("tenant", "proposal") x = false) ∧
        c.shared.store.proposals ("tenant", "proposal") = some record ∧
        record.maxVerificationAttempts <
          stretch.countP (callsVerifier ("tenant", "proposal")) := by
  refine ⟨lateCheck, sampleRun_reachable _ _ _, ?_⟩
  obtain ⟨later, past, hlater⟩ : ∃ e past, lateCheck.log.drop 0 = e :: past :=
    List.exists_cons_of_ne_nil (by decide +kernel)
  obtain ⟨earlier, older, hearlier⟩ : ∃ e past, lateCheck.log.drop 14 = e :: past :=
    List.exists_cons_of_ne_nil (by decide +kernel)
  have hbudget : (lateCheck.shared.store.proposals ("tenant", "proposal")).map
      StoredProposal.maxVerificationAttempts = some 1 := by
    decide +kernel
  obtain ⟨record, hrecord, hmax⟩ := Option.map_eq_some_iff.mp hbudget
  have hlog : lateCheck.log = later :: past := hlater
  have hstretch : (lateCheck.log.drop 1).take 13 = past.take 13 := by
    rw [hlog]
    rfl
  refine ⟨later, earlier, past.take 13, older, record, ?_, ?_, ?_, ?_, hrecord, ?_⟩
  · have hrest : past.drop 13 = earlier :: older := by
      rw [← hearlier, hlog]
      rfl
    rw [← hrest, List.take_append_drop, hlog]
  · exact eq_of_entry hlater (f := restartsCounter ("tenant", "proposal")) (by decide +kernel)
  · exact eq_of_entry hearlier (f := restartsCounter ("tenant", "proposal")) (by decide +kernel)
  · rw [← hstretch]
    have hall : ((lateCheck.log.drop 1).take 13).all
        (fun x ↦ !restartsCounter ("tenant", "proposal") x) = true := by
      decide +kernel
    intro x hx
    have hno := List.all_eq_true.mp hall x hx
    rwa [Bool.not_eq_true'] at hno
  · rw [hmax, ← hstretch]
    decide +kernel

/-- Call 3 is admitted and never goes on; when its lease is over, call 4 gives the verification
up. -/
def exhaustedCheck : RuntimeConfig SampleModel noOperations :=
  sampleRun sampleAcceptance sampleNotYet
    (singleCheckAdmitted ++ [.drift 60000000,
      .spawn (.reconcile sampleRuntime singleCheck "tenant" "proposal")] ++ turnsOf 4 4)

/-- Whether a coroutine with history `h` began with a reading of a pending proposal that is due. -/
def beginsDue (h : RuntimeHistory SampleModel noOperations) : Bool :=
  match h.reverse with
  | ⟨.get tenantReference proposalReference, .ok (some record)⟩ :: ⟨.now, .ok now⟩ :: _ =>
    decide (tenantReference = record.tenantReference) &&
      decide (proposalReference = record.proposalReference) &&
      decide (record.lifecycleStatus = .verificationPending) && !notYetDue record now
  | _ => false

theorem exists_dueReading {h : RuntimeHistory SampleModel noOperations}
    (hbegins : beginsDue h = true) :
    ∃ later record now, h = later ++ [⟨.now, .ok now⟩,
        ⟨.get record.tenantReference record.proposalReference, .ok (some record)⟩] ∧
      record.lifecycleStatus = .verificationPending ∧ notYetDue record now = false := by
  rw [beginsDue] at hbegins
  split at hbegins
  · rename_i tenantReference proposalReference record now later hreverse
    simp only [Bool.and_eq_true, decide_eq_true_eq, Bool.not_eq_true'] at hbegins
    obtain ⟨⟨⟨rfl, rfl⟩, hpending⟩, hdue⟩ := hbegins
    refine ⟨later.reverse, record, now, ?_, hpending, hdue⟩
    rw [← List.reverse_reverse h, hreverse, List.reverse_cons, List.reverse_cons,
      List.append_assoc]
    rfl
  · cases hbegins

/-- Whether an event is no lost write. -/
def wins : Event (runtimeSignature SampleModel noOperations) Exn → Bool
  | ⟨.compareAndSet _, .ok written⟩ => written
  | ⟨.compareAndSet _, .error _⟩ => false
  | _ => true

theorem exhaustedCheck_reconciled : (exhaustedCheck.calls[4]?.map fun call ↦
    match call with
    | (.reconcile _ _ tenantReference proposalReference, .ret _) =>
      (tenantReference, proposalReference)
    | _ => ("", "")) = some ("tenant", "proposal") := by
  decide +kernel

/-- The call that finds the budget exhausted is due. -/
theorem exhaustedCheck_due :
    ReconcilesDue exhaustedCheck (exhaustedCheck.log.drop 4) ("tenant", "proposal") 4 where
  finished := by
    obtain ⟨⟨call, program⟩, hcall, hret⟩ := Option.map_eq_some_iff.mp exhaustedCheck_reconciled
    split at hret
    · rename_i runtime definition tenantReference proposalReference result heq
      cases heq
      cases hret
      exact ⟨runtime, definition, .ok result, hcall⟩
    · exact absurd hret (by decide)
  begins := List.isEmpty_iff.mp (by decide +kernel)
  due := exists_dueReading (by decide +kernel)
  wins args answer hevent := by
    have hall : (historyOf exhaustedCheck.log 4).all wins = true := by
      decide +kernel
    have hwins := List.all_eq_true.mp hall _ hevent
    cases answer with
    | ok written =>
      have hwritten : written = true := hwins
      rw [hwritten]
    | error e => cases hwins

/-- With one admission behind it and a budget of one, one call of `reconcile` is enough. -/
theorem verification_budget_sample :
    ∃ x ∈ exhaustedCheck.log.take 4,
      x.after.store.statusOf ("tenant", "proposal") ≠ some .verificationPending := by
  have hstatus : ((storeAfter (exhaustedCheck.log.drop 4)).proposals ("tenant", "proposal")).map
      (fun first ↦ (first.lifecycleStatus, first.maxVerificationAttempts,
        first.verificationAttempts)) = some (.verificationPending, 1, 1) := by
    decide +kernel
  obtain ⟨first, hfirst, hcounter⟩ := Option.map_eq_some_iff.mp hstatus
  obtain ⟨hpending, hmax, hattempts⟩ : first.lifecycleStatus = .verificationPending ∧
      first.maxVerificationAttempts = 1 ∧ first.verificationAttempts = 1 := by
    simpa using hcounter
  have hresume : (exhaustedCheck.log.take 4).all
      (fun x ↦ !resumesVerification ("tenant", "proposal") x) = true := by
    decide +kernel
  refine (verification_budget (c := exhaustedCheck) ("tenant", "proposal")
    (sampleRun_reachable _ _ _)).2.2.2 _ (exhaustedCheck.log.drop 4) first [4]
      (List.take_append_drop 4 _).symm ?_ hfirst hpending (List.nodup_singleton 4) ?_ ?_
  · intro x hx
    have hno := List.all_eq_true.mp hresume x hx
    rwa [Bool.not_eq_true'] at hno
  · intro i hi
    rw [List.mem_singleton] at hi
    subst hi
    exact exhaustedCheck_due
  · rw [hmax, hattempts, List.length_singleton]
    exact Nat.one_pos

end Sample

end ThrevoActions
