import ThrevoActions.Runtime.Attempts

/-!
# The execution lease

An attempt is admitted with a lease, recorded as the time its verification is next due. With one
clock shared by all workers the lease separates the worker that was admitted from everyone else:
that worker decides to call its executor only before the lease ends, everyone else takes the
attempt over or calls the verifier for it only afterwards, and from then on the first worker
writes nothing any more.
-/

namespace ThrevoActions

open Interleaving

variable {V : Type} [HostModels V] {H : Signature}

/-- Only the environment lets time pass. -/
theorem World.exec_time {env : Env V H} {world world' : World} {o : Op V H}
    {answer : Except Exn o.Ans} (hexec : world.exec env o answer world') :
    world'.time = world.time := by
  cases o with
  | create | get | compareAndSet | admitExecution | getEffectClaimOwner | markErasurePending
  | completeErasure => exact (World.StoreCall.rest hexec).1
  | now => rw [hexec.2]
  | newIdentifier kind => rcases hexec with ⟨reference, -, -, rfl⟩ | ⟨-, rfl⟩ <;> rfl
  | emit | canPrepare | prepare | canDecide | evaluate | resolve | canExecute | execute | verify
  | canRead | canRecover | authorizeErasure | createCommitment | verifyCommitment | destroyCommitment
  | protectPayload | unprotectPayload | destroyPayload | host => exact congrArg World.time hexec

/-- What is not yet due before its lease ends is due from then on. -/
theorem le_of_due {record : StoredProposal} {now deadline : Timestamp}
    (hdue : notYetDue record now = false) (hdeadline : record.nextVerificationAt = some deadline) :
    deadline ≤ now := by
  rw [notYetDue, hdeadline] at hdue
  exact Int.not_lt.mp (of_decide_eq_false hdue)

section Clock

variable [UnicodeNormalization]

namespace RuntimeReachable

section Time

variable {env : Env V H} {executorOf : ExecutorOf V H} {start : Timestamp}
  {c : RuntimeConfig V H}

/-- Time never goes back. -/
theorem time_le (hc : RuntimeReachable env executorOf start c)
    {e : Entry (runtimeSignature V H) Exn World} (he : e ∈ c.log) :
    e.before.time ≤ c.shared.time := by
  induction hc with
  | initial => cases he
  | step _ hstep ih =>
    cases hstep with
    | spawn => exact ih he
    | act i answer world' _ hexec =>
      rw [World.exec_time hexec]
      rcases List.mem_cons.mp he with rfl | he
      · exact Int.le_refl _
      · exact ih he
    | drift world' hdrift =>
      obtain ⟨time, htime, rfl, -⟩ := hdrift
      exact (ih he).trans htime

/-- Time never goes back from one logged operation to a later one. -/
theorem time_le_of_mem (hc : RuntimeReachable env executorOf start c)
    {e e' : Entry (runtimeSignature V H) Exn World} {past : RuntimeLog V H}
    (he : e :: past <:+ c.log) (he' : e' ∈ past) : e'.before.time ≤ e.before.time := by
  obtain ⟨⟨c₁, hc₁, rfl, hshared⟩, -⟩ := hc.at_entry he
  rw [← hshared]
  exact time_le hc₁ he'

end Time

section OneClock

variable {prompt : Op V H → Bool} {executorOf : ExecutorOf V H} {start : Timestamp}
  {c : RuntimeConfig V H}

/-- A clock reading is the time at which the clock was read. -/
theorem reading (hc : RuntimeReachable (Env.oneClock prompt) executorOf start c) {i : ℕ}
    {now : Timestamp} (hnow : Answered (historyOf c.log i) .now now) :
    ∃ e ∈ c.log, e.caller = i ∧ e.event = ⟨.now, .ok now⟩ ∧ e.before.time = now := by
  obtain ⟨e, he, hcaller, hevent⟩ := mem_historyOf.mp hnow
  have hexec := hc.exec he
  rw [hevent] at hexec
  exact ⟨e, he, hcaller, hevent, (hexec.1 now rfl).symm⟩

/-- What a call read on the clock is not later than anything it does afterwards. -/
theorem reading_le (hc : RuntimeReachable (Env.oneClock prompt) executorOf start c)
    {e : Entry (runtimeSignature V H) Exn World} {past : RuntimeLog V H} (he : e :: past <:+ c.log)
    {i : ℕ} {now : Timestamp} (hnow : Answered (historyOf past i) .now now) :
    now ≤ e.before.time := by
  obtain ⟨⟨c₁, hc₁, rfl, hshared⟩, -⟩ := hc.at_entry he
  obtain ⟨e', he', -, -, rfl⟩ := reading hc₁ hnow
  rw [← hshared]
  exact time_le hc₁ he'

end OneClock

end RuntimeReachable

/-! ## Leased attempts -/

/-- The logged operation `a`, with the log `older` before it, admits the attempt `executing` under
`definition`; `admittedAt` is the time its caller read for the admission. -/
structure LeasedAttempt (a : Entry (runtimeSignature V H) Exn World) (older : RuntimeLog V H)
    (definition : ActionDeclaration V) (executing : StoredProposal) (admittedAt : Timestamp) :
    Prop where
  admission : ∃ args, a.event.op = .admitExecution args ∧ args.admittedAt = admittedAt ∧
    args.updated = executing
  read : Answered (historyOf older a.caller) .now admittedAt
  definedBy : ∃ snapshot context authorization,
    Answered (historyOf older a.caller) (.canExecute definition snapshot context) authorization
  leased : executing.nextVerificationAt = some (admittedAt + definition.verificationLeaseDuration)

/-- The call of the verifier `e` belongs to the verification that its caller admitted with `v`, the
last thing it did before. -/
structure VerificationOf (e v : Entry (runtimeSignature V H) Exn World)
    (past before : RuntimeLog V H) (key : ProposalKey) : Prop where
  logged : v :: before <:+ past
  own : v.caller = e.caller
  last : historyOf past e.caller = v.event :: historyOf before v.caller
  pending : ∃ current admitted : StoredProposal,
    v.event = ⟨.compareAndSet (casArguments current admitted), .ok true⟩ ∧
    v.before.store.proposals key = some current ∧ v.after.store.proposals key = some admitted ∧
    current.lifecycleStatus = .verificationPending

section Reachable

variable {executorOf : ExecutorOf V H} {hostIssues : RuntimeHistory V H → H.Op → Prop}
  {start : Timestamp} {c : RuntimeConfig V H} {a : Entry (runtimeSignature V H) Exn World}
  {older : RuntimeLog V H} {key : ProposalKey} {executing : StoredProposal}

/-- Every attempt is leased. -/
theorem Admits.leased {env : Env V H}
    (hexecutors : ∀ definition, LawfulExecutor hostIssues definition (executorOf definition))
    (hc : RuntimeReachable env executorOf start c) (ha : a :: older <:+ c.log)
    (hadmits : Admits a key executing) :
    ∃ definition admittedAt, LeasedAttempt a older definition executing admittedAt := by
  obtain ⟨args, runtime, definition, record, executionPrecondition, reference, hop, hupdated,
    hissued⟩ := hadmits.issued hexecutors hc ha
  refine ⟨definition, args.admittedAt, ⟨args, hop, rfl, hupdated⟩, hissued.now, hissued.allowed, ?_⟩
  rw [← hupdated, hissued.updated]
  rfl

/-- **Nobody else takes an attempt off the file before its lease ends.** -/
theorem LeasedAttempt.takenOver_late {prompt : Op V H → Bool} {definition : ActionDeclaration V}
    {admittedAt : Timestamp}
    (hexecutors : ∀ definition, LawfulExecutor hostIssues definition (executorOf definition))
    (hc : RuntimeReachable (Env.oneClock prompt) executorOf start c)
    (hleased : LeasedAttempt a older definition executing admittedAt)
    {e : Entry (runtimeSignature V H) Exn World} {past : RuntimeLog V H} (he : e :: past <:+ c.log)
    (ha : a :: older <:+ past) (hadmits : Admits a key executing)
    (hleaves : Leaves e key executing) (hcaller : e.caller ≠ a.caller) :
    admittedAt + definition.verificationLeaseDuration ≤ e.before.time := by
  rcases hc.leaves_cases hexecutors he ha hadmits hleaves with hown | ⟨now, hnow, hdue⟩
  · exact absurd hown hcaller
  · exact (le_of_due hdue hleased.leased).trans (hc.reading_le he hnow)

/-- A guarded write that was answered with success replaced what its caller knew. -/
theorem RuntimeReachable.written_at {env : Env V H}
    (hexecutors : ∀ definition, LawfulExecutor hostIssues definition (executorOf definition))
    (hc : RuntimeReachable env executorOf start c) {v : Entry (runtimeSignature V H) Exn World}
    {before : RuntimeLog V H} (hv : v :: before <:+ c.log)
    {previous updated : StoredProposal}
    (hevent : v.event = ⟨.compareAndSet (casArguments previous updated), .ok true⟩) :
    ∃ current, casArguments previous updated = casArguments current updated ∧
      v.before.store.proposals current.key = some current ∧
      v.after.store.proposals current.key = some updated := by
  have hissued := hc.issued hexecutors hv
  have hexec := hc.exec (hv.subset List.mem_cons_self)
  rw [hevent] at hissued hexec
  obtain ⟨current, updated', hargs, hissued⟩ := hissued
  have hupdated : updated = updated' := congrArg MemoryActionStore.CompareAndSet.updated hargs
  subst hupdated
  rw [hargs] at hexec
  obtain ⟨hanswer, hafter⟩ := World.StoreCall.ok hexec
  rcases MemoryActionStore.compareAndSet_cases v.before.store (casArguments current updated) with
    ⟨-, hne⟩ | ⟨found, happlied⟩
  · exact absurd hanswer hne
  · obtain ⟨⟨c₁, hc₁, hlog, hshared⟩, -⟩ := hc.at_entry hv
    have hfound : v.before.store.proposals current.key = some found := happlied.found
    have hknown := hissued.known
    rw [← hlog] at hknown
    have hupToDate := RuntimeReachable.knows_current hc₁ hknown
    rw [hshared] at hupToDate
    have heq := hupToDate.eq_of_revision hfound happlied.revision
    subst heq
    have haccepted : AcceptedUpdate found updated := happlied.accepted
    refine ⟨found, hargs, hfound, ?_⟩
    rw [hafter, happlied.result, StoredProposal.key_eq_of_identity haccepted.identity]
    exact MemoryActionStore.put_proposals_self _ _

/-- Every call of the verifier belongs to a verification its caller has just admitted. -/
theorem exists_verificationOf {env : Env V H}
    (hexecutors : ∀ definition, LawfulExecutor hostIssues definition (executorOf definition))
    (hc : RuntimeReachable env executorOf start c) {e : Entry (runtimeSignature V H) Exn World}
    {past : RuntimeLog V H} (he : e :: past <:+ c.log) {definition : ActionDeclaration V}
    {context : ExecutionContext} (hop : e.event.op = .verify definition context) :
    ∃ v before, VerificationOf e v past before
      (context.tenantReference, context.proposalReference) := by
  have hissued := hc.issued hexecutors he
  rw [hop] at hissued
  obtain ⟨previous, hready⟩ := hissued
  obtain ⟨pastHistory, hhistory⟩ := hready.justAdmitted
  obtain ⟨v, before, hv, hown, hevent, hbefore⟩ :=
    exists_entry_of_historyOf hhistory
  obtain ⟨current, hargs, hcurrent, hadmitted⟩ := hc.written_at hexecutors
    (hv.trans ((List.suffix_cons _ _).trans he)) hevent
  -- the arguments name the record the caller knew, and its status
  have hkey : (context.tenantReference, context.proposalReference) = current.key := by
    rw [(executionContext_fields hready.contextOf).1]
    exact Prod.ext (congrArg MemoryActionStore.CompareAndSet.tenantReference hargs)
      (congrArg MemoryActionStore.CompareAndSet.proposalReference hargs)
  have hstatus : previous.lifecycleStatus = current.lifecycleStatus :=
    (List.cons.inj (congrArg MemoryActionStore.CompareAndSet.expectedStatuses hargs)).1
  refine ⟨v, before, hv, hown, ?_, current,
    verificationAdmittedProposal definition previous context.observedAt, ?_, ?_, ?_, ?_⟩
  · rw [hhistory, hevent, hown, hbefore]
  · rw [hevent, hargs]
  · rw [hkey]
    exact hcurrent
  · rw [hkey]
    exact hadmitted
  · rw [← hstatus]
    exact hready.status

/-- **The verifier is not called for an attempt before its lease ends**, unless the call that
admitted the attempt has settled it. -/
theorem LeasedAttempt.verified_late {prompt : Op V H → Bool} {definition : ActionDeclaration V}
    {admittedAt : Timestamp}
    (hexecutors : ∀ definition, LawfulExecutor hostIssues definition (executorOf definition))
    (hc : RuntimeReachable (Env.oneClock prompt) executorOf start c)
    (hleased : LeasedAttempt a older definition executing admittedAt)
    (hadmits : Admits a key executing) {e v : Entry (runtimeSignature V H) Exn World}
    {past before : RuntimeLog V H} (he : e :: past <:+ c.log)
    (hverification : VerificationOf e v past before key) (ha : a :: older <:+ before)
    (hunsettled : ∀ s between, s :: between <:+ before → a :: older <:+ between →
      Leaves s key executing → s.caller ≠ a.caller) :
    admittedAt + definition.verificationLeaseDuration ≤ e.before.time := by
  have hpast : past <:+ c.log := (List.suffix_cons _ _).trans he
  have hbefore : before <:+ past := (List.suffix_cons _ _).trans hverification.logged
  -- when the verification was admitted, the attempt was not on file any more
  obtain ⟨⟨c₁, hc₁, rfl, hshared⟩, -⟩ := hc.at_entry (hverification.logged.trans hpast)
  have hgone : c₁.shared.store.proposals key ≠ some executing := by
    obtain ⟨current, admitted, -, hcurrent, -, hpending⟩ := hverification.pending
    rw [hshared, hcurrent]
    rintro ⟨⟩
    rw [hadmits.status] at hpending
    cases hpending
  obtain ⟨t, between, ht, hafter, hleaves⟩ := RuntimeReachable.exists_leaves hc₁ ha hadmits.stored hgone
  have hlate := hleased.takenOver_late hexecutors hc₁ ht hafter hadmits hleaves
    (hunsettled t between ht hafter hleaves)
  exact hlate.trans (hc.time_le_of_mem he ((ht.trans hbefore).subset List.mem_cons_self))

/-- **A dispatch is decided within the lease** of an attempt its caller admitted just before. -/
theorem dispatched_in_lease {prompt : Op V H → Bool}
    (hc : RuntimeReachable (Env.oneClock prompt) executorOf start c)
    {e : Entry (runtimeSignature V H) Exn World} {past : RuntimeLog V H} (he : e :: past <:+ c.log)
    {definition : ActionDeclaration V} {snapshot : V} {context : ExecutionContext}
    {executionPrecondition : SafeReference}
    (hissued : ∃ args claim record commitment evidence resolved,
      DispatchReady (historyOf past e.caller) definition snapshot context executionPrecondition
        args claim record commitment evidence resolved) :
    ∃ n a recent older executing admittedAt, n :: recent <:+ past ∧ a :: older <:+ recent ∧
      a.caller = e.caller ∧
      Admits a (context.tenantReference, context.proposalReference) executing ∧
      LeasedAttempt a older definition executing admittedAt ∧
      n.caller = e.caller ∧ n.event = ⟨.now, .ok context.observedAt⟩ ∧
      n.before.time = context.observedAt ∧
      n.before.time < admittedAt + definition.verificationLeaseDuration := by
  obtain ⟨args, claim, record, commitment, evidence, resolved, hready⟩ := hissued
  obtain ⟨runtime, reference, pastHistory, hhistory, hadmission⟩ := hready.justAdmitted
  have hpast : past <:+ c.log := (List.suffix_cons _ _).trans he
  obtain ⟨n, recent, hn, hncaller, hnevent, hrecent⟩ :=
    exists_entry_of_historyOf hhistory
  obtain ⟨a, older, ha, hacaller, haevent, holder⟩ :=
    exists_entry_of_historyOf hrecent
  have hadmits := hc.admits_of_granted (ha.trans ((List.suffix_cons _ _).trans (hn.trans hpast)))
    haevent hready.admits
  have hkey : args.updated.key = (context.tenantReference, context.proposalReference) := by
    rw [(executionContext_fields hready.contextOf).1, hadmission.updated]
    rfl
  have htime : n.before.time = context.observedAt := by
    have hexec := hc.exec ((hn.trans hpast).subset List.mem_cons_self)
    rw [hnevent] at hexec
    exact (hexec.1 _ rfl).symm
  refine ⟨n, a, recent, older, args.updated, args.admittedAt, hn, ha, hacaller, hkey ▸ hadmits,
    ⟨⟨args, ?_, rfl, rfl⟩, ?_, ?_, ?_⟩, hncaller, hnevent, htime, htime ▸ hready.inLease⟩
  · rw [haevent]
  · rw [hacaller, holder]
    exact hadmission.now
  · rw [hacaller, holder]
    exact hadmission.allowed
  · rw [hadmission.updated]
    rfl

end Reachable

/-- **The lease is respected.** With one clock, in every interleaving: an attempt that its own
worker has not settled is neither taken off the file by anyone else nor verified by anyone before
its lease ends; once somebody else took it over, its worker's writes change nothing; and every
dispatch was decided at a time before the end of the lease of an attempt its own caller admitted
just before. -/
theorem lease_respected {prompt : Op V H → Bool} {start : Timestamp} {c : RuntimeConfig V H}
    (hc : RuntimeReachable (Env.oneClock prompt) (hostExecutors V H) start c) :
    (∀ (a : Entry (runtimeSignature V H) Exn World) (older : RuntimeLog V H) (key : ProposalKey)
      (executing : StoredProposal), a :: older <:+ c.log → Admits a key executing →
      ∃ definition admittedAt, LeasedAttempt a older definition executing admittedAt ∧
        (∀ e past, e :: past <:+ c.log → a :: older <:+ past → Leaves e key executing →
          e.caller ≠ a.caller →
          admittedAt + definition.verificationLeaseDuration ≤ e.before.time) ∧
        (∀ e v past before, e :: past <:+ c.log → VerificationOf e v past before key →
          a :: older <:+ before →
          (∀ s between, s :: between <:+ before → a :: older <:+ between →
            Leaves s key executing → s.caller ≠ a.caller) →
          admittedAt + definition.verificationLeaseDuration ≤ e.before.time) ∧
        ∀ e t past between args, e :: past <:+ c.log → t :: between <:+ past →
          a :: older <:+ between → Leaves t key executing → t.caller ≠ a.caller →
          e.caller = a.caller → e.event.op = .compareAndSet args →
          e.after.store = e.before.store) ∧
    (∀ e past definition context, e :: past <:+ c.log → e.event.op = .verify definition context →
      ∃ v before, VerificationOf e v past before
        (context.tenantReference, context.proposalReference)) ∧
    ∀ e past definition snapshot context executionPrecondition, e :: past <:+ c.log →
      e.event.op = .execute definition snapshot context executionPrecondition →
      ∃ n a recent older executing admittedAt, n :: recent <:+ past ∧ a :: older <:+ recent ∧
        a.caller = e.caller ∧
        Admits a (context.tenantReference, context.proposalReference) executing ∧
        LeasedAttempt a older definition executing admittedAt ∧
        n.caller = e.caller ∧ n.event = ⟨.now, .ok context.observedAt⟩ ∧
        n.before.time = context.observedAt ∧
        n.before.time < admittedAt + definition.verificationLeaseDuration := by
  refine ⟨?_, ?_, ?_⟩
  · intro a older key executing ha hadmits
    obtain ⟨definition, admittedAt, hleased⟩ := hadmits.leased hostExecutors_lawful_any hc ha
    refine ⟨definition, admittedAt, hleased, ?_, ?_, ?_⟩
    · intro e past he hafter hleaves hcaller
      exact hleased.takenOver_late hostExecutors_lawful_any hc he hafter hadmits hleaves hcaller
    · intro e v past before he hverification hafter hunsettled
      exact hleased.verified_late hostExecutors_lawful_any hc hadmits he hverification hafter
        hunsettled
    · intro e t past between args he ht hafter hleaves _ hcaller hop
      exact hc.writes_nothing hostExecutors_lawful_any hadmits he ht hafter hleaves hcaller hop
  · intro e past definition context he hop
    exact exists_verificationOf hostExecutors_lawful_any hc he hop
  · intro e past definition snapshot context executionPrecondition he hop
    have hissued := hc.issued hostExecutors_lawful_any he
    rw [hop] at hissued
    exact dispatched_in_lease hc he hissued

end Clock

section Sample

attribute [local instance] normalizedTexts

/-- After the sample dispatch the lease runs out, another worker takes the attempt over, and the
first worker tries to settle it. -/
def sampleTakeover : RuntimeConfig SampleModel noOperations :=
  sampleRun sampleAcceptance sampleNotYet
    (sampleAttempt 0 "proposal" 14 ++
      [.drift 60000000, .spawn (.reconcile sampleRuntime sampleDefinition "tenant" "proposal")] ++
      turnsOf 3 3 ++ turnsOf 2 3)

/-- The sample takeover is late, and the settlement after it changes nothing. -/
theorem lease_respected_sample :
    ∃ (a t e : Entry (runtimeSignature SampleModel noOperations) Exn World)
      (older between past : RuntimeLog SampleModel noOperations) (executing : StoredProposal)
      (definition : ActionDeclaration SampleModel) (admittedAt : Timestamp),
      sampleTakeover.log = e :: past ∧ t :: between <:+ past ∧ a :: older <:+ between ∧
      Admits a ("tenant", "proposal") executing ∧ Leaves t ("tenant", "proposal") executing ∧
      t.caller ≠ a.caller ∧ e.caller = a.caller ∧
      LeasedAttempt a older definition executing admittedAt ∧
      admittedAt + definition.verificationLeaseDuration ≤ t.before.time ∧
      e.after.store = e.before.store := by
  obtain ⟨e, past, he⟩ : ∃ e past, sampleTakeover.log.drop 0 = e :: past :=
    List.exists_cons_of_ne_nil (by decide +kernel)
  obtain ⟨t, between, ht⟩ : ∃ e past, sampleTakeover.log.drop 3 = e :: past :=
    List.exists_cons_of_ne_nil (by decide +kernel)
  obtain ⟨a, older, ha⟩ : ∃ e past, sampleTakeover.log.drop 8 = e :: past :=
    List.exists_cons_of_ne_nil (by decide +kernel)
  have hlog : sampleTakeover.log = e :: past := he
  have htpast : t :: between <:+ past := by
    rw [← ht, hlog]
    exact List.drop_suffix 2 past
  have hbetween : a :: older <:+ between := by
    have hdrop : sampleTakeover.log.drop 8 = between.drop 4 := by
      rw [show (8 : ℕ) = 3 + 5 from rfl, ← List.drop_drop, ht]
      rfl
    rw [← ha, hdrop]
    exact List.drop_suffix 4 between
  obtain ⟨executing, hadmits⟩ : ∃ executing, Admits a ("tenant", "proposal") executing :=
    exists_admits
      (eq_of_entry ha (f := fun e ↦ e.before.store.statusOf _) (by decide +kernel))
      (eq_of_entry ha (f := fun e ↦ e.after.store.statusOf _) (by decide +kernel))
  have hleaves : Leaves t ("tenant", "proposal") executing := by
    refine ⟨?_, fun hleft ↦ ?_⟩
    · rw [← hadmits.stored]
      exact eq_of_entries ht ha (f := fun e ↦ e.before.store.proposals ("tenant", "proposal"))
        (g := fun e ↦ e.after.store.proposals ("tenant", "proposal")) (by decide +kernel)
    · have hstatus : t.after.store.statusOf ("tenant", "proposal") = some .verificationPending :=
        eq_of_entry ht (f := fun e ↦ e.after.store.statusOf _) (by decide +kernel)
      rw [MemoryActionStore.statusOf, hleft, Option.map_some, hadmits.status] at hstatus
      cases hstatus
  have hcallers : t.caller = 3 ∧ a.caller = 2 ∧ e.caller = 2 :=
    ⟨eq_of_entry ht (f := Entry.caller) (by decide +kernel),
      eq_of_entry ha (f := Entry.caller) (by decide +kernel),
      eq_of_entry he (f := Entry.caller) (by decide +kernel)⟩
  obtain ⟨hthree, htwo, hsettler⟩ := hcallers
  have hother : t.caller ≠ a.caller := by
    rw [hthree, htwo]
    decide
  obtain ⟨args, hop⟩ : ∃ args, e.event.op = .compareAndSet args :=
    exists_compareAndSet (eq_of_entry he (f := fun e ↦ e.event.op.isCompareAndSet)
      (by decide +kernel))
  have hlogged : a :: older <:+ sampleTakeover.log := by
    rw [hlog]
    exact hbetween.trans ((List.suffix_cons _ _).trans (htpast.trans (List.suffix_cons _ _)))
  obtain ⟨definition, admittedAt, hleased, hlate, -, hnothing⟩ :=
    (lease_respected (c := sampleTakeover) (sampleRun_reachable _ _ _)).1 a older _ executing hlogged
      hadmits
  refine ⟨a, t, e, older, between, past, executing, definition, admittedAt, hlog, htpast, hbetween,
    hadmits, hleaves, hother, hsettler.trans htwo.symm, hleased, ?_, ?_⟩
  · exact hlate t between (hlog ▸ htpast.trans (List.suffix_cons _ _)) hbetween hleaves hother
  · exact hnothing e t past between args (hlog ▸ List.suffix_refl _) htpast hbetween hleaves hother
      (hsettler.trans htwo.symm) hop

end Sample

end ThrevoActions
