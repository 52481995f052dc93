import ThrevoActions.Runtime.Attempts
import ThrevoActions.Runtime.Effects

/-!
# Executions that raise

What `execute` leaves in the store if it raises before it has called the executor
(`AbortedEffects`): nothing; one guarded write of the proposal; a stale proposal and its
replacement, with or without the link between them; or an admission, with or without the settlement
of a refused dispatch.

A proposal is made stale before its replacement is validated, protected and persisted. If that
fails, it is stale without a replacement (`stale_without_replacement`).
-/

namespace ThrevoActions

open Interleaving Interleaving.Program

variable {V : Type} [HostModels V] {H : Signature} {α : Type}

/-- The operation calls the executor of the host. -/
def Op.isExecute : Op V H → Bool
  | .execute _ _ _ _ => true
  | _ => false

/-- The effects of an `execute` on the proposal under `key` that raises without having called the
executor, newest first. -/
inductive AbortedEffects (key : ProposalKey) : RuntimeHistory V H → Prop
  | nothing : AbortedEffects key []
  /-- The expiry write raised, whether or not it took effect. -/
  | expired {record : StoredProposal} (hkey : record.key = key) (failure : Exn) :
      AbortedEffects key
        [⟨.compareAndSet (casArguments record (expiredProposal record)), .error failure⟩]
  | blocked {record : StoredProposal} (hkey : record.key = key) (receipt : AuthorityReceipt)
      (answer : Except Exn Bool) :
      AbortedEffects key
        [⟨.compareAndSet (casArguments record (blockedProposal record receipt)), answer⟩]
  /-- Nothing came of a replacement, if there was to be one. -/
  | stale {record : StoredProposal} (hkey : record.key = key) (receipt : ExecutionReceipt)
      (answer : Except Exn Bool) :
      AbortedEffects key
        [⟨.compareAndSet (casArguments record (staleProposal record receipt)), answer⟩]
  | created {record fresh : StoredProposal} (hkey : record.key = key) (receipt : ExecutionReceipt)
      (htenant : fresh.tenantReference = key.1)
      (hstatus : fresh.lifecycleStatus = .awaitingAuthority) (answer : Except Exn Unit) :
      AbortedEffects key
        [⟨.create fresh, answer⟩,
          ⟨.compareAndSet (casArguments record (staleProposal record receipt)), .ok true⟩]
  | superseded {record fresh : StoredProposal} (hkey : record.key = key)
      (receipt : ExecutionReceipt) (htenant : fresh.tenantReference = key.1)
      (hstatus : fresh.lifecycleStatus = .awaitingAuthority) (answer : Except Exn Unit)
      (answer' : Except Exn Bool) :
      AbortedEffects key
        [⟨.compareAndSet (casArguments (staleProposal record receipt)
            (supersededProposal (staleProposal record receipt) fresh.proposalReference)), answer'⟩,
          ⟨.create fresh, answer⟩,
          ⟨.compareAndSet (casArguments record (staleProposal record receipt)), .ok true⟩]
  | admission {args : MemoryActionStore.AdmitExecution}
      (hkey : (args.tenantReference, args.proposalReference) = key)
      (hstatus : args.updated.lifecycleStatus = .executing)
      (answer : Except Exn EffectClaimResult) :
      AbortedEffects key [⟨.admitExecution args, answer⟩]
  /-- The dispatch was refused, and the attempt settled as a known failure. -/
  | refused {args : MemoryActionStore.AdmitExecution} {claim : EffectClaimResult}
      {settled : StoredProposal}
      (hkey : (args.tenantReference, args.proposalReference) = key)
      (hstatus : args.updated.lifecycleStatus = .executing) (hclaim : claim.admits = true)
      (hsettled : settled.key = key) (hfailed : settled.lifecycleStatus = .failedKnown)
      (answer : Except Exn Bool) :
      AbortedEffects key
        [⟨.compareAndSet (casArguments args.updated settled), answer⟩,
          ⟨.admitExecution args, .ok claim⟩]

/-- The executor was called, or the coroutine has not raised, or its effects are those of an aborted
execution. -/
def AbortsCleanly (key : ProposalKey) (w : RuntimeHistory V H)
    (r : Except Exn ActionOperationResult) : Prop :=
  (∃ ev ∈ w, ev.op.isExecute = true) ∨ (∀ e, r = .error e → AbortedEffects key w)

namespace AbortsCleanly

variable {key : ProposalKey} {w : RuntimeHistory V H}

theorem returned (result : ActionOperationResult) : AbortsCleanly key w (.ok result) := by
  refine Or.inr ?_
  rintro e ⟨⟩

theorem raised (haborted : AbortedEffects key w) (r : Except Exn ActionOperationResult) :
    AbortsCleanly key w r := Or.inr fun _ _ ↦ haborted

end AbortsCleanly

/-! ## What the subroutines of `execute` show -/

section Subroutines

variable {key : ProposalKey} {w : RuntimeHistory V H} {record : StoredProposal}

/-- A program that has no effects. -/
theorem required_ends {tenantReference proposalReference : SafeReference}
    {f : StoredProposal → ActionOperationResult} (haborted : AbortedEffects key w) :
    ShowsEffects (required tenantReference proposalReference >>= fun current ↦ pure (f current))
      (AbortsCleanly key) w :=
  required_shows (fun _ ↦ .raised haborted _) fun _ _ ↦ .raised haborted _

/-- A guarded write that ends the coroutine. -/
theorem guardedWrite_shows {updated : StoredProposal} {eventType : RuntimeEventType}
    {observedAt : Timestamp} {reasonCode : Option SafeReference}
    {lost : StoredProposal → ActionOperationResult} {won : ActionOperationResult}
    (haborted : ∀ answer : Except Exn Bool,
      AbortedEffects key (⟨.compareAndSet (casArguments record updated), answer⟩ :: w)) :
    ShowsEffects (do
      let written ← cas record updated
      if written = false then
        let current ← required record.tenantReference record.proposalReference
        return lost current
      else
      emit updated eventType observedAt reasonCode
      return won) (AbortsCleanly key) w := by
  refine Shows.shown rfl (fun e ↦ .raised (haborted _) _) fun written ↦ ?_
  split
  · exact required_ends (haborted _)
  · exact emit_shows (fun _ ↦ .raised (haborted _) _) (.raised (haborted _) _)

theorem expireBeforeAdmission_shows (hkey : record.key = key) :
    ShowsEffects (expireBeforeAdmission (V := V) (H := H) record) (AbortsCleanly key) [] := by
  refine Shows.shown rfl (fun e ↦ .raised (.expired hkey e) _) fun written ↦ ?_
  split
  · exact .returned _
  · exact .returned _

theorem block_shows (runtime : ActionRuntime) (now : Timestamp) (reasonCode : SafeReference)
    (hkey : record.key = key) :
    ShowsEffects (block (V := V) (H := H) runtime record now reasonCode) (AbortsCleanly key) [] := by
  refine Shows.orRaise (fun _ _ ↦ .raised .nothing _) fun authority _ ↦ ?_
  refine Shows.hidden rfl (fun _ ↦ .raised .nothing _) fun reference ↦ ?_
  exact guardedWrite_shows fun answer ↦ .blocked hkey _ answer

/-- The settlement of a refused dispatch. -/
theorem settleRefusal_shows (runtime : ActionRuntime) (definition : ActionDeclaration V)
    (reasonCode : SafeReference) (now : Timestamp)
    (hadmitted : AbortedEffects key w)
    (hsettled : ∀ settled : StoredProposal, settled.key = record.key →
      settled.lifecycleStatus = .failedKnown → ∀ answer : Except Exn Bool,
      AbortedEffects key (⟨.compareAndSet (casArguments record settled), answer⟩ :: w)) :
    ShowsEffects (settleExecution (H := H) runtime definition record
      { status := .failedKnown, reasonCode := some reasonCode } now) (AbortsCleanly key) w := by
  refine Shows.orRaise (fun _ _ ↦ .raised hadmitted _) fun _ _ ↦ ?_
  refine Shows.hidden rfl (fun _ ↦ .raised hadmitted _) fun reference ↦ ?_
  refine Shows.orRaise (fun _ _ ↦ .raised hadmitted _) fun safeResult _ ↦ ?_
  exact guardedWrite_shows (hsettled _ rfl rfl)

/-- Once the executor was called, anything goes. -/
theorem shows_executed {p : Coroutine V H ActionOperationResult}
    (hexecuted : ∃ ev ∈ w, ev.op.isExecute = true) :
    ShowsEffects p (AbortsCleanly key) w := by
  induction p generalizing w with
  | ret result => exact Or.inl hexecuted
  | raise e => exact Or.inl hexecuted
  | call o next ih =>
    intro r
    refine ih r ?_
    obtain ⟨ev, hev, hop⟩ := hexecuted
    refine ⟨ev, ?_, hop⟩
    rw [showEvent]
    split_ifs
    · exact List.mem_cons_of_mem _ hev
    · exact hev

/-- The executor is called, and after that anything goes. -/
theorem dispatch_shows (runtime : ActionRuntime) (definition : ActionDeclaration V)
    (binding : AuthorityBinding) (validEvidence : List AuthorityEvidence)
    (resolved : ResolvedState V) (admittedAt : Timestamp)
    {executing : StoredProposal} {args : MemoryActionStore.AdmitExecution}
    {claim : EffectClaimResult} (hexecuting : args.updated = executing)
    (hkey : (args.tenantReference, args.proposalReference) = key)
    (hupdated : args.updated.key = key) (hstatus : args.updated.lifecycleStatus = .executing)
    (hclaim : claim.admits = true) :
    ShowsEffects (dispatch runtime ⟨definition, hostExecutors V H definition⟩ record executing
      binding validEvidence resolved admittedAt) (AbortsCleanly key)
      [⟨.admitExecution args, .ok claim⟩] := by
  subst hexecuting
  have hadmitted : AbortedEffects (V := V) (H := H) key [⟨.admitExecution args, .ok claim⟩] :=
    .admission hkey hstatus _
  refine Shows.hidden rfl (fun _ ↦ .raised hadmitted _) fun executionAt ↦ ?_
  split
  · refine settleRefusal_shows _ _ _ _ hadmitted fun settled hsettled hfailed answer ↦ ?_
    exact .refused hkey hstatus hclaim (hsettled.trans hupdated) hfailed answer
  · refine Shows.orRaise (fun _ _ ↦ .raised hadmitted _) fun context _ ↦ ?_
    refine Shows.shown rfl (fun _ ↦ Or.inl ⟨_, List.mem_cons_self, rfl⟩) fun execution ↦ ?_
    exact shows_executed ⟨_, List.mem_cons_self, rfl⟩

theorem admitAttempt_shows (runtime : ActionRuntime) (definition : ActionDeclaration V)
    (binding : AuthorityBinding) (validEvidence : List AuthorityEvidence)
    (resolved : ResolvedState V) (hkey : record.key = key) :
    ShowsEffects (admitAttempt runtime ⟨definition, hostExecutors V H definition⟩ record binding
      validEvidence resolved) (AbortsCleanly key) [] := by
  refine Shows.hidden rfl (fun _ ↦ .raised .nothing _) fun admittedAt ↦ ?_
  split
  · exact expireBeforeAdmission_shows hkey
  split
  · exact block_shows runtime admittedAt _ hkey
  refine Shows.hidden rfl (fun _ ↦ .raised .nothing _) fun reference ↦ ?_
  refine Shows.shown rfl (fun _ ↦ .raised (.admission hkey rfl _) _) fun claim ↦ ?_
  cases claim with
  | conflict => exact required_ends (.admission hkey rfl _)
  | proposalNotFound => exact .raised (.admission hkey rfl _) _
  | proposalNotAuthorized => exact required_ends (.admission hkey rfl _)
  | acquired => exact dispatch_shows _ _ _ _ _ _ rfl hkey hkey rfl rfl
  | ownedByProposal => exact dispatch_shows _ _ _ _ _ _ rfl hkey hkey rfl rfl

/-- Asking for the authority of a proposal has no effect. -/
theorem evaluateAuthority_shows (definition : ActionDeclaration V) (binding : AuthorityBinding)
    (at' : Timestamp) (w : RuntimeHistory V H) :
    ShowsEffects (evaluateAuthority (H := H) definition record binding at') (fun w' _ ↦ w' = w) w :=
  Shows.hidden rfl (fun _ ↦ rfl) fun _ ↦ rfl

theorem reauthorize_shows (runtime : ActionRuntime) (definition : ActionDeclaration V)
    (binding : AuthorityBinding) (resolved : ResolvedState V) (hkey : record.key = key) :
    ShowsEffects (reauthorize runtime ⟨definition, hostExecutors V H definition⟩ record binding
      resolved) (AbortsCleanly key) [] := by
  refine Shows.hidden rfl (fun _ ↦ .raised .nothing _) fun admittedAt ↦ ?_
  split
  · exact expireBeforeAdmission_shows hkey
  refine Shows.bind_of (evaluateAuthority_shows definition binding admittedAt []) ?_ ?_
  · rintro w e rfl
    exact .raised .nothing _
  rintro w evaluated rfl
  split
  split
  · exact block_shows runtime admittedAt _ hkey
  refine Shows.orRaise (fun _ _ ↦ .raised .nothing _) fun context _ ↦ ?_
  refine Shows.hidden rfl (fun _ ↦ .raised .nothing _) fun liveAuthorization ↦ ?_
  split
  · exact block_shows runtime admittedAt _ hkey
  · exact admitAttempt_shows runtime definition binding _ resolved hkey

section Replacement

variable [UnicodeNormalization]

/-- A stale proposal, its replacement, and the link between them. -/
theorem persistReplacement_shows (runtime : ActionRuntime) (definition : ActionDeclaration V)
    (receipt : ExecutionReceipt) (replacement : Option (PreparedAction V)) (now : Timestamp)
    (hkey : record.key = key) :
    ShowsEffects (persistReplacement (H := H) runtime definition record (staleProposal record receipt)
      replacement now) (fun w _ ↦ AbortedEffects key w)
      [⟨.compareAndSet (casArguments record (staleProposal record receipt)), .ok true⟩] := by
  have hstale : AbortedEffects (V := V) (H := H) key
      [⟨.compareAndSet (casArguments record (staleProposal record receipt)), .ok true⟩] :=
    .stale hkey receipt _
  unfold persistReplacement
  split
  · exact hstale
  split
  · exact hstale
  · refine Shows.orRaise (fun _ _ ↦ hstale) fun _ _ ↦ ?_
    refine Shows.bind_of (persistPrepared_shows _ _ _ _ _ _ _ _ _) (fun w' e heffects ↦ ?_)
      fun w' fresh heffects ↦ ?_
    · cases heffects with
      | nothing => exact hstale
      | created answer htarget hstatus =>
        exact .created hkey receipt (htarget.1.trans (congrArg Prod.fst hkey)) hstatus answer
    · cases heffects with
      | created answer htarget hstatus hreturned =>
        have htenant := htarget.1.trans (congrArg Prod.fst hkey)
        rw [hreturned fresh rfl]
        refine Shows.shown rfl (fun e ↦ ?_) fun written ↦ ?_
        · exact .superseded hkey receipt htenant hstatus answer _
        · exact .superseded hkey receipt htenant hstatus answer _

theorem supersedeStale_shows (runtime : ActionRuntime) (definition : ActionDeclaration V)
    (replacement : Option (PreparedAction V)) (now : Timestamp) (hkey : record.key = key) :
    ShowsEffects (supersedeStale (H := H) runtime definition record replacement now)
      (AbortsCleanly key) [] := by
  refine Shows.hidden rfl (fun _ ↦ .raised .nothing _) fun reference ↦ ?_
  refine Shows.shown rfl (fun _ ↦ .raised (.stale hkey _ _) _) fun written ↦ ?_
  cases written with
  | false => exact required_ends (.stale hkey _ _)
  | true =>
    refine Shows.bind_of (persistReplacement_shows runtime definition _ replacement now hkey)
      (fun w e haborted ↦ .raised haborted _) fun w replaced haborted ↦ ?_
    exact emit_shows (fun _ ↦ .raised haborted _) (.raised haborted _)

theorem resolveCurrent_shows (runtime : ActionRuntime) (definition : ActionDeclaration V)
    (commitment : KeyedCommitment) (snapshot : V) (now : Timestamp) (hkey : record.key = key) :
    ShowsEffects (resolveCurrent runtime ⟨definition, hostExecutors V H definition⟩ record
      commitment snapshot now) (AbortsCleanly key) [] := by
  refine Shows.bind_of (evaluateAuthority_shows definition
    (authorityBinding definition record commitment) now []) ?_ ?_
  · rintro w e rfl
    exact .raised .nothing _
  rintro w evaluated rfl
  split
  split
  · exact block_shows runtime now _ hkey
  refine Shows.orRaise (fun _ _ ↦ .raised .nothing _) fun context _ ↦ ?_
  refine Shows.hidden rfl (fun _ ↦ .raised .nothing _) fun resolved ↦ ?_
  refine Shows.raiseIf (fun _ ↦ .raised .nothing _) fun _ ↦ ?_
  split
  · exact supersedeStale_shows runtime definition resolved.replacement now hkey
  · exact reauthorize_shows runtime definition _ resolved hkey

/-- Loading the private snapshot has no effect. -/
theorem loadPrivate_shows (definition : ActionDeclaration V) (w : RuntimeHistory V H) :
    ShowsEffects (loadPrivate (H := H) definition record) (fun w' _ ↦ w' = w) w := by
  rw [loadPrivate]
  split
  · refine Shows.attempt_hidden rfl fun unprotect ↦ ?_
    cases unprotect with
    | error failure =>
      dsimp only
      split <;> exact rfl
    | ok canonical =>
      refine Shows.orRaise (fun _ _ ↦ rfl) fun commitmentInput _ ↦ ?_
      refine Shows.hidden rfl (fun _ ↦ rfl) fun verified ↦ ?_
      split
      · exact rfl
      · exact Shows.orRaise (fun _ _ ↦ rfl) fun snapshot _ ↦ rfl
  · exact rfl

/-- **What an aborted execution leaves.** -/
theorem execute_shows (runtime : ActionRuntime) (definition : ActionDeclaration V)
    (tenantReference proposalReference : SafeReference) :
    ShowsEffects (execute runtime ⟨definition, hostExecutors V H definition⟩ tenantReference
      proposalReference) (AbortsCleanly (tenantReference, proposalReference)) [] := by
  refine required_shows (fun _ ↦ .raised .nothing _) fun record hkey ↦ ?_
  refine Shows.raiseIf (fun _ ↦ .raised .nothing _) fun _ ↦ ?_
  refine Shows.raiseIf (fun _ ↦ .raised .nothing _) fun _ ↦ ?_
  split
  · exact .returned _
  split
  · exact .returned _
  refine Shows.hidden rfl (fun _ ↦ .raised .nothing _) fun now ↦ ?_
  split
  · exact expireBeforeAdmission_shows hkey
  refine Shows.bind_of (loadPrivate_shows definition []) ?_ ?_
  · rintro w e rfl
    exact .raised .nothing _
  · rintro w loaded rfl
    split
    · exact block_shows runtime now _ hkey
    · exact block_shows runtime now _ hkey
    · exact resolveCurrent_shows runtime definition _ _ now hkey

end Replacement

end Subroutines

/-! ## What is left in the store -/

/-- The effects of call `i`, newest first. -/
def effectsOf (log : RuntimeLog V H) (i : ℕ) : RuntimeHistory V H :=
  visibleEvents (S := runtimeSignature V H) Op.hasEffect (historyOf log i)

theorem Op.hasEffect_of_storeCall {o : Op V H} {call : MemoryActionStore.Call}
    (ho : o.storeCall = some call) : o.hasEffect = true := by
  cases o with
  | create | compareAndSet | admitExecution | markErasurePending | completeErasure => rfl
  | _ => cases ho

section Reachable

variable [UnicodeNormalization] {env : Env V H} {world : World} {c : RuntimeConfig V H} {i : ℕ}

/-- A call changes the store by its effects only. -/
theorem store_changes {executorOf : ExecutorOf V H}
    (hc : Reachable (runtimeMachine env executorOf) world c)
    {e : Entry (runtimeSignature V H) Exn World} (he : e ∈ c.log) (hcaller : e.caller = i) :
    e.after.store = e.before.store ∨ e.event ∈ effectsOf c.log i ∧
      ∃ call, e.event.op.storeCall = some call ∧
        e.after.store = e.before.store.after call := by
  rcases World.exec_store (hc.exec he) with hsame | ⟨call, hcall, hafter⟩
  · exact Or.inl hsame
  · refine Or.inr ⟨mem_visibleEvents.mpr ⟨?_, Op.hasEffect_of_storeCall hcall⟩, call, hcall, hafter⟩
    exact mem_historyOf.mpr ⟨e, he, hcaller, rfl⟩

/-- **Aborted executions.** Over any store, in any interleaving and whatever the ports do: if a call
of `execute` raises without having called the executor, its effects are of one of the listed
shapes, and it has changed the store by nothing else. -/
theorem aborted_execution (hc : Reachable (runtimeMachine env (hostExecutors V H)) world c)
    {runtime : ActionRuntime} {definition : ActionDeclaration V}
    {tenantReference proposalReference : SafeReference} {failure : Exn}
    (hcall : c.calls[i]? =
      some (.execute runtime definition tenantReference proposalReference, .raise failure))
    (hunexecuted : ∀ ev ∈ historyOf c.log i, ev.op.isExecute = false) :
    AbortedEffects (tenantReference, proposalReference) (effectsOf c.log i) ∧
      ∀ e ∈ c.log, e.caller = i → e.after.store = e.before.store ∨
        e.event ∈ effectsOf c.log i ∧ ∃ call, e.event.op.storeCall = some call ∧
          e.after.store = e.before.store.after call := by
  refine ⟨?_, fun e he hcaller ↦ store_changes hc he hcaller⟩
  have hshows := execute_shows (H := H) runtime definition tenantReference proposalReference
  have hmeets : AbortsCleanly (tenantReference, proposalReference) (effectsOf c.log i)
      (.error failure) :=
    (Shows.meets (h := []) hshows).executes (Reachable.executes (fun _ _ _ _ _ ↦ trivial) hc hcall)
  rcases hmeets with ⟨ev, hev, hexecuted⟩ | haborted
  · rw [hunexecuted ev (mem_visibleEvents.mp hev).1] at hexecuted
    cases hexecuted
  · exact haborted failure rfl

end Reachable

section Sample

attribute [local instance] normalizedTexts

/-- A host whose resolver reports drift, and prepares a replacement with a snapshot of the wrong
model. -/
def driftingHost : HostAnswers SampleModel noOperations
  | .resolve _ current _ =>
    .ok ⟨current, "precondition", true, some ⟨.command, .preview, "effect"⟩⟩
  | o => sampleHost sampleAcceptance sampleConfirmation (fun operation ↦ Empty.elim operation) o

/-- A call of `execute` raises when it has made the proposal stale. -/
def rejectedReplacement : RuntimeConfig SampleModel noOperations :=
  scheduled driftingHost ["r1", "r2", "r3", "r4", "r5", "r6", "r7", "r8"] (fun _ ↦ false)
    (hostExecutors SampleModel noOperations) (sampleAttempt 0 "proposal" 8)

/-- Whether call `i` is an `execute` that has raised without calling the executor, and whose last
operation has made an authorized proposal stale, which has no replacement. -/
def leavesStale (c : RuntimeConfig SampleModel noOperations) (i : ℕ) : Bool :=
  match c.calls[i]?, c.log with
  | some (.execute _ _ tenantReference proposalReference, .raise _), x :: _ =>
    ((historyOf c.log i).all fun ev ↦ !ev.op.isExecute) && x.caller == i &&
      x.before.store.statusOf (tenantReference, proposalReference) == some .authorized &&
      x.after.store.statusOf (tenantReference, proposalReference) == some .stale &&
      (c.shared.store.proposals (tenantReference, proposalReference)).any fun record ↦
        record.lifecycleStatus == .stale && record.supersededBy == none
  | _, _ => false

theorem rejectedReplacement_leavesStale : leavesStale rejectedReplacement 2 = true := by
  decide +kernel

/-- **A stale proposal without a replacement.** `execute` raises before it calls the executor, and
it has made the proposal stale. -/
theorem stale_without_replacement :
    ∃ c, RuntimeReachable (Env.oneClock fun _ ↦ false)
        (hostExecutors SampleModel noOperations) 0 c ∧
      ∃ i runtime definition tenantReference proposalReference failure,
        c.calls[i]? =
          some (.execute runtime definition tenantReference proposalReference, .raise failure) ∧
        (∀ ev ∈ historyOf c.log i, ev.op.isExecute = false) ∧
        (∃ x ∈ c.log, x.caller = i ∧
          x.before.store.statusOf (tenantReference, proposalReference) = some .authorized ∧
          x.after.store.statusOf (tenantReference, proposalReference) = some .stale) ∧
        ∃ record, c.shared.store.proposals (tenantReference, proposalReference) = some record ∧
          record.lifecycleStatus = .stale ∧ record.supersededBy = none := by
  have hfacts := rejectedReplacement_leavesStale
  rw [leavesStale] at hfacts
  split at hfacts
  · rename_i runtime definition tenantReference proposalReference failure x older hcall hlog
    simp only [Bool.and_eq_true, List.all_eq_true, Bool.not_eq_true', beq_iff_eq,
      Option.any_eq_true] at hfacts
    obtain ⟨⟨⟨⟨hunexecuted, hcaller⟩, hbefore⟩, hafter⟩, record, hrecord, hstatus, hsuperseded⟩ :=
      hfacts
    refine ⟨rejectedReplacement, scheduled_reachable _ _ _ _ _, 2, runtime, definition,
      tenantReference, proposalReference, failure, hcall, hunexecuted, ⟨x, ?_, hcaller, hbefore,
        hafter⟩, record, hrecord, hstatus, hsuperseded⟩
    rw [hlog]
    exact List.mem_cons_self
  · cases hfacts

/-- What the rejected replacement leaves behind. -/
theorem aborted_execution_sample :
    ∃ tenantReference proposalReference,
      AbortedEffects (tenantReference, proposalReference) (effectsOf rejectedReplacement.log 2) ∧
        ∀ e ∈ rejectedReplacement.log, e.caller = 2 → e.after.store = e.before.store ∨
          e.event ∈ effectsOf rejectedReplacement.log 2 ∧
            ∃ call, e.event.op.storeCall = some call ∧
              e.after.store = e.before.store.after call := by
  have hfacts := rejectedReplacement_leavesStale
  rw [leavesStale] at hfacts
  split at hfacts
  · rename_i hcall hlog
    simp only [Bool.and_eq_true, List.all_eq_true, Bool.not_eq_true'] at hfacts
    obtain ⟨⟨⟨⟨hunexecuted, -⟩, -⟩, -⟩, -⟩ := hfacts
    exact ⟨_, _, aborted_execution (c := rejectedReplacement) (scheduled_reachable _ _ _ _ _) hcall
      hunexecuted⟩
  · cases hfacts

end Sample

end ThrevoActions
