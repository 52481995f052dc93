import ThrevoActions.Integrations.Invocations

/-!
# Runs without recorded authority

Tool invocations and calls on the runtime, over one store. A call that has read no proposal beyond
`awaiting_authority` and `expired` does nothing but prepare, expire and look (`Op.Harmless`). As
long as nobody records authority there is no other proposal, so nothing is executed
(`unauthorized_run`).
-/

namespace ThrevoActions

open Interleaving Interleaving.Program
open MemoryActionStore (EffectsOwned)

variable {V : Type} [HostModels V] {H : Signature} {α β : Type}

/-! ## Calls of a host -/

/-- A call of a host: on a runtime, or by a tool. -/
inductive HostCall (V : Type) [HostModels V]
  | runtime (request : RuntimeCall V)
  | tool (actionRuntime : ActionRuntime) (definition : ActionDeclaration V)
      (invocation : ToolInvocation V)

/-- The coroutine of a call. -/
def HostCall.coroutine [UnicodeNormalization] [ReferenceCharacters] [CommandModels V] :
    HostCall V → Coroutine V H (ActionOperationResult ⊕ ToolOutcome)
  | .runtime request => do return .inl (← request.coroutine (hostExecutors V H))
  | .tool actionRuntime definition invocation => do
    return .inr (← (invokeActionTool invocation).handle
      (fixedActionOperations actionRuntime ⟨definition, hostExecutors V H definition⟩))

/-- Hosts whose workers and tools run over one store. -/
def toolMachine [UnicodeNormalization] [ReferenceCharacters] [CommandModels V] (env : Env V H) :
    Machine (runtimeSignature V H) Exn World (HostCall V) (ActionOperationResult ⊕ ToolOutcome) where
  program := HostCall.coroutine
  exec world o answer world' := world.exec env o answer world'
  drift c world' := ∃ time, c.shared.time ≤ time ∧ world' = { c.shared with time := time }

/-- The call records authority. -/
def HostCall.recordsAuthority : HostCall V → Bool
  | .runtime (.recordAuthority _ _ _ _ _) => true
  | _ => false

/-! ## Harmless operations -/

/-- A proposal with this status has never been authorized. -/
def LifecycleStatus.unauthorized : LifecycleStatus → Bool
  | .awaitingAuthority | .expired => true
  | _ => false

/-- The operation executes nothing and authorizes nothing. -/
def Op.Harmless : Op V H → Prop
  | .create proposal => proposal.lifecycleStatus = .awaitingAuthority
  | .compareAndSet args => args.updated.lifecycleStatus = .expired
  | .admitExecution _ | .execute _ _ _ _ => False
  | _ => True

/-- A proposal was read that is neither awaiting authority nor expired. -/
def ReadAuthorized (h : RuntimeHistory V H) : Prop :=
  ∃ tenantReference proposalReference record,
    Answered h (.get tenantReference proposalReference) (some record) ∧
      record.lifecycleStatus.unauthorized = false

/-- Nothing but harmless operations before such a proposal was read. -/
def unauthorizedContract : Contract (runtimeSignature V H) Exn where
  legal _ _ := True
  issues h o := o.Harmless ∨ ReadAuthorized h

/-- A program that keeps to harmless operations until it has read such a proposal. -/
abbrev Unauthorized (p : Coroutine V H α) (h : RuntimeHistory V H) : Prop :=
  p.Meets unauthorizedContract (fun _ _ ↦ True) h

namespace Unauthorized

variable {h : RuntimeHistory V H}

theorem of_readAuthorized {p : Coroutine V H α} (hread : ReadAuthorized h) : Unauthorized p h := by
  induction p generalizing h with
  | ret a => exact trivial
  | raise e => exact trivial
  | call o next ih =>
    refine ⟨Or.inr hread, fun r _ ↦ ih r ?_⟩
    obtain ⟨tenantReference, proposalReference, record, hanswered, hstatus⟩ := hread
    exact ⟨_, _, record, hanswered.mono (List.suffix_cons _ _), hstatus⟩

theorem of_harmless {p : Coroutine V H α} {P : α → Prop}
    (hp : p.Only (S := runtimeSignature V H) Op.Harmless P) : Unauthorized p h :=
  (hp.meets fun _ _ _ ho ↦ Or.inl ho).imp fun _ _ _ _ ↦ trivial

theorem bind {p : Coroutine V H α} {f : α → Coroutine V H β} (hp : Unauthorized p h)
    (hf : ∀ h a, Unauthorized (f a) h) : Unauthorized (p >>= f) h :=
  Meets.bind_of hp (fun _ _ _ _ ↦ trivial) fun h' a _ _ ↦ hf h' a

/-- After a proposal was read: either it may be authorized, or the rest must be harmless. -/
theorem required_bind {tenantReference proposalReference : SafeReference}
    {f : StoredProposal → Coroutine V H α}
    (hf : ∀ record : StoredProposal, record.lifecycleStatus.unauthorized = true →
      (f record).Only (S := runtimeSignature V H) Op.Harmless fun _ ↦ True) :
    Unauthorized (required tenantReference proposalReference >>= f) h := by
  refine Meets.bind_of (P := fun h' r ↦ ∀ record, r = .ok record →
    Answered h' (.get tenantReference proposalReference) (some record)) ?_ (fun _ _ _ _ ↦ trivial) ?_
  · refine Meets.perform_bind (Or.inl trivial) ?_ fun found _ ↦ ?_
    · rintro e - record ⟨⟩
    · cases found with
      | none =>
        rintro record ⟨⟩
      | some record =>
        refine Meets.raiseIf_bind ?_ fun _ ↦ ?_
        · rintro - record ⟨⟩
        · rintro record ⟨⟩
          exact .head
  · intro h' record _ hanswered
    by_cases hstatus : record.lifecycleStatus.unauthorized = true
    · exact of_harmless (hf record hstatus)
    · rw [Bool.not_eq_true] at hstatus
      exact of_readAuthorized ⟨_, _, record, hanswered record rfl, hstatus⟩

end Unauthorized

/-- What is confined to a tenant and to no proposal is harmless. -/
theorem Op.Confined.harmless {tenant : SafeReference} {o : Op V H}
    (ho : o.Confined tenant fun _ ↦ False) : o.Harmless := by
  cases o
  case create => exact ho.2
  case compareAndSet | admitExecution => exact ho.1.elim
  case execute => exact ho.elim
  all_goals exact trivial

/-- A coroutine that is confined to a tenant and to no proposal. -/
theorem harmless_of_confined {tenant : SafeReference} {p : Coroutine V H α} {P : α → Prop}
    (hp : Confines tenant (fun _ ↦ False) p P) : p.Only (S := runtimeSignature V H) Op.Harmless P :=
  hp.imp (fun _ ho ↦ ho.harmless) fun _ hP ↦ hP

/-! ## The calls, one by one -/

section Calls

theorem expireDue_harmless (definition : ActionDeclaration V)
    (tenantReference proposalReference : SafeReference) :
    (expireDue (H := H) definition tenantReference proposalReference).Only
      (S := runtimeSignature V H) Op.Harmless fun _ ↦ True := by
  refine (harmless_of_confined (required_confined proposalReference)).bind fun record hkey ↦ ?_
  refine Only.raiseIf fun _ ↦ Only.raiseIf fun _ ↦ ?_
  split
  · exact Only.pure trivial
  refine Only.await trivial fun now ↦ ?_
  split
  · exact Only.pure trivial
  refine Only.await rfl fun written ↦ ?_
  split
  · exact harmless_of_confined (conflict_confined proposalReference)
  · exact (harmless_of_confined (emit_confined rfl)).bind fun _ _ ↦ Only.pure trivial

theorem destroyAndComplete_harmless (definition : ActionDeclaration V)
    (proposalReference : SafeReference) (context : ReadContext) (record : StoredProposal)
    (now : Timestamp) :
    (destroyAndComplete (H := H) definition proposalReference context record now).Only
      (S := runtimeSignature V H) Op.Harmless fun _ ↦ True := by
  have hpayload : (destroyPayload (H := H) definition
      ⟨record.tenantReference, record.proposalReference⟩ record.protectedPrivateSnapshot).Only
      (S := runtimeSignature V H) Op.Harmless fun _ ↦ True := by
    unfold destroyPayload
    split
    · exact Only.pure trivial
    · exact Only.perform (S := runtimeSignature V H) (o := .destroyPayload _ _ _) trivial
  have hcommitment : (destroyCommitment (H := H) definition
      ⟨record.tenantReference, record.proposalReference⟩ record.commitment).Only
      (S := runtimeSignature V H) Op.Harmless fun _ ↦ True := by
    unfold destroyCommitment
    split
    · exact Only.pure trivial
    · exact Only.perform (S := runtimeSignature V H) (o := .destroyCommitment _ _ _) trivial
  refine hpayload.bind fun _ _ ↦ hcommitment.bind fun _ _ ↦ Only.await trivial fun completed ↦ ?_
  split
  · exact harmless_of_confined (conflict_confined proposalReference)
  · refine (harmless_of_confined (required_confined proposalReference)).bind fun erased _ ↦ ?_
    exact (harmless_of_confined (emit_confined rfl)).bind fun _ _ ↦ Only.pure trivial

theorem erase_harmless (runtime : ActionRuntime) (definition : ActionDeclaration V)
    (proposalReference : SafeReference) (context : ReadContext) :
    (erase (H := H) runtime definition proposalReference context).Only
      (S := runtimeSignature V H) Op.Harmless fun _ ↦ True := by
  have hconfined : Confines (V := V) (H := H) context.tenantReference (fun _ ↦ False)
      (required context.tenantReference proposalReference) _ := required_confined proposalReference
  have hrequired := harmless_of_confined hconfined
  have hcompletes := fun record now ↦
    destroyAndComplete_harmless (H := H) definition proposalReference context record now
  refine Only.raiseIf fun _ ↦ Only.await trivial fun authorized ↦ Only.raiseIf fun _ ↦ ?_
  refine hrequired.bind fun record _ ↦ Only.raiseIf fun _ ↦ ?_
  split
  · exact Only.pure trivial
  refine Only.await trivial fun now ↦ ?_
  split
  · exact hcompletes _ _
  refine Only.await trivial fun marked ↦ hrequired.bind fun record _ ↦ ?_
  split
  · exact Only.pure trivial
  split
  · exact Only.pure trivial
  · exact hcompletes _ _

variable [UnicodeNormalization] {h : RuntimeHistory V H}

theorem execute_unauthorized (runtime : ActionRuntime) (definition : ActionDeclaration V)
    (tenantReference proposalReference : SafeReference) :
    Unauthorized (execute runtime ⟨definition, hostExecutors V H definition⟩ tenantReference
      proposalReference) h := by
  refine Unauthorized.required_bind fun record hstatus ↦ ?_
  refine Only.raiseIf fun _ ↦ Only.raiseIf fun _ ↦ ?_
  have hunauthorized : record.lifecycleStatus ≠ .authorized := by
    rintro heq
    rw [heq] at hstatus
    cases hstatus
  split
  · exact Only.pure trivial
  · exact Only.pure trivial

omit [UnicodeNormalization] in
theorem reconcile_unauthorized (runtime : ActionRuntime) (definition : ActionDeclaration V)
    (tenantReference proposalReference : SafeReference) :
    Unauthorized (reconcile (H := H) runtime definition tenantReference proposalReference) h := by
  refine Unauthorized.required_bind fun record hstatus ↦ ?_
  refine Only.raiseIf fun _ ↦ Only.raiseIf fun _ ↦ Only.await trivial fun now ↦ ?_
  split
  · exact Only.pure trivial
  split
  · rename_i hstarted
    rcases List.mem_pair.mp hstarted with heq | heq
    · rw [heq] at hstatus
      cases hstatus
    · rw [heq] at hstatus
      cases hstatus
  split
  · exact Only.pure trivial
  · rename_i hpending
    rw [not_not.mp hpending] at hstatus
    cases hstatus

omit [UnicodeNormalization] in
theorem resumeVerification_unauthorized (runtime : ActionRuntime)
    (definition : ActionDeclaration V) (tenantReference proposalReference : SafeReference)
    (expectedRevision : ℕ) (operator : RecoveryOperator) (interventionReference : SafeReference) :
    Unauthorized (resumeVerification (H := H) runtime definition tenantReference proposalReference
      expectedRevision operator interventionReference) h := by
  refine Unauthorized.required_bind fun record hstatus ↦ ?_
  refine Only.raiseIf fun _ ↦ Only.raiseIf fun _ ↦ Only.await trivial fun now ↦ ?_
  refine Only.raiseIf fun _ ↦ Only.await trivial fun authorization ↦ Only.raiseIf fun _ ↦ ?_
  split
  · exact Only.pure trivial
  · rename_i hpending
    rcases List.mem_pair.mp (not_not.mp hpending) with heq | heq
    · rw [heq] at hstatus
      cases hstatus
    · rw [heq] at hstatus
      cases hstatus

/-- The operations of an action. -/
theorem fixedActionOperations_unauthorized (runtime : ActionRuntime)
    (definition : ActionDeclaration V) (o : ActionOperation V) :
    Unauthorized (fixedActionOperations runtime ⟨definition, hostExecutors V H definition⟩ o) h := by
  cases o with
  | prepare tenantReference command requestingPrincipal proposingAgent =>
    exact Unauthorized.of_harmless (harmless_of_confined
      (prepare_confined runtime definition command requestingPrincipal proposingAgent none))
  | execute tenantReference proposalReference => exact execute_unauthorized runtime definition _ _
  | reconcile tenantReference proposalReference =>
    exact reconcile_unauthorized runtime definition _ _
  | read proposalReference context =>
    exact Unauthorized.of_harmless (harmless_of_confined (read_confined definition _ context))

/-- **Every call but `record_authority`** keeps to harmless operations until it has read a proposal
that is neither awaiting authority nor expired. -/
theorem coroutine_unauthorized [ReferenceCharacters] [CommandModels V] {request : HostCall V}
    (hrecords : request.recordsAuthority = false) :
    Unauthorized (request.coroutine (H := H)) h := by
  cases request with
  | runtime request =>
    refine Unauthorized.bind ?_ fun _ _ ↦ trivial
    cases request with
    | prepare runtime definition tenantReference command requestingPrincipal proposingAgent
        proposalReference =>
      exact Unauthorized.of_harmless (harmless_of_confined (prepare_confined runtime definition
        command requestingPrincipal proposingAgent proposalReference))
    | recordAuthority => cases hrecords
    | expireDue definition tenantReference proposalReference =>
      exact Unauthorized.of_harmless (expireDue_harmless definition _ _)
    | execute runtime definition tenantReference proposalReference =>
      exact execute_unauthorized runtime definition _ _
    | reconcile runtime definition tenantReference proposalReference =>
      exact reconcile_unauthorized runtime definition _ _
    | resumeVerification runtime definition tenantReference proposalReference expectedRevision
        operator interventionReference =>
      exact resumeVerification_unauthorized runtime definition _ _ _ _ _
    | erase runtime definition proposalReference context =>
      exact Unauthorized.of_harmless (erase_harmless runtime definition _ _)
  | tool actionRuntime definition invocation =>
    refine Unauthorized.bind ?_ fun _ _ ↦ trivial
    refine (Meets.handle (A := free) (R := fun _ _ ↦ True) (meets_free (invokeActionTool invocation) [])
      trivial fun o _ h _ _ ↦ ?_).imp fun _ _ _ _ ↦ trivial
    exact (fixedActionOperations_unauthorized actionRuntime definition o).imp
      fun _ _ _ _ ↦ ⟨trivial, trivial⟩

end Calls

/-! ## Whole runs -/

/-- Every proposal on file is awaiting authority or expired. -/
def MemoryActionStore.Unauthorized (store : MemoryActionStore) : Prop :=
  ∀ key record, store.proposals key = some record → record.lifecycleStatus.unauthorized = true

/-- No proposal leaves `awaiting_authority` but by expiring. -/
def AwaitsOrExpires (store store' : MemoryActionStore) : Prop :=
  ∀ key record, store.proposals key = some record → record.lifecycleStatus = .awaitingAuthority →
    ∃ record', store'.proposals key = some record' ∧
      (record'.lifecycleStatus = .awaitingAuthority ∨ record'.lifecycleStatus = .expired)

namespace MemoryActionStore.Unauthorized

variable {store : MemoryActionStore}

theorem put (hstore : store.Unauthorized) {record : StoredProposal}
    (hrecord : record.lifecycleStatus.unauthorized = true) : (store.put record).Unauthorized := by
  intro key record' hfound
  by_cases hkey : key = record.key
  · rw [hkey, put_proposals_self] at hfound
    cases hfound
    exact hrecord
  · rw [put_proposals_of_ne hkey] at hfound
    exact hstore key record' hfound

/-- A harmless operation authorizes nothing. -/
theorem after (hstore : store.Unauthorized) {o : Op V H} (ho : o.Harmless) {call : Call}
    (hcall : o.storeCall = some call) : (store.after call).Unauthorized := by
  cases o
  case create proposal =>
    cases hcall
    rcases create_cases store proposal with ⟨hsame, -⟩ | ⟨hcreated, -⟩
    · rwa [MemoryActionStore.after, hsame]
    · rw [MemoryActionStore.after, hcreated]
      refine hstore.put ?_
      rw [show proposal.lifecycleStatus = _ from ho]
      rfl
  case compareAndSet args =>
    cases hcall
    rcases compareAndSet_cases store args with ⟨hsame, -⟩ | ⟨current, happlied⟩
    · rwa [MemoryActionStore.after, hsame]
    · rw [MemoryActionStore.after, happlied.result]
      refine hstore.put ?_
      rw [show args.updated.lifecycleStatus = _ from ho]
      rfl
  case admitExecution args => exact ho.elim
  case markErasurePending args =>
    cases hcall
    rcases markErasurePending_cases store args with hsame | ⟨current, hfound, -, -, -, -, hresult⟩
    · rwa [MemoryActionStore.after, hsame]
    · rw [MemoryActionStore.after, hresult]
      have hstatus := hstore _ current hfound
      exact hstore.put hstatus
  case completeErasure args =>
    cases hcall
    rcases completeErasure_cases store args with hsame | ⟨current, hfound, -, -, -, hresult⟩
    · rwa [MemoryActionStore.after, hsame]
    · rw [MemoryActionStore.after, hresult]
      have hstatus := hstore _ current hfound
      exact hstore.put hstatus
  all_goals cases hcall

/-- Where nothing is authorized, no proposal leaves `awaiting_authority` but by expiring. -/
theorem awaitsOrExpires {call : Call} (howned : EffectsOwned store)
    (hafter : (store.after call).Unauthorized) : AwaitsOrExpires store (store.after call) := by
  intro key record hrecord hstatus
  have hfiled : ∃ record', (store.after call).proposals key = some record' := by
    rcases after_advances howned call key with hsame | ⟨hnone, -⟩ | ⟨-, updated, -, hupdated, -⟩
    · exact ⟨record, hsame.trans hrecord⟩
    · rw [hrecord] at hnone
      cases hnone
    · exact ⟨updated, hupdated⟩
  obtain ⟨record', hrecord'⟩ := hfiled
  have hunauthorized := hafter key record' hrecord'
  refine ⟨record', hrecord', ?_⟩
  cases hstatus' : record'.lifecycleStatus <;> rw [hstatus'] at hunauthorized
  case awaitingAuthority => exact Or.inl rfl
  case expired => exact Or.inr rfl
  all_goals cases hunauthorized

end MemoryActionStore.Unauthorized

/-- What holds along a run without recorded authority. -/
structure UnauthorizedRun (log : RuntimeLog V H) (world : World) : Prop where
  owned : EffectsOwned world.store
  store : world.store.Unauthorized
  unexecuted : ∀ e ∈ log, e.event.op.isExecute = false
  awaits : ∀ e ∈ log, AwaitsOrExpires e.before.store e.after.store
  reads : ∀ i, ¬ReadAuthorized (historyOf log i)

/-- Reading a store in which nothing is authorized. -/
theorem not_readAuthorized_cons {env : Env V H} {world world' : World} {o : Op V H}
    {answer : Except Exn o.Ans} {h : RuntimeHistory V H} (hstore : world.store.Unauthorized)
    (hexec : world.exec env o answer world') (hread : ¬ReadAuthorized h) :
    ¬ReadAuthorized (⟨o, answer⟩ :: h) := by
  rintro ⟨tenantReference, proposalReference, record, hanswered, hstatus⟩
  rcases List.mem_cons.mp hanswered with heq | hanswered
  · cases heq
    obtain ⟨hget, -⟩ := World.StoreCall.ok hexec
    rw [hstore _ record (Except.ok.inj hget)] at hstatus
    cases hstatus
  · exact hread ⟨tenantReference, proposalReference, record, hanswered, hstatus⟩

/-- One step of such a run. -/
theorem UnauthorizedRun.act {env : Env V H} {log : RuntimeLog V H} {world world' : World} {i : ℕ}
    {o : Op V H} {answer : Except Exn o.Ans} (hrun : UnauthorizedRun log world)
    (hissues : unauthorizedContract.issues (historyOf log i) o)
    (hexec : world.exec env o answer world') :
    UnauthorizedRun (⟨i, ⟨o, answer⟩, world, world'⟩ :: log) world' := by
  have ho : o.Harmless := hissues.resolve_right (hrun.reads i)
  have hafter : world'.store.Unauthorized ∧ AwaitsOrExpires world.store world'.store := by
    rcases World.exec_store hexec with hsame | ⟨call, hcall, hcalled⟩
    · rw [hsame]
      exact ⟨hrun.store, fun key record hrecord hstatus ↦ ⟨record, hrecord, Or.inl hstatus⟩⟩
    · rw [hcalled]
      have hstore := hrun.store.after ho hcall
      exact ⟨hstore, MemoryActionStore.Unauthorized.awaitsOrExpires hrun.owned hstore⟩
  refine ⟨World.exec_effectsOwned hrun.owned hexec, hafter.1, ?_, ?_, ?_⟩
  · intro e he
    rcases List.mem_cons.mp he with rfl | he
    · cases o
      case execute => exact ho.elim
      all_goals rfl
    · exact hrun.unexecuted e he
  · intro e he
    rcases List.mem_cons.mp he with rfl | he
    · exact hafter.2
    · exact hrun.awaits e he
  · intro j
    rw [historyOf]
    split_ifs
    · exact not_readAuthorized_cons hrun.store hexec (hrun.reads j)
    · exact hrun.reads j

variable [UnicodeNormalization] [ReferenceCharacters] [CommandModels V]

/-- **As long as nobody records authority**, nothing is executed, and no proposal leaves
`awaiting_authority` but by expiring. -/
theorem unauthorized_run {env : Env V H} {start : Timestamp}
    {c : Config (runtimeSignature V H) Exn World (HostCall V) (ActionOperationResult ⊕ ToolOutcome)}
    (hc : Reachable (toolMachine env) (World.initial start) c)
    (hnone : ∀ request ∈ c.calls.map Prod.fst, request.recordsAuthority = false) :
    UnauthorizedRun c.log c.shared := by
  refine Reachable.log_induction_of (C := unauthorizedContract) (Q := fun _ _ _ ↦ True)
    (fun _ _ _ _ _ ↦ trivial) (fun request ↦ coroutine_unauthorized) ?_ ?_ ?_ hc hnone
  · refine ⟨EffectsOwned.empty, ?_, ?_, ?_, ?_⟩
    · rintro key record ⟨⟩
    · rintro e ⟨⟩
    · rintro e ⟨⟩
    · rintro i ⟨_, _, _, ⟨⟩, -⟩
  · intro c _ i o answer world' hissues hexec hrun
    exact hrun.act hissues hexec
  · rintro c _ world' ⟨time, -, rfl⟩ hrun
    exact ⟨hrun.owned, hrun.store, hrun.unexecuted, hrun.awaits, hrun.reads⟩

end ThrevoActions
