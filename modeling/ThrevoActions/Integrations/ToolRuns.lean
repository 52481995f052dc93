import ThrevoActions.Integrations.Unauthorized
import ThrevoActions.Store.Tenants

/-!
# Tool calls over one store

Tool invocations, by any models for any tenants, interleaved with each other and with calls on the
runtime. As long as nobody records authority, nothing is authorized, so nothing is executed. In any
run, an invocation stays with its trusted tenant, and acts on no proposal but the one its
continuation names, after it was allowed to read it (`framework_approval_is_not_authority`).
-/

namespace ThrevoActions

open Interleaving Interleaving.Program
open MemoryActionStore (LocalTo)

variable {V : Type} [HostModels V] {H : Signature} {α : Type}

/-! ## What a tenant sees -/

/-- The world with what the store holds for `tenant` only. -/
def World.ofTenant (world : World) (tenant : SafeReference) : World :=
  { world with store := world.store.ofTenant tenant }

/-- The operation was answered from what the store holds for `tenant`, and left all else as it
was. -/
structure StaysWith (env : Env V H) (tenant : SafeReference)
    (e : Entry (runtimeSignature V H) Exn World) : Prop where
  within : (e.before.ofTenant tenant).exec env e.event.op e.event.answer (e.after.ofTenant tenant)
  others : ∀ other, other ≠ tenant →
    e.after.store.ofTenant other = e.before.store.ofTenant other

/-- A local call on the store stays with its tenant. -/
theorem World.StoreCall.local {world world' : World} {tenant : SafeReference}
    {call : MemoryActionStore → Except Exn α × MemoryActionStore} {answer : Except Exn α}
    (hlocal : LocalTo tenant call) (h : world.StoreCall (call world.store) answer world') :
    (world.ofTenant tenant).StoreCall (call (world.ofTenant tenant).store) answer
        (world'.ofTenant tenant) ∧
      ∀ other, other ≠ tenant → world'.store.ofTenant other = world.store.ofTenant other := by
  have hwithin : call (world.ofTenant tenant).store = _ := hlocal.within world.store
  rw [hwithin]
  rcases h with ⟨rfl, rfl⟩ | ⟨hfailure, rfl | rfl⟩
  · exact ⟨Or.inl ⟨rfl, rfl⟩, hlocal.others world.store⟩
  · exact ⟨Or.inr ⟨hfailure, Or.inl rfl⟩, fun _ _ ↦ rfl⟩
  · exact ⟨Or.inr ⟨hfailure, Or.inr rfl⟩, hlocal.others world.store⟩

/-- **A confined operation stays with its tenant.** -/
theorem Op.Confined.staysWith {env : Env V H} {tenant : SafeReference}
    {target : ProposalKey → Prop} {e : Entry (runtimeSignature V H) Exn World}
    (ho : e.event.op.Confined tenant target) (htarget : ∀ key, target key → key.1 = tenant)
    (hexec : e.before.exec env e.event.op e.event.answer e.after) : StaysWith env tenant e := by
  obtain ⟨caller, ⟨o, answer⟩, before, after⟩ := e
  change before.exec env o answer after at hexec
  suffices hlocal : (before.ofTenant tenant).exec env o answer (after.ofTenant tenant) ∧
      ∀ other, other ≠ tenant → after.store.ofTenant other = before.store.ofTenant other from
    ⟨hlocal.1, hlocal.2⟩
  cases o
  case create proposal =>
    exact World.StoreCall.local (MemoryActionStore.localTo_create ho.1) hexec
  case get tenantReference proposalReference =>
    have hlocal := MemoryActionStore.localTo_get proposalReference ho
    have hstays := World.StoreCall.local hlocal hexec
    exact hstays
  case getEffectClaimOwner tenantReference actionType semanticEffectReference =>
    have hlocal := MemoryActionStore.localTo_getEffectClaimOwner actionType semanticEffectReference ho
    have hstays := World.StoreCall.local hlocal hexec
    exact hstays
  case compareAndSet args =>
    have htenant : args.tenantReference = tenant := htarget _ ho.1
    exact World.StoreCall.local (MemoryActionStore.localTo_compareAndSet htenant
      ((congrArg Prod.fst ho.2).trans htenant)) hexec
  case admitExecution args =>
    have htenant : args.tenantReference = tenant := htarget _ ho.1
    exact World.StoreCall.local (MemoryActionStore.localTo_admitExecution htenant
      ((congrArg Prod.fst ho.2).trans htenant)) hexec
  case now =>
    obtain ⟨hreads, rfl⟩ := hexec
    exact ⟨⟨hreads, rfl⟩, fun _ _ ↦ rfl⟩
  case newIdentifier kind =>
    rcases hexec with ⟨reference, hanswer, hfresh, rfl⟩ | ⟨hfailure, rfl⟩
    · exact ⟨Or.inl ⟨reference, hanswer, hfresh, rfl⟩, fun _ _ ↦ rfl⟩
    · exact ⟨Or.inr ⟨hfailure, rfl⟩, fun _ _ ↦ rfl⟩
  case markErasurePending | completeErasure | canDecide | canRecover | authorizeErasure | host =>
    exact ho.elim
  all_goals
    have hsame : after = before := hexec
    subst hsame
    exact ⟨rfl, fun _ _ ↦ rfl⟩

/-! ## Runs with tools -/

/-- A configuration of a host with tools. -/
abbrev ToolConfig (V : Type) [HostModels V] (H : Signature) :=
  Config (runtimeSignature V H) Exn World (HostCall V) (ActionOperationResult ⊕ ToolOutcome)

section Reachable

variable [UnicodeNormalization] [ReferenceCharacters] [CommandModels V] {env : Env V H}
  {start : Timestamp} {c : ToolConfig V H}

/-- Every operation of an invocation is confined. -/
theorem invocation_confined (hc : Reachable (toolMachine env) (World.initial start) c)
    {e : Entry (runtimeSignature V H) Exn World} {past : RuntimeLog V H} (he : e :: past <:+ c.log)
    {runtime : ActionRuntime} {definition : ActionDeclaration V} {invocation : ToolInvocation V}
    {p : Coroutine V H (ActionOperationResult ⊕ ToolOutcome)}
    (hcall : c.calls[e.caller]? = some (.tool runtime definition invocation, p)) :
    e.event.op.Confined invocation.trusted.tenantReference
      (ToolTarget definition invocation (historyOf past e.caller)) := by
  have hmeets : (HostCall.coroutine (H := H) (.tool runtime definition invocation)).Meets
      (confinedContract definition invocation) (fun _ _ ↦ True) [] :=
    Meets.bind_of (handled_confined runtime definition invocation) (fun _ _ _ _ ↦ trivial)
      fun _ _ _ _ ↦ trivial
  have hexecutes : Executes (confinedContract definition invocation).legal _ [] p
      (historyOf c.log e.caller) := Reachable.executes (fun _ _ _ _ _ ↦ trivial) hc hcall
  have hsuffix := historyOf_suffix he e.caller
  rw [historyOf_cons_self] at hsuffix
  exact hmeets.issued hexecutes hsuffix

/-- An invocation calls `execute` for its trusted tenant only, on a proposal that it read before. Its
operations report on the proposal they are called for (`coroutine_answers`). -/
def ToolInvocation.ReadsFirst (invocation : ToolInvocation V) : Prop :=
  ∀ (p : ToolProgram V ToolOutcome) (g : History (actionOperations V) Exn),
    Executes ActionOperation.Answers (invokeActionTool invocation) [] p g →
    ∀ (past : History (actionOperations V) Exn) (tenantReference proposalReference : SafeReference)
      (answer : Except Exn ActionOperationResult),
      (⟨.execute tenantReference proposalReference, answer⟩ :: past) <:+ g →
      tenantReference = invocation.trusted.tenantReference ∧
        ∃ view, ⟨.read proposalReference invocation.readContext, .ok view⟩ ∈ past

omit [UnicodeNormalization] in
theorem ToolInvocation.readsFirst (invocation : ToolInvocation V) : invocation.ReadsFirst := by
  intro p g hexecutes past tenantReference proposalReference answer hsuffix
  have hissues := (invokeActionTool_meets invocation).issued hexecutes hsuffix
  exact ⟨hissues.1, hissues.2.2⟩

/-- **Framework approval is not authority.** In any interleaving of tool invocations and runtime
calls: without recorded authority nothing is executed, and no proposal leaves `awaiting_authority`
but by expiring. Every operation of an invocation stays with its trusted tenant; what it acts on is
the proposal it continues, which it was allowed to read before. It calls `execute` only on a
proposal it has read. -/
theorem framework_approval_is_not_authority
    (hc : Reachable (toolMachine env) (World.initial start) c) :
    ((∀ request ∈ c.calls.map Prod.fst, request.recordsAuthority = false) →
      ∀ e ∈ c.log, e.event.op.isExecute = false ∧ AwaitsOrExpires e.before.store e.after.store) ∧
    ∀ (e : Entry (runtimeSignature V H) Exn World) (past : RuntimeLog V H), e :: past <:+ c.log →
      ∀ (runtime : ActionRuntime) (definition : ActionDeclaration V)
        (invocation : ToolInvocation V) (p : Coroutine V H (ActionOperationResult ⊕ ToolOutcome)),
        c.calls[e.caller]? = some (.tool runtime definition invocation, p) →
        e.event.op.Confined invocation.trusted.tenantReference
          (ToolTarget definition invocation (historyOf past e.caller)) ∧
        StaysWith env invocation.trusted.tenantReference e ∧ invocation.ReadsFirst := by
  refine ⟨fun hnone e he ↦ ?_, fun e past he runtime definition invocation p hcall ↦ ?_⟩
  · have hrun := unauthorized_run hc hnone
    exact ⟨hrun.unexecuted e he, hrun.awaits e he⟩
  · have hconfined := invocation_confined hc he hcall
    have hmem : e ∈ c.log := he.subset List.mem_cons_self
    exact ⟨hconfined, hconfined.staysWith (fun key hkey ↦ hkey.1) (Reachable.exec hc hmem),
      invocation.readsFirst⟩

end Reachable

section Sample

/-- The characters of sample references: a blank is a space, control characters are other. -/
@[reducible] def plainCharacters : ReferenceCharacters := ⟨fun c ↦ c.val == 0x20, fun c ↦ c.val < 0x20⟩

/-- A command model without fields. -/
@[reducible] def sampleCommands : CommandModels SampleModel := ⟨fun _ ↦ [], fun _ _ ↦ .ok .command⟩

attribute [local instance] normalizedTexts plainCharacters sampleCommands

/-- The sample host, with tools. -/
def toolOracle : Oracle (toolMachine (V := SampleModel) (H := noOperations)
    (Env.oneClock fun _ ↦ false)) Timestamp where
  answer := World.answer (sampleHost sampleAcceptance sampleConfirmation
    fun o ↦ Empty.elim o) ["r1", "r2", "r3", "r4", "r5", "r6", "r7", "r8"]
  answer_sound := (hostOracle _ _ (fun _ ↦ false) (hostExecutors SampleModel noOperations)).answer_sound
  move c time := if c.shared.time ≤ time then some { c.shared with time := time } else none
  move_sound c time world' hmove := by
    split_ifs at hmove with htime
    cases hmove
    exact ⟨time, htime, rfl⟩

/-- A first call of the sample tool, which the model makes without arguments. -/
def firstInvocation : ToolInvocation SampleModel where
  approved := false
  continuationValue := .null
  arguments := []
  commandModel := .command
  actionType := sampleDefinition.actionType
  trusted := ⟨"tenant", ⟨"requester"⟩, ⟨"consumer"⟩, none⟩
  toolName := "tool"

/-- The same call, approved by the framework, with the metadata of the prepared proposal. -/
def approvedInvocation : ToolInvocation SampleModel :=
  { firstInvocation with
    approved := true
    continuationValue := .dict
      [(PyStr.ofString "proposal_reference", .str (PyStr.ofString "r1")),
        (PyStr.ofString "tool_name", .str (PyStr.ofString "tool")),
        (PyStr.ofString "action_type", .dict
          [(PyStr.ofString "namespace", .str (PyStr.ofString "sample.actions")),
            (PyStr.ofString "name", .str (PyStr.ofString "act")),
            (PyStr.ofString "version", .int 1)]),
        (PyStr.ofString "display_preview", .dict [])] }

/-- What hosts with the sample tool reach. -/
def sampleToolRun (turns : List (Turn (HostCall SampleModel) Timestamp)) :
    ToolConfig SampleModel noOperations :=
  (Config.initial (World.initial 0)).follow toolOracle turns

theorem sampleToolRun_reachable (turns : List (Turn (HostCall SampleModel) Timestamp)) :
    Reachable (toolMachine (Env.oneClock fun _ ↦ false)) (World.initial 0) (sampleToolRun turns) :=
  Reachable.initial.follow toolOracle turns

/-- A proposal is prepared by a tool, and approved by the framework alone. -/
def unauthorizedTurns : List (Turn (HostCall SampleModel) Timestamp) :=
  [.spawn (.tool sampleRuntime sampleDefinition firstInvocation)] ++ List.replicate 11 (.act 0) ++
    [.spawn (.tool sampleRuntime sampleDefinition approvedInvocation)] ++ List.replicate 6 (.act 1)

/-- Then its authority approves it, and the framework once more. -/
def authorizedTurns : List (Turn (HostCall SampleModel) Timestamp) :=
  unauthorizedTurns ++
    [.spawn (.runtime (.recordAuthority sampleRuntime sampleDefinition (sampleEvidence "r1")
      ⟨"approver"⟩ none))] ++ List.replicate 7 (.act 2) ++
    [.spawn (.tool sampleRuntime sampleDefinition approvedInvocation)] ++ List.replicate 29 (.act 3)

/-- Whether call `i` is an invocation that has executed. -/
def toolExecutes (c : ToolConfig SampleModel noOperations) (i : ℕ) : Bool :=
  match c.calls[i]? with
  | some (.tool _ _ _, .ret _) => c.log.any fun e ↦ e.caller == i && e.event.op.isExecute
  | _ => false

theorem authorizedTurns_executes : toolExecutes (sampleToolRun authorizedTurns) 3 = true := by
  decide +kernel

theorem unauthorizedTurns_unauthorized :
    ∀ request ∈ (sampleToolRun unauthorizedTurns).calls.map Prod.fst,
      request.recordsAuthority = false := by
  decide +kernel

/-- With its authority the sample proposal is executed, in its tenant; without, nothing is. -/
theorem framework_approval_is_not_authority_sample :
    (∀ e ∈ (sampleToolRun unauthorizedTurns).log, e.event.op.isExecute = false ∧
      AwaitsOrExpires e.before.store e.after.store) ∧
    ∃ runtime definition invocation p,
      (sampleToolRun authorizedTurns).calls[3]? = some (.tool runtime definition invocation, p) ∧
      (∃ e ∈ (sampleToolRun authorizedTurns).log, e.caller = 3 ∧ e.event.op.isExecute = true) ∧
      ∀ e past, e :: past <:+ (sampleToolRun authorizedTurns).log → e.caller = 3 →
        e.event.op.Confined invocation.trusted.tenantReference
          (ToolTarget definition invocation (historyOf past e.caller)) ∧
        StaysWith (Env.oneClock fun _ ↦ false) invocation.trusted.tenantReference e ∧
        invocation.ReadsFirst := by
  have hfacts := authorizedTurns_executes
  rw [toolExecutes] at hfacts
  split at hfacts
  · rename_i runtime definition invocation p hcall
    obtain ⟨e, he, hexecutes⟩ := List.any_eq_true.mp hfacts
    rw [Bool.and_eq_true, beq_iff_eq] at hexecutes
    refine ⟨(framework_approval_is_not_authority (sampleToolRun_reachable _)).1
      unauthorizedTurns_unauthorized, runtime, definition, invocation, _, hcall,
      ⟨e, he, hexecutes⟩, fun e past he hcaller ↦ ?_⟩
    exact (framework_approval_is_not_authority (sampleToolRun_reachable _)).2 e past he runtime
      definition invocation _ (hcaller ▸ hcall)
  · cases hfacts

end Sample

end ThrevoActions
