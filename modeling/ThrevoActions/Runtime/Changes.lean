import ThrevoActions.Runtime.Lawful
import ThrevoActions.Store.Retention

/-!
# What one step does to a stored record

The contract of the runtime speaks about what a coroutine knows; the store speaks about what is on
file. This module joins the two. A record a coroutine knows is either still on file or has been
succeeded by one with a higher revision (`Reachable.knows_current`), and a guarded write succeeds only at
the revision it expects, so whatever a step writes is written over the very record it was computed
from. `Change` lists what can happen to a record in one step, and `Reachable.change` says that
nothing else does, in any interleaving.
-/

namespace ThrevoActions

open Interleaving

/-! ## The store alone -/

namespace MemoryActionStore

variable {store : MemoryActionStore}

/-- Whatever a call does to the record under `key`, it creates it or succeeds it by a record of
the same identity at the next revision. -/
theorem after_advances (h : EffectsOwned store) (call : Call) (key : ProposalKey) :
    (store.after call).proposals key = store.proposals key ∨
      store.proposals key = none ∧ (∃ record, (store.after call).proposals key = some record) ∨
      ∃ current updated, store.proposals key = some current ∧
        (store.after call).proposals key = some updated ∧
        current.identity = updated.identity ∧ updated.revision = current.revision + 1 := by
  -- every mutating call leaves the store as it is or files one record
  have hput : ∀ (store' : MemoryActionStore) (record : StoredProposal),
      store'.proposals = (store.put record).proposals →
      (store.proposals record.key = none ∨ ∃ current, store.proposals record.key = some current ∧
        current.identity = record.identity ∧ record.revision = current.revision + 1) →
      store'.proposals key = store.proposals key ∨
        store.proposals key = none ∧ (∃ record, store'.proposals key = some record) ∨
        ∃ current updated, store.proposals key = some current ∧
          store'.proposals key = some updated ∧
          current.identity = updated.identity ∧ updated.revision = current.revision + 1 := by
    intro store' record hstore' hcase
    rw [hstore']
    by_cases hkey : key = record.key
    · subst hkey
      rw [put_proposals_self]
      rcases hcase with hnone | ⟨current, hcurrent, hidentity, hrevision⟩
      · exact Or.inr (Or.inl ⟨hnone, record, rfl⟩)
      · exact Or.inr (Or.inr ⟨current, record, hcurrent, rfl, hidentity, hrevision⟩)
    · exact Or.inl (put_proposals_of_ne hkey)
  have hfiled : ∀ {key' : ProposalKey} {current updated : StoredProposal},
      store.proposals key' = some current → current.identity = updated.identity →
      store.proposals updated.key = some current := by
    intro key' current updated hfound hidentity
    rw [← StoredProposal.key_eq_of_identity hidentity, h.filed _ _ hfound, hfound]
  cases call with
  | create proposal =>
    rcases create_cases store proposal with ⟨hsame, -⟩ | ⟨hcreated, hnone, -⟩
    · exact Or.inl (by rw [after, hsame])
    · exact hput _ proposal (by rw [after, hcreated]) (Or.inl hnone)
  | compareAndSet args =>
    rcases compareAndSet_cases store args with ⟨hsame, -⟩ | ⟨current, happlied⟩
    · exact Or.inl (by rw [after, hsame])
    · refine hput _ args.updated (by rw [after, happlied.result]) (Or.inr ⟨current, ?_⟩)
      exact ⟨hfiled happlied.found happlied.accepted.identity, happlied.accepted.identity,
        happlied.accepted.revision⟩
  | admitExecution args =>
    rcases admitExecution_cases store args with ⟨hsame, -⟩ | ⟨current, result, -, -, happlied⟩
    · exact Or.inl (by rw [after, hsame])
    · refine hput _ args.updated happlied.proposals (Or.inr ⟨current, ?_⟩)
      exact ⟨hfiled happlied.found happlied.accepted.identity, happlied.accepted.identity,
        happlied.accepted.revision⟩
  | markErasurePending args =>
    rcases markErasurePending_cases store args with hsame | ⟨current, hfound, -, -, -, -, hresult⟩
    · exact Or.inl (by rw [after, hsame])
    · refine hput _ (proposalWithErasurePending current args.timestamp) (by rw [after, hresult])
        (Or.inr ⟨current, hfiled hfound rfl, rfl, rfl⟩)
  | completeErasure args =>
    rcases completeErasure_cases store args with hsame | ⟨current, hfound, -, -, -, hresult⟩
    · exact Or.inl (by rw [after, hsame])
    · refine hput _ (erasedProposal current args.timestamp) (by rw [after, hresult])
        (Or.inr ⟨current, hfiled hfound rfl, rfl, rfl⟩)

/-- The record on file under its key is `record`, or a later version of it. -/
def UpToDate (store : MemoryActionStore) (record : StoredProposal) : Prop :=
  ∃ current, store.proposals record.key = some current ∧
    (current = record ∨ record.revision < current.revision)

theorem UpToDate.after {record : StoredProposal} (hrecord : store.UpToDate record)
    (h : EffectsOwned store) (call : Call) : (store.after call).UpToDate record := by
  obtain ⟨current, hcurrent, hversion⟩ := hrecord
  rcases after_advances h call record.key with hsame | ⟨hnone, -⟩ | ⟨current', updated, hcurrent',
    hupdated, -, hrevision⟩
  · exact ⟨current, by rw [hsame, hcurrent], hversion⟩
  · rw [hcurrent] at hnone
    cases hnone
  · rw [hcurrent] at hcurrent'
    cases hcurrent'
    refine ⟨updated, hupdated, Or.inr ?_⟩
    rcases hversion with rfl | hlt
    · omega
    · omega

/-- The version on file is the only up-to-date version of its revision. -/
theorem UpToDate.eq_of_revision {record current : StoredProposal}
    (hrecord : store.UpToDate record) (hcurrent : store.proposals record.key = some current)
    (hrevision : current.revision = record.revision) : current = record := by
  obtain ⟨current', hcurrent', hversion⟩ := hrecord
  rw [hcurrent] at hcurrent'
  cases hcurrent'
  rcases hversion with heq | hlt
  · exact heq
  · omega

end MemoryActionStore

open MemoryActionStore (EffectsOwned)

/-! ## Operations on the store -/

variable {V : Type} [HostModels V] {H : Signature}

/-- The mutating store call an operation is. -/
def Op.storeCall : Op V H → Option MemoryActionStore.Call
  | .create proposal => some (.create proposal)
  | .compareAndSet args => some (.compareAndSet args)
  | .admitExecution args => some (.admitExecution args)
  | .markErasurePending args => some (.markErasurePending args)
  | .completeErasure args => some (.completeErasure args)
  | _ => none

theorem World.StoreCall.store {α : Type} {world world' : World}
    {outcome : Except Exn α × MemoryActionStore} {answer : Except Exn α}
    (h : world.StoreCall outcome answer world') :
    world'.store = world.store ∨ world'.store = outcome.2 := by
  rcases h with ⟨-, rfl⟩ | ⟨-, rfl | rfl⟩
  · exact Or.inr rfl
  · exact Or.inl rfl
  · exact Or.inr rfl

/-- A call that answered normally took effect. -/
theorem World.StoreCall.ok {α : Type} {world world' : World}
    {outcome : Except Exn α × MemoryActionStore} {a : α}
    (h : world.StoreCall outcome (.ok a) world') :
    outcome.1 = .ok a ∧ world' = { world with store := outcome.2 } := by
  rcases h with ⟨hanswer, hworld⟩ | ⟨⟨failure, hfailure⟩, -⟩
  · exact ⟨hanswer.symm, hworld⟩
  · cases hfailure

/-- A store call changes neither the time nor the identifiers. -/
theorem World.StoreCall.rest {α : Type} {world world' : World}
    {outcome : Except Exn α × MemoryActionStore} {answer : Except Exn α}
    (h : world.StoreCall outcome answer world') :
    world'.time = world.time ∧ world'.issued = world.issued := by
  rcases h with ⟨-, rfl⟩ | ⟨-, rfl | rfl⟩ <;> exact ⟨rfl, rfl⟩

/-- An operation leaves the store as it is, or performs its store call on it. -/
theorem World.exec_store {env : Env V H} {world world' : World} {o : Op V H}
    {answer : Except Exn o.Ans} (hexec : world.exec env o answer world') :
    world'.store = world.store ∨
      ∃ call, o.storeCall = some call ∧ world'.store = world.store.after call := by
  cases o with
  | create proposal => exact hexec.store.imp_right fun h ↦ ⟨_, rfl, h⟩
  | compareAndSet args => exact hexec.store.imp_right fun h ↦ ⟨_, rfl, h⟩
  | admitExecution args => exact hexec.store.imp_right fun h ↦ ⟨_, rfl, h⟩
  | markErasurePending args => exact hexec.store.imp_right fun h ↦ ⟨_, rfl, h⟩
  | completeErasure args => exact hexec.store.imp_right fun h ↦ ⟨_, rfl, h⟩
  | get tenantReference proposalReference => exact Or.inl (or_self_iff.mp hexec.store)
  | getEffectClaimOwner tenantReference actionType semanticEffectReference =>
    exact Or.inl (or_self_iff.mp hexec.store)
  | now => exact Or.inl (congrArg World.store hexec.2)
  | newIdentifier kind =>
    rcases hexec with ⟨reference, -, -, rfl⟩ | ⟨-, rfl⟩
    · exact Or.inl rfl
    · exact Or.inl rfl
  | emit | canPrepare | prepare | canDecide | evaluate | resolve | canExecute | execute | verify
  | canRead | canRecover | authorizeErasure | createCommitment | verifyCommitment | destroyCommitment
  | protectPayload | unprotectPayload | destroyPayload | host =>
    exact Or.inl (congrArg World.store hexec)

/-- No operation breaks the ownership invariant. -/
theorem World.exec_effectsOwned {env : Env V H} {world world' : World} {o : Op V H}
    {answer : Except Exn o.Ans} (howned : EffectsOwned world.store)
    (hexec : world.exec env o answer world') : EffectsOwned world'.store := by
  rcases World.exec_store hexec with hsame | ⟨call, -, hcall⟩
  · rwa [hsame]
  · rw [hcall]
    exact howned.after call

/-- No operation takes a stored version back. -/
theorem World.exec_upToDate {env : Env V H} {world world' : World} {o : Op V H}
    {answer : Except Exn o.Ans} (howned : EffectsOwned world.store)
    (hexec : world.exec env o answer world') {record : StoredProposal}
    (hrecord : world.store.UpToDate record) : world'.store.UpToDate record := by
  rcases World.exec_store hexec with hsame | ⟨call, -, hcall⟩
  · rwa [hsame]
  · rw [hcall]
    exact hrecord.after howned call

/-- What a coroutine reads or successfully writes is on file when it does. -/
theorem Known.head_upToDate {env : Env V H} {world world' : World} {h : RuntimeHistory V H}
    {o : Op V H} {answer : Except Exn o.Ans} (hexec : world.exec env o answer world')
    {record : StoredProposal}
    (hknown : Known (V := V) (H := H) (⟨o, answer⟩ :: h) record) :
    Known h record ∨ world'.store.UpToDate record := by
  cases hknown with
  | read hread =>
    rcases List.mem_cons.mp hread with heq | hmem
    · cases heq
      obtain ⟨hget, rfl⟩ := World.StoreCall.ok hexec
      exact Or.inr ⟨record, Except.ok.inj hget, Or.inl rfl⟩
    · exact Or.inl (.read hmem)
  | @wrote current hwrote =>
    rcases List.mem_cons.mp hwrote with heq | hmem
    · cases heq
      obtain ⟨hcas, rfl⟩ := World.StoreCall.ok hexec
      rcases MemoryActionStore.compareAndSet_cases world.store (casArguments current record) with
        ⟨-, hne⟩ | ⟨current', happlied⟩
      · exact absurd hcas hne
      · refine Or.inr ⟨record, ?_, Or.inl rfl⟩
        rw [happlied.result]
        exact MemoryActionStore.put_proposals_self _ _
    · exact Or.inl (.wrote hmem)
  | admitted hadmitted =>
    obtain ⟨args, claim, rfl, hclaim, hanswered⟩ := hadmitted
    rcases List.mem_cons.mp hanswered with heq | hmem
    · cases heq
      obtain ⟨hadmission, rfl⟩ := World.StoreCall.ok hexec
      rcases MemoryActionStore.admitExecution_cases world.store args with
        ⟨-, hrefused⟩ | ⟨current, result, -, -, happlied⟩
      · rw [hrefused claim hadmission] at hclaim
        cases hclaim
      · refine Or.inr ⟨args.updated, ?_, Or.inl rfl⟩
        rw [happlied.proposals]
        exact MemoryActionStore.put_proposals_self _ _
    · exact Or.inl (.admitted ⟨args, claim, rfl, hclaim, hmem⟩)

/-! ## Reachable configurations -/

section Reachable

variable [UnicodeNormalization] {env : Env V H} {executorOf : ExecutorOf V H}
  {hostIssues : RuntimeHistory V H → H.Op → Prop} {start : Timestamp} {c : RuntimeConfig V H}

/-- A configuration some interleaving of runtime calls reaches, starting from an empty store. -/
abbrev RuntimeReachable (env : Env V H) (executorOf : ExecutorOf V H) (start : Timestamp)
    (c : RuntimeConfig V H) : Prop :=
  Reachable (runtimeMachine env executorOf) (World.initial start) c

namespace RuntimeReachable

/-- Time passing changes nothing but the time. -/
theorem drift_store {c : RuntimeConfig V H} {world' : World}
    (hdrift : (runtimeMachine env executorOf).drift c world') :
    world'.store = c.shared.store ∧ world'.issued = c.shared.issued := by
  obtain ⟨time, -, rfl, -⟩ := hdrift
  exact ⟨rfl, rfl⟩

/-- **Workers only call the store.** Every store the runtime reaches is what a sequence of calls
makes of the empty one. -/
theorem exists_calls (hc : RuntimeReachable env executorOf start c) :
    ∃ calls, c.shared.store = MemoryActionStore.empty.run calls := by
  induction hc with
  | initial => exact ⟨[], rfl⟩
  | step _ hstep ih =>
    obtain ⟨calls, hcalls⟩ := ih
    cases hstep with
    | spawn => exact ⟨calls, hcalls⟩
    | act i r s' _ hexec =>
      rcases World.exec_store hexec with hsame | ⟨call, -, hcall⟩
      · exact ⟨calls, hsame.trans hcalls⟩
      · refine ⟨calls ++ [call], hcall.trans ?_⟩
        rw [hcalls, MemoryActionStore.run, MemoryActionStore.run, List.foldl_append]
        rfl
    | drift s' hdrift => exact ⟨calls, (drift_store hdrift).1.trans hcalls⟩

/-- The store keeps its ownership invariant. -/
theorem effectsOwned (hc : RuntimeReachable env executorOf start c) :
    EffectsOwned c.shared.store := by
  obtain ⟨calls, hcalls⟩ := hc.exists_calls
  rw [hcalls]
  exact EffectsOwned.empty.run calls

/-- Every record on file is bound to its evidence and its receipts. -/
theorem bound (hc : RuntimeReachable env executorOf start c) : c.shared.store.Bound := by
  obtain ⟨calls, hcalls⟩ := hc.exists_calls
  rw [hcalls]
  exact MemoryActionStore.Bound.empty.run EffectsOwned.empty calls

/-- **What a coroutine knows is on file, or an earlier version of it.** -/
theorem knows_current (hc : RuntimeReachable env executorOf start c) {i : ℕ}
    {record : StoredProposal} (hknown : Known (historyOf c.log i) record) :
    c.shared.store.UpToDate record := by
  induction hc generalizing i record with
  | initial =>
    cases hknown with
    | read hread => cases hread
    | wrote hwrote => cases hwrote
    | admitted hadmitted =>
      obtain ⟨args, claim, -, -, hanswered⟩ := hadmitted
      cases hanswered
  | @step c c' hc hstep ih =>
    cases hstep with
    | spawn => exact ih hknown
    | @act j q o next r s' _ hexec =>
      have hkeep := fun {k : ℕ} {record : StoredProposal}
          (hk : Known (historyOf c.log k) record) ↦
        World.exec_upToDate (effectsOwned hc) hexec (ih hk)
      by_cases hj : j = i
      · subst hj
        rw [historyOf, if_pos rfl] at hknown
        rcases Known.head_upToDate hexec hknown with hold | hnew
        · exact hkeep hold
        · exact hnew
      · rw [historyOf, if_neg hj] at hknown
        exact hkeep hknown
    | drift s' hdrift =>
      rw [(drift_store hdrift).1]
      exact ih hknown

end RuntimeReachable

/-! ## Changes -/

/-- What one operation, issued after history `h`, may do to a record on file. -/
inductive Change (h : RuntimeHistory V H) (o : Op V H) :
    Option StoredProposal → StoredProposal → Prop
  | created {record : StoredProposal} (ho : o = .create record) (hissued : CreateIssued h record)
      (hvalid : validateProposalCreate record = .ok ()) : Change h o none record
  | written {current updated : StoredProposal}
      (ho : o = .compareAndSet (casArguments current updated))
      (hissued : WriteIssued h current updated) (haccepted : AcceptedUpdate current updated) :
      Change h o (some current) updated
  | admitted {args : MemoryActionStore.AdmitExecution} {runtime : ActionRuntime}
      {definition : ActionDeclaration V} {record : StoredProposal}
      {executionPrecondition reference : SafeReference} (ho : o = .admitExecution args)
      (hissued : AdmissionIssued h args runtime definition record executionPrecondition reference)
      (haccepted : AcceptedUpdate record args.updated) (hunexpired : args.admittedAt < record.expiresAt) :
      Change h o (some record) args.updated
  | erasureMarked {args : MemoryActionStore.ErasureStep} {current : StoredProposal}
      (ho : o = .markErasurePending args)
      (hstatus : current.lifecycleStatus ∈ erasableLifecycleStatuses)
      (hunmarked : current.erasureMarked = false) :
      Change h o (some current) (proposalWithErasurePending current args.timestamp)
  | erased {args : MemoryActionStore.ErasureStep} {current : StoredProposal}
      (ho : o = .completeErasure args) (hpending : current.erasurePendingAt ≠ none)
      (hunerased : current.erasedAt = none) :
      Change h o (some current) (erasedProposal current args.timestamp)

/-- **One step changes a record in one of the ways `Change` lists, or not at all.** -/
theorem RuntimeReachable.change (hc : RuntimeReachable env executorOf start c) {i : ℕ}
    {o : Op V H} {answer : Except Exn o.Ans} {world' : World}
    (hissues : (runtimeContract hostIssues).issues (historyOf c.log i) o)
    (hexec : c.shared.exec env o answer world') (key : ProposalKey) :
    world'.store.proposals key = c.shared.store.proposals key ∨
      ∃ record, world'.store.proposals key = some record ∧
        Change (historyOf c.log i) o (c.shared.store.proposals key) record := by
  have howned := hc.effectsOwned
  rcases World.exec_store hexec with hsame | ⟨call, ho, hcall⟩
  · exact Or.inl (by rw [hsame])
  rw [hcall]
  -- filing `record` changes its own key only
  have hput : ∀ (store' : MemoryActionStore) (record : StoredProposal),
      store'.proposals = (c.shared.store.put record).proposals →
      Change (historyOf c.log i) o (c.shared.store.proposals record.key) record →
      store'.proposals key = c.shared.store.proposals key ∨
        ∃ record, store'.proposals key = some record ∧
          Change (historyOf c.log i) o (c.shared.store.proposals key) record := by
    intro store' record hstore' hchange
    rw [hstore']
    by_cases hkey : key = record.key
    · subst hkey
      exact Or.inr ⟨record, MemoryActionStore.put_proposals_self _ _, hchange⟩
    · exact Or.inl (MemoryActionStore.put_proposals_of_ne hkey)
  cases o with
  | create proposal =>
    cases ho
    rcases MemoryActionStore.create_cases c.shared.store proposal with
      ⟨hsame, -⟩ | ⟨hcreated, hnone, hvalid⟩
    · exact Or.inl (by rw [MemoryActionStore.after, hsame])
    · refine hput _ proposal (by rw [MemoryActionStore.after, hcreated]) ?_
      rw [hnone]
      exact .created rfl hissues.1 hvalid
  | compareAndSet args =>
    cases ho
    obtain ⟨current, updated, rfl, hissued⟩ := hissues
    rcases MemoryActionStore.compareAndSet_cases c.shared.store (casArguments current updated) with
      ⟨hsame, -⟩ | ⟨current', happlied⟩
    · exact Or.inl (by rw [MemoryActionStore.after, hsame])
    · have hcurrent : current' = current :=
        (hc.knows_current hissued.known).eq_of_revision happlied.found happlied.revision
      subst hcurrent
      have haccepted : AcceptedUpdate current' updated := happlied.accepted
      refine hput _ updated (by rw [MemoryActionStore.after, happlied.result]; rfl) ?_
      rw [← StoredProposal.key_eq_of_identity haccepted.identity, howned.filed _ _ happlied.found,
        happlied.found]
      exact .written rfl hissued haccepted
  | admitExecution args =>
    cases ho
    obtain ⟨runtime, definition, record, executionPrecondition, reference, hissued⟩ := hissues
    rcases MemoryActionStore.admitExecution_cases c.shared.store args with
      ⟨hsame, -⟩ | ⟨current, result, -, -, happlied⟩
    · exact Or.inl (by rw [MemoryActionStore.after, hsame])
    · have hfound : c.shared.store.proposals record.key = some current := by
        have := happlied.found
        rwa [hissued.arguments] at this
      have hrevision : current.revision = record.revision := by
        have := happlied.revision
        rwa [hissued.arguments] at this
      have hcurrent := (hc.knows_current hissued.known).eq_of_revision hfound hrevision
      subst hcurrent
      refine hput _ args.updated happlied.proposals ?_
      rw [← StoredProposal.key_eq_of_identity happlied.accepted.identity, hfound]
      exact .admitted rfl hissued happlied.accepted happlied.unexpired
  | markErasurePending args =>
    cases ho
    rcases MemoryActionStore.markErasurePending_cases c.shared.store args with
      hsame | ⟨current, hfound, -, hstatus, herased, hpending, hresult⟩
    · exact Or.inl (by rw [MemoryActionStore.after, hsame])
    · refine hput _ _ (by rw [MemoryActionStore.after, hresult]) ?_
      have hkey : current.key = (args.tenantReference, args.proposalReference) :=
        howned.filed _ _ hfound
      rw [show (proposalWithErasurePending current args.timestamp).key = current.key from rfl, hkey,
        hfound]
      exact .erasureMarked rfl hstatus (by rw [StoredProposal.erasureMarked, hpending, herased]; rfl)
  | completeErasure args =>
    cases ho
    rcases MemoryActionStore.completeErasure_cases c.shared.store args with
      hsame | ⟨current, hfound, -, hpending, herased, hresult⟩
    · exact Or.inl (by rw [MemoryActionStore.after, hsame])
    · refine hput _ _ (by rw [MemoryActionStore.after, hresult]) ?_
      have hkey : current.key = (args.tenantReference, args.proposalReference) :=
        howned.filed _ _ hfound
      rw [show (erasedProposal current args.timestamp).key = current.key from rfl, hkey,
        hfound]
      exact .erased rfl hpending herased
  | get | getEffectClaimOwner | now | newIdentifier | emit | canPrepare | prepare | canDecide
  | evaluate | resolve | canExecute | execute | verify | canRead | canRecover | authorizeErasure
  | createCommitment | verifyCommitment | destroyCommitment | protectPayload | unprotectPayload
  | destroyPayload | host => cases ho

/-- What is proved of a log and a world by following every step: the induction principle of
runtime machines with lawful executors. -/
theorem RuntimeReachable.induction
    (hexecutors : ∀ definition, LawfulExecutor hostIssues definition (executorOf definition))
    {P : RuntimeLog V H → World → Prop} (hinitial : P [] (World.initial start))
    (hact : ∀ c : RuntimeConfig V H, RuntimeReachable env executorOf start c →
      ∀ (i : ℕ) (o : Op V H) (answer : Except Exn o.Ans) (world' : World),
      (runtimeContract hostIssues).issues (historyOf c.log i) o →
      c.shared.exec env o answer world' → P c.log c.shared →
      P (⟨i, ⟨o, answer⟩, c.shared, world'⟩ :: c.log) world')
    (hdrift : ∀ (log : RuntimeLog V H) (world : World) (time : Timestamp), world.time ≤ time →
      P log world → P log { world with time := time })
    (hc : RuntimeReachable env executorOf start c) : P c.log c.shared := by
  refine Reachable.log_induction (C := runtimeContract hostIssues) (Q := fun _ _ _ ↦ True)
    (fun _ _ _ _ _ ↦ trivial) (coroutine_lawful hexecutors) hinitial hact ?_ hc
  rintro c _ world' ⟨time, htime, rfl, -⟩ hP
  exact hdrift _ _ time htime hP

/-- What every step keeps of the record it works on holds of every unerased record on file. -/
theorem RuntimeReachable.record_induction
    (hexecutors : ∀ definition, LawfulExecutor hostIssues definition (executorOf definition))
    {P : StoredProposal → Prop}
    (hstep : ∀ (h : RuntimeHistory V H) (o : Op V H) (before : Option StoredProposal)
      (record : StoredProposal), Change h o before record →
      (∀ current, before = some current → current.erasedAt = none → P current) →
      record.erasedAt = none → P record)
    (hc : RuntimeReachable env executorOf start c) {key : ProposalKey} {record : StoredProposal}
    (hrecord : c.shared.store.proposals key = some record) (hunerased : record.erasedAt = none) :
    P record := by
  refine RuntimeReachable.induction (P := fun _ world ↦ ∀ record,
    world.store.proposals key = some record → record.erasedAt = none → P record)
    hexecutors ?_ ?_ ?_ hc record hrecord hunerased
  · intro record hrecord
    cases hrecord
  · intro c hc i o answer world' hissues hexec ih record hrecord hunerased
    rcases hc.change hissues hexec key with hsame | ⟨record', hafter, hchange⟩
    · exact ih record (hsame ▸ hrecord) hunerased
    · rw [hafter] at hrecord
      cases hrecord
      exact hstep _ _ _ _ hchange ih hunerased
  · exact fun _ _ _ _ ih ↦ ih

/-- Every logged operation was issued under the conditions of the contract. -/
theorem RuntimeReachable.issued
    (hexecutors : ∀ definition, LawfulExecutor hostIssues definition (executorOf definition))
    (hc : RuntimeReachable env executorOf start c)
    {e : Entry (runtimeSignature V H) Exn World} {past : RuntimeLog V H}
    (he : e :: past <:+ c.log) :
    (runtimeContract hostIssues).issues (historyOf past e.caller) e.event.op :=
  Reachable.issued (C := runtimeContract hostIssues) (Q := fun _ _ _ ↦ True)
    (fun _ _ _ _ _ ↦ trivial) (coroutine_lawful hexecutors) hc he

/-- The same for every event of the history of one call. -/
theorem RuntimeReachable.issued_historyOf
    (hexecutors : ∀ definition, LawfulExecutor hostIssues definition (executorOf definition))
    (hc : RuntimeReachable env executorOf start c) {i : ℕ}
    {ev : Event (runtimeSignature V H) Exn} {past : RuntimeHistory V H}
    (hev : ev :: past <:+ historyOf c.log i) :
    (runtimeContract hostIssues).issues past ev.op :=
  Reachable.issued_historyOf (C := runtimeContract hostIssues) (Q := fun _ _ _ ↦ True)
    (fun _ _ _ _ _ ↦ trivial) (coroutine_lawful hexecutors) hc hev

end Reachable

end ThrevoActions
