import ThrevoActions.Interleaving.Machine
import ThrevoActions.Runtime.Operations
import ThrevoActions.Store.EffectClaims

/-!
# Workers over one store

Any number of workers run the runtime's operations over one `MemoryActionStore`. The shared state
is the store, the current time and the identifiers handed out so far.

What the environment may do is as wide as the code permits. A port answers anything or raises. A
call on the store is atomic and answers as the store does, but it may also be interrupted and raise,
before or after it took effect. Identifiers are fresh. How a clock reading relates to the time is a
parameter (`Env.reads`): arbitrary clocks and one exact clock are both instances. `Env.prompt`
names the operations a coroutine reaches without awaiting anything after its last clock reading, so
that no time passes before they start.
-/

namespace ThrevoActions

open Interleaving

/-- The shared state of all workers. -/
structure World where
  store : MemoryActionStore
  time : Timestamp
  issued : List SafeReference

/-- An empty store at time `time`. -/
def World.initial (time : Timestamp) : World := ⟨.empty, time, []⟩

/-- What is assumed of clocks and of time. -/
structure Env (V : Type) [HostModels V] (H : Signature) where
  /-- `reads time reading`: a clock may answer `reading` at `time`. -/
  reads : Timestamp → Timestamp → Prop
  /-- Operations that start without delay once they are next. -/
  prompt : Op V H → Bool

/-- Clocks that answer anything. -/
def Env.arbitraryClocks (V : Type) [HostModels V] (H : Signature) : Env V H :=
  ⟨fun _ _ ↦ True, fun _ ↦ false⟩

/-- One clock, shared by all workers. -/
def Env.oneClock {V : Type} [HostModels V] {H : Signature} (prompt : Op V H → Bool) : Env V H :=
  ⟨fun time reading ↦ reading = time, prompt⟩

variable {V : Type} [HostModels V] {H : Signature}

/-- A call on the store that would answer and leave the store as `outcome` says: it does so, or it
raises before or after it took effect. -/
def World.StoreCall {α : Type} (world : World) (outcome : Except Exn α × MemoryActionStore)
    (answer : Except Exn α) (world' : World) : Prop :=
  answer = outcome.1 ∧ world' = { world with store := outcome.2 } ∨
    (∃ failure, answer = .error failure) ∧
      (world' = world ∨ world' = { world with store := outcome.2 })

/-- A new identifier, or an exception. -/
def World.NewIdentifier (world : World) (answer : Except Exn SafeReference) (world' : World) :
    Prop :=
  (∃ reference, answer = .ok reference ∧ reference ∉ world.issued ∧
      world' = { world with issued := reference :: world.issued }) ∨
    (∃ failure, answer = .error failure) ∧ world' = world

/-- What each operation may answer, and what it does to the shared state. -/
def World.exec (env : Env V H) (world : World) :
    (o : Op V H) → Except Exn o.Ans → World → Prop
  | .create proposal, answer, world' =>
    world.StoreCall (world.store.create proposal) answer world'
  | .get tenantReference proposalReference, answer, world' =>
    world.StoreCall (.ok (world.store.get tenantReference proposalReference), world.store) answer
      world'
  | .compareAndSet args, answer, world' =>
    world.StoreCall (world.store.compareAndSet args) answer world'
  | .admitExecution args, answer, world' =>
    world.StoreCall (world.store.admitExecution args) answer world'
  | .getEffectClaimOwner tenantReference actionType semanticEffectReference, answer, world' =>
    world.StoreCall (.ok (world.store.getEffectClaimOwner tenantReference actionType
      semanticEffectReference), world.store) answer world'
  | .markErasurePending args, answer, world' =>
    world.StoreCall (.ok (world.store.markErasurePending args).1,
      (world.store.markErasurePending args).2) answer world'
  | .completeErasure args, answer, world' =>
    world.StoreCall (.ok (world.store.completeErasure args).1,
      (world.store.completeErasure args).2) answer world'
  | .now, answer, world' => (∀ reading, answer = .ok reading → env.reads world.time reading) ∧
    world' = world
  | .newIdentifier _, answer, world' => world.NewIdentifier answer world'
  | _, _, world' => world' = world

/-! ## Requests -/

/-- How a definition's executor runs: as a call on a host port, or as a coroutine of this
repository. -/
abbrev ExecutorOf (V : Type) [HostModels V] (H : Signature) :=
  ActionDeclaration V → V → ExecutionContext → SafeReference → Coroutine V H (ExecutionResult V)

/-- Executors that are host code. -/
def hostExecutors (V : Type) [HostModels V] (H : Signature) : ExecutorOf V H :=
  fun declaration snapshot context executionPrecondition ↦
    await (.execute declaration snapshot context executionPrecondition)

/-- A call on a runtime with its arguments. -/
inductive RuntimeCall (V : Type) [HostModels V]
  | prepare (runtime : ActionRuntime) (definition : ActionDeclaration V)
      (tenantReference : SafeReference) (command : V) (requestingPrincipal : RequestingPrincipal)
      (proposingAgent : Option ProposingAgent) (proposalReference : Option SafeReference)
  | recordAuthority (runtime : ActionRuntime) (definition : ActionDeclaration V)
      (evidence : AuthorityEvidence) (authenticatedAuthority : ConfirmingAuthority)
      (proposalReference : Option SafeReference)
  | expireDue (definition : ActionDeclaration V)
      (tenantReference proposalReference : SafeReference)
  | execute (runtime : ActionRuntime) (definition : ActionDeclaration V)
      (tenantReference proposalReference : SafeReference)
  | reconcile (runtime : ActionRuntime) (definition : ActionDeclaration V)
      (tenantReference proposalReference : SafeReference)
  | resumeVerification (runtime : ActionRuntime) (definition : ActionDeclaration V)
      (tenantReference proposalReference : SafeReference) (expectedRevision : ℕ)
      (operator : RecoveryOperator) (interventionReference : SafeReference)
  | erase (runtime : ActionRuntime) (definition : ActionDeclaration V)
      (proposalReference : SafeReference) (context : ReadContext)

/-- The coroutine of a call. -/
def RuntimeCall.coroutine [UnicodeNormalization] (executorOf : ExecutorOf V H) :
    RuntimeCall V → Coroutine V H ActionOperationResult
  | .prepare runtime definition tenantReference command requestingPrincipal proposingAgent
      proposalReference =>
    ThrevoActions.prepare runtime definition tenantReference command requestingPrincipal
      proposingAgent proposalReference
  | .recordAuthority runtime definition evidence authenticatedAuthority proposalReference =>
    ThrevoActions.recordAuthority runtime definition evidence authenticatedAuthority
      proposalReference
  | .expireDue definition tenantReference proposalReference =>
    ThrevoActions.expireDue definition tenantReference proposalReference
  | .execute runtime definition tenantReference proposalReference =>
    ThrevoActions.execute runtime ⟨definition, executorOf definition⟩ tenantReference
      proposalReference
  | .reconcile runtime definition tenantReference proposalReference =>
    ThrevoActions.reconcile runtime definition tenantReference proposalReference
  | .resumeVerification runtime definition tenantReference proposalReference expectedRevision
      operator interventionReference =>
    ThrevoActions.resumeVerification runtime definition tenantReference proposalReference
      expectedRevision operator interventionReference
  | .erase runtime definition proposalReference context =>
    ThrevoActions.erase runtime definition proposalReference context

/-! ## The machine -/

/-- A configuration of workers. -/
abbrev RuntimeConfig (V : Type) [HostModels V] (H : Signature) :=
  Config (runtimeSignature V H) Exn World (RuntimeCall V) ActionOperationResult

/-- The log of workers. -/
abbrev RuntimeLog (V : Type) [HostModels V] (H : Signature) := Log (runtimeSignature V H) Exn World

/-- The coroutine is about to start an operation that starts without delay. -/
def Env.hurries {α : Type} (env : Env V H) : Coroutine V H α → Bool
  | .ret _ => false
  | .raise _ => false
  | .call o _ => env.prompt o

/-- Some call is about to start an operation that starts without delay. -/
def RuntimeConfig.hurried (env : Env V H) (c : RuntimeConfig V H) : Bool :=
  c.calls.any fun call ↦ env.hurries call.2

/-- Workers running runtime calls. Time passes between operations, and never goes back. -/
def runtimeMachine [UnicodeNormalization] (env : Env V H) (executorOf : ExecutorOf V H) :
    Machine (runtimeSignature V H) Exn World (RuntimeCall V) ActionOperationResult where
  program := RuntimeCall.coroutine executorOf
  exec world o answer world' := world.exec env o answer world'
  drift c world' := ∃ time, c.shared.time ≤ time ∧ world' = { c.shared with time := time } ∧
    (RuntimeConfig.hurried env c = true → time = c.shared.time)

end ThrevoActions
