import ThrevoActions.Interleaving.Program
import ThrevoActions.Registry
import ThrevoActions.Store.Memory

/-!
# Operations of the runtime

Everything the runtime awaits, and the clock and identifiers it reads: the calls on its stores,
the calls on the ports of an action definition, and the calls an executor written in this
repository makes on its own host (`Op.host`). Each is one atomic operation of the signature of
runtime programs. A port is called with the declaration it belongs to.
-/

namespace ThrevoActions

open Interleaving

/-- The prefixes the runtime passes to `IdentifierProvider.new`. -/
inductive IdentifierKind
  | proposal
  | receipt
  deriving DecidableEq, Repr

/-- The atomic operations, over host models `V` and the host operations `H` of an executor. -/
inductive Op (V : Type) [HostModels V] (H : Signature) : Type
  | create (proposal : StoredProposal)
  | get (tenantReference proposalReference : SafeReference)
  | compareAndSet (args : MemoryActionStore.CompareAndSet)
  | admitExecution (args : MemoryActionStore.AdmitExecution)
  | getEffectClaimOwner (tenantReference : SafeReference) (actionType : ActionType)
      (semanticEffectReference : SafeReference)
  | markErasurePending (args : MemoryActionStore.ErasureStep)
  | completeErasure (args : MemoryActionStore.ErasureStep)
  | now
  | newIdentifier (kind : IdentifierKind)
  | emit (event : RuntimeEvent)
  | canPrepare (definition : ActionDeclaration V) (command : V) (context : PreparationContext)
  | prepare (definition : ActionDeclaration V) (command : V) (context : PreparationContext)
  | canDecide (definition : ActionDeclaration V) (evidence : AuthorityEvidence)
      (context : DecisionContext)
  | evaluate (definition : ActionDeclaration V) (binding : AuthorityBinding)
      (evidence : List AuthorityEvidence)
  | resolve (definition : ActionDeclaration V) (snapshot : V) (context : ExecutionContext)
  | canExecute (definition : ActionDeclaration V) (snapshot : V) (context : ExecutionContext)
  | execute (definition : ActionDeclaration V) (snapshot : V) (context : ExecutionContext)
      (executionPrecondition : SafeReference)
  | verify (definition : ActionDeclaration V) (context : ExecutionContext)
  | canRead (definition : ActionDeclaration V) (proposalReference : SafeReference)
      (context : ReadContext)
  | canRecover (definition : ActionDeclaration V) (proposalReference : SafeReference)
      (context : RecoveryContext)
  | authorizeErasure (definition : ActionDeclaration V) (proposalReference : SafeReference)
      (context : ReadContext)
  | createCommitment (definition : ActionDeclaration V) (proposalIdentity : ProposalIdentity)
      (canonicalPayload : Bytes)
  | verifyCommitment (definition : ActionDeclaration V) (proposalIdentity : ProposalIdentity)
      (canonicalPayload : Bytes) (commitment : KeyedCommitment)
  | destroyCommitment (definition : ActionDeclaration V) (proposalIdentity : ProposalIdentity)
      (commitment : KeyedCommitment)
  | protectPayload (definition : ActionDeclaration V) (proposalIdentity : ProposalIdentity)
      (canonicalPayload : Bytes)
  | unprotectPayload (definition : ActionDeclaration V) (proposalIdentity : ProposalIdentity)
      (payload : ProtectedPayload)
  | destroyPayload (definition : ActionDeclaration V) (proposalIdentity : ProposalIdentity)
      (payload : ProtectedPayload)
  | host (operation : H.Op)

namespace Op

variable {V : Type} [HostModels V] {H : Signature}

/-- What each operation answers when it does not raise. -/
@[reducible] def Ans : Op V H → Type
  | .create _ => Unit
  | .get _ _ => Option StoredProposal
  | .compareAndSet _ => Bool
  | .admitExecution _ => EffectClaimResult
  | .getEffectClaimOwner _ _ _ => Option SafeReference
  | .markErasurePending _ => Bool
  | .completeErasure _ => Bool
  | .now => Timestamp
  | .newIdentifier _ => SafeReference
  | .emit _ => Unit
  | .canPrepare _ _ _ => AuthorizationResult
  | .prepare _ _ _ => PreparedAction V
  | .canDecide _ _ _ => AuthorizationResult
  | .evaluate _ _ _ => AuthorityEvaluation
  | .resolve _ _ _ => ResolvedState V
  | .canExecute _ _ _ => AuthorizationResult
  | .execute _ _ _ _ => ExecutionResult V
  | .verify _ _ => VerificationResult V
  | .canRead _ _ _ => Bool
  | .canRecover _ _ _ => AuthorizationResult
  | .authorizeErasure _ _ _ => Bool
  | .createCommitment _ _ _ => KeyedCommitment
  | .verifyCommitment _ _ _ _ => Bool
  | .destroyCommitment _ _ _ => Unit
  | .protectPayload _ _ _ => ProtectedPayload
  | .unprotectPayload _ _ _ => Bytes
  | .destroyPayload _ _ _ => Unit
  | .host operation => H.Ans operation

end Op

/-- The signature of runtime programs. -/
@[reducible] def runtimeSignature (V : Type) [HostModels V] (H : Signature) : Signature :=
  ⟨Op V H, Op.Ans⟩

/-- A coroutine of the runtime. -/
abbrev Coroutine (V : Type) [HostModels V] (H : Signature) (α : Type) :=
  Program (runtimeSignature V H) Exn α

/-- `await` one operation. -/
abbrev await {V : Type} [HostModels V] {H : Signature} (o : Op V H) : Coroutine V H o.Ans :=
  Program.perform (S := runtimeSignature V H) o


end ThrevoActions
