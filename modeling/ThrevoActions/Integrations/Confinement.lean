import ThrevoActions.Integrations.PydanticAi
import ThrevoActions.Runtime.Dispatch

/-!
# What the operations of an action are confined to

`prepare`, `execute`, `reconcile` and `read` stay with the tenant they are called for, and with one
proposal: what they write over, admit, dispatch or verify is the proposal they were called for. All
else they write is a fresh proposal that awaits authority.
-/

namespace ThrevoActions

open Interleaving Interleaving.Program

variable {V : Type} [HostModels V] {H : Signature} {α : Type}

/-- The operation is about `tenant`, and what it acts on is a `target`. -/
def Op.Confined (tenant : SafeReference) (target : ProposalKey → Prop) : Op V H → Prop
  | .create proposal =>
    proposal.tenantReference = tenant ∧ proposal.lifecycleStatus = .awaitingAuthority
  | .get tenantReference _ | .getEffectClaimOwner tenantReference _ _ => tenantReference = tenant
  | .compareAndSet args => target (args.tenantReference, args.proposalReference) ∧
    args.updated.key = (args.tenantReference, args.proposalReference)
  | .admitExecution args => target (args.tenantReference, args.proposalReference) ∧
    args.updated.key = (args.tenantReference, args.proposalReference)
  | .now | .newIdentifier _ => True
  | .emit event => event.tenantReference = tenant
  | .canPrepare _ _ context | .prepare _ _ context => context.tenantReference = tenant
  | .evaluate _ binding _ => binding.tenantReference = tenant
  | .resolve _ _ context | .canExecute _ _ context | .execute _ _ context _ | .verify _ context =>
    target (context.tenantReference, context.proposalReference)
  | .canRead _ _ context => context.tenantReference = tenant
  | .createCommitment _ proposalIdentity _ | .verifyCommitment _ proposalIdentity _ _
  | .destroyCommitment _ proposalIdentity _ | .protectPayload _ proposalIdentity _
  | .unprotectPayload _ proposalIdentity _ | .destroyPayload _ proposalIdentity _ =>
    proposalIdentity.tenantReference = tenant
  | .markErasurePending _ | .completeErasure _ | .canDecide _ _ _ | .canRecover _ _ _
  | .authorizeErasure _ _ _ | .host _ => False

/-- A coroutine that is confined to `tenant` and the `target`s. -/
abbrev Confines (tenant : SafeReference) (target : ProposalKey → Prop) (p : Coroutine V H α)
    (P : α → Prop := fun _ ↦ True) : Prop :=
  p.Only (S := runtimeSignature V H) (Op.Confined tenant target) P

section Subroutines

variable {tenant : SafeReference} {target : ProposalKey → Prop} {record : StoredProposal}

theorem required_confined (proposalReference : SafeReference) :
    Confines (V := V) (H := H) tenant target (required tenant proposalReference)
      fun record ↦ record.key = (tenant, proposalReference) := by
  refine Only.await rfl fun found ↦ ?_
  cases found with
  | none => exact Only.throw
  | some record =>
    refine Only.raiseIf fun hkey ↦ Only.pure ?_
    simp only [not_or, ne_eq, not_not] at hkey
    exact Prod.ext hkey.1 hkey.2

theorem emit_confined {eventType : RuntimeEventType} {observedAt : Timestamp}
    {reasonCode : Option SafeReference} (htenant : record.tenantReference = tenant) :
    Confines (V := V) (H := H) tenant target (emit record eventType observedAt reasonCode) := by
  refine (Only.attempt (Only.perform htenant)).bind fun sent _ ↦ ?_
  cases sent with
  | ok _ => exact Only.pure trivial
  | error failure =>
    dsimp only
    rw [raiseIf]
    split_ifs <;> exact trivial

/-- A guarded write, and what is returned or read again after it. -/
theorem guardedWrite_confined {updated : StoredProposal} {f : Bool → Coroutine V H α}
    {P : α → Prop} (htarget : target record.key) (hkey : updated.key = record.key)
    (hf : ∀ written, Confines tenant target (f written) P) :
    Confines tenant target (cas record updated >>= f) P :=
  Only.await ⟨htarget, hkey⟩ hf

/-- After a conflict the proposal is read again. -/
theorem conflict_confined {f : StoredProposal → ActionOperationResult}
    (proposalReference : SafeReference) :
    Confines (V := V) (H := H) tenant target
      (do return f (← required tenant proposalReference)) :=
  (required_confined proposalReference).bind fun _ _ ↦ Only.pure trivial

/-- The end of the functions that write: a conflict is read again, a success reported. -/
theorem reported_confined {updated : StoredProposal} {eventType : RuntimeEventType}
    {observedAt : Timestamp} {reasonCode : Option SafeReference}
    {lost : StoredProposal → ActionOperationResult} {won : ActionOperationResult}
    (htarget : target record.key) (htenant : record.tenantReference = tenant)
    (hkey : updated.key = record.key) :
    Confines (V := V) (H := H) tenant target (do
      let written ← cas record updated
      if written = false then
        let current ← required record.tenantReference record.proposalReference
        return lost current
      else
      emit updated eventType observedAt reasonCode
      return won) := by
  refine guardedWrite_confined htarget hkey fun written ↦ ?_
  split
  · rw [htenant]
    exact conflict_confined _
  · have hupdated : updated.tenantReference = tenant := (congrArg Prod.fst hkey).trans htenant
    exact (emit_confined hupdated).bind fun _ _ ↦ Only.pure trivial

theorem expireBeforeAdmission_confined (htarget : target record.key) :
    Confines (V := V) (H := H) tenant target (expireBeforeAdmission record) := by
  refine guardedWrite_confined htarget rfl fun written ↦ ?_
  split <;> exact Only.pure trivial

theorem block_confined (runtime : ActionRuntime) (now : Timestamp) (reasonCode : SafeReference)
    (htarget : target record.key) (htenant : record.tenantReference = tenant) :
    Confines (V := V) (H := H) tenant target (block runtime record now reasonCode) := by
  refine Only.orRaise fun authority _ ↦ Only.await trivial fun reference ↦ ?_
  exact reported_confined htarget htenant rfl

theorem settleExecution_confined (runtime : ActionRuntime) (definition : ActionDeclaration V)
    (execution : ExecutionResult V) (now : Timestamp) (htarget : target record.key)
    (htenant : record.tenantReference = tenant) :
    Confines (H := H) tenant target
      (settleExecution runtime definition record execution now) := by
  refine Only.orRaise fun _ _ ↦ Only.await trivial fun reference ↦ ?_
  refine Only.orRaise fun safeResult _ ↦ ?_
  exact reported_confined htarget htenant rfl

theorem settleVerification_confined (runtime : ActionRuntime) (definition : ActionDeclaration V)
    (verification : VerificationResult V) (now : Timestamp) (htarget : target record.key)
    (htenant : record.tenantReference = tenant) :
    Confines (H := H) tenant target
      (settleVerification runtime definition record verification now) := by
  refine Only.orRaise fun _ _ ↦ Only.await trivial fun reference ↦ ?_
  refine Only.orRaise fun safeResult _ ↦ ?_
  exact reported_confined htarget htenant rfl

/-- The context of an execution names the proposal. -/
theorem executionContext_key {observedAt : Timestamp} {evidence : Option (List AuthorityEvidence)}
    {context : ExecutionContext} (hcontext : executionContext record observedAt evidence = .ok context)
    (htarget : target record.key) : target (context.tenantReference, context.proposalReference) := by
  have hkey := (executionContext_fields hcontext).1
  rwa [hkey]

end Subroutines

/-! ## Preparation -/

section Prepare

variable {tenant : SafeReference} {target : ProposalKey → Prop}

/-- A compensation destroys and raises. -/
theorem compensatePrepared_confined {P : α → Prop} (definition : ActionDeclaration V)
    {proposalIdentity : ProposalIdentity} (payload : Option ProtectedPayload)
    (commitment : KeyedCommitment) (failure : Exn)
    (htenant : proposalIdentity.tenantReference = tenant) :
    Confines (H := H) tenant target
      (compensatePrepared definition proposalIdentity payload commitment failure) P := by
  have hcommitment : Confines (H := H) tenant target
      (await (.destroyCommitment definition proposalIdentity commitment)) :=
    Only.perform (S := runtimeSignature V H)
      (o := .destroyCommitment definition proposalIdentity commitment) htenant
  have hpayload : Confines (H := H) tenant target
      (destroyPayload definition proposalIdentity payload) := by
    cases payload with
    | none => exact Only.pure trivial
    | some payload =>
      exact Only.perform (S := runtimeSignature V H)
        (o := .destroyPayload definition proposalIdentity payload) htenant
  refine (Only.attempt hpayload).bind fun _ _ ↦ (Only.attempt hcommitment).bind fun _ _ ↦ ?_
  exact Only.throw

theorem createPrepared_confined (definition : ActionDeclaration V)
    {proposalIdentity : ProposalIdentity} (payload : ProtectedPayload)
    (commitment : KeyedCommitment) {record : StoredProposal}
    (htenant : proposalIdentity.tenantReference = tenant)
    (hrecord : record.tenantReference = tenant)
    (hstatus : record.lifecycleStatus = .awaitingAuthority) :
    Confines (H := H) tenant target
      (createPrepared definition proposalIdentity payload commitment record)
      fun fresh ↦ fresh.tenantReference = tenant := by
  refine (Only.attempt (Only.perform ⟨hrecord, hstatus⟩)).bind fun created _ ↦ ?_
  cases created with
  | ok _ => exact Only.pure hrecord
  | error failure =>
    refine (Only.attempt (Only.perform htenant)).bind fun read _ ↦ ?_
    cases read with
    | error _ =>
      dsimp only
      split <;> exact Only.throw
    | ok persisted =>
      dsimp only
      split
      · split
        · exact Only.throw
        · exact Only.pure hrecord
      · exact compensatePrepared_confined definition _ commitment failure htenant

theorem protectAndCreate_confined (runtime : ActionRuntime) (definition : ActionDeclaration V)
    {proposalIdentity : ProposalIdentity} (prepared : PreparedAction V) (privateCanonical : Bytes)
    (commitment : KeyedCommitment) (requestingPrincipal : RequestingPrincipal)
    (proposingAgent : Option ProposingAgent) (now : Timestamp)
    (htenant : proposalIdentity.tenantReference = tenant) :
    Confines (H := H) tenant target
      (protectAndCreate runtime definition proposalIdentity prepared privateCanonical commitment
        requestingPrincipal proposingAgent now) fun fresh ↦ fresh.tenantReference = tenant := by
  refine (Only.attempt (Only.perform htenant)).bind fun protect _ ↦ ?_
  cases protect with
  | error failure => exact compensatePrepared_confined definition _ commitment failure htenant
  | ok payload =>
    have hbuilt : Confines (H := H) tenant target
        (buildPrepared runtime definition proposalIdentity prepared payload commitment
          requestingPrincipal proposingAgent now)
        fun record ↦ record.tenantReference = tenant ∧
          record.lifecycleStatus = .awaitingAuthority :=
      Only.await trivial fun reference ↦ Only.orRaise fun displayPreview _ ↦
        Only.pure ⟨htenant, rfl⟩
    refine (Only.attempt hbuilt).bind fun built hrecord ↦ ?_
    cases built with
    | error failure => exact compensatePrepared_confined definition _ commitment failure htenant
    | ok record =>
      obtain ⟨htenant', hstatus⟩ := hrecord record rfl
      exact createPrepared_confined definition payload commitment htenant htenant' hstatus

variable [UnicodeNormalization]

theorem persistPrepared_confined (runtime : ActionRuntime) (definition : ActionDeclaration V)
    (prepared : PreparedAction V) (requestingPrincipal : RequestingPrincipal)
    (proposingAgent : Option ProposingAgent) (now : Timestamp)
    (proposalReference : Option SafeReference) :
    Confines (H := H) tenant target
      (persistPrepared runtime definition tenant prepared requestingPrincipal proposingAgent now
        proposalReference) fun fresh ↦ fresh.tenantReference = tenant := by
  have hreference : Confines (V := V) (H := H) tenant target
      (resolveProposalReference proposalReference) := by
    cases proposalReference with
    | some reference => exact Only.pure trivial
    | none => exact Only.perform (S := runtimeSignature V H) (o := .newIdentifier .proposal) trivial
  refine hreference.bind fun reference _ ↦ Only.orRaise fun privateJson _ ↦ ?_
  refine Only.orRaise fun privateCanonical _ ↦ Only.orRaise fun commitmentInput _ ↦ ?_
  refine Only.await rfl fun commitment ↦ ?_
  exact protectAndCreate_confined runtime definition prepared privateCanonical commitment
    requestingPrincipal proposingAgent now rfl

/-- **`prepare` stays with its tenant** and creates a proposal that awaits authority. -/
theorem prepare_confined (runtime : ActionRuntime) (definition : ActionDeclaration V) (command : V)
    (requestingPrincipal : RequestingPrincipal) (proposingAgent : Option ProposingAgent)
    (proposalReference : Option SafeReference) :
    Confines (H := H) tenant target
      (prepare runtime definition tenant command requestingPrincipal proposingAgent
        proposalReference) := by
  refine Only.await trivial fun now ↦ Only.await rfl fun authorization ↦ ?_
  refine Only.raiseIf fun _ ↦ Only.await rfl fun prepared ↦ Only.orRaise fun _ _ ↦ ?_
  refine (persistPrepared_confined runtime definition prepared requestingPrincipal proposingAgent
    now proposalReference).bind fun fresh hfresh ↦ ?_
  exact (emit_confined hfresh).bind fun _ _ ↦ Only.pure trivial

end Prepare

/-! ## Execution -/

section Execute

variable [UnicodeNormalization] {tenant : SafeReference} {target : ProposalKey → Prop}
  {record : StoredProposal}

theorem persistReplacement_confined (runtime : ActionRuntime) (definition : ActionDeclaration V)
    (stale : StoredProposal) (replacement : Option (PreparedAction V)) (now : Timestamp)
    (htarget : target record.key) (htenant : record.tenantReference = tenant)
    (hstale : stale.key = record.key) :
    Confines (H := H) tenant target
      (persistReplacement runtime definition record stale replacement now)
      fun replaced ↦ replaced.1.tenantReference = tenant := by
  have hstaleTenant : stale.tenantReference = tenant := (congrArg Prod.fst hstale).trans htenant
  unfold persistReplacement
  split
  · exact Only.pure hstaleTenant
  split
  · exact Only.throw
  · refine Only.orRaise fun _ _ ↦ ?_
    rw [htenant]
    refine (persistPrepared_confined runtime definition _ _ _ now none).bind fun fresh hfresh ↦ ?_
    refine guardedWrite_confined (hstale ▸ htarget) ?_ fun written ↦ Only.pure ?_
    · rfl
    · dsimp only
      split <;> exact hstaleTenant

theorem supersedeStale_confined (runtime : ActionRuntime) (definition : ActionDeclaration V)
    (replacement : Option (PreparedAction V)) (now : Timestamp) (htarget : target record.key)
    (htenant : record.tenantReference = tenant) :
    Confines (H := H) tenant target
      (supersedeStale runtime definition record replacement now) := by
  refine Only.await trivial fun reference ↦ guardedWrite_confined htarget rfl fun written ↦ ?_
  split
  · rw [htenant]
    exact conflict_confined _
  · refine Only.bind (persistReplacement_confined runtime definition _ replacement now htarget htenant
      ?_) fun replaced hreplaced ↦ ?_
    · rfl
    · exact (emit_confined hreplaced).bind fun _ _ ↦ Only.pure trivial

omit [UnicodeNormalization] in
theorem evaluateAuthority_confined (definition : ActionDeclaration V) {binding : AuthorityBinding}
    (at' : Timestamp) (hbinding : binding.tenantReference = tenant) :
    Confines (H := H) tenant target (evaluateAuthority definition record binding at') :=
  Only.await hbinding fun _ ↦ Only.pure trivial

theorem loadPrivate_confined (definition : ActionDeclaration V)
    (htenant : record.tenantReference = tenant) :
    Confines (H := H) tenant target (loadPrivate definition record) := by
  rw [loadPrivate]
  split
  · refine (Only.attempt (Only.perform htenant)).bind fun unprotect _ ↦ ?_
    cases unprotect with
    | error failure =>
      dsimp only
      split
      · exact Only.pure trivial
      · exact Only.throw
    | ok canonical =>
      refine Only.orRaise fun commitmentInput _ ↦ Only.await htenant fun verified ↦ ?_
      split
      · exact Only.pure trivial
      · exact Only.orRaise fun snapshot _ ↦ Only.pure trivial
  · exact Only.pure trivial

omit [UnicodeNormalization] in
theorem dispatch_confined (runtime : ActionRuntime) (definition : ActionDeclaration V)
    {executing : StoredProposal} (binding : AuthorityBinding)
    (validEvidence : List AuthorityEvidence) (resolved : ResolvedState V) (admittedAt : Timestamp)
    (htarget : target record.key) (htenant : record.tenantReference = tenant)
    (hexecuting : executing.key = record.key) :
    Confines (H := H) tenant target
      (dispatch runtime ⟨definition, hostExecutors V H definition⟩ record executing binding
        validEvidence resolved admittedAt) := by
  have hsettles : ∀ execution now, Confines (H := H) tenant target
      (settleExecution runtime definition executing execution now) := fun execution now ↦
    settleExecution_confined runtime definition execution now (hexecuting ▸ htarget)
      ((congrArg Prod.fst hexecuting).trans htenant)
  refine Only.await trivial fun executionAt ↦ ?_
  split
  · exact hsettles _ _
  · refine Only.orRaise fun context hcontext ↦ ?_
    refine Only.await (executionContext_key hcontext htarget) fun execution ↦ ?_
    exact Only.await trivial fun now ↦ hsettles _ _

omit [UnicodeNormalization] in
theorem admitAttempt_confined (runtime : ActionRuntime) (definition : ActionDeclaration V)
    (binding : AuthorityBinding) (validEvidence : List AuthorityEvidence)
    (resolved : ResolvedState V) (htarget : target record.key)
    (htenant : record.tenantReference = tenant) :
    Confines (H := H) tenant target
      (admitAttempt runtime ⟨definition, hostExecutors V H definition⟩ record binding validEvidence
        resolved) := by
  refine Only.await trivial fun admittedAt ↦ ?_
  split
  · exact expireBeforeAdmission_confined htarget
  split
  · exact block_confined runtime admittedAt _ htarget htenant
  refine Only.await trivial fun reference ↦ Only.await ⟨htarget, rfl⟩ fun claim ↦ ?_
  have hread : Confines (V := V) (H := H) tenant target
      (required record.tenantReference record.proposalReference) := by
    rw [htenant]
    exact (required_confined _).imp (fun _ ho ↦ ho) fun _ _ ↦ trivial
  cases claim with
  | conflict => exact hread.bind fun _ _ ↦ Only.pure trivial
  | proposalNotFound => exact Only.throw
  | proposalNotAuthorized => exact hread.bind fun _ _ ↦ Only.pure trivial
  | acquired => exact dispatch_confined runtime definition _ _ _ _ htarget htenant rfl
  | ownedByProposal => exact dispatch_confined runtime definition _ _ _ _ htarget htenant rfl

omit [UnicodeNormalization] in
theorem reauthorize_confined (runtime : ActionRuntime) (definition : ActionDeclaration V)
    {binding : AuthorityBinding} (resolved : ResolvedState V) (htarget : target record.key)
    (htenant : record.tenantReference = tenant) (hbinding : binding.tenantReference = tenant) :
    Confines (H := H) tenant target
      (reauthorize runtime ⟨definition, hostExecutors V H definition⟩ record binding resolved) := by
  refine Only.await trivial fun admittedAt ↦ ?_
  split
  · exact expireBeforeAdmission_confined htarget
  refine (evaluateAuthority_confined definition admittedAt hbinding).bind fun evaluated _ ↦ ?_
  split
  split
  · exact block_confined runtime admittedAt _ htarget htenant
  refine Only.orRaise fun context hcontext ↦ ?_
  refine Only.await (executionContext_key hcontext htarget) fun liveAuthorization ↦ ?_
  split
  · exact block_confined runtime admittedAt _ htarget htenant
  · exact admitAttempt_confined runtime definition binding _ resolved htarget htenant

theorem resolveCurrent_confined (runtime : ActionRuntime) (definition : ActionDeclaration V)
    (commitment : KeyedCommitment) (snapshot : V) (now : Timestamp) (htarget : target record.key)
    (htenant : record.tenantReference = tenant) :
    Confines (H := H) tenant target
      (resolveCurrent runtime ⟨definition, hostExecutors V H definition⟩ record commitment snapshot
        now) := by
  have hbinding : (authorityBinding definition record commitment).tenantReference = tenant :=
    htenant
  refine (evaluateAuthority_confined definition now hbinding).bind fun evaluated _ ↦ ?_
  split
  split
  · exact block_confined runtime now _ htarget htenant
  refine Only.orRaise fun context hcontext ↦ ?_
  refine Only.await (executionContext_key hcontext htarget) fun resolved ↦ Only.raiseIf fun _ ↦ ?_
  split
  · exact supersedeStale_confined runtime definition resolved.replacement now htarget htenant
  · exact reauthorize_confined runtime definition resolved htarget htenant hbinding

/-- **`execute` stays with its proposal.** -/
theorem execute_confined (runtime : ActionRuntime) (definition : ActionDeclaration V)
    {proposalReference : SafeReference} (htarget : target (tenant, proposalReference)) :
    Confines (H := H) tenant target
      (execute runtime ⟨definition, hostExecutors V H definition⟩ tenant proposalReference) := by
  refine (required_confined _).bind fun record hkey ↦ ?_
  have htarget' : target record.key := hkey ▸ htarget
  have htenant : record.tenantReference = tenant := congrArg Prod.fst hkey
  refine Only.raiseIf fun _ ↦ Only.raiseIf fun _ ↦ ?_
  split
  · exact Only.pure trivial
  split
  · exact Only.pure trivial
  refine Only.await trivial fun now ↦ ?_
  split
  · exact expireBeforeAdmission_confined htarget'
  refine (loadPrivate_confined definition htenant).bind fun loaded _ ↦ ?_
  split
  · exact block_confined runtime now _ htarget' htenant
  · exact block_confined runtime now _ htarget' htenant
  · exact resolveCurrent_confined runtime definition _ _ now htarget' htenant

end Execute

/-! ## Reconciliation and reading -/

section Reconcile

variable {tenant : SafeReference} {target : ProposalKey → Prop}

theorem reconcilePending_confined (runtime : ActionRuntime) (definition : ActionDeclaration V)
    {record : StoredProposal} (proposalReference : SafeReference) (now : Timestamp)
    (htarget : target record.key) (htenant : record.tenantReference = tenant) :
    Confines (H := H) tenant target
      (reconcilePending runtime definition tenant proposalReference record now) := by
  rw [reconcilePending]
  split
  · exact Only.pure trivial
  split
  · refine guardedWrite_confined htarget rfl fun written ↦ ?_
    split
    · exact conflict_confined _
    · have hunresolved : (unresolvedProposal record).tenantReference = tenant := htenant
      exact (emit_confined hunresolved).bind fun _ _ ↦ Only.pure trivial
  · refine guardedWrite_confined htarget rfl fun written ↦ ?_
    split
    · exact conflict_confined _
    · refine Only.orRaise fun context hcontext ↦ ?_
      refine Only.await (executionContext_key hcontext htarget) fun verification ↦ ?_
      exact settleVerification_confined runtime definition verification now htarget htenant

/-- **`reconcile` stays with its proposal.** -/
theorem reconcile_confined (runtime : ActionRuntime) (definition : ActionDeclaration V)
    {proposalReference : SafeReference} (htarget : target (tenant, proposalReference)) :
    Confines (H := H) tenant target
      (reconcile runtime definition tenant proposalReference) := by
  refine (required_confined _).bind fun record hkey ↦ ?_
  have htarget' : target record.key := hkey ▸ htarget
  have htenant : record.tenantReference = tenant := congrArg Prod.fst hkey
  refine Only.raiseIf fun _ ↦ Only.raiseIf fun _ ↦ Only.await trivial fun now ↦ ?_
  split
  · exact Only.pure trivial
  split
  · refine guardedWrite_confined htarget' rfl fun written ↦ ?_
    split
    · exact conflict_confined _
    · exact reconcilePending_confined runtime definition _ now htarget' htenant
  split
  · exact Only.pure trivial
  · exact reconcilePending_confined runtime definition _ now htarget' htenant

/-- **`read` stays with the tenant of its reader.** -/
theorem read_confined (definition : ActionDeclaration V) (proposalReference : SafeReference)
    (context : ReadContext) :
    Confines (H := H) context.tenantReference target
      (read definition proposalReference context) := by
  have hreadable : Confines (H := H) context.tenantReference target
      (readable definition proposalReference context) :=
    (required_confined _).bind fun record _ ↦ Only.raiseIf fun _ ↦ Only.await rfl fun _ ↦
      Only.raiseIf fun _ ↦ Only.pure trivial
  exact hreadable.bind fun _ _ ↦ Only.pure trivial

end Reconcile

end ThrevoActions
