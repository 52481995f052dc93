import ThrevoActions.Runtime.Changes
import ThrevoActions.Runtime.Schedules

/-!
# What has been checked when an executor is called

Between reading a proposal and calling its executor, `execute` awaits a dozen operations, and other
workers may act between any two of them. `GuardedDispatch` says what nevertheless holds at the call:
the attempt is this call's own, stored and owning its effect; expiry, authority and lease were
checked at the very time the executor is given; and the snapshot handed over is the verified one.
-/

namespace ThrevoActions

open Interleaving

variable {V : Type} [HostModels V] {H : Signature}

/-- A successful admission leaves the record it stores as the owner of its effect. -/
theorem admitted_owns {env : Env V H} {world world' : World}
    {args : MemoryActionStore.AdmitExecution} {claim : EffectClaimResult}
    (hexec : world.exec env (Op.admitExecution args : Op V H) (.ok claim) world')
    (hadmits : claim.admits = true) :
    world'.store.proposals args.updated.key = some args.updated ∧
      world'.store.effectClaims args.updated.effectKey = some args.proposalReference := by
  obtain ⟨hanswer, rfl⟩ := World.StoreCall.ok hexec
  rcases MemoryActionStore.admitExecution_cases world.store args with
    ⟨-, hrefused⟩ | ⟨current, result, -, -, happlied⟩
  · rw [hrefused claim hanswer] at hadmits
    cases hadmits
  · refine ⟨?_, ?_⟩
    · rw [happlied.proposals]
      exact MemoryActionStore.put_proposals_self _ _
    · rw [happlied.effectClaims,
        ← StoredProposal.effectKey_eq_of_identity happlied.accepted.identity,
        Function.update_self]

/-- The fields of an execution context. -/
theorem executionContext_fields {record : StoredProposal} {observedAt : Timestamp}
    {evidence : Option (List AuthorityEvidence)} {context : ExecutionContext}
    (hcontext : executionContext record observedAt evidence = .ok context) :
    (context.tenantReference, context.proposalReference) = record.key ∧
      context.authorities =
        approvingAuthorities (evidence.getD record.authorityEvidence) := by
  rw [executionContext] at hcontext
  split at hcontext
  · cases hcontext
  · cases hcontext
    exact ⟨rfl, rfl⟩

section Dispatch

variable [UnicodeNormalization]

/-- At a call of the executor, with the log `past` before it: `admission` is the log entry with
which the caller stored `executing`, and the remaining fields are about what the caller checked. -/
structure GuardedDispatch (past : RuntimeLog V H) (caller : ℕ) (definition : ActionDeclaration V)
    (snapshot : V) (context : ExecutionContext) (executionPrecondition : SafeReference)
    (admission : Entry (runtimeSignature V H) Exn World)
    (args : MemoryActionStore.AdmitExecution) (executing : StoredProposal)
    (commitment : KeyedCommitment) (evidence : List AuthorityEvidence)
    (resolved : ResolvedState V) : Prop where
  /-- This very call asked for admission and was admitted. -/
  logged : admission ∈ past
  own : admission.caller = caller
  admitted : ∃ claim : EffectClaimResult, claim.admits = true ∧
    admission.event = ⟨.admitExecution args, .ok claim⟩
  /-- The proposal of the context was stored as executing and owns its effect. -/
  stored : admission.after.store.proposals (context.tenantReference, context.proposalReference) =
    some executing
  isExecuting : executing.lifecycleStatus = .executing
  owns : admission.after.store.effectClaims executing.effectKey = some context.proposalReference
  /-- The execution time is before the expiry of the proposal and the end of the lease. -/
  unexpired : context.observedAt < executing.expiresAt
  inLease : context.observedAt < args.admittedAt + definition.verificationLeaseDuration
  leased : executing.nextVerificationAt =
    some (args.admittedAt + definition.verificationLeaseDuration)
  /-- The authorities are those of evidence that is bound and valid at the execution time. -/
  authorities : context.authorities = approvingAuthorities evidence
  evidence_valid : ∀ item ∈ evidence, (validateAuthorityEvidence item
    (authorityBinding definition executing commitment) context.observedAt).valid = true
  /-- The evaluator was satisfied with exactly that evidence, during this call. -/
  satisfied : ∃ authority : AuthorityEvaluation, authority.satisfied = true ∧
    Answered (historyOf past caller)
      (.evaluate definition (authorityBinding definition executing commitment) evidence) authority
  /-- The host allowed to execute the resolved snapshot. -/
  allowed : ∃ (context' : ExecutionContext) (authorization : AuthorizationResult),
    authorization.allowed = true ∧
    Answered (historyOf past caller) (.canExecute definition resolved.currentSnapshot context')
      authorization
  /-- The resolver saw no material drift of a snapshot verified against the stored commitment. -/
  current : ∃ (payload : ProtectedPayload) (canonical commitmentInput : Bytes) (verified : V)
    (context' : ExecutionContext),
    SnapshotVerified (historyOf past caller) definition executing commitment payload canonical
      commitmentInput verified ∧
    Answered (historyOf past caller) (.resolve definition verified context') resolved ∧
    resolved.materiallyDrifted = false
  snapshotOf : snapshot = resolved.currentSnapshot
  preconditionOf : executionPrecondition = resolved.executionPrecondition

/-- **Every dispatch is guarded.** Whatever the clocks, the ports and the other workers do,
whenever `execute` calls an executor all of `GuardedDispatch` holds. -/
theorem dispatch_guarded {env : Env V H} {start : Timestamp} {c : RuntimeConfig V H}
    (hc : RuntimeReachable env (hostExecutors V H) start c)
    {e : Entry (runtimeSignature V H) Exn World} {past : RuntimeLog V H}
    (he : e :: past <:+ c.log) {definition : ActionDeclaration V} {snapshot : V}
    {context : ExecutionContext} {executionPrecondition : SafeReference}
    (hop : e.event.op = .execute definition snapshot context executionPrecondition) :
    ∃ admission args executing commitment evidence resolved,
      GuardedDispatch past e.caller definition snapshot context executionPrecondition admission
        args executing commitment evidence resolved := by
  have hissued := hc.issued hostExecutors_lawful_any he
  rw [hop] at hissued
  obtain ⟨args, claim, record, commitment, evidence, resolved, hready⟩ := hissued
  obtain ⟨runtime, reference, older, hhistory, hadmission⟩ := hready.justAdmitted
  have hmem : (⟨.admitExecution args, .ok claim⟩ : Event (runtimeSignature V H) Exn) ∈
      historyOf past e.caller := by
    rw [hhistory]
    exact List.mem_cons_of_mem _ List.mem_cons_self
  obtain ⟨admission, hlogged, hown, hevent⟩ := mem_historyOf.mp hmem
  have hexec : admission.before.exec env (Op.admitExecution args : Op V H) (.ok claim)
      admission.after := by
    have hlogged' := hc.exec (he.subset (List.mem_cons_of_mem _ hlogged))
    rwa [hevent] at hlogged'
  obtain ⟨hstored, howns⟩ := admitted_owns hexec hready.admits
  obtain ⟨hkey, hauthorities⟩ := executionContext_fields hready.contextOf
  have hupdated := hadmission.updated
  have hreference : args.proposalReference = record.proposalReference := by
    rw [hadmission.arguments]
  rw [hupdated] at hstored howns
  refine ⟨admission, args, executingProposal definition record resolved.executionPrecondition
    args.admittedAt (executionReceipt runtime definition record reference args.admittedAt .started
      none), commitment, evidence, resolved,
    { logged := hlogged
      own := hown
      admitted := ⟨claim, hready.admits, hevent⟩
      stored := by
        rw [hkey]
        exact hstored
      isExecuting := rfl
      owns := by
        have hproposal : context.proposalReference = record.proposalReference :=
          congrArg Prod.snd hkey
        rw [hproposal, ← hreference]
        exact howns
      unexpired := hready.unexpired
      inLease := hready.inLease
      leased := rfl
      authorities := hauthorities
      evidence_valid := hready.evidence_valid
      satisfied := ?_
      allowed := ?_
      current := ?_
      snapshotOf := hready.snapshotOf.symm
      preconditionOf := hready.preconditionOf.symm }⟩
  · obtain ⟨⟨authority, hevaluated, hsatisfied⟩, -⟩ := hready.reauthorized
    exact ⟨authority, hsatisfied, hevaluated⟩
  · obtain ⟨-, context', authorization, hanswered, hallowed⟩ := hready.reauthorized
    exact ⟨context', authorization, hallowed, hanswered⟩
  · obtain ⟨payload, canonical, commitmentInput, verified, context', hverified, hresolved,
      hdrifted⟩ := hready.current
    exact ⟨payload, canonical, commitmentInput, verified, context',
      ⟨hverified.hasPayload, hverified.hasCommitment, hverified.unprotected, hverified.input,
        hverified.verified, hverified.validated⟩, hresolved, hdrifted⟩

end Dispatch

section Sample

attribute [local instance] normalizedTexts

/-- The sample execution up to its dispatch, the fourteenth operation. -/
def sampleDispatch : RuntimeConfig SampleModel noOperations :=
  sampleRun sampleAcceptance sampleNotYet
    (sampleAttempt 0 "proposal" 14)

set_option maxRecDepth 4000 in
/-- The dispatch of the sample execution is guarded. -/
theorem dispatch_guarded_sample :
    ∃ (e : Entry (runtimeSignature SampleModel noOperations) Exn World)
      (past : RuntimeLog SampleModel noOperations) (current : SampleModel)
      (context : ExecutionContext) (executionPrecondition : SafeReference),
      sampleDispatch.log = e :: past ∧
      ∃ admission args executing commitment evidence resolved,
        GuardedDispatch past e.caller sampleDefinition current context executionPrecondition
          admission args executing commitment evidence resolved :=
  ⟨_, _, _, _, _, rfl, dispatch_guarded (c := sampleDispatch) (sampleRun_reachable _ _ _)
    (List.suffix_refl _) rfl⟩

end Sample

end ThrevoActions
