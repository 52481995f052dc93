import ThrevoActions.ApprovalRequirements
import ThrevoActions.Runtime.Attempts

/-!
# Runs whose evaluators count approvals

When the evaluators of all definitions are M-of-N requirements, authority is counted at three
instants: when `record_authority` stores the deciding evidence, and twice in `execute`. What is
counted is always evidence that is stored with the proposal, bound to it, and valid at the clock
reading of the instant.

A proposal that a verification found authoritatively absent from its target becomes `authorized`
again without a new count. The count of `execute` comes before its next dispatch.
-/

namespace ThrevoActions

open Interleaving

variable {V : Type} [HostModels V] {H : Signature}

/-- Whenever an evaluator answers, it answers as the requirement of its definition does. -/
def EvaluatesBy (requirement : ActionDeclaration V → MOfNApprovals) (log : RuntimeLog V H) :
    Prop :=
  ∀ e ∈ log, ∀ (definition : ActionDeclaration V) (binding : AuthorityBinding)
    (evidence : List AuthorityEvidence) (authority : AuthorityEvaluation),
    e.event = ⟨.evaluate definition binding evidence, .ok authority⟩ →
    authority = (requirement definition).evaluate binding evidence

/-- At least the required number of declared authorities have an approval stored in `record` that
is bound to it and valid at `now`. -/
def QuorumAt (requirement : MOfNApprovals) (definition : ActionDeclaration V)
    (record : StoredProposal) (now : Timestamp) : Prop :=
  ∃ commitment, record.commitment = some commitment ∧
    AtLeast requirement.required (Approves requirement.authorities record.authorityEvidence
      fun item ↦ (validateAuthorityEvidence item
        (authorityBinding definition record commitment) now).valid)

/-- A satisfied evaluation of stored evidence that is valid is a quorum. -/
theorem QuorumAt.of_satisfied {requirement : MOfNApprovals} {definition : ActionDeclaration V}
    {record : StoredProposal} {commitment : KeyedCommitment} {evidence : List AuthorityEvidence}
    {now : Timestamp} (hcommitment : record.commitment = some commitment)
    (hstored : evidence ⊆ record.authorityEvidence)
    (hvalid : ∀ item ∈ evidence, (validateAuthorityEvidence item
      (authorityBinding definition record commitment) now).valid = true)
    (hsatisfied : (requirement.evaluate (authorityBinding definition record commitment)
      evidence).satisfied = true) :
    QuorumAt requirement definition record now := by
  rw [MOfNApprovals.satisfied_iff] at hsatisfied
  refine ⟨commitment, hcommitment, hsatisfied.mono fun authority happroves ↦ ?_⟩
  exact happroves.mono fun item hitem _ ↦ ⟨hstored hitem, hvalid item hitem⟩

/-- A quorum needs evidence that is valid. -/
theorem QuorumAt.exists_valid {requirement : MOfNApprovals} {definition : ActionDeclaration V}
    {record : StoredProposal} {now : Timestamp}
    (hquorum : QuorumAt requirement definition record now) :
    ∃ item ∈ record.authorityEvidence, item.issuedAt ≤ now ∧ now < item.expiresAt := by
  obtain ⟨commitment, -, hcount⟩ := hquorum
  obtain ⟨authority, -, item, hitem, -, -, hvalid⟩ := hcount.exists requirement.one_le_required
  exact ⟨item, hitem, (validateAuthorityEvidence_valid_iff.mp hvalid).2⟩

/-- How an operation of `caller`, after the log `past`, makes `current` into the authorized
`updated`. -/
inductive Authorizes (requirement : ActionDeclaration V → MOfNApprovals) (past : RuntimeLog V H)
    (caller : ℕ) (current updated : StoredProposal) : Prop
  /-- The caller counted a quorum of the evidence it stores, at a time it had read. -/
  | counted {definition : ActionDeclaration V} {now : Timestamp}
      (hawaiting : current.lifecycleStatus = .awaitingAuthority)
      (hnow : Answered (historyOf past caller) .now now)
      (hquorum : QuorumAt (requirement definition) definition updated now)
  /-- The caller was told that the effect is absent for good and may be sent again. -/
  | resendAllowed {definition : ActionDeclaration V} {context : ExecutionContext}
      {verification : VerificationResult V}
      (hpending : current.lifecycleStatus = .verificationPending)
      (hverified : Answered (historyOf past caller) (.verify definition context) verification)
      (habsent : verification.status = .authoritativeFinalAbsence)
      (hallowed : definition.allowResendAfterFinalAbsence = true)
      (hsettled : verification.settlingBoundaryPassed = true)
      (hidempotent : verification.targetIdempotencyGuaranteed = true)
      (hevidence : updated.authorityEvidence = current.authorityEvidence)

/-- A verification makes a proposal authorized only by allowing a resend. -/
theorem verificationTransition_authorized {definition : ActionDeclaration V}
    {record : StoredProposal} {verification : VerificationResult V} {attempts : ℕ}
    (h : (verificationTransition definition record verification attempts).target = .authorized) :
    verification.status = .authoritativeFinalAbsence ∧
      definition.allowResendAfterFinalAbsence = true ∧
      verification.settlingBoundaryPassed = true ∧
      verification.targetIdempotencyGuaranteed = true := by
  rw [verificationTransition] at h
  split at h
  case h_3 hstatus =>
    split_ifs at h with hall
    rw [Bool.and_eq_true, Bool.and_eq_true] at hall
    exact ⟨hstatus, hall.1.1, hall.1.2, hall.2⟩
  case h_2 => cases h
  all_goals split_ifs at h

section Reachable

variable [UnicodeNormalization] {env : Env V H} {start : Timestamp} {c : RuntimeConfig V H}
  {requirement : ActionDeclaration V → MOfNApprovals}
  {e : Entry (runtimeSignature V H) Exn World} {past : RuntimeLog V H}

omit [UnicodeNormalization] in
theorem EvaluatesBy.answered (hevaluates : EvaluatesBy requirement past) {caller : ℕ}
    {definition : ActionDeclaration V} {binding : AuthorityBinding}
    {evidence : List AuthorityEvidence} {authority : AuthorityEvaluation}
    (hanswered : Answered (historyOf past caller) (.evaluate definition binding evidence)
      authority) : authority = (requirement definition).evaluate binding evidence := by
  obtain ⟨e, he, -, hevent⟩ := mem_historyOf.mp hanswered
  exact hevaluates e he definition binding evidence authority hevent

omit [UnicodeNormalization] in
/-- A guarded write that authorizes a proposal does so in one of the two ways. -/
theorem Write.authorizes (hevaluates : EvaluatesBy requirement past) {caller : ℕ}
    {current updated : StoredProposal} (hwrite : Write (historyOf past caller) current updated)
    (hbefore : current.lifecycleStatus ≠ .authorized)
    (hafter : updated.lifecycleStatus = .authorized) :
    Authorizes requirement past caller current updated := by
  cases hwrite with
  | @authorityRecorded _ definition record evidence commitment now decided reference hstatus _
      hcommitment hnow hvalid hdecided _ =>
    cases hdecided with
    | denied => cases hafter
    | evaluated evaluation happrove hevaluated =>
      rw [authorityRecordedProposal] at hafter
      dsimp only at hafter
      have hsatisfied : evaluation.satisfied = true := by
        by_contra hunsatisfied
        rw [if_neg hunsatisfied] at hafter
        cases hafter
      rw [hevaluates.answered hevaluated] at hsatisfied
      refine .counted hstatus hnow (QuorumAt.of_satisfied hcommitment
        (List.filter_subset_self _) (fun item hitem ↦ ?_) hsatisfied)
      exact (List.mem_filter.mp hitem).2
  | @verificationSettled _ definition _ verification _ _ _ _ hpending _ hverified =>
    obtain ⟨habsent, hallowed, hsettled, hidempotent⟩ := verificationTransition_authorized hafter
    exact .resendAllowed hpending hverified habsent hallowed hsettled hidempotent rfl
  | executionSettled =>
    rw [executionSettledProposal, executionSettlement] at hafter
    dsimp only at hafter
    split at hafter <;> cases hafter
  | verificationAdmitted => exact absurd hafter hbefore
  | expired | blocked | stale | superseded | takenOver | unresolved | resumed => cases hafter

/-- A logged operation that makes a proposal authorized does so in one of the two ways. -/
theorem RuntimeReachable.authorizes (hc : RuntimeReachable env (hostExecutors V H) start c)
    (hevaluates : EvaluatesBy requirement c.log) (he : e :: past <:+ c.log) {key : ProposalKey}
    {updated : StoredProposal} (hafter : e.after.store.proposals key = some updated)
    (hauthorized : updated.lifecycleStatus = .authorized)
    (hbefore : e.before.store.statusOf key ≠ some .authorized) :
    ∃ current, e.before.store.proposals key = some current ∧
      Authorizes requirement past e.caller current updated := by
  have hevaluates' : EvaluatesBy requirement past := fun x hx ↦
    hevaluates x (he.subset (List.mem_cons_of_mem _ hx))
  rw [MemoryActionStore.statusOf] at hbefore
  rcases change_at hostExecutors_lawful_any hc he key with hsame | ⟨record, hrecord, hchange⟩
  · rw [← hsame, hafter, Option.map_some, hauthorized] at hbefore
    exact absurd rfl hbefore
  · rw [hafter] at hrecord
    cases hrecord
    generalize e.before.store.proposals key = before at hbefore hchange
    cases hchange with
    | created _ hissued =>
      obtain ⟨_, _, _, _, _, _, _, _, _, _, _, _, hprepared, -⟩ := hissued
      rw [hprepared] at hauthorized
      cases hauthorized
    | @written current _ _ hissued =>
      have hbefore' : current.lifecycleStatus ≠ .authorized := fun h ↦ hbefore (by
        rw [Option.map_some, h])
      exact ⟨current, rfl, hissued.write.authorizes hevaluates' hbefore' hauthorized⟩
    | admitted _ hissued =>
      rw [hissued.updated] at hauthorized
      cases hauthorized
    | erasureMarked | erased => exact absurd (congrArg some hauthorized) hbefore

/-- What is counted when `caller` hands the attempt of `context` to an executor, after the log
`past`: the attempt it admitted is stored with a quorum at the last time it read. -/
structure CountedDispatch (requirement : ActionDeclaration V → MOfNApprovals)
    (past : RuntimeLog V H) (caller : ℕ) (definition : ActionDeclaration V)
    (context : ExecutionContext) (admission : Entry (runtimeSignature V H) Exn World)
    (executing : StoredProposal) : Prop where
  now : Answered (historyOf past caller) .now context.observedAt
  logged : admission ∈ past
  own : admission.caller = caller
  stored : admission.after.store.proposals (context.tenantReference, context.proposalReference) =
    some executing
  isExecuting : executing.lifecycleStatus = .executing
  quorum : QuorumAt (requirement definition) definition executing context.observedAt

/-- Every dispatch is counted. -/
theorem RuntimeReachable.counted_dispatch
    (hc : RuntimeReachable env (hostExecutors V H) start c)
    (hevaluates : EvaluatesBy requirement c.log) (he : e :: past <:+ c.log)
    {definition : ActionDeclaration V} {snapshot : V} {context : ExecutionContext}
    {executionPrecondition : SafeReference}
    (hop : e.event.op = .execute definition snapshot context executionPrecondition) :
    ∃ admission executing,
      CountedDispatch requirement past e.caller definition context admission executing := by
  have hevaluates' : EvaluatesBy requirement past := fun x hx ↦
    hevaluates x (he.subset (List.mem_cons_of_mem _ hx))
  have hissued := hc.issued hostExecutors_lawful_any he
  rw [hop] at hissued
  obtain ⟨args, claim, record, commitment, evidence, resolved, hready⟩ := hissued
  obtain ⟨runtime, reference, older, hhistory, hadmission⟩ := hready.justAdmitted
  have hmem : (⟨.admitExecution args, .ok claim⟩ : Event (runtimeSignature V H) Exn) ∈
      historyOf past e.caller := by
    rw [hhistory]
    exact List.mem_cons_of_mem _ List.mem_cons_self
  obtain ⟨admission, hlogged, hown, hevent⟩ := mem_historyOf.mp hmem
  have hexec : admission.before.exec env (Op.admitExecution args : Op V H) (.ok claim)
      admission.after := by
    have hlogged' := hc.exec (he.subset (List.mem_cons_of_mem _ hlogged))
    rwa [hevent] at hlogged'
  obtain ⟨hstored, -⟩ := admitted_owns hexec hready.admits
  obtain ⟨hkey, -⟩ := executionContext_fields hready.contextOf
  rw [hadmission.updated] at hstored
  have hcommitment : record.commitment = some commitment := by
    obtain ⟨_, _, _, _, _, hverified, -⟩ := hready.current
    exact hverified.hasCommitment
  obtain ⟨⟨authority, hevaluated, hsatisfied⟩, -⟩ := hready.reauthorized
  rw [hevaluates'.answered hevaluated] at hsatisfied
  refine ⟨admission, executingProposal definition record resolved.executionPrecondition
    args.admittedAt (executionReceipt runtime definition record reference args.admittedAt .started
      none), ?_, hlogged, hown, ?_, rfl, ?_⟩
  · rw [hhistory]
    exact .head
  · rw [hkey]
    exact hstored
  · exact QuorumAt.of_satisfied hcommitment hready.evidence_stored
      hready.evidence_valid hsatisfied

end Reachable

section Sample

attribute [local instance] normalizedTexts

/-- One approval, of the approver. -/
def sampleRequirement : MOfNApprovals where
  required := 1
  authorities := [⟨"approver"⟩]
  nonempty := by decide
  distinct := by decide
  one_le_required := Nat.le_refl 1
  required_le := Nat.le_refl 1

/-- The sample definition, for a target that an absent effect may be sent to again. -/
def resendableDefinition : ActionDeclaration SampleModel :=
  { sampleDefinition with allowResendAfterFinalAbsence := true }

/-- A host whose evaluator counts, and whose target is idempotent and never has the effect. -/
def countingHost : HostAnswers SampleModel noOperations
  | .evaluate _ binding evidence => .ok (sampleRequirement.evaluate binding evidence)
  | o => sampleHost sampleAcceptance { sampleNever with targetIdempotencyGuaranteed := true }
      (fun operation ↦ Empty.elim operation) o

/-- A proposal is executed, and verified after its approval has expired. -/
def resentTurns : SampleTurns :=
  [.spawn (.prepare sampleRuntime resendableDefinition "tenant" .command ⟨"requester"⟩ none
    (some "proposal"))] ++ turnsOf 0 8 ++
  [.spawn (.recordAuthority sampleRuntime resendableDefinition (sampleEvidence "proposal")
    ⟨"approver"⟩ none)] ++ turnsOf 1 7 ++
  [.spawn (.execute sampleRuntime resendableDefinition "tenant" "proposal")] ++ turnsOf 2 18 ++
  [.drift 700000000,
    .spawn (.reconcile sampleRuntime resendableDefinition "tenant" "proposal")] ++ turnsOf 3 6

/-- What workers over the counting host reach in `n` turns. -/
def resentRun (n : ℕ) : RuntimeConfig SampleModel noOperations :=
  scheduled countingHost ["r1", "r2", "r3", "r4", "r5", "r6", "r7", "r8"] (fun _ ↦ false)
    (hostExecutors SampleModel noOperations) (resentTurns.take n)

/-- Whether every evaluation in the log is the one of the sample requirement. -/
def evaluatesBySample (log : RuntimeLog SampleModel noOperations) : Bool :=
  log.all fun e ↦ match e.event with
    | ⟨.evaluate _ binding evidence, .ok authority⟩ =>
      authority == sampleRequirement.evaluate binding evidence
    | _ => true

theorem EvaluatesBy.of_sample {log : RuntimeLog SampleModel noOperations}
    (h : evaluatesBySample log = true) : EvaluatesBy (fun _ ↦ sampleRequirement) log := by
  intro e he definition binding evidence authority hevent
  have hanswer := List.all_eq_true.mp h e he
  rw [hevent] at hanswer
  exact beq_iff_eq.mp hanswer

/-- Whether the last operation made the sample proposal authorized with expired evidence only. -/
def authorizesExpired (c : RuntimeConfig SampleModel noOperations) : Bool :=
  match c.log with
  | [] => false
  | e :: _ => e.before.store.statusOf ("tenant", "proposal") != some .authorized &&
      (e.after.store.proposals ("tenant", "proposal")).any fun updated ↦
        updated.lifecycleStatus == .authorized &&
          updated.authorityEvidence.all fun item ↦ decide (item.expiresAt ≤ e.before.time)

theorem resentRun_authorizesExpired : authorizesExpired (resentRun 44) = true := by
  decide +kernel

end Sample

end ThrevoActions
