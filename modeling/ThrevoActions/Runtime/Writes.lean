import ThrevoActions.Runtime.Machine

/-!
# What the runtime writes, and why

Every write of the runtime replaces a record the writing coroutine knows by one of a dozen
records built from it. This module says, for every write, what the coroutine has established when
it issues it: `Write` for the guarded writes, `AdmissionIssued` and `CreateIssued` for the other
two, `DispatchReady` and `VerificationReady` for the calls on the executor and the verifier. All of
them speak only about the history of the coroutine itself.

`runtimeContract` collects these conditions. That every coroutine of the runtime meets the
contract is shown function by function in `Runtime.Lawful`; everything later modules prove about
interleavings rests on the contract and never on the functions again.
-/

namespace ThrevoActions

open Interleaving

variable {V : Type} [HostModels V] {H : Signature}

/-- What one coroutine did so far, newest first. -/
abbrev RuntimeHistory (V : Type) [HostModels V] (H : Signature) :=
  History (runtimeSignature V H) Exn

/-- The coroutine performed `o` and received the answer `a`. -/
def Answered (h : RuntimeHistory V H) (o : Op V H) (a : o.Ans) : Prop :=
  (⟨o, .ok a⟩ : Event (runtimeSignature V H) Exn) ∈ h

theorem Answered.mono {h h' : RuntimeHistory V H} {o : Op V H} {a : o.Ans}
    (ha : Answered h o a) (hsuffix : h <:+ h') : Answered h' o a :=
  hsuffix.subset ha

theorem Answered.head {h : RuntimeHistory V H} {o : Op V H} {a : o.Ans} :
    Answered (⟨o, .ok a⟩ :: h) o a := List.mem_cons_self

/-- The last thing the coroutine did was to draw the identifier `reference` for a receipt. -/
def NewestIdentifier (h : RuntimeHistory V H) (reference : SafeReference) : Prop :=
  ∃ past : RuntimeHistory V H, h = ⟨.newIdentifier .receipt, .ok reference⟩ :: past

/-- The operation is `admit_execution`. -/
def Op.isAdmission : Op V H → Bool
  | .admitExecution _ => true
  | _ => false

/-- The coroutine admitted `executing` for execution. -/
def AdmittedBy (h : RuntimeHistory V H) (executing : StoredProposal) : Prop :=
  ∃ (args : MemoryActionStore.AdmitExecution) (claim : EffectClaimResult),
    args.updated = executing ∧ claim.admits = true ∧ Answered h (.admitExecution args) claim

/-- The coroutine asked for the admission `args`, whatever came of it. -/
def AdmissionAsked (h : RuntimeHistory V H) (args : MemoryActionStore.AdmitExecution) : Prop :=
  ∃ answer, (⟨.admitExecution args, answer⟩ : Event (runtimeSignature V H) Exn) ∈ h

/-- The coroutine knows that `record` was stored: it read it or wrote it. -/
inductive Known (h : RuntimeHistory V H) (record : StoredProposal) : Prop
  | read (hread : Answered h (.get record.tenantReference record.proposalReference) (some record))
  | wrote {current : StoredProposal}
      (hwrote : Answered h (.compareAndSet (casArguments current record)) true)
  | admitted (hadmitted : AdmittedBy h record)

/-- The coroutine created `record`, or found it stored after an interrupted creation. -/
def Persisted (h : RuntimeHistory V H) (record : StoredProposal) : Prop :=
  Answered h (.create record) () ∨
    Answered h (.get record.tenantReference record.proposalReference) (some record)

/-- The coroutine asked for no admission yet. -/
def NoAdmission (h : RuntimeHistory V H) : Prop := ∀ args, ¬AdmissionAsked h args

theorem AdmittedBy.mono {h h' : RuntimeHistory V H} {executing : StoredProposal}
    (hadmitted : AdmittedBy h executing) (hsuffix : h <:+ h') : AdmittedBy h' executing := by
  obtain ⟨args, claim, hupdated, hclaim, hanswered⟩ := hadmitted
  exact ⟨args, claim, hupdated, hclaim, hanswered.mono hsuffix⟩

theorem Known.mono {h h' : RuntimeHistory V H} {record : StoredProposal}
    (hknown : Known h record) (hsuffix : h <:+ h') : Known h' record := by
  cases hknown with
  | read hread => exact .read (hread.mono hsuffix)
  | wrote hwrote => exact .wrote (hwrote.mono hsuffix)
  | admitted hadmitted => exact .admitted (hadmitted.mono hsuffix)

/-! ## Guarded writes -/

/-- What `record_authority` established about its decision. -/
inductive Decided (h : RuntimeHistory V H) (definition : ActionDeclaration V)
    (record : StoredProposal) (evidence : AuthorityEvidence) (binding : AuthorityBinding)
    (now : Timestamp) : AuthorityOutcome → Prop
  | denied (hdeny : evidence.decision = .deny) :
      Decided h definition record evidence binding now
        ⟨.denied, .denied, .rejected, some RuntimeReasonCode.authorityRejected.value⟩
  | evaluated (evaluation : AuthorityEvaluation) (happrove : evidence.decision = .approve)
      (hevaluated : Answered h (.evaluate definition binding
        (validAuthorityEvidence (record.authorityEvidence ++ [evidence]) binding now)) evaluation) :
      Decided h definition record evidence binding now
        ⟨if evaluation.satisfied then .authorized else .awaitingAuthority,
          if evaluation.satisfied then .authorized else .authorityPending, .recorded,
          evaluation.reasonCode⟩

theorem Decided.mono {h h' : RuntimeHistory V H} {definition : ActionDeclaration V}
    {record : StoredProposal} {evidence : AuthorityEvidence} {binding : AuthorityBinding}
    {now : Timestamp} {decided : AuthorityOutcome}
    (hdecided : Decided h definition record evidence binding now decided) (hsuffix : h <:+ h') :
    Decided h' definition record evidence binding now decided := by
  cases hdecided with
  | denied hdeny => exact .denied hdeny
  | evaluated evaluation happrove hevaluated =>
    exact .evaluated evaluation happrove (hevaluated.mono hsuffix)

/-- The guarded writes: from which record, to which record, and what the coroutine has
established. -/
inductive Write (h : RuntimeHistory V H) : StoredProposal → StoredProposal → Prop
  | expired {record : StoredProposal} {now : Timestamp}
      (hstatus : record.lifecycleStatus = .awaitingAuthority ∨
        record.lifecycleStatus = .authorized)
      (hnow : Answered h .now now) (hdue : record.expiresAt ≤ now) :
      Write h record (expiredProposal record)
  | authorityRecorded (runtime : ActionRuntime) (definition : ActionDeclaration V)
      {record : StoredProposal} {evidence : AuthorityEvidence} {commitment : KeyedCommitment}
      {now : Timestamp} {decided : AuthorityOutcome} {reference : SafeReference}
      (hstatus : record.lifecycleStatus = .awaitingAuthority)
      (hnew : evidence ∉ record.authorityEvidence)
      (hcommitment : record.commitment = some commitment) (hnow : Answered h .now now)
      (hvalid : (validateAuthorityEvidence evidence
        (authorityBinding definition record commitment) now).valid = true)
      (hdecided : Decided h definition record evidence
        (authorityBinding definition record commitment) now decided)
      (hreference : NewestIdentifier h reference) :
      Write h record (authorityRecordedProposal record evidence
        (authorityReceipt runtime record reference now decided.receiptStatus evidence.authority
          decided.reasonCode) decided.target)
  | blocked (runtime : ActionRuntime) {record : StoredProposal} {authority : ConfirmingAuthority}
      {now : Timestamp} {reasonCode reference : SafeReference}
      (hstatus : record.lifecycleStatus = .authorized)
      (hauthority : lastAuthority record = .ok authority)
      (hreference : NewestIdentifier h reference) :
      Write h record (blockedProposal record
        (authorityReceipt runtime record reference now .failed authority (some reasonCode)))
  | stale (runtime : ActionRuntime) (definition : ActionDeclaration V) {record : StoredProposal}
      {now : Timestamp} {reference : SafeReference}
      (hstatus : record.lifecycleStatus = .authorized)
      (hreference : NewestIdentifier h reference) :
      Write h record (staleProposal record (executionReceipt runtime definition record reference
        now .failedKnown (some RuntimeReasonCode.materialDrift.value)))
  | superseded {record fresh : StoredProposal} (hstatus : record.lifecycleStatus = .stale)
      (hfresh : Persisted h fresh) (htenant : fresh.tenantReference = record.tenantReference)
      (haction : fresh.actionType = record.actionType) :
      Write h record (supersededProposal record fresh.proposalReference)
  | executionSettled (runtime : ActionRuntime) (definition : ActionDeclaration V)
      {record : StoredProposal} {execution : ExecutionResult V} {now : Timestamp}
      {reference : SafeReference} {safeResult : Option JsonObject}
      (hstatus : record.lifecycleStatus = .executing) (hadmitted : AdmittedBy h record)
      (hnow : Answered h .now now) (hreference : NewestIdentifier h reference) :
      Write h record (executionSettledProposal record
        (executionReceipt runtime definition record reference now
          (executionSettlement definition (declaredExecution definition record execution)
            now).receiptStatus
          (executionSettlement definition (declaredExecution definition record execution)
            now).reasonCode
          (declaredExecution definition record execution).externalReference
          (declaredExecution definition record execution).itemOutcomes)
        (executionSettlement definition (declaredExecution definition record execution) now)
        safeResult)
  | takenOver {record : StoredProposal} {now : Timestamp}
      (hstatus : record.lifecycleStatus = .executing ∨ record.lifecycleStatus = .failedUnknown)
      (hnow : Answered h .now now)
      (hdue : record.lifecycleStatus = .executing → notYetDue record now = false) :
      Write h record (takenOverProposal record)
  | unresolved {record : StoredProposal} {now : Timestamp}
      (hstatus : record.lifecycleStatus = .verificationPending) (hnow : Answered h .now now)
      (hdue : notYetDue record now = false)
      (hexhausted : record.maxVerificationAttempts ≤ record.verificationAttempts) :
      Write h record (unresolvedProposal record)
  | verificationAdmitted (definition : ActionDeclaration V) {record : StoredProposal}
      {now : Timestamp} (hstatus : record.lifecycleStatus = .verificationPending)
      (hnow : Answered h .now now) (hdue : notYetDue record now = false)
      (hattempts : record.verificationAttempts < record.maxVerificationAttempts) :
      Write h record (verificationAdmittedProposal definition record now)
  | verificationSettled (runtime : ActionRuntime) (definition : ActionDeclaration V)
      {previous : StoredProposal} {verification : VerificationResult V} {now : Timestamp}
      {context : ExecutionContext} {reference : SafeReference} {safeResult : Option JsonObject}
      (hstatus : previous.lifecycleStatus = .verificationPending)
      (hadmitted : Answered h (.compareAndSet (casArguments previous
        (verificationAdmittedProposal definition previous now))) true)
      (hverified : Answered h (.verify definition context) verification)
      (hreference : NewestIdentifier h reference) :
      Write h (verificationAdmittedProposal definition previous now)
        (verificationSettledProposal definition
          (verificationAdmittedProposal definition previous now)
          (verificationReceipt runtime definition
            (verificationAdmittedProposal definition previous now) reference now
            verification.status.receiptStatus verification)
          (verificationTransition definition
            (verificationAdmittedProposal definition previous now) verification
            (verificationAdmittedProposal definition previous now).verificationAttempts)
          safeResult now)
  | resumed (runtime : ActionRuntime) {record : StoredProposal} {cause : Receipt}
      {now : Timestamp} {reference interventionReference : SafeReference}
      {operator : RecoveryOperator}
      (hstatus : record.lifecycleStatus = .verificationPending ∨
        record.lifecycleStatus = .verificationUnresolved)
      (hcause : causalReceipt record = some cause) (hnow : Answered h .now now)
      (hreference : NewestIdentifier h reference) :
      Write h record (resumedProposal record
        (recoveryReceipt runtime record cause reference now operator interventionReference) now)

/-- No guarded write marks a record for erasure or takes a mark away. -/
theorem Write.erasureMarked {h : RuntimeHistory V H} {current updated : StoredProposal}
    (hwrite : Write h current updated) : updated.erasureMarked = current.erasureMarked := by
  cases hwrite <;> rfl

/-- No guarded write starts an attempt. -/
theorem Write.not_executing {h : RuntimeHistory V H} {current updated : StoredProposal}
    (hwrite : Write h current updated) : updated.lifecycleStatus ≠ .executing := by
  cases hwrite with
  | authorityRecorded _ _ _ _ _ _ _ hdecided =>
    cases hdecided with
    | denied => exact nofun
    | evaluated evaluation =>
      rw [authorityRecordedProposal]
      dsimp only
      split_ifs <;> exact nofun
  | executionSettled =>
    rw [executionSettledProposal, executionSettlement]
    dsimp only
    split <;> exact nofun
  | verificationAdmitted _ hstatus =>
    rw [verificationAdmittedProposal]
    dsimp only
    rw [hstatus]
    exact nofun
  | verificationSettled =>
    rw [verificationSettledProposal, verificationTransition]
    dsimp only
    split
    all_goals (try split_ifs) <;> exact nofun
  | expired | blocked | stale | superseded | takenOver | unresolved | resumed => exact nofun

/-- Over an attempt only its settlement and its takeover are written. -/
theorem Write.of_executing {h : RuntimeHistory V H} {current updated : StoredProposal}
    (hwrite : Write h current updated) (hstatus : current.lifecycleStatus = .executing) :
    AdmittedBy h current ∨ updated = takenOverProposal current ∧
      ∃ now, Answered h .now now ∧ notYetDue current now = false := by
  cases hwrite with
  | executionSettled _ _ _ hadmitted => exact Or.inl hadmitted
  | takenOver _ hnow hdue => exact Or.inr ⟨rfl, _, hnow, hdue hstatus⟩
  | expired hstatus' | resumed _ hstatus' =>
    rw [hstatus] at hstatus'
    rcases hstatus' with h | h <;> cases h
  | authorityRecorded _ _ hstatus' | blocked _ hstatus' | stale _ _ hstatus'
  | superseded hstatus' | unresolved hstatus' | verificationAdmitted _ hstatus' =>
    rw [hstatus] at hstatus'
    cases hstatus'
  | verificationSettled _ _ hstatus' =>
    rw [verificationAdmittedProposal] at hstatus
    rw [hstatus] at hstatus'
    cases hstatus'

/-- What a coroutine has established when it issues a guarded write. A coroutine that asked for the
admission of an attempt writes nothing but the settlement of that attempt. -/
structure WriteIssued (h : RuntimeHistory V H) (current updated : StoredProposal) : Prop where
  known : Known h current
  unmarked : current.erasureMarked = false
  write : Write h current updated
  settles : ∀ args, AdmissionAsked h args → current = args.updated

/-! ## Creation and admission -/

/-- What a coroutine has established when it creates a record. -/
def CreateIssued (h : RuntimeHistory V H) (record : StoredProposal) : Prop :=
  ∃ (runtime : ActionRuntime) (definition : ActionDeclaration V)
    (tenantReference proposalReference semanticEffectReference reference : SafeReference)
    (payload : ProtectedPayload) (commitment : KeyedCommitment) (displayPreview : JsonObject)
    (requestingPrincipal : RequestingPrincipal) (proposingAgent : Option ProposingAgent)
    (now : Timestamp),
    record = preparedProposal definition tenantReference proposalReference
      semanticEffectReference payload commitment displayPreview requestingPrincipal proposingAgent
      now (preparedReceipt runtime proposalReference reference requestingPrincipal proposingAgent
        now) ∧
    NewestIdentifier h reference

/-- What a coroutine has established when it asks for admission. -/
structure AdmissionIssued (h : RuntimeHistory V H) (args : MemoryActionStore.AdmitExecution)
    (runtime : ActionRuntime) (definition : ActionDeclaration V) (record : StoredProposal)
    (executionPrecondition : SafeReference) (reference : SafeReference) : Prop where
  arguments : args =
    { tenantReference := record.tenantReference
      proposalReference := record.proposalReference
      expectedRevision := record.revision
      admittedAt := args.admittedAt
      updated := executingProposal definition record executionPrecondition args.admittedAt
        (executionReceipt runtime definition record reference args.admittedAt .started none) }
  known : Known h record
  unmarked : record.erasureMarked = false
  authorized : record.lifecycleStatus = .authorized
  allowed : ∃ (snapshot : V) (context : ExecutionContext) (authorization : AuthorizationResult),
    Answered h (.canExecute definition snapshot context) authorization
  newest : NewestIdentifier h reference
  now : Answered h .now args.admittedAt
  first : NoAdmission h

/-- What is to be stored. -/
theorem AdmissionIssued.updated {h : RuntimeHistory V H}
    {args : MemoryActionStore.AdmitExecution} {runtime : ActionRuntime}
    {definition : ActionDeclaration V} {record : StoredProposal}
    {executionPrecondition reference : SafeReference}
    (hissued : AdmissionIssued h args runtime definition record executionPrecondition reference) :
    args.updated = executingProposal definition record executionPrecondition args.admittedAt
      (executionReceipt runtime definition record reference args.admittedAt .started none) :=
  congrArg MemoryActionStore.AdmitExecution.updated hissued.arguments

/-- The arguments name the record that is to be admitted. -/
theorem AdmissionIssued.key {h : RuntimeHistory V H} {args : MemoryActionStore.AdmitExecution}
    {runtime : ActionRuntime} {definition : ActionDeclaration V} {record : StoredProposal}
    {executionPrecondition reference : SafeReference}
    (hissued : AdmissionIssued h args runtime definition record executionPrecondition reference) :
    (args.tenantReference, args.proposalReference) = record.key := by
  rw [hissued.arguments]
  rfl

/-! ## Custody -/

/-- What the ports keep for a proposal: its protected snapshot, and the key of its commitment. -/
inductive Material
  | payload (payload : ProtectedPayload)
  | commitment (commitment : KeyedCommitment)
  deriving DecidableEq

/-- The record refers to the material: without it the record cannot be executed. -/
def StoredProposal.RefersTo (record : StoredProposal) : Material → Prop
  | .payload payload => record.protectedPrivateSnapshot = some payload
  | .commitment commitment => record.commitment = some commitment

/-- The material a port hands out with an answer. -/
def handedOut : (o : Op V H) → Except Exn o.Ans → Option Material
  | .protectPayload _ _ _, .ok payload => some (.payload payload)
  | .createCommitment _ _ _, .ok commitment => some (.commitment commitment)
  | _, _ => none

/-- A port hands the material out. -/
def HandsOut (ev : Event (runtimeSignature V H) Exn) (m : Material) : Prop :=
  handedOut ev.op ev.answer = some m

/-- What the operation destroys, and for which proposal. -/
def Op.destroys : Op V H → Option (ProposalIdentity × Material)
  | .destroyPayload _ proposalIdentity payload => some (proposalIdentity, .payload payload)
  | .destroyCommitment _ proposalIdentity commitment =>
    some (proposalIdentity, .commitment commitment)
  | _ => none

/-- The operation is `create`. -/
def Op.isCreation : Op V H → Bool
  | .create _ => true
  | _ => false

/-- The identity under which the ports know the record. -/
def StoredProposal.proposalIdentity (record : StoredProposal) : ProposalIdentity :=
  ⟨record.tenantReference, record.proposalReference⟩

/-- A port handed the material out to the coroutine. -/
def Obtained (h : RuntimeHistory V H) (m : Material) : Prop := ∃ ev ∈ h, HandsOut ev m

theorem Obtained.mono {h h' : RuntimeHistory V H} {m : Material} (hobtained : Obtained h m)
    (hsuffix : h <:+ h') : Obtained h' m := by
  obtain ⟨ev, hev, hout⟩ := hobtained
  exact ⟨ev, hsuffix.subset hev, hout⟩

theorem not_obtained_nil (m : Material) : ¬Obtained ([] : RuntimeHistory V H) m := by
  rintro ⟨ev, hev, -⟩
  cases hev

theorem not_obtained_cons {h : RuntimeHistory V H} {o : Op V H} {r : Except Exn o.Ans}
    (ho : handedOut o r = none) (hnone : ∀ m, ¬Obtained h m) (m : Material) :
    ¬Obtained (V := V) (H := H) (⟨o, r⟩ :: h) m := by
  rintro ⟨ev, hev, hout⟩
  rcases List.mem_cons.mp hev with rfl | hev
  · cases ho.symm.trans hout
  · exact hnone m ⟨ev, hev, hout⟩

/-- The coroutine obtained the material and created nothing since. -/
def Unfiled (h : RuntimeHistory V H) (m : Material) : Prop :=
  ∃ since ev past, h = since ++ ev :: past ∧ HandsOut ev m ∧
    ∀ x ∈ since, x.op.isCreation = false

theorem Unfiled.head {past : RuntimeHistory V H} {ev : Event (runtimeSignature V H) Exn}
    {m : Material} (hout : HandsOut ev m) : Unfiled (ev :: past) m :=
  ⟨[], ev, past, rfl, hout, List.forall_mem_nil _⟩

theorem Unfiled.event {h : RuntimeHistory V H} {m : Material} (hunfiled : Unfiled h m)
    {o : Op V H} (ho : o.isCreation = false) (r : Except Exn o.Ans) :
    Unfiled (V := V) (H := H) (⟨o, r⟩ :: h) m := by
  obtain ⟨since, ev, past, rfl, hout, hsince⟩ := hunfiled
  exact ⟨⟨o, r⟩ :: since, ev, past, rfl, hout, List.forall_mem_cons.mpr ⟨ho, hsince⟩⟩

theorem Unfiled.obtained {h : RuntimeHistory V H} {m : Material} (hunfiled : Unfiled h m) :
    Obtained h m := by
  obtain ⟨since, ev, past, rfl, hout, -⟩ := hunfiled
  exact ⟨ev, List.mem_append_right _ List.mem_cons_self, hout⟩

/-- The coroutine obtained the material, and knows of no proposal that refers to it: it did not try
to create one, or the creation raised and something else was found on file. -/
inductive Abandoned (h : RuntimeHistory V H) (m : Material) : Prop
  | unattempted (hunfiled : Unfiled h m)
  | notFound {since past : RuntimeHistory V H} {record : StoredProposal}
      {persisted : Option StoredProposal} {failure : Exn}
      (hh : h = since ++ ⟨.get record.tenantReference record.proposalReference, .ok persisted⟩ ::
        ⟨.create record, .error failure⟩ :: past)
      (hunfiled : Unfiled past m) (hrefers : record.RefersTo m)
      (hsince : ∀ x ∈ since, x.op.isCreation = false) (hother : persisted ≠ some record)

theorem Abandoned.event {h : RuntimeHistory V H} {m : Material} (habandoned : Abandoned h m)
    {o : Op V H} (ho : o.isCreation = false) (r : Except Exn o.Ans) :
    Abandoned (V := V) (H := H) (⟨o, r⟩ :: h) m := by
  cases habandoned with
  | unattempted hunfiled => exact .unattempted (hunfiled.event ho r)
  | @notFound since _ _ _ _ hh hunfiled hrefers hsince hother =>
    have hsince' : ∀ x ∈ ⟨o, r⟩ :: since, x.op.isCreation = false :=
      List.forall_mem_cons.mpr ⟨ho, hsince⟩
    exact .notFound (by rw [hh, List.cons_append]) hunfiled hrefers hsince' hother

theorem Abandoned.obtained {h : RuntimeHistory V H} {m : Material} (habandoned : Abandoned h m) :
    Obtained h m := by
  cases habandoned with
  | unattempted hunfiled => exact hunfiled.obtained
  | notFound hh hunfiled =>
    rw [hh]
    refine hunfiled.obtained.mono ?_
    exact ((List.suffix_cons _ _).trans (List.suffix_cons _ _)).trans (List.suffix_append _ _)

/-- The coroutine knows that `record` was on file marked for erasure: it was when read, or it was
read after the coroutine had marked it. -/
inductive MarkKnown (h : RuntimeHistory V H) (record : StoredProposal) : Prop
  | read (hread : Answered h (.get record.tenantReference record.proposalReference) (some record))
      (hmarked : record.erasureMarked = true)
  | marked {args : MemoryActionStore.ErasureStep} {past : RuntimeHistory V H}
      (hread : ⟨.get record.tenantReference record.proposalReference, .ok (some record)⟩ :: past <:+
        h)
      (hmarks : Answered past (.markErasurePending args) true)
      (hkey : (args.tenantReference, args.proposalReference) = record.key)

theorem MarkKnown.mono {h h' : RuntimeHistory V H} {record : StoredProposal}
    (hknown : MarkKnown h record) (hsuffix : h <:+ h') : MarkKnown h' record := by
  cases hknown with
  | read hread hmarked => exact .read (hread.mono hsuffix) hmarked
  | marked hread hmarks hkey => exact .marked (hread.trans hsuffix) hmarks hkey

/-- What a coroutine has established when it has material destroyed: it obtained and abandoned it,
or the proposal that refers to it is marked for erasure. -/
inductive DestroyIssued (h : RuntimeHistory V H) (proposalIdentity : ProposalIdentity)
    (m : Material) : Prop
  | abandoned (habandoned : Abandoned h m)
  | erasing {record : StoredProposal} (hmarked : MarkKnown h record)
      (hidentity : proposalIdentity = record.proposalIdentity) (hrefers : record.RefersTo m)
      (hnone : ∀ m, ¬Obtained h m)

/-- The coroutine had the material destroyed for the proposal. -/
def Destroyed (h : RuntimeHistory V H) (proposalIdentity : ProposalIdentity) (m : Material) :
    Prop :=
  ∃ (o : Op V H) (a : o.Ans), o.destroys = some (proposalIdentity, m) ∧ Answered h o a

theorem Destroyed.mono {h h' : RuntimeHistory V H} {proposalIdentity : ProposalIdentity}
    {m : Material} (hdestroyed : Destroyed h proposalIdentity m) (hsuffix : h <:+ h') :
    Destroyed h' proposalIdentity m := by
  obtain ⟨o, a, hdestroys, hanswered⟩ := hdestroyed
  exact ⟨o, a, hdestroys, hanswered.mono hsuffix⟩

/-- What a coroutine has established when it completes an erasure: the record is marked, and all it
refers to was destroyed. -/
structure CompletionIssued (h : RuntimeHistory V H) (args : MemoryActionStore.ErasureStep)
    (record : StoredProposal) : Prop where
  key : (args.tenantReference, args.proposalReference) = record.key
  revision : args.expectedRevision = record.revision
  marked : MarkKnown h record
  destroyed : ∀ m, record.RefersTo m → Destroyed h record.proposalIdentity m

/-! ## Dispatch and verification -/

section Dispatch

variable [UnicodeNormalization]

/-- The private snapshot of `record` was unprotected and verified against its commitment. -/
structure SnapshotVerified (h : RuntimeHistory V H) (definition : ActionDeclaration V)
    (record : StoredProposal) (commitment : KeyedCommitment) (payload : ProtectedPayload)
    (canonical commitmentInput : Bytes) (snapshot : V) : Prop where
  hasPayload : record.protectedPrivateSnapshot = some payload
  hasCommitment : record.commitment = some commitment
  unprotected : Answered h (.unprotectPayload definition
    ⟨record.tenantReference, record.proposalReference⟩ payload) canonical
  input : commitmentPayloadV1 record.proposalReference canonical = .ok commitmentInput
  verified : Answered h (.verifyCommitment definition
    ⟨record.tenantReference, record.proposalReference⟩ commitmentInput commitment) true
  validated : modelValidateJson definition.privateSnapshotModel canonical = .ok snapshot

/-- The resolver reported no material drift of a verified snapshot. -/
def CurrentResolved (h : RuntimeHistory V H) (definition : ActionDeclaration V)
    (record : StoredProposal) (commitment : KeyedCommitment) (resolved : ResolvedState V) : Prop :=
  ∃ (payload : ProtectedPayload) (canonical commitmentInput : Bytes) (snapshot : V)
    (context : ExecutionContext),
    SnapshotVerified h definition record commitment payload canonical commitmentInput snapshot ∧
    Answered h (.resolve definition snapshot context) resolved ∧
    resolved.materiallyDrifted = false

/-- The evaluator was satisfied with `evidence`, and the host allowed to execute. -/
def Reauthorized (h : RuntimeHistory V H) (definition : ActionDeclaration V)
    (binding : AuthorityBinding) (evidence : List AuthorityEvidence)
    (resolved : ResolvedState V) : Prop :=
  (∃ authority : AuthorityEvaluation, Answered h (.evaluate definition binding evidence) authority ∧
    authority.satisfied = true) ∧
  ∃ (context : ExecutionContext) (authorization : AuthorizationResult),
    Answered h (.canExecute definition resolved.currentSnapshot context) authorization ∧
    authorization.allowed = true

theorem SnapshotVerified.mono {h h' : RuntimeHistory V H} {definition : ActionDeclaration V}
    {record : StoredProposal} {commitment : KeyedCommitment} {payload : ProtectedPayload}
    {canonical commitmentInput : Bytes} {snapshot : V}
    (hverified : SnapshotVerified h definition record commitment payload canonical commitmentInput
      snapshot) (hsuffix : h <:+ h') :
    SnapshotVerified h' definition record commitment payload canonical commitmentInput snapshot :=
  { hverified with
    unprotected := hverified.unprotected.mono hsuffix
    verified := hverified.verified.mono hsuffix }

theorem CurrentResolved.mono {h h' : RuntimeHistory V H} {definition : ActionDeclaration V}
    {record : StoredProposal} {commitment : KeyedCommitment} {resolved : ResolvedState V}
    (hcurrent : CurrentResolved h definition record commitment resolved) (hsuffix : h <:+ h') :
    CurrentResolved h' definition record commitment resolved := by
  obtain ⟨payload, canonical, commitmentInput, snapshot, context, hverified, hresolved, hdrifted⟩ :=
    hcurrent
  exact ⟨payload, canonical, commitmentInput, snapshot, context, hverified.mono hsuffix,
    hresolved.mono hsuffix, hdrifted⟩

omit [UnicodeNormalization] in
theorem Reauthorized.mono {h h' : RuntimeHistory V H} {definition : ActionDeclaration V}
    {binding : AuthorityBinding} {evidence : List AuthorityEvidence} {resolved : ResolvedState V}
    (hreauthorized : Reauthorized h definition binding evidence resolved) (hsuffix : h <:+ h') :
    Reauthorized h' definition binding evidence resolved := by
  obtain ⟨⟨authority, hevaluated, hsatisfied⟩, context, authorization, hanswered, hallowed⟩ :=
    hreauthorized
  exact ⟨⟨authority, hevaluated.mono hsuffix, hsatisfied⟩, context, authorization,
    hanswered.mono hsuffix, hallowed⟩

/-- Everything `execute` has established when it hands over to the executor. -/
structure DispatchReady (h : RuntimeHistory V H) (definition : ActionDeclaration V) (snapshot : V)
    (context : ExecutionContext) (executionPrecondition : SafeReference)
    (args : MemoryActionStore.AdmitExecution) (claim : EffectClaimResult)
    (record : StoredProposal) (commitment : KeyedCommitment) (evidence : List AuthorityEvidence)
    (resolved : ResolvedState V) : Prop where
  justAdmitted : ∃ (runtime : ActionRuntime) (reference : SafeReference)
    (past : RuntimeHistory V H),
    h = ⟨.now, .ok context.observedAt⟩ :: ⟨.admitExecution args, .ok claim⟩ :: past ∧
    AdmissionIssued past args runtime definition record resolved.executionPrecondition reference
  admits : claim.admits = true
  contextOf : executionContext record context.observedAt (some evidence) = .ok context
  unexpired : context.observedAt < record.expiresAt
  evidence_stored : evidence ⊆ record.authorityEvidence
  evidence_valid : ∀ item ∈ evidence, (validateAuthorityEvidence item
    (authorityBinding definition record commitment) context.observedAt).valid = true
  inLease : context.observedAt < args.admittedAt + definition.verificationLeaseDuration
  current : CurrentResolved h definition record commitment resolved
  reauthorized : Reauthorized h definition (authorityBinding definition record commitment)
    evidence resolved
  snapshotOf : resolved.currentSnapshot = snapshot
  preconditionOf : resolved.executionPrecondition = executionPrecondition

end Dispatch

/-- `reconcile` has just admitted a verification of `previous`. -/
structure VerificationReady (h : RuntimeHistory V H) (definition : ActionDeclaration V)
    (context : ExecutionContext) (previous : StoredProposal) : Prop where
  justAdmitted : ∃ past : RuntimeHistory V H,
    h = ⟨.compareAndSet (casArguments previous
      (verificationAdmittedProposal definition previous context.observedAt)), .ok true⟩ :: past
  contextOf : executionContext
    (verificationAdmittedProposal definition previous context.observedAt) context.observedAt =
    .ok context
  known : Known h.tail previous
  status : previous.lifecycleStatus = .verificationPending
  now : Answered h .now context.observedAt
  due : notYetDue previous context.observedAt = false

/-! ## The contract -/

/-- The contract of runtime coroutines, over a condition on the host operations of executors. -/
def runtimeContract [UnicodeNormalization]
    (hostIssues : RuntimeHistory V H → H.Op → Prop) : Contract (runtimeSignature V H) Exn where
  legal _ _ := True
  issues h
    | .create record => CreateIssued h record ∧ ∀ m, record.RefersTo m → Obtained h m
    | .compareAndSet args => ∃ current updated,
      args = casArguments current updated ∧ WriteIssued h current updated
    | .admitExecution args => ∃ runtime definition record executionPrecondition reference,
      AdmissionIssued h args runtime definition record executionPrecondition reference
    | .execute definition snapshot context executionPrecondition =>
      ∃ args claim record commitment evidence resolved, DispatchReady h definition snapshot context
        executionPrecondition args claim record commitment evidence resolved
    | .verify definition context => ∃ previous, VerificationReady h definition context previous
    | .completeErasure args => ∃ record, CompletionIssued h args record
    | .destroyPayload _ proposalIdentity payload =>
      DestroyIssued h proposalIdentity (.payload payload)
    | .destroyCommitment _ proposalIdentity commitment =>
      DestroyIssued h proposalIdentity (.commitment commitment)
    | .host operation => hostIssues h operation
    | _ => True

/-- The condition under which material is destroyed. -/
theorem destroyIssued_of_issues [UnicodeNormalization]
    {hostIssues : RuntimeHistory V H → H.Op → Prop} {h : RuntimeHistory V H} {o : Op V H}
    {proposalIdentity : ProposalIdentity} {m : Material}
    (hissues : (runtimeContract hostIssues).issues h o)
    (hdestroys : o.destroys = some (proposalIdentity, m)) : DestroyIssued h proposalIdentity m := by
  cases o
  case destroyPayload | destroyCommitment =>
    cases hdestroys
    exact hissues
  all_goals cases hdestroys

end ThrevoActions
