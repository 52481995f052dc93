import ThrevoActions.Runtime.Reads
import ThrevoActions.Runtime.Resend
import ThrevoActions.Store.Takeover

/-!
# Who may act on an effect

Admission decides from the status of the recorded owner whether an effect may be taken over. The
two other places that depend on it do not follow: an owner may leave a status in which it gives
way for one in which it does not, and the recovery view asks only whether there is another owner.
-/

namespace ThrevoActions

open Interleaving Interleaving.Program
open MemoryActionStore (Admissible Call)

variable {V : Type} [HostModels V] {H : Signature}

/-! ## Asking for admission -/

/-- The arguments with which the runtime asks for the admission of `record`. -/
def admissionArguments (runtime : ActionRuntime) (definition : ActionDeclaration V)
    (record : StoredProposal) (executionPrecondition reference : SafeReference)
    (admittedAt : Timestamp) : MemoryActionStore.AdmitExecution where
  tenantReference := record.tenantReference
  proposalReference := record.proposalReference
  expectedRevision := record.revision
  admittedAt := admittedAt
  updated := executingProposal definition record executionPrecondition admittedAt
    (executionReceipt runtime definition record reference admittedAt .started none)

section Admission

variable {store : MemoryActionStore} {record : StoredProposal} {t : Timestamp}

/-- The store accepts the attempt. -/
theorem executing_accepted (runtime : ActionRuntime) (definition : ActionDeclaration V)
    (executionPrecondition reference : SafeReference)
    (hbindings : validateProposalBindings record = .ok ()) (hadmissible : Admissible record t) :
    AcceptedUpdate record
      (admissionArguments runtime definition record executionPrecondition reference t).updated := by
  have hreceipts : (admissionArguments runtime definition record executionPrecondition reference
      t).updated.receipts = record.receipts ++
        [.execution (executionReceipt runtime definition record reference t .started none)] := rfl
  have hstatus : (admissionArguments runtime definition record executionPrecondition reference
      t).updated.lifecycleStatus = .executing := rfl
  refine .keep hbindings (erasedAt_of_unmarked hadmissible.unmarked) rfl rfl rfl rfl rfl hreceipts
    ?_ (Or.inr ?_)
  · intro receipt hreceipt
    rw [List.mem_singleton.mp hreceipt]
    rfl
  · rw [hstatus, hadmissible.authorized]
    decide

/-- What the store answers the runtime: the outcome of the claim. -/
theorem admitExecution_admissionArguments (runtime : ActionRuntime)
    (definition : ActionDeclaration V) (executionPrecondition reference : SafeReference)
    (hfound : store.proposals record.key = some record)
    (hbindings : validateProposalBindings record = .ok ()) (hadmissible : Admissible record t) :
    (store.admitExecution (admissionArguments runtime definition record executionPrecondition
      reference t)).1 =
        .ok (store.claimEffectLocked record.effectKey record.proposalReference).1 :=
  MemoryActionStore.admitExecution_admissible hfound rfl hadmissible
    (executing_accepted runtime definition executionPrecondition reference hbindings hadmissible) rfl

end Admission

/-! ## Owners that can no longer act -/

/-- The statuses of an owner with no effect outstanding that executes no more. -/
def spentStatuses : List LifecycleStatus :=
  [.failedKnown, .stale, .superseded, .blocked, .expired]

/-- The spent statuses of an owner that does not give way. -/
def lockingStatuses : List LifecycleStatus := [.superseded, .blocked, .expired]

section Reachable

variable [UnicodeNormalization] {env : Env V H} {executorOf : ExecutorOf V H} {start : Timestamp}
  {c : RuntimeConfig V H}

/-- **Taking over from a spent owner.** Whatever workers did: where the recorded owner of an effect
is spent, another admissible proposal of that effect acquires it exactly if the owner is neither
superseded, nor blocked, nor expired. -/
theorem spent_owner_gives_way_iff (hc : RuntimeReachable env executorOf start c)
    {record ownerRecord : StoredProposal} {owner : SafeReference} {admittedAt : Timestamp}
    (hrecord : c.shared.store.proposals record.key = some record)
    (hadmissible : Admissible record admittedAt)
    (howner : c.shared.store.effectClaims record.effectKey = some owner)
    (hother : owner ≠ record.proposalReference)
    (hownerRecord : c.shared.store.proposals (record.tenantReference, owner) = some ownerRecord)
    (hspent : ownerRecord.lifecycleStatus ∈ spentStatuses) (runtime : ActionRuntime)
    (definition : ActionDeclaration V) (executionPrecondition reference : SafeReference) :
    (c.shared.store.admitExecution (admissionArguments runtime definition record
        executionPrecondition reference admittedAt)).1 = .ok .acquired ↔
      ownerRecord.lifecycleStatus ∉ lockingStatuses := by
  have hbindings := hc.bound _ _ hrecord
  rw [admitExecution_admissionArguments runtime definition executionPrecondition reference hrecord
    hbindings hadmissible]
  have hgives : ownerRecord.lifecycleStatus ∈ [.failedKnown, .stale] ↔
      ownerRecord.lifecycleStatus ∉ lockingStatuses := by
    revert hspent
    cases ownerRecord.lifecycleStatus <;> decide
  have htransferable := (MemoryActionStore.transferable_iff howner hother hownerRecord).trans hgives
  have helsewhere : c.shared.store.OwnedElsewhere record := ⟨owner, howner, hother⟩
  rcases MemoryActionStore.claimEffectLocked_fst helsewhere with
    ⟨hacquired, hfree⟩ | ⟨hconflict, hlocked⟩
  · rw [hacquired]
    exact iff_of_true rfl (htransferable.mp hfree)
  · rw [hconflict]
    exact iff_of_false nofun fun hgives ↦ hlocked (htransferable.mpr hgives)

/-- A superseded, blocked or expired owner keeps its effect whatever is called on the store. -/
theorem locking_owner_keeps (hc : RuntimeReachable env executorOf start c)
    {record ownerRecord : StoredProposal} {owner : SafeReference}
    (howner : c.shared.store.effectClaims record.effectKey = some owner)
    (hownerRecord : c.shared.store.proposals (record.tenantReference, owner) = some ownerRecord)
    (hlocks : ownerRecord.lifecycleStatus ∈ lockingStatuses) (calls : List Call) :
    (c.shared.store.run calls).effectClaims record.effectKey = some owner := by
  have hfinal : allowedLifecycleTransitions ownerRecord.lifecycleStatus = [] ∧
      ownerRecord.lifecycleStatus ≠ .failedKnown := by
    revert hlocks
    cases ownerRecord.lifecycleStatus <;> decide
  exact (MemoryActionStore.run_locked hc.effectsOwned howner hownerRecord hfinal.1 hfinal.2
    calls).1

end Reachable

/-! ## The recovery view -/

/-- Answers to a reader of `record`: the record and the owner of its effect stand as in `store`, and
the clock reads `t`. Every other record may move in the meantime. -/
def ownerUnchanged (store : MemoryActionStore) (record : StoredProposal) (t : Timestamp) :
    (o : Op V H) → Except Exn o.Ans → Prop
  | .get tenantReference proposalReference, answer =>
    record.key = (tenantReference, proposalReference) → answer = .ok (some record)
  | .getEffectClaimOwner tenantReference actionType semanticEffectReference, answer =>
    answer = .ok (store.getEffectClaimOwner tenantReference actionType semanticEffectReference)
  | .now, answer => answer = .ok t
  | _, _ => True

/-- What a reader of the ownership of `record` reports while the owner stays the same. -/
theorem OwnershipObserved.of_unchanged {h : RuntimeHistory V H} {store : MemoryActionStore}
    {t : Timestamp} {record : StoredProposal} {ownership : ActionEffectOwnership}
    (hobserved : OwnershipObserved h record ownership)
    (hlegal : ∀ ev ∈ h, ownerUnchanged store record t ev.op ev.answer) :
    ownership = .ownedElsewhere ∧ store.OwnedElsewhere record ∨
      ownership ∉ [.ownedElsewhere, .observationUncertain] ∧ ¬store.OwnedElsewhere record := by
  have hclaims : ∀ {owner}, Answered h (ownerLookup record) owner →
      store.effectClaims record.effectKey = owner :=
    fun hlookup ↦ (Except.ok.inj (hlegal _ hlookup)).symm
  cases hobserved with
  | unclaimed hlookup =>
    refine Or.inr ⟨by decide, ?_⟩
    rintro ⟨owner, howner, -⟩
    rw [hclaims hlookup] at howner
    cases howner
  | own hlookup =>
    refine Or.inr ⟨by decide, ?_⟩
    rintro ⟨owner, howner, hother⟩
    rw [hclaims hlookup] at howner
    exact hother (Option.some.inj howner).symm
  | elsewhere hother hlookup => exact Or.inl ⟨rfl, _, hclaims hlookup, hother⟩
  | failed hlookup => cases hlegal _ hlookup
  | changed hne hfirst hsecond => exact absurd ((hclaims hfirst).symm.trans (hclaims hsecond)) hne

/-- An admissible record is ready, unless its effect is owned elsewhere. -/
theorem recoveryConditionOf_admissible {record : StoredProposal} {t : Timestamp}
    (hadmissible : Admissible record t) (ownership : ActionEffectOwnership) :
    recoveryConditionOf record t ownership =
      if ownership ∈ [.ownedElsewhere, .observationUncertain] then .effectOwnedElsewhere
      else .readyForExecution := by
  have hunexpired : ¬record.expiresAt ≤ t := Int.not_le.mpr hadmissible.unexpired
  simp [recoveryConditionOf, conditionOf, recoveryCondition, hadmissible.authorized, hunexpired]

/-- The view of an admissible record whose owner stays the same. -/
theorem readRecovery_admissible {store : MemoryActionStore} {record : StoredProposal}
    {t : Timestamp} (hadmissible : Admissible record t) {definition : ActionDeclaration V}
    {consumer : EvidenceConsumer} {h : RuntimeHistory V H} {view : ActionRecoveryView}
    (hview : Finishes (ownerUnchanged store record t)
      (readRecovery definition record.proposalReference ⟨record.tenantReference, consumer⟩) h
      (.ok view)) :
    (view.condition = .effectOwnedElsewhere ↔ store.OwnedElsewhere record) ∧
      ((∃ step ∈ view.recommendedSteps, step.operation = .execute) ↔
        ¬store.OwnedElsewhere record) := by
  obtain ⟨⟨seen, observedAt, hread, -, hnow, hcases⟩, hlegal⟩ :=
    (readRecovery_returns definition _ _ []).finishes hview
  have hseen : seen = record := Option.some.inj (Except.ok.inj (hlegal _ hread rfl))
  have hobservedAt : observedAt = t := Except.ok.inj (hlegal _ hnow)
  subst hseen hobservedAt
  rcases hcases with ⟨hmarked, -⟩ | ⟨-, ownership, owner, hobserved, rfl⟩
  · rw [hadmissible.unmarked] at hmarked
    cases hmarked
  have hcondition := recoveryConditionOf_admissible hadmissible ownership
  have hstep : (∃ step ∈ (recoveryView seen observedAt ownership owner).recommendedSteps,
      step.operation = .execute) ↔
        (recoveryConditionOf seen observedAt ownership).operation = .execute := by
    simp [recoveryView, recoverySteps]
  rw [hstep, show (recoveryView seen observedAt ownership owner).condition =
    recoveryConditionOf seen observedAt ownership from rfl, hcondition]
  rcases hobserved.of_unchanged hlegal with ⟨rfl, helsewhere⟩ | ⟨hownership, hfree⟩
  · simp only [helsewhere]
    decide
  · simp only [hownership, hfree]
    decide

/-- **View and admission.** Over every state of the store and for every admissible proposal in it,
the recovery view reports the effect as owned elsewhere exactly when admission would be refused for
a conflict or would take the effect over from a proposal that gave up, and it recommends execution
whenever admission would succeed without taking the effect over. -/
theorem recovery_view_agrees (calls : List Call) {key : ProposalKey} {record : StoredProposal}
    (hrecord : (MemoryActionStore.empty.run calls).proposals key = some record)
    {t admittedAt : Timestamp} (hviewed : Admissible record t)
    (hadmissible : Admissible record admittedAt) (runtime : ActionRuntime)
    (definition : ActionDeclaration V) (consumer : EvidenceConsumer)
    (executionPrecondition reference : SafeReference) {h : RuntimeHistory V H}
    {view : ActionRecoveryView}
    (hview : Finishes (ownerUnchanged (MemoryActionStore.empty.run calls) record t)
      (readRecovery definition key.2 ⟨key.1, consumer⟩) h (.ok view)) :
    (view.condition = .effectOwnedElsewhere ↔
      ((MemoryActionStore.empty.run calls).admitExecution (admissionArguments runtime definition
          record executionPrecondition reference admittedAt)).1 = .ok .conflict ∨
        (MemoryActionStore.empty.run calls).Transferable record) ∧
    ((MemoryActionStore.empty.run calls).Transferable record →
      ((MemoryActionStore.empty.run calls).admitExecution (admissionArguments runtime definition
        record executionPrecondition reference admittedAt)).1 = .ok .acquired) ∧
    ∀ result, ((MemoryActionStore.empty.run calls).admitExecution (admissionArguments runtime
        definition record executionPrecondition reference admittedAt)).1 = .ok result →
      result.admits = true → ¬(MemoryActionStore.empty.run calls).Transferable record →
      ∃ step ∈ view.recommendedSteps, step.operation = .execute := by
  have hfiled : record.key = key := (MemoryActionStore.EffectsOwned.empty.run calls).filed _ _ hrecord
  have hbindings := MemoryActionStore.Bound.empty.run MemoryActionStore.EffectsOwned.empty calls _ _
    hrecord
  subst hfiled
  rw [admitExecution_admissionArguments runtime definition executionPrecondition reference hrecord
    hbindings hadmissible]
  obtain ⟨hcondition, hstep⟩ := readRecovery_admissible hviewed hview
  rw [hcondition, hstep]
  by_cases helsewhere : (MemoryActionStore.empty.run calls).OwnedElsewhere record
  · rcases MemoryActionStore.claimEffectLocked_fst helsewhere with
      ⟨hacquired, hgives⟩ | ⟨hconflict, hlocked⟩
    · rw [hacquired]
      exact ⟨iff_of_true helsewhere (Or.inr hgives), fun _ ↦ rfl, fun _ _ _ h ↦ absurd hgives h⟩
    · rw [hconflict]
      refine ⟨iff_of_true helsewhere (Or.inl rfl), fun h ↦ absurd h hlocked, ?_⟩
      intro result hresult hadmits
      rw [← Except.ok.inj hresult] at hadmits
      cases hadmits
  · have hadmits := MemoryActionStore.claimEffectLocked_admits helsewhere
    have hnot : ¬(MemoryActionStore.empty.run calls).Transferable record :=
      fun hgives ↦ helsewhere hgives.ownedElsewhere
    refine ⟨iff_of_false helsewhere (not_or.mpr ⟨?_, hnot⟩), fun h ↦ absurd h hnot,
      fun _ _ _ _ ↦ helsewhere⟩
    intro hconflict
    rw [Except.ok.inj hconflict] at hadmits
    cases hadmits

section Sample

attribute [local instance] normalizedTexts

/-! ## Samples -/

/-- What decides whether a proposal may be admitted. -/
structure AdmissionFacts where
  key : ProposalKey
  status : LifecycleStatus
  marked : Bool
  unexpired : Bool
  owner : Option SafeReference
  deriving DecidableEq

/-- The facts about the sample proposal `reference` at the current time. -/
def admissionFacts (c : RuntimeConfig SampleModel noOperations) (reference : SafeReference) :
    Option AdmissionFacts :=
  (c.shared.store.proposals ("tenant", reference)).map fun record ↦
    ⟨record.key, record.lifecycleStatus, record.erasureMarked,
      decide (c.shared.time < record.expiresAt), c.shared.store.effectClaims record.effectKey⟩

theorem exists_admissible {c : RuntimeConfig SampleModel noOperations} {reference : SafeReference}
    {owner : Option SafeReference}
    (hfacts : admissionFacts c reference =
      some ⟨("tenant", reference), .authorized, false, true, owner⟩) :
    ∃ record, c.shared.store.proposals ("tenant", reference) = some record ∧
      record.key = ("tenant", reference) ∧ Admissible record c.shared.time ∧
      c.shared.store.effectClaims record.effectKey = owner := by
  obtain ⟨record, hrecord, heq⟩ := Option.map_eq_some_iff.mp hfacts
  simp only [AdmissionFacts.mk.injEq, decide_eq_true_eq] at heq
  obtain ⟨hkey, hstatus, hmarked, hexpiry, howner⟩ := heq
  exact ⟨record, hrecord, hkey, ⟨hstatus, hmarked, hexpiry⟩, howner⟩

/-- The sample proposal `second` may be admitted, and `first` owns its effect. -/
theorem exists_contended {c : RuntimeConfig SampleModel noOperations} {status : LifecycleStatus}
    (hfacts : admissionFacts c "second" =
      some ⟨("tenant", "second"), .authorized, false, true, some "first"⟩)
    (hstatus : c.shared.store.statusOf ("tenant", "first") = some status) :
    ∃ record ownerRecord, c.shared.store.proposals record.key = some record ∧
      record.key = ("tenant", "second") ∧ Admissible record c.shared.time ∧
      c.shared.store.effectClaims record.effectKey = some "first" ∧
      "first" ≠ record.proposalReference ∧
      c.shared.store.proposals (record.tenantReference, "first") = some ownerRecord ∧
      ownerRecord.lifecycleStatus = status := by
  obtain ⟨record, hrecord, hkey, hadmissible, howner⟩ := exists_admissible hfacts
  obtain ⟨ownerRecord, hownerRecord, hstatus⟩ := Option.map_eq_some_iff.mp hstatus
  obtain ⟨htenant, hreference⟩ := Prod.mk.inj hkey
  refine ⟨record, ownerRecord, hkey ▸ hrecord, hkey, hadmissible, howner, ?_, ?_, hstatus⟩
  · rw [hreference]
    decide
  · rw [htenant]
    exact hownerRecord

/-- The first sample attempt failed, and a second proposal of its effect is approved. -/
def failedOwner : RuntimeConfig SampleModel noOperations :=
  sampleRun sampleFailure sampleNotYet
    (sampleAttempt 0 "first" 18 ++ sampleAttempt 3 "second" 0)

/-- An action whose attempts may be repeated once they are known to have had no effect. -/
def resendDefinition : ActionDeclaration SampleModel :=
  { sampleDefinition with allowResendAfterFinalAbsence := true }

/-- Calls `i` and `i + 1` prepare and approve a proposal of that action. -/
def resendApproval (i : ℕ) (proposalReference : SafeReference) : SampleTurns :=
  [.spawn (.prepare sampleRuntime resendDefinition "tenant" .command ⟨"requester"⟩ none
    (some proposalReference))] ++ turnsOf i 8 ++
  [.spawn (.recordAuthority sampleRuntime resendDefinition (sampleEvidence proposalReference)
    ⟨"approver"⟩ none)] ++ turnsOf (i + 1) 7

/-- An attempt is accepted, found to have had no effect, released for another attempt, and never
repeated before its proposal expires. A second proposal of its effect is approved in time. -/
def expiredOwner : RuntimeConfig SampleModel noOperations :=
  sampleRun sampleAcceptance { sampleNever with targetIdempotencyGuaranteed := true }
    (resendApproval 0 "first" ++
      [.spawn (.execute sampleRuntime resendDefinition "tenant" "first")] ++ turnsOf 2 18 ++
      [.spawn (.reconcile sampleRuntime resendDefinition "tenant" "first")] ++ turnsOf 3 9 ++
      [.drift 300000000] ++ resendApproval 4 "second" ++ [.drift 600000000] ++
      [.spawn (.expireDue resendDefinition "tenant" "first")] ++ turnsOf 6 3)

theorem failedOwner_facts :
    admissionFacts failedOwner "second" =
        some ⟨("tenant", "second"), .authorized, false, true, some "first"⟩ ∧
      failedOwner.shared.store.statusOf ("tenant", "first") = some .failedKnown := by
  decide +kernel

theorem expiredOwner_facts :
    admissionFacts expiredOwner "second" =
        some ⟨("tenant", "second"), .authorized, false, true, some "first"⟩ ∧
      expiredOwner.shared.store.statusOf ("tenant", "first") = some .expired := by
  decide +kernel

/-- The second sample proposal takes the effect over from the failed one. -/
theorem spent_owner_gives_way_sample :
    ∃ record, failedOwner.shared.store.proposals record.key = some record ∧
      record.key = ("tenant", "second") ∧
      (failedOwner.shared.store.admitExecution (admissionArguments sampleRuntime sampleDefinition
        record "precondition" "reference" failedOwner.shared.time)).1 = .ok .acquired := by
  obtain ⟨record, ownerRecord, hrecord, hkey, hadmissible, howner, hother, hownerRecord, hstatus⟩ :=
    exists_contended failedOwner_facts.1 failedOwner_facts.2
  have hc : RuntimeReachable (Env.oneClock fun _ ↦ false)
      (hostExecutors SampleModel noOperations) 0 failedOwner := sampleRun_reachable _ _ _
  refine ⟨record, hrecord, hkey, (spent_owner_gives_way_iff hc hrecord hadmissible howner hother
    hownerRecord ?_ _ _ _ _).mpr ?_⟩
  · rw [hstatus]
    decide
  · rw [hstatus]
    decide

/-- **A lock for ever.** Admission of the second proposal conflicts with the expired owner, and the
expired owner keeps the effect whatever is called on the store afterwards. -/
theorem spent_owner_locks :
    ∃ record ownerRecord,
      RuntimeReachable (Env.oneClock fun _ ↦ false) (hostExecutors SampleModel noOperations) 0
        expiredOwner ∧
      expiredOwner.shared.store.proposals record.key = some record ∧
      Admissible record expiredOwner.shared.time ∧
      expiredOwner.shared.store.effectClaims record.effectKey = some "first" ∧
      expiredOwner.shared.store.proposals (record.tenantReference, "first") = some ownerRecord ∧
      ownerRecord.lifecycleStatus = .expired ∧
      (expiredOwner.shared.store.admitExecution (admissionArguments sampleRuntime resendDefinition
        record "precondition" "reference" expiredOwner.shared.time)).1 = .ok .conflict ∧
      ∀ calls, (expiredOwner.shared.store.run calls).effectClaims record.effectKey =
        some "first" := by
  obtain ⟨record, ownerRecord, hrecord, -, hadmissible, howner, hother, hownerRecord, hstatus⟩ :=
    exists_contended expiredOwner_facts.1 expiredOwner_facts.2
  have hc : RuntimeReachable (Env.oneClock fun _ ↦ false)
      (hostExecutors SampleModel noOperations) 0 expiredOwner := sampleRun_reachable _ _ _
  refine ⟨record, ownerRecord, hc, hrecord, hadmissible, howner, hownerRecord, hstatus, ?_, ?_⟩
  · have hlocked : ¬expiredOwner.shared.store.Transferable record := by
      rw [MemoryActionStore.transferable_iff howner hother hownerRecord, hstatus]
      decide
    have hconflict := (MemoryActionStore.claimEffectLocked_fst ⟨_, howner, hother⟩).resolve_left
      fun h ↦ hlocked h.2
    rw [admitExecution_admissionArguments _ _ _ _ hrecord (hc.bound _ _ hrecord) hadmissible,
      hconflict.1]
  · refine locking_owner_keeps hc howner hownerRecord ?_
    rw [hstatus]
    decide

/-- What the sample host answers, and the store and the clock of `c`. -/
def sampleAnswers (c : RuntimeConfig SampleModel noOperations) (o : Op SampleModel noOperations) :
    Except Exn o.Ans :=
  (c.shared.answer (sampleHost (H := noOperations) sampleAcceptance
    sampleNotYet fun o ↦ nomatch o) [] o).1

/-- Reading the recovery view of a sample proposal, at most ten operations. -/
def sampleReading (c : RuntimeConfig SampleModel noOperations) (reference : SafeReference) :
    Coroutine SampleModel noOperations ActionRecoveryView × RuntimeHistory SampleModel noOperations :=
  (readRecovery sampleDefinition reference ⟨"tenant", ⟨"reader"⟩⟩).replay
    (fun _ ↦ sampleAnswers c) 10 []

/-- What it reads is on file, and does not change. -/
theorem exists_sampleView {c : RuntimeConfig SampleModel noOperations} {reference : SafeReference}
    {record : StoredProposal} (hfiled : c.shared.store.proposals record.key = some record)
    (hends : (sampleReading c reference).1.ending.any Except.isOk = true) :
    ∃ h view, Finishes (ownerUnchanged c.shared.store record c.shared.time)
      (readRecovery (H := noOperations) sampleDefinition reference ⟨"tenant", ⟨"reader"⟩⟩) h
      (.ok view) := by
  obtain ⟨view, hview⟩ := Program.exists_ret hends
  refine ⟨(sampleReading c reference).2, view, ?_⟩
  have hlegal : ∀ (_ : RuntimeHistory SampleModel noOperations) (o : Op SampleModel noOperations),
      ownerUnchanged c.shared.store record c.shared.time o (sampleAnswers c o) := by
    intro _ o
    cases o
    case get tenantReference proposalReference =>
      intro hkey
      rw [sampleAnswers, World.answer, MemoryActionStore.get, ← hkey, hfiled]
    all_goals trivial
  have hx := Executes.replay hlegal 10 (.refl (p := readRecovery (H := noOperations)
    sampleDefinition reference ⟨"tenant", ⟨"reader"⟩⟩) (h := []))
  rw [Finishes, Program.orRaise, ← hview]
  exact hx

/-- A sample proposal whose effect nobody claims. -/
def approvedSample : RuntimeConfig SampleModel noOperations :=
  sampleRun sampleAcceptance sampleNotYet (sampleAttempt 0 "second" 0)

theorem approvedSample_facts :
    admissionFacts approvedSample "second" =
        some ⟨("tenant", "second"), .authorized, false, true, none⟩ ∧
      (sampleReading approvedSample "second").1.ending.any Except.isOk = true := by
  decide +kernel

theorem failedOwner_reading :
    (sampleReading failedOwner "second").1.ending.any Except.isOk = true := by
  decide +kernel

/-- A proposal whose effect nobody claims is admitted, and its view recommends that. -/
theorem recovery_view_agrees_sample :
    ∃ (record : StoredProposal) (h : RuntimeHistory SampleModel noOperations)
      (view : ActionRecoveryView),
      Finishes (ownerUnchanged approvedSample.shared.store record approvedSample.shared.time)
        (readRecovery sampleDefinition "second" ⟨"tenant", ⟨"reader"⟩⟩) h (.ok view) ∧
      ∀ result, (approvedSample.shared.store.admitExecution (admissionArguments sampleRuntime
          sampleDefinition record "precondition" "reference" approvedSample.shared.time)).1 =
          .ok result → result.admits = true →
        ∃ step ∈ view.recommendedSteps, step.operation = .execute := by
  obtain ⟨record, hrecord, hkey, hadmissible, howner⟩ := exists_admissible approvedSample_facts.1
  obtain ⟨h, view, hview⟩ := exists_sampleView (hkey ▸ hrecord) approvedSample_facts.2
  obtain ⟨calls, hcalls⟩ := RuntimeReachable.exists_calls (c := approvedSample)
    (sampleRun_reachable _ _ _)
  refine ⟨record, h, view, hview, ?_⟩
  have hfree : ¬approvedSample.shared.store.Transferable record := by
    rintro ⟨owner, -, howner', -⟩
    rw [howner] at howner'
    cases howner'
  rw [hcalls] at hrecord hview hfree ⊢
  intro result hresult hadmits
  exact (recovery_view_agrees calls hrecord hadmissible hadmissible sampleRuntime
    sampleDefinition ⟨"reader"⟩ "precondition" "reference" hview).2.2 result hresult hadmits hfree

/-- The second sample proposal would be admitted at `t`, and its recovery view reports its effect as
owned elsewhere and recommends no execution. -/
def Deferred (store : MemoryActionStore) (t : Timestamp) : Prop :=
  ∃ (record : StoredProposal) (h : RuntimeHistory SampleModel noOperations)
    (view : ActionRecoveryView),
    store.proposals ("tenant", "second") = some record ∧ Admissible record t ∧
    Finishes (ownerUnchanged store record t)
      (readRecovery sampleDefinition "second" ⟨"tenant", ⟨"reader"⟩⟩) h (.ok view) ∧
    (store.admitExecution (admissionArguments sampleRuntime sampleDefinition record "precondition"
      "reference" t)).1 = .ok .acquired ∧
    view.condition = .effectOwnedElsewhere ∧
    ∀ step ∈ view.recommendedSteps, step.operation ≠ .execute

/-- A sample proposal is deferred if its effect is owned by a failed one. -/
theorem deferred_of_contended {c : RuntimeConfig SampleModel noOperations}
    (hc : RuntimeReachable (Env.oneClock fun _ ↦ false) (hostExecutors SampleModel noOperations) 0 c)
    (hfacts : admissionFacts c "second" =
      some ⟨("tenant", "second"), .authorized, false, true, some "first"⟩)
    (hstatus : c.shared.store.statusOf ("tenant", "first") = some .failedKnown)
    (hends : (sampleReading c "second").1.ending.any Except.isOk = true) :
    Deferred c.shared.store c.shared.time := by
  obtain ⟨record, ownerRecord, hrecord, hkey, hadmissible, howner, hother, hownerRecord, hstatus⟩ :=
    exists_contended hfacts hstatus
  obtain ⟨h, view, hview⟩ := exists_sampleView hrecord hends
  have hgives : c.shared.store.Transferable record := by
    rw [MemoryActionStore.transferable_iff howner hother hownerRecord, hstatus]
    decide
  have hacquired := (MemoryActionStore.claimEffectLocked_fst ⟨_, howner, hother⟩).resolve_right
    fun h ↦ h.2 hgives
  have hadmitted := admitExecution_admissionArguments sampleRuntime sampleDefinition
    "precondition" "reference" hrecord (hc.bound _ _ hrecord) hadmissible
  obtain ⟨htenant, hreference⟩ := Prod.mk.inj hkey
  obtain ⟨hcondition, hstep⟩ := readRecovery_admissible hadmissible
    (by rw [htenant, hreference]; exact hview)
  refine ⟨record, h, view, hkey ▸ hrecord, hadmissible, hview, hadmitted.trans ?_,
    hcondition.mpr ⟨_, howner, hother⟩, ?_⟩
  · rw [hacquired.1]
  · intro step hmem hoperation
    exact hstep.mp ⟨step, hmem, hoperation⟩ ⟨_, howner, hother⟩

/-- **Deferred for ever.** The second proposal may take the effect over from the failed one, and its
view never says so. -/
theorem recovery_view_defers :
    ∃ calls t, Deferred (MemoryActionStore.empty.run calls) t := by
  have hdeferred : Deferred failedOwner.shared.store failedOwner.shared.time :=
    deferred_of_contended (sampleRun_reachable _ _ _) failedOwner_facts.1 failedOwner_facts.2
      failedOwner_reading
  obtain ⟨calls, hcalls⟩ := RuntimeReachable.exists_calls (c := failedOwner)
    (sampleRun_reachable _ _ _)
  rw [hcalls] at hdeferred
  exact ⟨calls, _, hdeferred⟩

end Sample

end ThrevoActions
