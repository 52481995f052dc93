import ThrevoActions.Runtime.Lease
import ThrevoActions.Runtime.Reads
import ThrevoActions.Runtime.Schedules

/-!
# Work that is due for reconciliation

Three pieces of code say when a record wants reconciling: `reconcile` itself, the recovery view and
the due-work query. They compare status and due time in different ways; what makes them agree is
that an unsettled record always has a due time, and that the due time of an unknown outcome is not
later than the write that recorded it.
-/

namespace ThrevoActions

open Interleaving Interleaving.Program

variable {V : Type} [HostModels V] {H : Signature}

/-! ## Due times -/

/-- The outcome is still open. -/
def LifecycleStatus.unsettled : LifecycleStatus → Bool
  | .executing | .failedUnknown | .verificationPending => true
  | _ => false

theorem mem_unsettledStatuses {status : LifecycleStatus} :
    status ∈ unsettledStatuses ↔ status.unsettled = true := by
  cases status <;> decide

/-- Unsettled records have a due time. -/
def Scheduled (record : StoredProposal) : Prop :=
  record.lifecycleStatus.unsettled = true → ∃ dueAt, record.nextVerificationAt = some dueAt

/-- A verification leaves a record unsettled only to be verified again. -/
theorem verificationTransition_unsettled {definition : ActionDeclaration V}
    {record : StoredProposal} {verification : VerificationResult V} {attempts : ℕ}
    (h : (verificationTransition definition record verification attempts).target.unsettled = true) :
    (verificationTransition definition record verification attempts).target =
      .verificationPending := by
  rw [verificationTransition] at h ⊢
  cases hstatus : verification.status <;> rw [hstatus] at h <;> dsimp only at h ⊢ <;>
    (try split_ifs at h ⊢) <;> first | rfl | cases h

/-- **A guarded write keeps an unsettled record scheduled.** -/
theorem Write.scheduled {h : RuntimeHistory V H} {current updated : StoredProposal}
    (hwrite : Write h current updated) (hcurrent : Scheduled current) : Scheduled updated := by
  cases hwrite with
  | expired | blocked | stale | superseded | unresolved => rintro ⟨⟩
  | authorityRecorded _ _ _ _ _ _ _ hdecided =>
    cases hdecided with
    | denied => rintro ⟨⟩
    | evaluated evaluation =>
      rw [authorityRecordedProposal, Scheduled]
      dsimp only
      split_ifs <;> rintro ⟨⟩
  | executionSettled =>
    rw [executionSettledProposal, executionSettlement, Scheduled]
    dsimp only
    split
    · rintro ⟨⟩
    · rintro ⟨⟩
    all_goals exact fun _ ↦ ⟨_, rfl⟩
  | takenOver hstatus =>
    -- the due time is that of the attempt
    refine fun _ ↦ hcurrent ?_
    rcases hstatus with hstatus | hstatus <;> rw [hstatus] <;> rfl
  | verificationSettled =>
    rw [verificationSettledProposal, Scheduled]
    dsimp only
    split_ifs with hpending
    · exact fun _ ↦ ⟨_, rfl⟩
    · exact fun hunsettled ↦ absurd (verificationTransition_unsettled hunsettled) hpending
  | verificationAdmitted | resumed => exact fun _ ↦ ⟨_, rfl⟩

theorem Change.scheduled {h : RuntimeHistory V H} {o : Op V H} {before : Option StoredProposal}
    {record : StoredProposal} (hchange : Change h o before record)
    (hbefore : ∀ current, before = some current → current.erasedAt = none → Scheduled current)
    (hrecord : record.erasedAt = none) : Scheduled record := by
  cases hchange with
  | created _ hissued =>
    obtain ⟨_, _, _, _, _, _, _, _, _, _, _, _, rfl, -⟩ := hissued
    exact nofun
  | @written current _ _ hissued =>
    exact hissued.write.scheduled (hbefore current rfl (erasedAt_of_unmarked hissued.unmarked))
  | admitted _ hissued =>
    rw [hissued.updated]
    exact fun _ ↦ ⟨_, rfl⟩
  | @erasureMarked _ current => exact hbefore current rfl hrecord
  | erased => cases hrecord

theorem Write.failedUnknown {h : RuntimeHistory V H} {current updated : StoredProposal}
    (hwrite : Write h current updated) (hstatus : updated.lifecycleStatus = .failedUnknown) :
    ∃ now, Answered h .now now ∧ updated.nextVerificationAt = some now := by
  cases hwrite with
  | executionSettled _ _ _ _ hnow =>
    refine ⟨_, hnow, ?_⟩
    rw [executionSettledProposal, executionSettlement] at hstatus ⊢
    dsimp only at hstatus ⊢
    split at hstatus
    all_goals first | rfl | cases hstatus
  | authorityRecorded _ _ _ _ _ _ _ hdecided =>
    cases hdecided with
    | denied => cases hstatus
    | evaluated evaluation =>
      rw [authorityRecordedProposal] at hstatus
      dsimp only at hstatus
      split_ifs at hstatus
  | verificationAdmitted _ hpending =>
    rw [verificationAdmittedProposal] at hstatus
    rw [hpending] at hstatus
    cases hstatus
  | verificationSettled =>
    have htarget : (verificationTransition _ _ _ _).target = .failedUnknown := hstatus
    rw [verificationTransition_unsettled (by rw [htarget]; rfl)] at htarget
    cases htarget
  | expired | blocked | stale | superseded | takenOver | unresolved | resumed => cases hstatus

/-- An unknown outcome is due as of the writer's last reading of the clock. -/
theorem Change.failedUnknown {h : RuntimeHistory V H} {o : Op V H} {before : Option StoredProposal}
    {record : StoredProposal} (hchange : Change h o before record)
    (hrecord : record.erasedAt = none) (hstatus : record.lifecycleStatus = .failedUnknown) :
    before ≠ some record ∧
      ∃ now, Answered h .now now ∧ record.nextVerificationAt = some now := by
  cases hchange with
  | created _ hissued =>
    obtain ⟨_, _, _, _, _, _, _, _, _, _, _, _, rfl, -⟩ := hissued
    cases hstatus
  | @written current _ _ hissued haccepted =>
    refine ⟨fun heq ↦ ?_, hissued.write.failedUnknown hstatus⟩
    have hrevision := haccepted.revision
    rw [Option.some.inj heq] at hrevision
    omega
  | admitted _ hissued =>
    rw [hissued.updated] at hstatus
    cases hstatus
  | @erasureMarked _ current _ herasable =>
    rw [show current.lifecycleStatus = .failedUnknown from hstatus] at herasable
    exact absurd herasable (by decide)
  | erased => cases hrecord

/-! ## The three answers on one record -/

/-- The record is due for reconciliation at `t`. -/
def DueForReconciliation (record : StoredProposal) (t : Timestamp) : Prop :=
  record.erasureMarked = false ∧ record.lifecycleStatus.unsettled = true ∧
    ∃ dueAt, record.nextVerificationAt = some dueAt ∧ dueAt ≤ t

theorem notYetDue_eq_false_iff {record : StoredProposal} {dueAt t : Timestamp}
    (hscheduled : record.nextVerificationAt = some dueAt) :
    notYetDue record t = false ↔ dueAt ≤ t := by
  rw [notYetDue, hscheduled]
  simp

section Reconcile

variable {store : MemoryActionStore} {t : Timestamp} {record : StoredProposal}

/-! `reconcile` writes one of three records, and the store accepts each. -/

theorem takenOver_accepted (hbindings : validateProposalBindings record = .ok ())
    (hunerased : record.erasedAt = none)
    (hstatus : record.lifecycleStatus = .executing ∨ record.lifecycleStatus = .failedUnknown) :
    AcceptedUpdate record (takenOverProposal record) := by
  refine .keep hbindings hunerased rfl rfl rfl rfl rfl (List.append_nil _).symm (List.forall_mem_nil _) (Or.inr ?_)
  have htarget : (takenOverProposal record).lifecycleStatus = .verificationPending := rfl
  rw [htarget]
  rcases hstatus with hstatus | hstatus <;> rw [hstatus] <;> decide

theorem unresolved_accepted (hbindings : validateProposalBindings record = .ok ())
    (hunerased : record.erasedAt = none)
    (hstatus : record.lifecycleStatus = .verificationPending) :
    AcceptedUpdate record (unresolvedProposal record) := by
  refine .keep hbindings hunerased rfl rfl rfl rfl rfl (List.append_nil _).symm (List.forall_mem_nil _) (Or.inr ?_)
  have htarget : (unresolvedProposal record).lifecycleStatus = .verificationUnresolved := rfl
  rw [htarget, hstatus]
  decide

theorem verificationAdmitted_accepted (definition : ActionDeclaration V) (now : Timestamp)
    (hbindings : validateProposalBindings record = .ok ()) (hunerased : record.erasedAt = none) :
    AcceptedUpdate record (verificationAdmittedProposal definition record now) :=
  .keep hbindings hunerased rfl rfl rfl rfl rfl (List.append_nil _).symm (List.forall_mem_nil _) (Or.inl rfl)

theorem wouldWrite_reconcilePending_iff (runtime : ActionRuntime) (definition : ActionDeclaration V)
    (tenantReference proposalReference : SafeReference)
    (hbindings : validateProposalBindings record = .ok ()) (hunerased : record.erasedAt = none)
    (hpending : record.lifecycleStatus = .verificationPending)
    (hfound : store.proposals record.key = some record) :
    WouldWrite (V := V) (H := H) store t (reconcilePending runtime definition tenantReference
      proposalReference record t) ↔ notYetDue record t = false := by
  rw [reconcilePending]
  split_ifs with hearly hexhausted
  · rw [hearly]
    exact iff_of_false id nofun
  · rw [Bool.not_eq_true] at hearly
    have haccepted := unresolved_accepted hbindings hunerased hpending
    exact iff_of_true (wouldWrite_cas_bind hfound haccepted nofun) hearly
  · rw [Bool.not_eq_true] at hearly
    have haccepted := verificationAdmitted_accepted definition t hbindings hunerased
    refine iff_of_true (wouldWrite_cas_bind hfound haccepted ?_) hearly
    have hsame : (verificationAdmittedProposal definition record t).lifecycleStatus =
        record.lifecycleStatus := rfl
    rw [hsame, hpending]
    exact nofun

/-- **When `reconcile` writes.** -/
theorem wouldWrite_reconcile_iff (runtime : ActionRuntime) (definition : ActionDeclaration V)
    (haction : record.actionType = definition.actionType)
    (hbindings : validateProposalBindings record = .ok ()) (hunerased : record.erasedAt = none)
    (hfound : store.proposals record.key = some record) :
    WouldWrite (V := V) (H := H) store t (reconcile runtime definition record.tenantReference
      record.proposalReference) ↔
      record.erasureMarked = false ∧ record.lifecycleStatus.unsettled = true ∧
        (record.lifecycleStatus = .failedUnknown ∨ notYetDue record t = false) := by
  rw [reconcile, wouldWrite_required_bind hfound rfl, WouldWrite, may_raiseIf_bind,
    and_iff_right (not_not.mpr haction), may_raiseIf_bind, Bool.not_eq_true]
  refine and_congr_right fun _ ↦ wouldWrite_now_bind.trans ?_
  cases hstatus : record.lifecycleStatus with
  | executing =>
    cases hearly : notYetDue record t with
    | true => simp [WouldWrite]
    | false =>
      have haccepted := takenOver_accepted hbindings hunerased (Or.inl hstatus)
      simp only [Bool.false_eq_true, and_false, if_false, List.mem_cons, true_or, if_true]
      exact iff_of_true (wouldWrite_cas_bind hfound haccepted (by rintro ⟨⟩)) ⟨rfl, Or.inr trivial⟩
  | failedUnknown =>
    have haccepted := takenOver_accepted hbindings hunerased (Or.inr hstatus)
    exact iff_of_true (wouldWrite_cas_bind hfound haccepted (by rintro ⟨⟩)) ⟨rfl, Or.inl rfl⟩
  | verificationPending =>
    have hpending := wouldWrite_reconcilePending_iff (V := V) (H := H) (t := t) runtime definition
      record.tenantReference record.proposalReference hbindings hunerased hstatus hfound
    exact hpending.trans ⟨fun hdue ↦ ⟨rfl, Or.inr hdue⟩, fun hdue ↦ hdue.2.resolve_left (by rintro ⟨⟩)⟩
  | awaitingAuthority | denied | expired | authorized | blocked | stale | superseded | failedKnown
  | verificationUnresolved | partiallySucceeded | verified =>
    exact iff_of_false id fun h ↦ Bool.false_ne_true h.1

end Reconcile

/-- **When the due-work query lists a record for reconciliation.** -/
theorem dueWork_reconcile_iff {record : StoredProposal} (hscheduled : Scheduled record)
    (statusChangedAt cutoff : Timestamp) :
    (∃ row, dueWork record statusChangedAt cutoff = some row ∧ row.operation = .reconcile) ↔
      DueForReconciliation record cutoff := by
  have hmarked : (record.erasurePendingAt.isNone && record.erasedAt.isNone) =
      !record.erasureMarked := by
    rw [StoredProposal.erasureMarked, Bool.not_or, Option.not_isSome, Option.not_isSome]
  have hlisted : (∃ row, dueWork record statusChangedAt cutoff = some row ∧
      row.operation = .reconcile) ↔ isDue record statusChangedAt cutoff = true ∧
        (dueRow record statusChangedAt cutoff).operation = .reconcile := by
    rw [dueWork]
    split_ifs with hdue <;> simp [hdue]
  rw [hlisted, DueForReconciliation, isDue, hmarked, dueRow]
  by_cases hunsettled : record.lifecycleStatus.unsettled = true
  · -- the due time decides
    obtain ⟨dueAt, hdueAt⟩ := hscheduled hunsettled
    have hsettled : record.lifecycleStatus ≠ .awaitingAuthority ∧
        record.lifecycleStatus ≠ .authorized := by
      constructor <;> intro hstatus <;> rw [hstatus] at hunsettled <;> cases hunsettled
    simp [mem_unsettledStatuses, hunsettled, hdueAt, hsettled]
  · -- listed it may be, but for something else
    have hother : ¬(record.lifecycleStatus ∈ unsettledStatuses) := by
      rwa [mem_unsettledStatuses]
    refine iff_of_false ?_ fun h ↦ hunsettled h.2.1
    rintro ⟨hdue, hoperation⟩
    simp only [hother, decide_false, Bool.false_and, Bool.or_false, Bool.and_eq_true,
      Bool.or_eq_true, decide_eq_true_eq] at hdue
    rcases hdue.2 with ⟨hawaiting, hexpired⟩ | ⟨hauthorized, -⟩
    · rw [if_pos ⟨by rw [hawaiting]; decide, hexpired⟩] at hoperation
      cases hoperation
    · split_ifs at hoperation

/-! ## The recovery view -/

/-- The view recommends reconciling now, or waiting for a moment that has come. -/
def RecommendsReconciling (view : ActionRecoveryView) (t : Timestamp) : Prop :=
  ∃ step ∈ view.recommendedSteps, step.operation = .reconcile ∨
    step.operation = .wait ∧ ∃ notBefore, step.notBefore = some notBefore ∧ notBefore ≤ t

theorem recommendsReconciling_erased (record : StoredProposal) (observedAt t : Timestamp) :
    ¬RecommendsReconciling (erasedRecoveryView record observedAt) t := by
  rintro ⟨step, hstep, hoperation⟩
  rw [List.mem_singleton.mp hstep] at hoperation
  rcases hoperation with hoperation | ⟨hoperation, -⟩ <;> cases hoperation

/-- **When the recovery view recommends reconciling.** -/
theorem recommendsReconciling_iff {record : StoredProposal} {t : Timestamp}
    (hunmarked : record.erasureMarked = false) (hscheduled : Scheduled record)
    (hunknown : record.lifecycleStatus = .failedUnknown →
      ∃ dueAt, record.nextVerificationAt = some dueAt ∧ dueAt ≤ t)
    (ownership : ActionEffectOwnership) (owner : Option ActionRecoveryOwnerView) :
    RecommendsReconciling (recoveryView record t ownership owner) t ↔
      DueForReconciliation record t := by
  have hsteps : RecommendsReconciling (recoveryView record t ownership owner) t ↔
      (recoveryConditionOf record t ownership).operation = .reconcile ∨
        (recoveryConditionOf record t ownership) ∈ [.activeExecutionLease, .waitingForProvider] ∧
          ∃ dueAt, record.nextVerificationAt = some dueAt ∧ dueAt ≤ t := by
    simp only [RecommendsReconciling, recoveryView, recoverySteps, List.mem_singleton,
      exists_eq_left]
    cases recoveryConditionOf record t ownership <;> simp [ActionRecoveryCondition.operation]
  rw [hsteps, DueForReconciliation, and_iff_right hunmarked]
  cases hstatus : record.lifecycleStatus with
  | failedUnknown =>
    refine iff_of_true (Or.inl ?_) ⟨rfl, hunknown hstatus⟩
    simp [recoveryConditionOf, conditionOf, recoveryCondition, hstatus,
      ActionRecoveryCondition.operation]
  | executing =>
    obtain ⟨dueAt, hdueAt⟩ := hscheduled (by rw [hstatus]; rfl)
    by_cases hdue : dueAt ≤ t
    · simp [recoveryConditionOf, conditionOf, recoveryCondition, hstatus, hdueAt, hdue,
        Int.not_lt.mpr hdue, ActionRecoveryCondition.operation, LifecycleStatus.unsettled]
    · simp [recoveryConditionOf, conditionOf, recoveryCondition, hstatus, hdueAt, hdue,
        Int.not_le.mp hdue, ActionRecoveryCondition.operation]
  | verificationPending =>
    obtain ⟨dueAt, hdueAt⟩ := hscheduled (by rw [hstatus]; rfl)
    by_cases hdue : dueAt ≤ t
    · -- whatever the provider said last, the view does not put the record off
      refine iff_of_true ?_ ⟨rfl, dueAt, hdueAt, hdue⟩
      have hcondition : recoveryConditionOf record t ownership ∈
          [.observationUnavailable, .waitingForProvider, .outcomeUnproven] := by
        simp only [recoveryConditionOf, conditionOf, recoveryCondition, hstatus, hdueAt,
          Option.any_some, Int.not_lt.mpr hdue, reduceCtorEq, false_and, if_false, List.mem_cons,
          List.not_mem_nil, or_self, decide_false, Bool.false_eq_true]
        split_ifs <;> simp
      simp only [List.mem_cons, List.not_mem_nil, or_false] at hcondition
      rcases hcondition with heq | heq | heq <;> rw [heq]
      · exact Or.inl rfl
      · exact Or.inr ⟨by decide, dueAt, hdueAt, hdue⟩
      · exact Or.inl rfl
    · simp [recoveryConditionOf, conditionOf, recoveryCondition, hstatus, hdueAt, hdue,
        Int.not_le.mp hdue, ActionRecoveryCondition.operation]
  | awaitingAuthority | denied | expired | authorized | blocked | stale | superseded | failedKnown
  | verificationUnresolved | partiallySucceeded | verified =>
    refine iff_of_false ?_ nofun
    simp only [recoveryConditionOf, conditionOf, recoveryCondition, hstatus]
    split_ifs <;> simp [ActionRecoveryCondition.operation]

/-! ## Every record on file -/

/-- Whoever wrote `record` had read no later time than `t` from its clock. -/
def WrittenBy (log : RuntimeLog V H) (key : ProposalKey) (record : StoredProposal)
    (t : Timestamp) : Prop :=
  ∀ e past, e :: past <:+ log → e.before.store.proposals key ≠ some record →
    e.after.store.proposals key = some record →
    ∀ reading, Answered (historyOf past e.caller) .now reading → reading ≤ t

section Reachable

variable [UnicodeNormalization] {env : Env V H} {executorOf : ExecutorOf V H}
  {hostIssues : RuntimeHistory V H → H.Op → Prop} {start : Timestamp} {c : RuntimeConfig V H}

namespace RuntimeReachable

theorem scheduled
    (hexecutors : ∀ definition, LawfulExecutor hostIssues definition (executorOf definition))
    (hc : RuntimeReachable env executorOf start c) {key : ProposalKey} {record : StoredProposal}
    (hrecord : c.shared.store.proposals key = some record) (hunerased : record.erasedAt = none) :
    Scheduled record := by
  refine hc.record_induction hexecutors ?_ hrecord hunerased
  intro h o before record hchange hbefore hunerased
  exact hchange.scheduled hbefore hunerased

/-- An unknown outcome is due when it has been written. -/
theorem failedUnknown_due
    (hexecutors : ∀ definition, LawfulExecutor hostIssues definition (executorOf definition))
    (hc : RuntimeReachable env executorOf start c) {key : ProposalKey} {record : StoredProposal}
    (hrecord : c.shared.store.proposals key = some record) (hunerased : record.erasedAt = none)
    {t : Timestamp} (ht : WrittenBy c.log key record t)
    (hstatus : record.lifecycleStatus = .failedUnknown) :
    ∃ dueAt, record.nextVerificationAt = some dueAt ∧ dueAt ≤ t := by
  refine RuntimeReachable.induction (P := fun log world ↦ ∀ record,
    world.store.proposals key = some record → record.erasedAt = none →
      record.lifecycleStatus = .failedUnknown → WrittenBy log key record t →
      ∃ dueAt, record.nextVerificationAt = some dueAt ∧ dueAt ≤ t) hexecutors ?_ ?_ ?_ hc record
    hrecord hunerased hstatus ht
  · intro record hrecord
    cases hrecord
  · intro c hc i o answer world' hissues hexec ih record hrecord hunerased hstatus ht
    rcases hc.change hissues hexec key with hsame | ⟨record', hafter, hchange⟩
    · refine ih record (hsame ▸ hrecord) hunerased hstatus fun e past he ↦ ?_
      exact ht e past (he.trans (List.suffix_cons _ _))
    · rw [hafter] at hrecord
      cases hrecord
      obtain ⟨hnew, now, hnow, hdueAt⟩ := hchange.failedUnknown hunerased hstatus
      exact ⟨now, hdueAt, ht _ c.log (List.suffix_refl _) hnew hafter now hnow⟩
  · exact fun _ _ _ _ ih ↦ ih

/-- With one clock for all workers, the time of the write will do. -/
theorem writtenBy_of_time {prompt : Op V H → Bool}
    (hc : RuntimeReachable (Env.oneClock prompt) executorOf start c) {key : ProposalKey}
    {record : StoredProposal} {t : Timestamp}
    (ht : ∀ e past, e :: past <:+ c.log → e.before.store.proposals key ≠ some record →
      e.after.store.proposals key = some record → e.before.time ≤ t) :
    WrittenBy c.log key record t := by
  intro e past he hbefore hafter reading hreading
  exact (hc.reading_le he hreading).trans (ht e past he hbefore hafter)

end RuntimeReachable

/-- **Work due for reconciliation.** For every unerased record on file and every time not before
its last write, these agree: `reconcile` would write, the recovery view recommends to reconcile or
to wait for a moment that has come, and the due-work query lists the record for reconciliation. -/
theorem reconciliation_agrees (hc : RuntimeReachable env (hostExecutors V H) start c)
    {key : ProposalKey} {record : StoredProposal}
    (hrecord : c.shared.store.proposals key = some record) (hunerased : record.erasedAt = none)
    {t : Timestamp} (ht : WrittenBy c.log key record t) (runtime : ActionRuntime)
    (definition : ActionDeclaration V) (haction : record.actionType = definition.actionType)
    (consumer : EvidenceConsumer) (statusChangedAt : Timestamp) :
    (WouldWrite c.shared.store t
        (reconcile (H := H) runtime definition key.1 key.2) ↔
      ∃ row, dueWork record statusChangedAt t = some row ∧ row.operation = .reconcile) ∧
    ∀ h view, Finishes (answersFrom c.shared.store t)
        (readRecovery (H := H) definition key.2 ⟨key.1, consumer⟩) h (.ok view) →
      (WouldWrite c.shared.store t
        (reconcile (H := H) runtime definition key.1 key.2) ↔ RecommendsReconciling view t) := by
  have hscheduled := hc.scheduled hostExecutors_lawful_any hrecord hunerased
  have hunknown := hc.failedUnknown_due hostExecutors_lawful_any hrecord hunerased ht
  have hbindings := hc.bound _ _ hrecord
  have hkey := hc.effectsOwned.filed key record hrecord
  subst hkey
  have hwrites : WouldWrite c.shared.store t (reconcile (H := H) runtime definition
      record.key.1 record.key.2) ↔ DueForReconciliation record t := by
    refine (wouldWrite_reconcile_iff runtime definition haction hbindings hunerased
      hrecord).trans ?_
    refine and_congr_right fun _ ↦ and_congr_right fun hunsettled ↦ ?_
    obtain ⟨dueAt, hdueAt⟩ := hscheduled hunsettled
    rw [notYetDue_eq_false_iff hdueAt]
    constructor
    · rintro (hstatus | hdue)
      · exact hunknown hstatus
      · exact ⟨dueAt, hdueAt, hdue⟩
    · rintro ⟨dueAt', hdueAt', hdue⟩
      rw [hdueAt] at hdueAt'
      cases hdueAt'
      exact Or.inr hdue
  refine ⟨hwrites.trans (dueWork_reconcile_iff hscheduled statusChangedAt t).symm, ?_⟩
  intro h view hfinishes
  rw [hwrites]
  obtain ⟨⟨read, observedAt, hread, -, hnow, hview⟩, hlegal⟩ :=
    (readRecovery_returns definition record.key.2 ⟨record.key.1, consumer⟩ []).finishes hfinishes
  have hreadRecord : some read = some record := by
    rw [← hrecord]
    exact Except.ok.inj (hlegal _ hread)
  have hobservedAt : observedAt = t := Except.ok.inj (hlegal _ hnow)
  cases hreadRecord
  subst hobservedAt
  rcases hview with ⟨hmarked, rfl⟩ | ⟨hunmarked, ownership, owner, -, rfl⟩
  · refine iff_of_false (fun hdue ↦ ?_) (recommendsReconciling_erased record observedAt observedAt)
    rw [hdue.1] at hmarked
    cases hmarked
  · exact (recommendsReconciling_iff hunmarked hscheduled hunknown ownership owner).symm

end Reachable

section Sample

attribute [local instance] normalizedTexts

/-- A sample attempt that was accepted and awaits its verification. -/
def acceptedAttempt : RuntimeConfig SampleModel noOperations :=
  sampleRun sampleAcceptance sampleConfirmation
    (sampleAttempt 0 "proposal" 18)

theorem acceptedAttempt_facts :
    (acceptedAttempt.shared.store.proposals ("tenant", "proposal")).map
        (fun record ↦ (record.erasedAt, record.actionType, record.lifecycleStatus,
          dueWork record 0 0)) =
      some (none, sampleDefinition.actionType, .verificationPending,
        some ⟨.reconcile, 0, none⟩) ∧ acceptedAttempt.shared.time = 0 := by
  decide +kernel

/-- The accepted sample is due at once: `reconcile` would write. -/
theorem reconciliation_agrees_sample :
    WouldWrite acceptedAttempt.shared.store 0
      (reconcile (H := noOperations) sampleRuntime sampleDefinition "tenant" "proposal") := by
  obtain ⟨record, hrecord, hfacts⟩ := Option.map_eq_some_iff.mp acceptedAttempt_facts.1
  simp only [Prod.mk.injEq] at hfacts
  obtain ⟨hunerased, haction, -, hrow⟩ := hfacts
  have hc : RuntimeReachable (Env.oneClock fun _ ↦ false)
      (hostExecutors SampleModel noOperations) 0 acceptedAttempt := sampleRun_reachable _ _ _
  have hwritten : WrittenBy acceptedAttempt.log ("tenant", "proposal") record 0 := by
    refine hc.writtenBy_of_time fun e past he _ _ ↦ ?_
    rw [← acceptedAttempt_facts.2]
    exact hc.time_le (he.subset List.mem_cons_self)
  exact (reconciliation_agrees hc hrecord hunerased hwritten sampleRuntime sampleDefinition haction
    ⟨"reader"⟩ 0).1.mpr ⟨_, hrow, rfl⟩

end Sample

end ThrevoActions
