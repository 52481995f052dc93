import ThrevoActions.Runtime.Custody
import ThrevoActions.Runtime.Reports

/-!
# Reported versions

What a call reports was on file while the call ran (`report_was_on_file`). If the call lost a
guarded write, what it reports is newer than the version it tried to replace, unless it is an
`execute` whose expiry write or whose write over the stale version came too late
(`reports_newer_iff`): these two are answered with the version that the write has found replaced
(`late_execute_reports_old`).
-/

namespace ThrevoActions

open Interleaving Interleaving.Program
open MemoryActionStore (EffectsOwned)

variable {V : Type} [HostModels V] {H : Signature}

/-- A guarded write over a version on file is not answered with `false`. -/
theorem MemoryActionStore.compareAndSet_ne_false {store : MemoryActionStore}
    {args : MemoryActionStore.CompareAndSet} {current : StoredProposal}
    (hfound : store.proposals (args.tenantReference, args.proposalReference) = some current)
    (hrevision : current.revision = args.expectedRevision)
    (hstatus : current.lifecycleStatus ∈ args.expectedStatuses) :
    (store.compareAndSet args).1 ≠ .ok false := by
  rw [MemoryActionStore.compareAndSet, hfound]
  dsimp only
  rw [if_neg (not_not.mpr hrevision), if_neg (not_not.mpr hstatus)]
  cases validateProposalUpdate current args.updated with
  | error e => rintro ⟨⟩
  | ok u =>
    dsimp only
    split_ifs <;> rintro ⟨⟩

/-- The version that a guarded write is to replace is on file. -/
def FindsExpected (world : World) (args : MemoryActionStore.CompareAndSet) : Prop :=
  ∃ current, world.store.proposals (args.tenantReference, args.proposalReference) = some current ∧
    current.revision = args.expectedRevision

section Reachable

variable [UnicodeNormalization] {env : Env V H} {executorOf : ExecutorOf V H}
  {hostIssues : RuntimeHistory V H → H.Op → Prop} {start : Timestamp} {c : RuntimeConfig V H}
  {e : Entry (runtimeSignature V H) Exn World} {past : RuntimeLog V H}
  {args : MemoryActionStore.CompareAndSet}

namespace RuntimeReachable

/-- What a coroutine tries to replace has been on file. -/
theorem expected_known
    (hexecutors : ∀ definition, LawfulExecutor hostIssues definition (executorOf definition))
    (hc : RuntimeReachable env executorOf start c) (he : e :: past <:+ c.log)
    (hop : e.event.op = .compareAndSet args) :
    ∃ current updated, args = casArguments current updated ∧
      e.before.store.UpToDate current := by
  have hissued := hc.issued hexecutors he
  rw [hop] at hissued
  obtain ⟨current, updated, rfl, hissued⟩ := hissued
  obtain ⟨⟨c₁, hc₁, rfl, hbefore⟩, -⟩ := hc.at_entry he
  exact ⟨current, updated, rfl, hbefore ▸ knows_current hc₁ hissued.known⟩

/-- **A guarded write is lost to a later version.** -/
theorem lost_to_later
    (hexecutors : ∀ definition, LawfulExecutor hostIssues definition (executorOf definition))
    (hc : RuntimeReachable env executorOf start c) (he : e :: past <:+ c.log)
    (hevent : e.event = ⟨.compareAndSet args, .ok false⟩) :
    ∃ current, e.after.store.proposals (args.tenantReference, args.proposalReference) =
        some current ∧ args.expectedRevision < current.revision := by
  obtain ⟨expected, updated, rfl, current, hcurrent, hversion⟩ :=
    hc.expected_known hexecutors he (congrArg Event.op hevent)
  have hexec := hc.exec (he.subset List.mem_cons_self)
  rw [hevent] at hexec
  obtain ⟨hanswer, hafter⟩ := World.StoreCall.ok hexec
  refine ⟨current, ?_, ?_⟩
  · rw [hafter]
    rcases MemoryActionStore.compareAndSet_cases e.before.store
      (casArguments expected updated) with ⟨hsame, -⟩ | ⟨found, happlied⟩
    · rw [hsame]
      exact hcurrent
    · rw [happlied.result] at hanswer
      cases hanswer
  · rcases hversion with rfl | hlater
    · exact absurd hanswer (MemoryActionStore.compareAndSet_ne_false hcurrent rfl
        (List.mem_singleton_self _))
    · exact hlater

/-- A guarded write is lost if and only if it does not find the version it is to replace. -/
theorem lost_iff
    (hexecutors : ∀ definition, LawfulExecutor hostIssues definition (executorOf definition))
    (hc : RuntimeReachable env executorOf start c) (he : e :: past <:+ c.log) {written : Bool}
    (hevent : e.event = ⟨.compareAndSet args, .ok written⟩) :
    written = false ↔ ¬FindsExpected e.before args := by
  have hexec := hc.exec (he.subset List.mem_cons_self)
  rw [hevent] at hexec
  obtain ⟨hanswer, hafter⟩ := World.StoreCall.ok hexec
  constructor
  · rintro rfl ⟨found, hfound, hrevision⟩
    obtain ⟨expected, updated, rfl, hversion⟩ :=
      hc.expected_known hexecutors he (congrArg Event.op hevent)
    obtain rfl := hversion.eq_of_revision hfound hrevision
    exact MemoryActionStore.compareAndSet_ne_false hfound rfl (List.mem_singleton_self _) hanswer
  · intro hmissed
    rcases MemoryActionStore.compareAndSet_cases e.before.store args with
      ⟨-, hrefused⟩ | ⟨found, happlied⟩
    · cases written with
      | false => rfl
      | true => exact absurd hanswer hrefused
    · exact absurd ⟨found, happlied.found, happlied.revision⟩ hmissed

/-- What is read back after a lost write is newer than what was to be replaced. -/
theorem reread_newer
    (hexecutors : ∀ definition, LawfulExecutor hostIssues definition (executorOf definition))
    (hc : RuntimeReachable env executorOf start c) {i : ℕ} {current : StoredProposal}
    {older : RuntimeHistory V H}
    (hhistory : historyOf c.log i =
      ⟨.get current.tenantReference current.proposalReference, .ok (some current)⟩ ::
        ⟨.compareAndSet args, .ok false⟩ :: older)
    (hkey : current.key = (args.tenantReference, args.proposalReference)) :
    args.expectedRevision < current.revision := by
  obtain ⟨g, between, hg, rfl, hread, hrest⟩ := exists_entry_of_historyOf hhistory
  obtain ⟨f, past, hf, -, hlost, -⟩ := exists_entry_of_historyOf hrest
  obtain ⟨found, hfound, hlater⟩ :=
    hc.lost_to_later hexecutors (hf.trans ((List.suffix_cons g between).trans hg)) hlost
  rw [← hkey] at hfound
  have hfiled := (effectsOwned_at hc (hf.trans ((List.suffix_cons g between).trans hg))).2.filed _ _
    hfound
  obtain ⟨stored, hstored, hversion⟩ := upToDate_before hc hg hf hfound
  have hcurrent := (hc.read_on_file (hg.subset List.mem_cons_self) hread).1
  rw [hfiled, hcurrent] at hstored
  cases hstored
  rcases hversion with rfl | hlt
  · exact hlater
  · exact hlater.trans hlt

end RuntimeReachable

end Reachable

/-- What call `i` returned describes a version of a proposal that the call is about, on file after
one of its own operations. -/
def ReportsVersion (log : RuntimeLog V H) (i : ℕ) (call : RuntimeCall V)
    (result : ActionOperationResult) : Prop :=
  ∃ e ∈ log, e.caller = i ∧ ∃ record, e.after.store.proposals record.key = some record ∧
    call.Targets record.key ∧ Describes result record

/-- What call `i` returned is newer than every version that it failed to replace. -/
def ReportsNewer (log : RuntimeLog V H) (i : ℕ) (result : ActionOperationResult) : Prop :=
  ∀ e ∈ log, e.caller = i → ∀ args, e.event = ⟨.compareAndSet args, .ok false⟩ →
    args.expectedRevision < result.revision

/-- Nobody is ahead of the writes of call `i` after which `execute` does not read the proposal
back. -/
def UnreadWritesInTime (log : RuntimeLog V H) (i : ℕ) : Prop :=
  ∀ e ∈ log, e.caller = i → ∀ args written, e.event = ⟨.compareAndSet args, .ok written⟩ →
    args.updated.lifecycleStatus ∈ unreadStatuses → FindsExpected e.before args

section Calls

variable [UnicodeNormalization] {env : Env V H} {start : Timestamp} {c : RuntimeConfig V H} {i : ℕ}

omit [UnicodeNormalization] in
theorem reportsNewer_iff {log : RuntimeLog V H} {result : ActionOperationResult} :
    ReportsNewer log i result ↔
      ∀ args, Lost (historyOf log i) args → args.expectedRevision < result.revision := by
  constructor
  · intro hnewer args hlost
    obtain ⟨e, he, hcaller, hevent⟩ := mem_historyOf.mp hlost
    exact hnewer e he hcaller args hevent
  · intro hnewer e he hcaller args hevent
    exact hnewer args (mem_historyOf.mpr ⟨e, he, hcaller, hevent⟩)

theorem unreadWritesInTime_iff (hc : RuntimeReachable env (hostExecutors V H) start c) :
    UnreadWritesInTime c.log i ↔
      ∀ args, Lost (historyOf c.log i) args → args.updated.lifecycleStatus ∉ unreadStatuses := by
  constructor
  · intro htime args hlost hunread
    obtain ⟨e, he, hcaller, hevent⟩ := mem_historyOf.mp hlost
    obtain ⟨past, hpast⟩ := exists_suffix_of_mem he
    exact (RuntimeReachable.lost_iff hostExecutors_lawful_any hc hpast hevent).mp rfl
      (htime e he hcaller args false hevent hunread)
  · intro hread e he hcaller args written hevent hunread
    obtain ⟨past, hpast⟩ := exists_suffix_of_mem he
    by_contra hmissed
    have hlost := (RuntimeReachable.lost_iff hostExecutors_lawful_any hc hpast hevent).mpr hmissed
    subst hlost
    exact hread args (mem_historyOf.mpr ⟨e, he, hcaller, hevent⟩) hunread

/-- What a call created or found persisted was on file. -/
theorem RuntimeReachable.persisted_entry (hc : RuntimeReachable env (hostExecutors V H) start c)
    {record : StoredProposal} (hpersisted : Persisted (historyOf c.log i) record) :
    ∃ e ∈ c.log, e.caller = i ∧ e.after.store.proposals record.key = some record := by
  have hshows : ∃ ev ∈ historyOf c.log i, ShowsStored record ev := by
    rcases hpersisted with hcreated | hread
    · exact ⟨_, hcreated, .created⟩
    · exact ⟨_, hread, .read⟩
  obtain ⟨ev, hev, hshows⟩ := hshows
  obtain ⟨e, he, hcaller, rfl⟩ := mem_historyOf.mp hev
  exact ⟨e, he, hcaller, hshows.on_file (hc.exec he)⟩

theorem Report.reportsVersion (hc : RuntimeReachable env (hostExecutors V H) start c)
    {call : RuntimeCall V} {inExecute : Prop} {result : ActionOperationResult}
    (hreport : Report inExecute call.Targets (historyOf c.log i) result) :
    ReportsVersion c.log i call result := by
  have hknown : ∀ {record : StoredProposal}, Known (historyOf c.log i) record →
      ∃ e ∈ c.log, e.caller = i ∧ e.after.store.proposals record.key = some record := by
    intro record hknown
    obtain ⟨e, past, he, hcaller, hstored⟩ := hc.known_entry hknown
    exact ⟨e, he.subset List.mem_cons_self, hcaller, hstored⟩
  cases hreport with
  | @held record hheld htarget hdescribes =>
    obtain ⟨e, he, hcaller, hstored⟩ := hheld.elim hknown hc.persisted_entry
    exact ⟨e, he, hcaller, record, hstored, htarget, hdescribes⟩
  | @reread args current past hhistory hkey htarget hdescribes =>
    have hread : Known (historyOf c.log i) current := by
      rw [hhistory]
      exact .read List.mem_cons_self
    obtain ⟨e, he, hcaller, hstored⟩ := hknown hread
    exact ⟨e, he, hcaller, current, hstored, htarget, hdescribes⟩
  | @unread record updated past newer hhistory _ _ hpast htarget hdescribes =>
    have hsuffix : past <:+ historyOf c.log i := by
      rw [hhistory]
      exact (List.suffix_cons _ _).trans (List.suffix_append _ _)
    obtain ⟨e, he, hcaller, hstored⟩ := hknown (hpast.mono hsuffix)
    exact ⟨e, he, hcaller, record, hstored, htarget, hdescribes⟩

omit [UnicodeNormalization] in
/-- The only write such a history has lost. -/
theorem Lost.of_only {newer past : RuntimeHistory V H}
    {args args' : MemoryActionStore.CompareAndSet}
    (hnewer : LostNothing newer) (hpast : LostNothing past)
    (hlost : Lost (newer ++ ⟨.compareAndSet args, .ok false⟩ :: past) args') : args' = args := by
  rcases List.mem_append.mp hlost with hmem | hmem
  · exact absurd hmem (hnewer args')
  · rcases List.mem_cons.mp hmem with heq | hmem
    · cases heq
      rfl
    · exact absurd hmem (hpast args')

theorem Report.newer_iff (hc : RuntimeReachable env (hostExecutors V H) start c)
    {target : ProposalKey → Prop} {inExecute : Prop} {result : ActionOperationResult}
    (hreport : Report inExecute target (historyOf c.log i) result) :
    ReportsNewer c.log i result ↔ (inExecute → UnreadWritesInTime c.log i) := by
  rw [reportsNewer_iff, unreadWritesInTime_iff hc]
  cases hreport with
  | held _ _ _ hlost =>
    exact iff_of_true (fun args hmem ↦ absurd hmem (hlost args))
      fun _ args hmem ↦ absurd hmem (hlost args)
  | @reread args current past hhistory hkey _ hdescribes hpast hread =>
    have honly : ∀ args', Lost (historyOf c.log i) args' → args' = args := by
      intro args' hlost
      rw [hhistory] at hlost
      exact Lost.of_only (LostNothing.nil.port
        (o := .get current.tenantReference current.proposalReference) rfl (.ok (some current)))
        hpast hlost
    constructor
    · intro _ hexecute args' hlost
      rw [honly args' hlost]
      exact hread hexecute
    · intro _ args' hlost
      rw [honly args' hlost, hdescribes.revision]
      exact hc.reread_newer hostExecutors_lawful_any hhistory hkey
  | @unread record updated past newer hhistory _ _ _ _ hdescribes hexecute hunread =>
    have hlost : Lost (historyOf c.log i) (casArguments record updated) := by
      rw [hhistory]
      exact List.mem_append_right _ List.mem_cons_self
    constructor
    · intro hnewer
      exact absurd (hnewer _ hlost) (by rw [hdescribes.revision]; exact lt_irrefl _)
    · intro hread
      exact absurd hunread (hread hexecute _ hlost)

/-- **Reported versions.** What a completed call returns describes a version of its proposal that
was on file while it ran. It is newer than every version that the call failed to replace, if and
only if the call is no `execute` or nobody was ahead of its expiry and its supersession. -/
theorem reported_versions (hc : RuntimeReachable env (hostExecutors V H) start c)
    {call : RuntimeCall V} {result : ActionOperationResult}
    (hcall : c.calls[i]? = some (call, .ret result)) :
    ReportsVersion c.log i call result ∧
      (ReportsNewer c.log i result ↔
        (call.isExecute = true → UnreadWritesInTime c.log i)) := by
  have hreport : Report (call.isExecute = true) call.Targets (historyOf c.log i) result :=
    Reachable.meets (C := free) (fun _ _ _ _ _ ↦ trivial) reports_coroutine hc hcall result rfl
  exact ⟨hreport.reportsVersion hc, hreport.newer_iff hc⟩

end Calls

section Sample

attribute [local instance] normalizedTexts

/-- A call of `execute` reads an authorized proposal, and `expire_due` expires it before `execute`
does. -/
def overtakenExecute : RuntimeConfig SampleModel noOperations :=
  sampleRun sampleAcceptance sampleConfirmation
    (sampleAttempt 0 "proposal" 1 ++ [.drift 600000000] ++ turnsOf 2 1 ++
      [.spawn (.expireDue sampleDefinition "tenant" "proposal")] ++ turnsOf 3 4 ++ turnsOf 2 1)

/-- Whether call `i` is an `execute` that returned a version no newer than the one its last
operation failed to replace. -/
def reportsOld (c : RuntimeConfig SampleModel noOperations) (i : ℕ) : Bool :=
  match c.calls[i]?, historyOf c.log i with
  | some (.execute _ _ _ _, .ret result), ⟨.compareAndSet args, .ok false⟩ :: _ =>
    decide (result.revision ≤ args.expectedRevision)
  | _, _ => false

theorem overtakenExecute_reportsOld : reportsOld overtakenExecute 2 = true := by
  decide +kernel

/-- **An old version reported.** `execute` loses its expiry write, and what it returns is no newer
than the version that it failed to replace. -/
theorem late_execute_reports_old :
    ∃ c, RuntimeReachable (Env.oneClock fun _ ↦ false)
        (hostExecutors SampleModel noOperations) 0 c ∧
      ∃ i call result, c.calls[i]? = some (call, .ret result) ∧ ¬ReportsNewer c.log i result := by
  refine ⟨overtakenExecute, sampleRun_reachable _ _ _, 2, ?_⟩
  have hfacts := overtakenExecute_reportsOld
  rw [reportsOld] at hfacts
  split at hfacts
  · rename_i result args older hcall hhistory
    refine ⟨_, result, hcall, fun hnewer ↦ ?_⟩
    have hlost : Lost (historyOf overtakenExecute.log 2) args := by
      rw [hhistory]
      exact List.mem_cons_self
    exact absurd (reportsNewer_iff.mp hnewer args hlost)
      (not_lt.mpr (of_decide_eq_true hfacts))
  · cases hfacts

theorem overtakenExecute_returned : (overtakenExecute.calls[3]?.map fun call ↦
    match call.2 with
    | .ret _ => true
    | _ => false) = some true := by
  decide +kernel

/-- What the `expire_due` in between returned is on file and newer than anything it lost. -/
theorem reported_versions_sample :
    ∃ call result, overtakenExecute.calls[3]? = some (call, .ret result) ∧
      ReportsVersion overtakenExecute.log 3 call result ∧
      (ReportsNewer overtakenExecute.log 3 result ↔
        (call.isExecute = true → UnreadWritesInTime overtakenExecute.log 3)) := by
  obtain ⟨⟨call, program⟩, hcall, hret⟩ := Option.map_eq_some_iff.mp overtakenExecute_returned
  cases program with
  | ret result =>
    exact ⟨call, result, hcall, reported_versions (c := overtakenExecute)
      (sampleRun_reachable _ _ _) hcall⟩
  | raise e => cases hret
  | call o next => cases hret

end Sample

end ThrevoActions
