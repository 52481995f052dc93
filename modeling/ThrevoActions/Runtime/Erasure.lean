import ThrevoActions.Runtime.Attempts
import ThrevoActions.Runtime.Schedules

/-!
# Erasure

Erasure is requested by a mark, after which nothing but the completion of the erasure touches the
record (`RuntimeReachable.marked_kept`). Whatever a coroutine destroys or completes on behalf of an
erasure, it does so knowing that the record is marked, so the mark is on file by then, and the mark
stays until what the record refers to was destroyed. A call that finds the mark and returns leaves
the record erased, whatever the other workers do.
-/

namespace ThrevoActions

open Interleaving Interleaving.Program
open MemoryActionStore (EffectsOwned)

variable {V : Type} [HostModels V] {H : Signature}

/-! ## Marked records -/

/-- A marked record is changed by the completion of its erasure only. -/
theorem Change.of_marked {h : RuntimeHistory V H} {o : Op V H} {current updated : StoredProposal}
    (hchange : Change h o (some current) updated) (hmarked : current.erasureMarked = true) :
    ∃ args, o = .completeErasure args ∧ current.erasedAt = none ∧
      updated = erasedProposal current args.timestamp := by
  have hcontra : current.erasureMarked ≠ false := by
    rw [hmarked]
    decide
  cases hchange with
  | written _ hissued => exact absurd hissued.unmarked hcontra
  | admitted _ hissued => exact absurd hissued.unmarked hcontra
  | erasureMarked _ _ hunmarked => exact absurd hunmarked hcontra
  | erased ho _ hunerased => exact ⟨_, ho, hunerased, rfl⟩

/-- A record becomes erased by the completion of its erasure only. -/
theorem Change.of_unerased {h : RuntimeHistory V H} {o : Op V H} {current updated : StoredProposal}
    (hchange : Change h o (some current) updated) (hunerased : current.erasedAt = none)
    (herased : updated.erasedAt ≠ none) :
    ∃ args, o = .completeErasure args ∧ updated = erasedProposal current args.timestamp := by
  cases hchange with
  | written _ hissued =>
    exact absurd (erasedAt_of_unmarked (hissued.write.erasureMarked.trans hissued.unmarked)) herased
  | admitted _ hissued =>
    rw [hissued.updated] at herased
    exact absurd hunerased herased
  | erasureMarked => exact absurd hunerased herased
  | erased ho => exact ⟨_, ho, rfl⟩

/-- What a marked record may have become: itself, or erased. -/
def RetainedAs (record current : StoredProposal) : Prop :=
  current = record ∨ ∃ erasedAt, current = erasedProposal record erasedAt

theorem RetainedAs.erasureMarked {record current : StoredProposal}
    (hretained : RetainedAs record current) (hmarked : record.erasureMarked = true) :
    current.erasureMarked = true := by
  rcases hretained with rfl | ⟨erasedAt, rfl⟩
  · exact hmarked
  · rw [StoredProposal.erasureMarked, Bool.or_eq_true]
    exact Or.inr rfl

theorem RetainedAs.eq_of_unerased {record current : StoredProposal}
    (hretained : RetainedAs record current) (hunerased : current.erasedAt = none) :
    current = record := by
  rcases hretained with rfl | ⟨erasedAt, rfl⟩
  · rfl
  · cases hunerased

/-- A successful request of erasure leaves a marked record. -/
theorem MemoryActionStore.markErasurePending_true {store : MemoryActionStore}
    (h : EffectsOwned store) {args : ErasureStep} (hmarks : (store.markErasurePending args).1 = true) :
    ∃ current, (store.markErasurePending args).2.proposals
      (args.tenantReference, args.proposalReference) = some current ∧
        current.erasureMarked = true := by
  rw [markErasurePending] at hmarks ⊢
  cases hfound : store.proposals (args.tenantReference, args.proposalReference) with
  | none =>
    rw [hfound] at hmarks
    cases hmarks
  | some current =>
    rw [hfound] at hmarks
    dsimp only at hmarks ⊢
    split at hmarks
    · cases hmarks
    · rename_i hguard
      rw [if_neg hguard]
      split
      · rename_i hpending
        refine ⟨current, hfound, ?_⟩
        rw [StoredProposal.erasureMarked, Bool.or_eq_true, Option.isSome_iff_ne_none]
        exact Or.inl hpending
      · have hkey := h.filed _ _ hfound
        refine ⟨proposalWithErasurePending current args.timestamp, ?_, rfl⟩
        rw [← hkey]
        exact put_proposals_self _ _

/-- A refused request of erasure found the record in a status that cannot be erased, changed, or
erased already. -/
theorem MemoryActionStore.markErasurePending_false {store : MemoryActionStore} {args : ErasureStep}
    {current : StoredProposal}
    (hfound : store.proposals (args.tenantReference, args.proposalReference) = some current)
    (hrefused : (store.markErasurePending args).1 = false) :
    (store.markErasurePending args).2 = store ∧ (current.revision ≠ args.expectedRevision ∨
      current.lifecycleStatus ∉ erasableLifecycleStatuses ∨ current.erasedAt ≠ none) := by
  rw [markErasurePending, hfound] at hrefused ⊢
  dsimp only at hrefused ⊢
  split at hrefused
  · rename_i hguard
    rw [if_pos hguard]
    exact ⟨rfl, hguard⟩
  · split at hrefused <;> cases hrefused

/-- Completing an erasure changes the record it is addressed to, and no other. -/
theorem MemoryActionStore.completeErasure_key {store : MemoryActionStore} (h : EffectsOwned store)
    {args : ErasureStep} {key : ProposalKey} {current : StoredProposal}
    (hbefore : store.proposals key = some current)
    (hafter : ∃ updated, (store.completeErasure args).2.proposals key = some updated ∧
      updated ≠ current) :
    key = (args.tenantReference, args.proposalReference) := by
  obtain ⟨updated, hafter, hne⟩ := hafter
  rcases completeErasure_cases store args with hsame | ⟨current', hfound, -, -, -, hresult⟩
  · rw [hsame, hbefore] at hafter
    exact absurd (Option.some.inj hafter).symm hne
  · rw [← h.filed _ _ hfound]
    by_contra hkey
    have hother : key ≠ (erasedProposal current' args.timestamp).key := hkey
    rw [hresult, put_proposals_of_ne hother, hbefore] at hafter
    exact hne (Option.some.inj hafter).symm

theorem ne_of_erased {record : StoredProposal} {erasedAt : Timestamp}
    (hunerased : record.erasedAt = none) : record ≠ erasedProposal record erasedAt := by
  intro heq
  rw [heq] at hunerased
  cases hunerased

section Reachable

variable [UnicodeNormalization] {env : Env V H} {executorOf : ExecutorOf V H}
  {hostIssues : RuntimeHistory V H → H.Op → Prop} {start : Timestamp} {c : RuntimeConfig V H}

/-- **A mark is kept.** Whatever workers do, a record on file that is marked stays on file, until it
is erased. -/
theorem RuntimeReachable.marked_kept
    (hexecutors : ∀ definition, LawfulExecutor hostIssues definition (executorOf definition))
    (hc : RuntimeReachable env executorOf start c) {g : Entry (runtimeSignature V H) Exn World}
    {older : RuntimeLog V H} (hg : g :: older <:+ c.log) {key : ProposalKey}
    {record : StoredProposal} (hrecord : g.after.store.proposals key = some record)
    (hmarked : record.erasureMarked = true) :
    ∃ current, c.shared.store.proposals key = some current ∧ RetainedAs record current := by
  refine RuntimeReachable.induction (P := fun log world ↦ g :: older <:+ log →
    ∃ current, world.store.proposals key = some current ∧ RetainedAs record current)
    hexecutors ?_ ?_ ?_ hc hg
  · intro hg
    simp at hg
  · intro c hc i o answer world' hissues hexec ih hg
    rcases List.suffix_cons_iff.mp hg with heq | hg
    · rw [(List.cons.inj heq).1] at hrecord
      exact ⟨record, hrecord, Or.inl rfl⟩
    · obtain ⟨current, hcurrent, hretained⟩ := ih hg
      rcases hc.change hissues hexec key with hsame | ⟨updated, hafter, hchange⟩
      · exact ⟨current, hsame.trans hcurrent, hretained⟩
      · rw [hcurrent] at hchange
        obtain ⟨args, -, hunerased, rfl⟩ := hchange.of_marked (hretained.erasureMarked hmarked)
        rw [hretained.eq_of_unerased hunerased] at hafter
        exact ⟨_, hafter, Or.inr ⟨_, rfl⟩⟩
  · exact fun _ _ _ _ ih ↦ ih

/-- What a coroutine read was on file. -/
theorem RuntimeReachable.read_on_file (hc : RuntimeReachable env executorOf start c)
    {g : Entry (runtimeSignature V H) Exn World} (hg : g ∈ c.log) {record : StoredProposal}
    (hevent : g.event = ⟨.get record.tenantReference record.proposalReference, .ok (some record)⟩) :
    g.before.store.proposals record.key = some record ∧
      g.after.store.proposals record.key = some record := by
  have hexec := hc.exec hg
  rw [hevent] at hexec
  obtain ⟨hread, hafter⟩ := World.StoreCall.ok hexec
  have hread' := Except.ok.inj hread
  refine ⟨hread', ?_⟩
  rw [hafter]
  exact hread'

/-- **What a coroutine takes for marked is marked**, and still on file unless it is erased. -/
theorem RuntimeReachable.markKnown
    (hexecutors : ∀ definition, LawfulExecutor hostIssues definition (executorOf definition))
    (hc : RuntimeReachable env executorOf start c) {i : ℕ} {record : StoredProposal}
    (hknown : MarkKnown (historyOf c.log i) record) :
    record.erasureMarked = true ∧
      ∃ current, c.shared.store.proposals record.key = some current ∧
        RetainedAs record current := by
  cases hknown with
  | read hread hmarked =>
    obtain ⟨g, hg, -, hevent⟩ := mem_historyOf.mp hread
    obtain ⟨older, hsuffix⟩ := exists_suffix_of_mem hg
    exact ⟨hmarked, hc.marked_kept hexecutors hsuffix (hc.read_on_file hg hevent).2 hmarked⟩
  | @marked args past hread hmarks hkey =>
    obtain ⟨g, older, hg, hcaller, hevent, rfl⟩ := exists_entry_of_suffix hread
    obtain ⟨f, hf, -, hmark⟩ := mem_historyOf.mp hmarks
    obtain ⟨older', hf'⟩ := exists_suffix_of_mem hf
    obtain ⟨⟨c₁, hc₁, hlog, hbefore⟩, -⟩ := hc.at_entry hg
    -- the request left a marked record, and the reading found what became of that
    have hf₁ : f ∈ c₁.log := hlog ▸ hf
    have hexec := hc₁.exec hf₁
    rw [hmark] at hexec
    obtain ⟨htrue, hafter⟩ := World.StoreCall.ok hexec
    obtain ⟨⟨c₂, hc₂, -, hbefore₂⟩, -⟩ := hc₁.at_entry (hlog.symm ▸ hf')
    have howned : EffectsOwned f.before.store := hbefore₂ ▸ RuntimeReachable.effectsOwned hc₂
    obtain ⟨current, hcurrent, hmarked⟩ :=
      MemoryActionStore.markErasurePending_true howned (Except.ok.inj htrue)
    rw [hkey] at hcurrent
    obtain ⟨current', hcurrent', hretained⟩ := RuntimeReachable.marked_kept hexecutors hc₁
      (hlog.symm ▸ hf') (by rw [hafter]; exact hcurrent) hmarked
    have hread' := hc.read_on_file (hg.subset List.mem_cons_self) hevent
    rw [hbefore, hread'.1] at hcurrent'
    cases hcurrent'
    have hrecord := hretained.erasureMarked hmarked
    exact ⟨hrecord, hc.marked_kept hexecutors hg hread'.2 hrecord⟩

section Entry

variable {e : Entry (runtimeSignature V H) Exn World} {past : RuntimeLog V H}

/-- What a logged operation did to a marked record: nothing, or it completed the erasure. -/
theorem RuntimeReachable.marked_at
    (hexecutors : ∀ definition, LawfulExecutor hostIssues definition (executorOf definition))
    (hc : RuntimeReachable env executorOf start c) (he : e :: past <:+ c.log) {key : ProposalKey}
    {record : StoredProposal} (hrecord : e.before.store.proposals key = some record)
    (hmarked : record.erasureMarked = true) :
    e.after.store.proposals key = some record ∨
      ∃ args, e.event.op = .completeErasure args ∧ record.erasedAt = none ∧
        e.after.store.proposals key = some (erasedProposal record args.timestamp) := by
  rcases hc.change_at hexecutors he key with hsame | ⟨updated, hafter, hchange⟩
  · exact Or.inl (hsame.trans hrecord)
  · rw [hrecord] at hchange
    obtain ⟨args, hop, hunerased, rfl⟩ := hchange.of_marked hmarked
    exact Or.inr ⟨args, hop, hunerased, hafter⟩

/-- **What is destroyed belongs to a marked record**, unless its destroyer had obtained it. -/
theorem RuntimeReachable.destroyed_marked
    (hexecutors : ∀ definition, LawfulExecutor hostIssues definition (executorOf definition))
    (hc : RuntimeReachable env executorOf start c) (he : e :: past <:+ c.log)
    {proposalIdentity : ProposalIdentity} {m : Material}
    (hdestroys : e.event.op.destroys = some (proposalIdentity, m))
    (hforeign : ¬Obtained (historyOf past e.caller) m) :
    ∃ record, e.before.store.proposals
        (proposalIdentity.tenantReference, proposalIdentity.proposalReference) = some record ∧
      record.erasureMarked = true := by
  have hissued := RuntimeReachable.issued hexecutors hc he
  obtain ⟨⟨c₁, hc₁, hlog, hbefore⟩, -⟩ := hc.at_entry he
  cases destroyIssued_of_issues hissued hdestroys with
  | abandoned habandoned => exact absurd habandoned.obtained hforeign
  | @erasing record hknown hidentity _ _ =>
    obtain ⟨hmarked, current, hcurrent, hretained⟩ :=
      RuntimeReachable.markKnown hexecutors hc₁ (hlog.symm ▸ hknown)
    rw [hbefore] at hcurrent
    subst hidentity
    exact ⟨current, hcurrent, hretained.erasureMarked hmarked⟩

/-- An operation that does nothing to a marked record, and admits or writes nothing for it, unless it
completes the erasure. -/
structure Untouched (e : Entry (runtimeSignature V H) Exn World) (key : ProposalKey)
    (record : StoredProposal) : Prop where
  kept : e.after.store.proposals key = some record ∨
    ∃ args, e.event.op = .completeErasure args ∧ record.erasedAt = none ∧
      e.after.store.proposals key = some (erasedProposal record args.timestamp)
  not_admitted : ∀ args claim, e.event = ⟨.admitExecution args, .ok claim⟩ →
    claim.admits = true → args.updated.key ≠ key
  not_written : ∀ args, e.event = ⟨.compareAndSet args, .ok true⟩ → args.updated.key ≠ key

/-- **Nothing but the completion of the erasure touches a marked record.** -/
theorem RuntimeReachable.untouched
    (hexecutors : ∀ definition, LawfulExecutor hostIssues definition (executorOf definition))
    (hc : RuntimeReachable env executorOf start c) (he : e :: past <:+ c.log) {key : ProposalKey}
    {record : StoredProposal} (hrecord : e.before.store.proposals key = some record)
    (hmarked : record.erasureMarked = true) : Untouched e key record := by
  have hkept := RuntimeReachable.marked_at hexecutors hc he hrecord hmarked
  have hexec := hc.exec (he.subset List.mem_cons_self)
  obtain ⟨⟨c₁, hc₁, -, hbefore⟩, -⟩ := hc.at_entry he
  have howned : EffectsOwned e.before.store := hbefore ▸ RuntimeReachable.effectsOwned hc₁
  -- the record an operation replaces is the one on file under the key of its successor
  have hsame : ∀ {key' : ProposalKey} {current updated : StoredProposal},
      e.before.store.proposals key' = some current → AcceptedUpdate current updated →
      updated.key = key → current = record := by
    intro key' current updated hfound haccepted hkey
    rw [← howned.filed _ _ hfound, StoredProposal.key_eq_of_identity haccepted.identity, hkey,
      hrecord] at hfound
    exact (Option.some.inj hfound).symm
  refine ⟨hkept, fun args claim hevent hclaim hkey ↦ ?_, fun args hevent hkey ↦ ?_⟩
  · rw [hevent] at hexec
    obtain ⟨hadmitted, -⟩ := World.StoreCall.ok hexec
    rcases MemoryActionStore.admitExecution_cases e.before.store args with
      ⟨-, hrefused⟩ | ⟨current, result, -, -, happlied⟩
    · rw [hrefused claim hadmitted] at hclaim
      cases hclaim
    · obtain rfl := hsame happlied.found happlied.accepted hkey
      rw [StoredProposal.erasureMarked, happlied.notPending, happlied.notErased] at hmarked
      cases hmarked
  · rw [hevent] at hexec
    obtain ⟨hwritten, hafter⟩ := World.StoreCall.ok hexec
    rcases MemoryActionStore.compareAndSet_cases e.before.store args with
      ⟨-, hrefused⟩ | ⟨current, happlied⟩
    · exact hrefused hwritten
    · obtain rfl := hsame happlied.found happlied.accepted hkey
      rcases hkept with hkept | ⟨args', hop, -⟩
      · rw [hafter, happlied.result, ← hkey] at hkept
        have hupdated := Option.some.inj ((MemoryActionStore.put_proposals_self _ _).symm.trans hkept)
        have hrevision := happlied.accepted.revision
        rw [hupdated] at hrevision
        omega
      · rw [hevent] at hop
        cases hop

/-- **What is erased was destroyed before**, all of it by the coroutine that completes the
erasure. -/
theorem RuntimeReachable.erased_after_destruction
    (hexecutors : ∀ definition, LawfulExecutor hostIssues definition (executorOf definition))
    (hc : RuntimeReachable env executorOf start c) (he : e :: past <:+ c.log) {key : ProposalKey}
    {current updated : StoredProposal} (hbefore : e.before.store.proposals key = some current)
    (hafter : e.after.store.proposals key = some updated) (hunerased : current.erasedAt = none)
    (herased : updated.erasedAt ≠ none) :
    contentFree updated = true ∧ ∀ m, current.RefersTo m →
      Destroyed (historyOf past e.caller) current.proposalIdentity m := by
  rcases hc.change_at hexecutors he key with hsame | ⟨updated', hafter', hchange⟩
  · rw [hsame, hbefore] at hafter
    cases hafter
    exact absurd hunerased herased
  rw [hafter] at hafter'
  cases hafter'
  rw [hbefore] at hchange
  obtain ⟨args, hop, rfl⟩ := hchange.of_unerased hunerased herased
  refine ⟨contentFree_erasedProposal _ _, ?_⟩
  -- the coroutine knew the record that is erased
  obtain ⟨⟨c₁, hc₁, hlog, hshared⟩, -⟩ := hc.at_entry he
  have hissued := RuntimeReachable.issued hexecutors hc he
  rw [hop] at hissued
  obtain ⟨record, hissued⟩ := hissued
  have hkey : key = record.key := by
    have howned : EffectsOwned e.before.store := hshared ▸ RuntimeReachable.effectsOwned hc₁
    rw [← hissued.key]
    refine MemoryActionStore.completeErasure_key howned hbefore ?_
    have hexec := hc.exec (he.subset List.mem_cons_self)
    rcases World.exec_store hexec with hsame | ⟨call, hcall, hstore⟩
    · rw [hsame, hbefore] at hafter
      exact absurd (Option.some.inj hafter) (ne_of_erased hunerased)
    · rw [hop] at hcall
      cases hcall
      rw [hstore] at hafter
      exact ⟨_, hafter, (ne_of_erased hunerased).symm⟩
  obtain ⟨-, current', hcurrent', hretained⟩ :=
    RuntimeReachable.markKnown hexecutors hc₁ (hlog.symm ▸ hissued.marked)
  rw [hshared, ← hkey, hbefore] at hcurrent'
  cases hcurrent'
  rw [hretained.eq_of_unerased hunerased]
  exact hissued.destroyed

end Entry

end Reachable

/-! ## How `erase` ends -/

/-- The operation raised, or refused to authorize an erasure. -/
def fails : Event (runtimeSignature V H) Exn → Bool
  | ⟨_, .error _⟩ => true
  | ⟨.authorizeErasure _ _ _, .ok authorized⟩ => !authorized
  | ⟨_, .ok _⟩ => false

/-- What makes `erase` raise: a failing operation, or that it does not find the proposal. -/
inductive Hinders (definition : ActionDeclaration V) (key : ProposalKey) :
    Event (runtimeSignature V H) Exn → Prop
  | fails {ev : Event (runtimeSignature V H) Exn} (hfails : fails ev = true) :
      Hinders definition key ev
  | missing {found : Option StoredProposal} (hmissing : ∀ record, found = some record →
      record.key = key → record.actionType ≠ definition.actionType) :
      Hinders definition key ⟨.get key.1 key.2, .ok found⟩

/-- What `erase` has seen when it returns: the record was erased, the erasure was completed, now or
by another call, or the record was found unmarked after the request to mark it was refused. -/
inductive EraseEnding (h : RuntimeHistory V H) (key : ProposalKey) : Prop
  | found {record : StoredProposal}
      (hread : Answered h (.get record.tenantReference record.proposalReference) (some record))
      (hkey : record.key = key) (herased : record.erasedAt ≠ none)
  | completed {args : MemoryActionStore.ErasureStep} {completed : Bool}
      (hcompleted : Answered h (.completeErasure args) completed)
      (hkey : (args.tenantReference, args.proposalReference) = key)
  | refused {args : MemoryActionStore.ErasureStep} {past : RuntimeHistory V H}
      {read record : StoredProposal}
      (hrefused : ⟨.get record.tenantReference record.proposalReference, .ok (some record)⟩ ::
        ⟨.markErasurePending args, .ok false⟩ :: past <:+ h)
      (hread : Answered past (.get read.tenantReference read.proposalReference) (some read))
      (hkey : read.key = key) (hrecord : record.key = key)
      (hunmarked : record.erasureMarked = false)
      (hargs : (args.tenantReference, args.proposalReference) = key)
      (hrevision : args.expectedRevision = read.revision)

theorem EraseEnding.mono {h h' : RuntimeHistory V H} {key : ProposalKey}
    (hending : EraseEnding h key) (hsuffix : h <:+ h') : EraseEnding h' key := by
  cases hending with
  | found hread hkey herased => exact .found (hread.mono hsuffix) hkey herased
  | completed hcompleted hkey => exact .completed (hcompleted.mono hsuffix) hkey
  | refused hrefused hread hkey hrecord hunmarked hargs hrevision =>
    exact .refused (hrefused.trans hsuffix) hread hkey hrecord hunmarked hargs hrevision

/-- How `erase` ends: with an ending of its own, or hindered. -/
def EndsErasure (definition : ActionDeclaration V) (key : ProposalKey) {α : Type}
    (h : RuntimeHistory V H) : Except Exn α → Prop
  | .ok _ => EraseEnding h key
  | .error _ => ∃ ev ∈ h, Hinders definition key ev

/-- What `erase` may do: it asks no port for material, and performs ten operations at most. -/
def erasing : Contract (runtimeSignature V H) Exn where
  legal _ _ := True
  issues h o := (∀ r, handedOut o r = none) ∧ h.length < 10

section Ending

variable {α β : Type} {definition : ActionDeclaration V} {key : ProposalKey}
  {h : RuntimeHistory V H}

/-- A failing operation ends `erase`. -/
theorem EndsErasure.raised (o : Op V H) (e e' : Exn) :
    EndsErasure definition key (⟨o, .error e⟩ :: h) (.error e' : Except Exn α) :=
  ⟨_, List.mem_cons_self, .fails rfl⟩

theorem EndsErasure.missing {found : Option StoredProposal} {e : Exn}
    (hmissing : ∀ record, found = some record → record.key = key →
      record.actionType ≠ definition.actionType) :
    EndsErasure definition key (⟨.get key.1 key.2, .ok found⟩ :: h) (.error e : Except Exn α) :=
  ⟨_, List.mem_cons_self, .missing hmissing⟩

/-- `_required` within `erase`. -/
theorem EndsErasure.required {tenantReference proposalReference : SafeReference}
    {f : StoredProposal → Coroutine V H β} (hlength : h.length < 10)
    (hnext : ∀ record, record.key = (tenantReference, proposalReference) →
      (f record).Meets erasing (EndsErasure definition (tenantReference, proposalReference))
        (⟨.get record.tenantReference record.proposalReference, .ok (some record)⟩ :: h)) :
    (ThrevoActions.required tenantReference proposalReference >>= f).Meets erasing
      (EndsErasure definition (tenantReference, proposalReference)) h :=
  required_cases ⟨fun _ ↦ rfl, hlength⟩ (fun e ↦ .raised _ e e)
    (fun _ hmissing ↦ .missing fun record hrecord hkey ↦ absurd hkey (hmissing record hrecord))
    hnext

/-- An awaited operation within `erase`. -/
theorem EndsErasure.await {o : Op V H} {f : o.Ans → Coroutine V H β}
    (ho : ∀ r, handedOut o r = none) (hlength : h.length < 10)
    (hnext : ∀ a, (f a).Meets erasing (EndsErasure definition key) (⟨o, .ok a⟩ :: h)) :
    (ThrevoActions.await o >>= f).Meets erasing (EndsErasure definition key) h :=
  Meets.perform_bind ⟨ho, hlength⟩ (fun e _ ↦ .raised o e e) fun a _ ↦ hnext a

/-- What a step that destroys something ends with: it performed one operation at most, which did
not fail if it goes on. -/
def Destroys {α : Type} (h h' : RuntimeHistory V H) : Except Exn α → Prop
  | .ok _ => h'.length ≤ h.length + 1
  | .error _ => ∃ ev ∈ h', fails ev = true

theorem destroyPayload_destroys (proposalIdentity : ProposalIdentity)
    (payload : Option ProtectedPayload) (hlength : h.length < 10) :
    (destroyPayload (H := H) definition proposalIdentity payload).Meets erasing (Destroys h) h := by
  cases payload with
  | none => exact Nat.le_succ _
  | some payload =>
    refine meets_perform.mpr ⟨⟨fun _ ↦ rfl, hlength⟩, fun r _ ↦ ?_⟩
    cases r with
    | ok a => exact Nat.le_refl _
    | error e => exact ⟨_, List.mem_cons_self, rfl⟩

theorem destroyCommitment_destroys (proposalIdentity : ProposalIdentity)
    (commitment : Option KeyedCommitment) (hlength : h.length < 10) :
    (destroyCommitment (H := H) definition proposalIdentity commitment).Meets erasing (Destroys h)
      h := by
  cases commitment with
  | none => exact Nat.le_succ _
  | some commitment =>
    refine meets_perform.mpr ⟨⟨fun _ ↦ rfl, hlength⟩, fun r _ ↦ ?_⟩
    cases r with
    | ok a => exact Nat.le_refl _
    | error e => exact ⟨_, List.mem_cons_self, rfl⟩

/-- A step that destroys something within `erase`. -/
theorem EndsErasure.destroy {p : Coroutine V H α} {f : α → Coroutine V H β}
    (hp : p.Meets erasing (Destroys h) h)
    (hnext : ∀ h' a, h'.length ≤ h.length + 1 →
      (f a).Meets erasing (EndsErasure definition key) h') :
    (p >>= f).Meets erasing (EndsErasure definition key) h := by
  refine Meets.bind_of hp (fun h' e _ hfails ↦ ?_) fun h' a _ hlength ↦ hnext h' a hlength
  obtain ⟨ev, hev, hfails⟩ := hfails
  exact ⟨ev, hev, .fails hfails⟩

/-- An announcement within `erase`, and the return after it. -/
theorem emit_ends (record : StoredProposal) (eventType : RuntimeEventType) (observedAt : Timestamp)
    (reasonCode : Option SafeReference) {result : α} (hending : EraseEnding h key)
    (hlength : h.length < 10) :
    (emit record eventType observedAt reasonCode >>= fun _ ↦ (pure result : Coroutine V H α)).Meets
      erasing (EndsErasure definition key) h := by
  rw [emit, LawfulMonad.bind_assoc]
  refine Meets.attempt_perform_bind ⟨fun _ ↦ rfl, hlength⟩ fun sent _ ↦ ?_
  cases sent with
  | ok _ => exact hending.mono (List.suffix_cons _ _)
  | error failure =>
    exact Meets.raiseIf_bind (fun _ ↦ .raised _ failure failure) fun _ ↦
      hending.mono (List.suffix_cons _ _)

end Ending

theorem destroyAndComplete_meets (definition : ActionDeclaration V)
    (proposalReference : SafeReference) (context : ReadContext) {record : StoredProposal}
    (now : Timestamp) (hkey : record.key = (context.tenantReference, proposalReference))
    {h : RuntimeHistory V H} (hlength : h.length ≤ 5) :
    (destroyAndComplete definition proposalReference context record now).Meets erasing
      (EndsErasure definition (context.tenantReference, proposalReference)) h := by
  refine EndsErasure.destroy (destroyPayload_destroys _ _ (by omega)) fun h₁ _ hlength₁ ↦ ?_
  refine EndsErasure.destroy (destroyCommitment_destroys _ _ (by omega)) fun h₂ _ hlength₂ ↦ ?_
  refine EndsErasure.await (fun _ ↦ rfl) (by omega) fun completed ↦ ?_
  have hlength₃ : h₂.length + 1 < 9 := by omega
  split
  · refine EndsErasure.required ?_ fun current _ ↦ ?_
    · exact Nat.lt_succ_of_lt hlength₃
    · exact EraseEnding.mono (.completed .head hkey) (List.suffix_cons _ _)
  · refine EndsErasure.required ?_ fun erased _ ↦ ?_
    · exact Nat.lt_succ_of_lt hlength₃
    · refine emit_ends erased _ _ _ ?_ (Nat.succ_lt_succ hlength₃)
      exact EraseEnding.mono (.completed .head hkey) (List.suffix_cons _ _)

theorem erase_meets {runtime : ActionRuntime} (hretention : runtime.hasRetentionStore = true)
    (definition : ActionDeclaration V) (proposalReference : SafeReference)
    (context : ReadContext) :
    (erase runtime definition proposalReference context : Coroutine V H _).Meets erasing
      (EndsErasure definition (context.tenantReference, proposalReference)) [] := by
  refine Meets.raiseIf_bind (fun hnone ↦ ?_) fun _ ↦ ?_
  · rw [hretention] at hnone
    cases hnone
  refine EndsErasure.await (fun _ ↦ rfl) (Nat.zero_lt_succ 9) fun authorized ↦ ?_
  refine Meets.raiseIf_bind (fun hdenied ↦ ?_) fun _ ↦ ?_
  · rw [hdenied]
    exact ⟨_, List.mem_cons_self, .fails rfl⟩
  refine EndsErasure.required (Nat.succ_lt_succ (Nat.zero_lt_succ 8)) fun record hkey ↦ ?_
  refine Meets.raiseIf_bind (fun haction ↦ ?_) fun _ ↦ ?_
  · rw [← hkey]
    refine EndsErasure.missing fun record' hrecord' _ ↦ ?_
    obtain rfl := Option.some.inj hrecord'
    exact haction
  split
  · rename_i herased
    exact .found .head hkey (Option.isSome_iff_ne_none.mp herased)
  refine EndsErasure.await (fun _ ↦ rfl) (by simp) fun now ↦ ?_
  split
  · exact destroyAndComplete_meets definition proposalReference context now hkey (by simp)
  refine EndsErasure.await (fun _ ↦ rfl) (by simp) fun marked ↦ ?_
  refine EndsErasure.required ?_ fun record' hkey' ↦ ?_
  · simp
  split
  · rename_i herased
    exact .found .head hkey' (Option.isSome_iff_ne_none.mp herased.2)
  split
  · rename_i hnot hunmarked
    obtain ⟨rfl, hpending⟩ := hunmarked
    have hunerased : record'.erasedAt.isSome ≠ true := fun herased ↦ hnot ⟨rfl, herased⟩
    refine .refused (List.suffix_refl _) (Answered.head.mono (List.suffix_cons _ _)) hkey hkey' ?_
      hkey rfl
    rw [StoredProposal.erasureMarked, hpending, Bool.eq_false_iff.mpr hunerased]
    rfl
  · exact destroyAndComplete_meets definition proposalReference context now hkey' (by simp)

/-- What `erase` does is within its contract, whatever store is configured. -/
theorem erase_erasing (runtime : ActionRuntime) (definition : ActionDeclaration V)
    (proposalReference : SafeReference) (context : ReadContext) :
    (erase runtime definition proposalReference context : Coroutine V H _).Meets erasing
      (fun _ _ ↦ True) [] := by
  cases hretention : runtime.hasRetentionStore with
  | true => exact (erase_meets hretention _ _ _).imp fun _ _ _ _ ↦ trivial
  | false =>
    refine Meets.raiseIf_bind (fun _ ↦ trivial) fun hnone ↦ ?_
    exact absurd hretention hnone

/-- **Completing an erasure**, when the record may have been erased already. -/
theorem MemoryActionStore.completeErasure_erases {store : MemoryActionStore}
    (h : EffectsOwned store) {args : ErasureStep} {current : StoredProposal}
    (hfound : store.proposals (args.tenantReference, args.proposalReference) = some current)
    (hmarked : current.erasureMarked = true)
    (hrevision : current.erasedAt = none → current.revision = args.expectedRevision) :
    ∃ updated, (store.completeErasure args).2.proposals
      (args.tenantReference, args.proposalReference) = some updated ∧ updated.erasedAt ≠ none := by
  rw [completeErasure, hfound]
  dsimp only
  by_cases hunerased : current.erasedAt = none
  · have hpending : current.erasurePendingAt ≠ none := by
      rw [StoredProposal.erasureMarked, hunerased, Bool.or_eq_true,
        Option.isSome_iff_ne_none] at hmarked
      exact hmarked.resolve_right (by rintro ⟨⟩)
    rw [if_neg (by simp [hrevision hunerased, hpending, hunerased])]
    refine ⟨erasedProposal current args.timestamp, ?_, by rintro ⟨⟩⟩
    rw [← h.filed _ _ hfound]
    exact put_proposals_self _ _
  · rw [if_pos (Or.inr (Or.inr hunerased))]
    exact ⟨current, hfound, hunerased⟩

/-- Erasure was pending for the proposal when some logged operation took place. -/
def PendingStored (log : RuntimeLog V H) (key : ProposalKey) : Prop :=
  ∃ g ∈ log, ∃ record, g.before.store.proposals key = some record ∧ record.erasurePendingAt ≠ none

theorem PendingStored.cons {log : RuntimeLog V H} {key : ProposalKey}
    (hpending : PendingStored log key) (e : Entry (runtimeSignature V H) Exn World) :
    PendingStored (e :: log) key := by
  obtain ⟨g, hg, hrecord⟩ := hpending
  exact ⟨g, List.mem_cons_of_mem _ hg, hrecord⟩

section Returned

variable [UnicodeNormalization] {env : Env V H} {executorOf : ExecutorOf V H}
  {hostIssues : RuntimeHistory V H → H.Op → Prop} {start : Timestamp} {c : RuntimeConfig V H}

/-- What is erased stays erased. -/
theorem RuntimeReachable.erased_kept
    (hexecutors : ∀ definition, LawfulExecutor hostIssues definition (executorOf definition))
    (hc : RuntimeReachable env executorOf start c) {g : Entry (runtimeSignature V H) Exn World}
    {older : RuntimeLog V H} (hg : g :: older <:+ c.log) {key : ProposalKey}
    {record : StoredProposal} (hrecord : g.after.store.proposals key = some record)
    (herased : record.erasedAt ≠ none) :
    ∃ current, c.shared.store.proposals key = some current ∧ current.erasedAt ≠ none := by
  have hmarked : record.erasureMarked = true := by
    rw [StoredProposal.erasureMarked, Bool.or_eq_true, ← Option.isSome_iff_ne_none] at *
    exact Or.inr herased
  obtain ⟨current, hcurrent, hretained⟩ := hc.marked_kept hexecutors hg hrecord hmarked
  rcases hretained with rfl | ⟨erasedAt, rfl⟩
  · exact ⟨_, hcurrent, herased⟩
  · exact ⟨_, hcurrent, (by rintro ⟨⟩)⟩

/-- What is on file stays on file, as a proposal of the same action. -/
theorem RuntimeReachable.action_kept (hc : RuntimeReachable env executorOf start c)
    {g : Entry (runtimeSignature V H) Exn World} {older : RuntimeLog V H}
    (hg : g :: older <:+ c.log) {key : ProposalKey} {record : StoredProposal}
    (hrecord : g.after.store.proposals key = some record) :
    ∃ current, c.shared.store.proposals key = some current ∧
      current.actionType = record.actionType := by
  induction hc with
  | initial => simp [Config.initial] at hg
  | @step c c' hc hstep ih =>
    cases hstep with
    | spawn => exact ih hg
    | @act i _ o _ answer world' _ hexec =>
      rcases List.suffix_cons_iff.mp hg with heq | hg
      · rw [(List.cons.inj heq).1] at hrecord
        exact ⟨record, hrecord, rfl⟩
      · obtain ⟨current, hcurrent, haction⟩ := ih hg
        rcases World.exec_store hexec with hsame | ⟨call, -, hcall⟩
        · exact ⟨current, by rw [hsame, hcurrent], haction⟩
        · rw [hcall]
          rcases MemoryActionStore.after_advances (RuntimeReachable.effectsOwned hc) call key with
            hsame | ⟨hnone, -⟩ | ⟨current', updated, hcurrent', hupdated, hidentity, -⟩
          · exact ⟨current, hsame.trans hcurrent, haction⟩
          · rw [hcurrent] at hnone
            cases hnone
          · rw [hcurrent] at hcurrent'
            obtain rfl := Option.some.inj hcurrent'
            exact ⟨updated, hupdated, (StoredProposal.actionType_eq_of_identity hidentity).symm.trans
              haction⟩
    | drift world' hdrift =>
      rw [(RuntimeReachable.drift_store hdrift).1]
      exact ih hg

/-- The request of a call to mark the proposal was refused: the proposal, which was not marked, was
in a status that cannot be erased, or it had changed since the call read it. -/
def MarkRefused (log : RuntimeLog V H) (i : ℕ) (key : ProposalKey) : Prop :=
  ∃ (e : Entry (runtimeSignature V H) Exn World) (past : RuntimeLog V H)
    (args : MemoryActionStore.ErasureStep) (read current : StoredProposal),
    e :: past <:+ log ∧ e.caller = i ∧ e.event = ⟨.markErasurePending args, .ok false⟩ ∧
      Answered (historyOf past i) (.get key.1 key.2) (some read) ∧
      e.before.store.proposals key = some current ∧ current.erasureMarked = false ∧
      (current.revision ≠ read.revision ∨ current.lifecycleStatus ∉ erasableLifecycleStatuses)

/-- Once a coroutine completed an erasure, whatever the answer was, the record is erased. -/
theorem RuntimeReachable.completed_erased
    (hexecutors : ∀ definition, LawfulExecutor hostIssues definition (executorOf definition))
    (hc : RuntimeReachable env executorOf start c) {i : ℕ} {args : MemoryActionStore.ErasureStep}
    {completed : Bool}
    (hcompleted : Answered (historyOf c.log i) (.completeErasure args) completed) :
    ∃ current, c.shared.store.proposals (args.tenantReference, args.proposalReference) =
      some current ∧ current.erasedAt ≠ none := by
  obtain ⟨g, hg, -, hevent⟩ := mem_historyOf.mp hcompleted
  obtain ⟨older, hsuffix⟩ := exists_suffix_of_mem hg
  obtain ⟨⟨c₁, hc₁, hlog, hshared⟩, -⟩ := hc.at_entry hsuffix
  have hissued := RuntimeReachable.issued hexecutors hc hsuffix
  have hop : g.event.op = .completeErasure args := congrArg Event.op hevent
  rw [hop] at hissued
  obtain ⟨record, hissued⟩ := hissued
  obtain ⟨hmarked', current, hcurrent, hretained⟩ :=
    RuntimeReachable.markKnown hexecutors hc₁ (hlog.symm ▸ hissued.marked)
  rw [hshared, ← hissued.key] at hcurrent
  have howned : EffectsOwned g.before.store := hshared ▸ RuntimeReachable.effectsOwned hc₁
  obtain ⟨updated, hupdated, herased⟩ := MemoryActionStore.completeErasure_erases howned hcurrent
    (hretained.erasureMarked hmarked') fun hunerased ↦ by
      rw [hretained.eq_of_unerased hunerased, hissued.revision]
  have hexec := hc.exec hg
  rw [hevent] at hexec
  obtain ⟨-, hafter⟩ := World.StoreCall.ok hexec
  have hafter' : g.after.store.proposals (args.tenantReference, args.proposalReference) =
      some updated := by
    rw [hafter]
    exact hupdated
  exact hc.erased_kept hexecutors hsuffix hafter' herased

/-- **How `erase` ends, it leaves the record erased**, whatever the other workers do, unless its
request to mark the record was refused. -/
theorem RuntimeReachable.ending_erased
    (hexecutors : ∀ definition, LawfulExecutor hostIssues definition (executorOf definition))
    (hc : RuntimeReachable env executorOf start c) {i : ℕ} {key : ProposalKey}
    (hending : EraseEnding (historyOf c.log i) key) :
    (∃ current, c.shared.store.proposals key = some current ∧ current.erasedAt ≠ none) ∨
      MarkRefused c.log i key := by
  cases hending with
  | found hread hkey herased =>
    obtain ⟨g, hg, -, hevent⟩ := mem_historyOf.mp hread
    obtain ⟨older, hsuffix⟩ := exists_suffix_of_mem hg
    have hfiled := (hc.read_on_file hg hevent).2
    rw [hkey] at hfiled
    exact Or.inl (hc.erased_kept hexecutors hsuffix hfiled herased)
  | @completed args completed hcompleted hkey =>
    rw [← hkey]
    exact Or.inl (RuntimeReachable.completed_erased hexecutors hc hcompleted)
  | @refused args past read record hrefused hread hkey hrecord hunmarked hargs hrevision =>
    obtain ⟨g, older, hg, hcaller, hevent, hpast⟩ := exists_entry_of_suffix hrefused
    have hfiled := (hc.read_on_file (hg.subset List.mem_cons_self) hevent).1
    obtain ⟨e, older', he, hcaller', hmark, hpast'⟩ := exists_entry_of_historyOf hpast
    obtain ⟨⟨c₁, hc₁, hlog, hbefore⟩, -⟩ := hc.at_entry hg
    obtain ⟨⟨c₂, hc₂, hlog₂, hbefore₂⟩, -⟩ := hc₁.at_entry (hlog.symm ▸ he)
    -- what the call had read was still on file, in whatever version, when the request came
    rw [← hpast'] at hread
    obtain ⟨f, hf, -, hreading⟩ := mem_historyOf.mp hread
    obtain ⟨older'', hf'⟩ := exists_suffix_of_mem (hlog₂.symm ▸ hf)
    obtain ⟨current, hcurrent, -⟩ := RuntimeReachable.action_kept hc₂ hf'
      (RuntimeReachable.read_on_file hc₂ (hlog₂.symm ▸ hf) hreading).2
    rw [hbefore₂, hkey] at hcurrent
    have hexec := hc₁.exec (hlog.symm ▸ he.subset List.mem_cons_self)
    rw [hmark] at hexec
    obtain ⟨hfalse, hafter⟩ := World.StoreCall.ok hexec
    rw [← hargs] at hcurrent
    obtain ⟨hsame, hguard⟩ :=
      MemoryActionStore.markErasurePending_false hcurrent (Except.ok.inj hfalse)
    rw [hargs] at hcurrent
    have hcurrent' : e.after.store.proposals key = some current := by
      rw [hafter]
      exact (congrArg (fun store ↦ store.proposals key) hsame).trans hcurrent
    have hunmarked' : current.erasureMarked = false := by
      by_contra hmarked
      rw [Bool.not_eq_false] at hmarked
      obtain ⟨current', hfound, hretained⟩ :=
        RuntimeReachable.marked_kept hexecutors hc₁ (hlog.symm ▸ he) hcurrent' hmarked
      rw [hbefore, ← hrecord, hfiled] at hfound
      cases hfound
      rw [hretained.erasureMarked hmarked] at hunmarked
      cases hunmarked
    refine Or.inr ⟨e, older', args, read, current, he.trans ((List.suffix_cons _ _).trans hg),
      hcaller', hmark, ?_, hcurrent, hunmarked', ?_⟩
    · rw [← hkey]
      exact hread
    · rcases hguard with hchanged | hstatus | herased
      · exact Or.inl (hrevision ▸ hchanged)
      · exact Or.inr hstatus
      · exact absurd (erasedAt_of_unmarked hunmarked') herased

/-- Erasure was pending for whatever is erased. -/
theorem RuntimeReachable.pending_first
    (hexecutors : ∀ definition, LawfulExecutor hostIssues definition (executorOf definition))
    (hc : RuntimeReachable env executorOf start c) {key : ProposalKey} {record : StoredProposal}
    (hrecord : c.shared.store.proposals key = some record) (herased : record.erasedAt ≠ none) :
    PendingStored c.log key := by
  refine RuntimeReachable.induction (P := fun log world ↦ ∀ record,
    world.store.proposals key = some record → record.erasedAt ≠ none → PendingStored log key)
    hexecutors ?_ ?_ ?_ hc record hrecord herased
  · intro record hrecord
    cases hrecord
  · intro c hc i o answer world' hissues hexec ih record hrecord herased
    rcases hc.change hissues hexec key with hsame | ⟨updated, hafter, hchange⟩
    · exact (ih record (hsame ▸ hrecord) herased).cons _
    · rw [hafter] at hrecord
      obtain rfl := Option.some.inj hrecord
      generalize hbefore : c.shared.store.proposals key = before at hchange
      cases hchange with
      | created _ _ hvalid => exact absurd (validateProposalCreate_ok hvalid).2.2.2.1 herased
      | written _ hissued =>
        refine absurd (erasedAt_of_unmarked ?_) herased
        exact hissued.write.erasureMarked.trans hissued.unmarked
      | admitted _ hissued =>
        rw [hissued.updated] at herased
        exact absurd (erasedAt_of_unmarked hissued.unmarked) herased
      | erasureMarked _ _ hunmarked => exact absurd (erasedAt_of_unmarked hunmarked) herased
      | erased _ hpending => exact ⟨_, List.mem_cons_self, _, hbefore, hpending⟩
  · exact fun _ _ _ _ ih ↦ ih

/-- **Whatever `erase` destroys was pending for erasure before.** -/
theorem RuntimeReachable.destroyed_pending
    (hexecutors : ∀ definition, LawfulExecutor hostIssues definition (executorOf definition))
    (hc : RuntimeReachable env executorOf start c) {e : Entry (runtimeSignature V H) Exn World}
    {past : RuntimeLog V H} (he : e :: past <:+ c.log) {runtime : ActionRuntime}
    {definition : ActionDeclaration V} {proposalReference : SafeReference} {context : ReadContext}
    {p : Coroutine V H ActionOperationResult}
    (hcall : c.calls[e.caller]? = some (.erase runtime definition proposalReference context, p))
    {proposalIdentity : ProposalIdentity} {m : Material}
    (hdestroys : e.event.op.destroys = some (proposalIdentity, m)) :
    PendingStored (e :: past)
      (proposalIdentity.tenantReference, proposalIdentity.proposalReference) := by
  have hexecutes : Executes erasing.legal _ [] p (historyOf c.log e.caller) :=
    Reachable.executes (fun _ _ _ _ _ ↦ trivial) hc hcall
  have hforeign : ¬Obtained (historyOf past e.caller) m := by
    rintro ⟨ev, hev, hout⟩
    obtain ⟨older, hsuffix⟩ := exists_suffix_of_mem hev
    have hpast := historyOf_suffix ((List.suffix_cons e past).trans he) e.caller
    have hnone := ((erase_erasing runtime definition proposalReference context).issued hexecutes
      (hsuffix.trans hpast)).1 ev.answer
    rw [HandsOut, hnone] at hout
    cases hout
  obtain ⟨record, hrecord, hmarked⟩ :=
    RuntimeReachable.destroyed_marked hexecutors hc he hdestroys hforeign
  rw [StoredProposal.erasureMarked, Bool.or_eq_true, Option.isSome_iff_ne_none,
    Option.isSome_iff_ne_none] at hmarked
  rcases hmarked with hpending | herased
  · exact ⟨e, List.mem_cons_self, record, hrecord, hpending⟩
  · obtain ⟨⟨c₁, hc₁, hlog, hbefore⟩, -⟩ := hc.at_entry he
    rw [← hbefore] at hrecord
    rw [← hlog]
    exact (RuntimeReachable.pending_first hexecutors hc₁ hrecord herased).cons e

/-! ## Calling `erase` again -/

/-- The proposal is on file as `record` after `g`, call `i` works for the definition of its action
and began after `g`, and no operation it performed failed. -/
structure ErasesAgain (c : RuntimeConfig V H) (i : ℕ) (definition : ActionDeclaration V)
    (key : ProposalKey) (g : Entry (runtimeSignature V H) Exn World) (older : RuntimeLog V H)
    (record : StoredProposal) : Prop where
  logged : g :: older <:+ c.log
  filed : g.after.store.proposals key = some record
  begins : historyOf (g :: older) i = []
  action : record.actionType = definition.actionType
  succeeds : ∀ ev ∈ historyOf c.log i, fails ev = false

/-- A call that erases again is not hindered. -/
theorem ErasesAgain.unhindered (hc : RuntimeReachable env executorOf start c) {i : ℕ}
    {definition : ActionDeclaration V} {key : ProposalKey}
    {g : Entry (runtimeSignature V H) Exn World} {older : RuntimeLog V H} {record : StoredProposal}
    (hagain : ErasesAgain c i definition key g older record)
    {ev : Event (runtimeSignature V H) Exn} (hev : ev ∈ historyOf c.log i) :
    ¬Hinders definition key ev := by
  intro hhinders
  cases hhinders with
  | fails hfails =>
    rw [hagain.succeeds ev hev] at hfails
    cases hfails
  | @missing found hmissing =>
    obtain ⟨e, he, hcaller, hevent⟩ := mem_historyOf.mp hev
    obtain ⟨past, hsuffix⟩ := exists_suffix_of_mem he
    obtain ⟨⟨c₁, hc₁, hlog, hbefore⟩, -⟩ := hc.at_entry hsuffix
    have hafter := suffix_of_historyOf_eq_nil hagain.logged hagain.begins hsuffix hcaller
    obtain ⟨current, hcurrent, haction⟩ :=
      RuntimeReachable.action_kept hc₁ (hlog.symm ▸ hafter) hagain.filed
    have hexec := hc.exec he
    rw [hevent] at hexec
    obtain ⟨hread, -⟩ := World.StoreCall.ok hexec
    rw [hbefore] at hcurrent
    have hfound : found = some current := (Except.ok.inj hread).symm.trans hcurrent
    have howned : EffectsOwned e.before.store := hbefore ▸ RuntimeReachable.effectsOwned hc₁
    exact hmissing current hfound (howned.filed _ _ hcurrent) (haction.trans hagain.action)

/-- **Calling `erase` again erases the proposal**, within ten operations, unless it was not marked
and the request to mark it is refused. -/
theorem RuntimeReachable.erases_again
    (hexecutors : ∀ definition, LawfulExecutor hostIssues definition (executorOf definition))
    (hc : RuntimeReachable env executorOf start c) {i : ℕ} {runtime : ActionRuntime}
    {definition : ActionDeclaration V} {proposalReference : SafeReference} {context : ReadContext}
    {p : Coroutine V H ActionOperationResult}
    (hcall : c.calls[i]? = some (.erase runtime definition proposalReference context, p))
    (hretention : runtime.hasRetentionStore = true)
    {g : Entry (runtimeSignature V H) Exn World} {older : RuntimeLog V H} {record : StoredProposal}
    (hagain : ErasesAgain c i definition (context.tenantReference, proposalReference) g older
      record) :
    (10 ≤ (historyOf c.log i).length → p.ending.isSome = true) ∧
      (p.ending.isSome = true →
        (∃ current, c.shared.store.proposals (context.tenantReference, proposalReference) =
          some current ∧ current.erasedAt ≠ none) ∨
        record.erasureMarked = false ∧
          MarkRefused c.log i (context.tenantReference, proposalReference)) := by
  have hmeets : p.Meets erasing
      (EndsErasure definition (context.tenantReference, proposalReference)) (historyOf c.log i) := by
    refine (erase_meets hretention definition proposalReference context).executes ?_
    exact Reachable.executes (fun _ _ _ _ _ ↦ trivial) hc hcall
  refine ⟨fun hlength ↦ ?_, fun hended ↦ ?_⟩
  · cases p with
    | ret | raise => rfl
    | call o next =>
      have hbound := hmeets.1.2
      omega
  · obtain ⟨r, rfl⟩ := Program.exists_orRaise hended
    rw [meets_orRaise] at hmeets
    cases r with
    | error e =>
      obtain ⟨ev, hev, hhinders⟩ := hmeets
      exact absurd hhinders (hagain.unhindered hc hev)
    | ok result =>
      refine (hc.ending_erased hexecutors hmeets).imp_right fun hrefused ↦ ⟨?_, hrefused⟩
      -- a mark that was on file when the call began would still have been there
      obtain ⟨e, past, args, read, current, he, hcaller, hevent, -, hcurrent, hunmarked, -⟩ :=
        hrefused
      by_contra hmarked
      rw [Bool.not_eq_false] at hmarked
      have hafter := suffix_of_historyOf_eq_nil hagain.logged hagain.begins he hcaller
      obtain ⟨⟨c₁, hc₁, hlog, hbefore⟩, -⟩ := hc.at_entry he
      obtain ⟨current', hfound, hretained⟩ :=
        RuntimeReachable.marked_kept hexecutors hc₁ (hlog.symm ▸ hafter) hagain.filed hmarked
      rw [hbefore, hcurrent] at hfound
      obtain rfl := Option.some.inj hfound
      rw [hretained.erasureMarked hmarked] at hunmarked
      cases hunmarked

end Returned

/-- **Erasure under interleaving.** In every run: what a call of `erase` destroys belongs to a
proposal for which erasure was stored as pending before; once it is, nothing but the completion of
the erasure touches the record, and nothing is admitted for it; a record becomes erased after the
worker that completes the erasure had destroyed all it referred to, and is free of content; and a
call of `erase` on a proposal that is on file, none of whose operations fails, ends within ten
operations and leaves the proposal erased, unless it was not marked before and the store refused to
mark it. -/
theorem erasure_respected [UnicodeNormalization] {env : Env V H} {start : Timestamp}
    {c : RuntimeConfig V H} (hc : RuntimeReachable env (hostExecutors V H) start c) :
    (∀ e past, e :: past <:+ c.log →
      (∀ runtime definition proposalReference context p proposalIdentity m,
        c.calls[e.caller]? = some (.erase runtime definition proposalReference context, p) →
        e.event.op.destroys = some (proposalIdentity, m) → PendingStored (e :: past)
          (proposalIdentity.tenantReference, proposalIdentity.proposalReference)) ∧
      ∀ key record, e.before.store.proposals key = some record →
        (record.erasureMarked = true → Untouched e key record) ∧
        ∀ updated, e.after.store.proposals key = some updated → record.erasedAt = none →
          updated.erasedAt ≠ none → contentFree updated = true ∧
            ∀ m, record.RefersTo m → Destroyed (historyOf past e.caller) record.proposalIdentity m) ∧
    ∀ i runtime definition proposalReference context p,
      c.calls[i]? = some (.erase runtime definition proposalReference context, p) →
      runtime.hasRetentionStore = true → ∀ g older record,
      ErasesAgain c i definition (context.tenantReference, proposalReference) g older record →
        (10 ≤ (historyOf c.log i).length → p.ending.isSome = true) ∧
        (p.ending.isSome = true →
          (∃ current, c.shared.store.proposals (context.tenantReference, proposalReference) =
            some current ∧ current.erasedAt ≠ none) ∨
          record.erasureMarked = false ∧
            MarkRefused c.log i (context.tenantReference, proposalReference)) := by
  refine ⟨fun e past he ↦ ⟨?_, fun key record hrecord ↦ ⟨?_, ?_⟩⟩, ?_⟩
  · intro runtime definition proposalReference context p proposalIdentity m hcall hdestroys
    exact RuntimeReachable.destroyed_pending hostExecutors_lawful_any hc he hcall hdestroys
  · intro hmarked
    exact RuntimeReachable.untouched hostExecutors_lawful_any hc he hrecord hmarked
  · intro updated hafter hunerased herased
    exact RuntimeReachable.erased_after_destruction hostExecutors_lawful_any hc he hrecord hafter
      hunerased herased
  · intro i runtime definition proposalReference context p hcall hretention g older record hagain
    exact hc.erases_again hostExecutors_lawful_any hcall hretention hagain

/-! ## An abandoned erasure -/

section Sample

attribute [local instance] normalizedTexts

/-- A request to erase the sample proposal. -/
def sampleErase : Turn (RuntimeCall SampleModel) Timestamp :=
  .spawn (.erase sampleRuntime sampleDefinition "proposal" ⟨"tenant", ⟨"reader"⟩⟩)

/-- One call marks the sample proposal and is abandoned, another erases it. -/
def abandonedErasure : RuntimeConfig SampleModel noOperations :=
  sampleRun sampleAcceptance sampleConfirmation
    ([.spawn (.prepare sampleRuntime sampleDefinition "tenant" .command ⟨"requester"⟩ none
      (some "proposal")), sampleErase, sampleErase] ++ turnsOf 0 8 ++ turnsOf 1 5 ++ turnsOf 2 8)

/-- Whether call `i` erases the sample proposal, began when `n` operations were still to come and the
proposal was marked, and ended without a failure. -/
def erasesMarked (c : RuntimeConfig SampleModel noOperations) (i n : ℕ) : Bool :=
  match c.calls[i]?, c.log.drop n with
  | some (.erase runtime definition proposalReference context, p), g :: older =>
    (g.after.store.proposals ("tenant", "proposal")).any fun record ↦
      record.erasureMarked && decide (record.actionType = definition.actionType) &&
        runtime.hasRetentionStore && p.ending.isSome && (historyOf (g :: older) i).isEmpty &&
        decide ((context.tenantReference, proposalReference) = ("tenant", "proposal")) &&
        (historyOf c.log i).all fun ev ↦ !fails ev
  | _, _ => false

theorem exists_erasesAgain {c : RuntimeConfig SampleModel noOperations} {i n : ℕ}
    (hfacts : erasesMarked c i n = true) :
    ∃ runtime definition proposalReference context p g older record,
      c.calls[i]? = some (.erase runtime definition proposalReference context, p) ∧
      runtime.hasRetentionStore = true ∧ p.ending.isSome = true ∧
      (context.tenantReference, proposalReference) = ("tenant", "proposal") ∧
      record.erasureMarked = true ∧
      ErasesAgain c i definition (context.tenantReference, proposalReference) g older record := by
  rw [erasesMarked] at hfacts
  split at hfacts
  · rename_i runtime definition proposalReference context p g older hcall hlog
    obtain ⟨record, hfiled, hrecord⟩ := (Option.any_eq_true _ _).mp hfacts
    simp only [Bool.and_eq_true, decide_eq_true_eq, List.all_eq_true, Bool.not_eq_true',
      List.isEmpty_iff] at hrecord
    obtain ⟨⟨⟨⟨⟨⟨hmarked, haction⟩, hretention⟩, hended⟩, hbegins⟩, hkey⟩, hsucceeds⟩ := hrecord
    refine ⟨runtime, definition, proposalReference, context, p, g, older, record, hcall, hretention,
      hended, hkey, hmarked, ?_, hkey ▸ hfiled, hbegins, haction, hsucceeds⟩
    rw [← hlog]
    exact List.drop_suffix n c.log
  · cases hfacts

theorem abandonedErasure_facts : erasesMarked abandonedErasure 2 8 = true := by
  decide +kernel

/-- The second call erases what the first one marked. -/
theorem erasure_respected_sample :
    ∃ current, abandonedErasure.shared.store.proposals ("tenant", "proposal") = some current ∧
      current.erasedAt ≠ none := by
  obtain ⟨runtime, definition, proposalReference, context, p, g, older, record, hcall, hretention,
    hended, hkey, hmarked, hagain⟩ := exists_erasesAgain abandonedErasure_facts
  have herased := ((erasure_respected (sampleRun_reachable _ _ _)).2 2 runtime definition
    proposalReference context p hcall hretention g older record hagain).2 hended
  rw [hkey] at herased
  rcases herased with herased | ⟨hunmarked, -⟩
  · exact herased
  · rw [hmarked] at hunmarked
    cases hunmarked

end Sample

end ThrevoActions
