import ThrevoActions.Runtime.Dispatch

/-!
# Versions and attempts

A version of a record is stored by at most one logged operation (`RuntimeReachable.stored_once`),
because revisions only grow. An attempt is the version in `executing` that an admission stored, so
whatever is written over it was written by the call that admitted it or by a call that took it over
(`RuntimeReachable.leaves_cases`).
-/

namespace ThrevoActions

open Interleaving
open MemoryActionStore (EffectsOwned)

variable {V : Type} [HostModels V] {H : Signature}

section Reachable

variable [UnicodeNormalization] {env : Env V H} {executorOf : ExecutorOf V H} {hostIssues : RuntimeHistory V H → H.Op → Prop}
  {start : Timestamp} {c : RuntimeConfig V H}

/-! ## Logged operations -/

namespace RuntimeReachable

variable {e : Entry (runtimeSignature V H) Exn World} {past : RuntimeLog V H}

/-- The store around a logged operation keeps its ownership invariant. -/
theorem effectsOwned_at (hc : RuntimeReachable env executorOf start c)
    (he : e :: past <:+ c.log) :
    EffectsOwned e.before.store ∧ EffectsOwned e.after.store := by
  obtain ⟨⟨c₁, hc₁, -, hbefore⟩, c₂, hc₂, -, hafter⟩ := hc.at_entry he
  have howned₁ := effectsOwned hc₁
  have howned₂ := effectsOwned hc₂
  rw [hbefore] at howned₁
  rw [hafter] at howned₂
  exact ⟨howned₁, howned₂⟩

/-- What a logged operation did to the record under `key`. -/
theorem change_at
    (hexecutors : ∀ definition, LawfulExecutor hostIssues definition (executorOf definition))
    (hc : RuntimeReachable env executorOf start c) (he : e :: past <:+ c.log)
    (key : ProposalKey) :
    e.after.store.proposals key = e.before.store.proposals key ∨
      ∃ record, e.after.store.proposals key = some record ∧
        Change (historyOf past e.caller) e.event.op (e.before.store.proposals key) record := by
  have hexec := hc.exec (he.subset List.mem_cons_self)
  have hissued := hc.issued hexecutors he
  obtain ⟨⟨c₁, hc₁, hlog, hbefore⟩, -⟩ := hc.at_entry he
  rw [← hbefore] at hexec ⊢
  rw [← hlog] at hissued ⊢
  exact RuntimeReachable.change hc₁ hissued hexec key

/-- A version once stored is never taken back. -/
theorem upToDate_after (hc : RuntimeReachable env executorOf start c)
    (he : e :: past <:+ c.log) {key : ProposalKey} {record : StoredProposal}
    (hstored : e.after.store.proposals key = some record) : c.shared.store.UpToDate record := by
  have hkey := (effectsOwned_at hc he).2.filed _ _ hstored
  induction hc with
  | initial => cases List.suffix_nil.mp he
  | @step c c' hc hstep ih =>
    cases hstep with
    | spawn => exact ih he
    | act i answer world' _ hexec =>
      rcases List.suffix_cons_iff.mp he with heq | he
      · obtain ⟨rfl, rfl⟩ := List.cons.inj heq
        exact ⟨record, by rwa [hkey], Or.inl rfl⟩
      · exact World.exec_upToDate (effectsOwned hc) hexec (ih he)
    | drift world' hdrift =>
      rw [(drift_store hdrift).1]
      exact ih he

/-- The same, before a later logged operation. -/
theorem upToDate_before (hc : RuntimeReachable env executorOf start c)
    {e' : Entry (runtimeSignature V H) Exn World} {past' : RuntimeLog V H}
    (he' : e' :: past' <:+ c.log) (he : e :: past <:+ past') {key : ProposalKey}
    {record : StoredProposal} (hstored : e.after.store.proposals key = some record) :
    e'.before.store.UpToDate record := by
  obtain ⟨⟨c₁, hc₁, rfl, hbefore⟩, -⟩ := hc.at_entry he'
  rw [← hbefore]
  exact upToDate_after hc₁ he hstored

end RuntimeReachable

/-- The operation newly stores `record` under `key`. -/
structure Stores (e : Entry (runtimeSignature V H) Exn World) (key : ProposalKey)
    (record : StoredProposal) : Prop where
  stored : e.after.store.proposals key = some record
  new : e.before.store.proposals key ≠ some record

namespace RuntimeReachable

/-- A version on file is not stored a second time. -/
theorem not_stored_again (hc : RuntimeReachable env executorOf start c)
    {e e' : Entry (runtimeSignature V H) Exn World} {past past' : RuntimeLog V H}
    (he' : e' :: past' <:+ c.log) (he : e :: past <:+ past') {key : ProposalKey}
    {record : StoredProposal} (hstored : e.after.store.proposals key = some record) :
    ¬Stores e' key record := by
  rintro ⟨hstored', hnew'⟩
  have hkey := (effectsOwned_at hc (he.trans ((List.suffix_cons _ _).trans he'))).2.filed _ _
    hstored
  obtain ⟨current, hcurrent, hversion⟩ := upToDate_before hc he' he hstored
  rw [hkey] at hcurrent
  have hexec := hc.exec (he'.subset List.mem_cons_self)
  rcases World.exec_store hexec with hsame | ⟨call, -, hcall⟩
  · rw [hsame] at hstored'
    exact hnew' hstored'
  · rcases MemoryActionStore.after_advances (effectsOwned_at hc he').1 call key with
      hsame | ⟨hnone, -⟩ | ⟨current', updated, hcurrent', hupdated, -, hrevision⟩
    · rw [hcall, hsame] at hstored'
      exact hnew' hstored'
    · rw [hcurrent] at hnone
      cases hnone
    · -- the revision of `record` would have to exceed itself
      rw [hcurrent] at hcurrent'
      rw [hcall, hupdated] at hstored'
      cases hcurrent'
      cases hstored'
      rcases hversion with rfl | hlt
      · omega
      · omega

/-- **Every version is stored once.** -/
theorem stored_once (hc : RuntimeReachable env executorOf start c)
    {e e' : Entry (runtimeSignature V H) Exn World} {past past' : RuntimeLog V H}
    (he : e :: past <:+ c.log) (he' : e' :: past' <:+ c.log) {key : ProposalKey}
    {record : StoredProposal} (hstores : Stores e key record) (hstores' : Stores e' key record) :
    e :: past = e' :: past' := by
  rcases suffix_trichotomy he he' with heq | h | h
  · exact heq
  · exact absurd hstores' (not_stored_again hc he' h hstores.stored)
  · exact absurd hstores (not_stored_again hc he h hstores'.stored)

end RuntimeReachable

/-! ## Erasure marks -/

/-- Only proposals with no attempt in flight are marked for erasure. -/
theorem RuntimeReachable.marked_erasable
    (hexecutors : ∀ definition, LawfulExecutor hostIssues definition (executorOf definition))
    (hc : RuntimeReachable env executorOf start c) {key : ProposalKey} {record : StoredProposal}
    (hrecord : c.shared.store.proposals key = some record)
    (hmarked : record.erasureMarked = true) :
    record.lifecycleStatus ∈ erasableLifecycleStatuses := by
  revert record
  refine RuntimeReachable.induction (P := fun _ world ↦ ∀ {record : StoredProposal},
    world.store.proposals key = some record → record.erasureMarked = true →
      record.lifecycleStatus ∈ erasableLifecycleStatuses) hexecutors ?_ ?_ ?_ hc
  · intro record hrecord
    cases hrecord
  · intro c hc i o answer world' hissues hexec ih record hrecord hmarked
    rcases hc.change hissues hexec key with hsame | ⟨record', hafter, hchange⟩
    · exact ih (hsame ▸ hrecord) hmarked
    · rw [hafter] at hrecord
      cases hrecord
      generalize hbefore : c.shared.store.proposals key = before at hchange
      cases hchange with
      | created _ _ hvalid =>
        obtain ⟨-, -, hpending, herased, -⟩ := validateProposalCreate_ok hvalid
        rw [StoredProposal.erasureMarked, hpending, herased] at hmarked
        cases hmarked
      | written _ hissued _ =>
        rw [hissued.write.erasureMarked, hissued.unmarked] at hmarked
        cases hmarked
      | admitted _ hissued _ _ =>
        have hunmarked := hissued.unmarked
        rw [hissued.updated] at hmarked
        rw [StoredProposal.erasureMarked] at hmarked hunmarked
        rw [← Bool.not_eq_true] at hunmarked
        exact absurd hmarked hunmarked
      | erasureMarked _ hstatus _ => exact hstatus
      | @erased args current _ hpending _ =>
        have hcurrent : current.erasureMarked = true := by
          rw [StoredProposal.erasureMarked, Option.isSome_iff_ne_none.mpr hpending]
          rfl
        have hstatus := ih hbefore hcurrent
        exact hstatus
  · intro log world time _ ih record hrecord hmarked
    exact ih hrecord hmarked

/-- A proposal with an attempt in flight is not marked for erasure. -/
theorem RuntimeReachable.unmarked_of_executing
    (hexecutors : ∀ definition, LawfulExecutor hostIssues definition (executorOf definition))
    (hc : RuntimeReachable env executorOf start c) {key : ProposalKey} {record : StoredProposal}
    (hrecord : c.shared.store.proposals key = some record)
    (hstatus : record.lifecycleStatus = .executing) : record.erasureMarked = false := by
  rw [← Bool.not_eq_true]
  intro hmarked
  have herasable := hc.marked_erasable hexecutors hrecord hmarked
  rw [hstatus] at herasable
  exact executing_not_erasable herasable

/-! ## Attempts -/

/-- The step stores `executing` under `key`: it admits the proposal for execution. -/
structure Admits (e : Entry (runtimeSignature V H) Exn World) (key : ProposalKey)
    (executing : StoredProposal) : Prop extends Stores e key executing where
  status : executing.lifecycleStatus = .executing

/-- An admitted proposal is filed under its own key and owns its effect from then on. -/
theorem Admits.owns (hc : RuntimeReachable env executorOf start c)
    {e : Entry (runtimeSignature V H) Exn World} {older : RuntimeLog V H}
    (he : e :: older <:+ c.log) {key : ProposalKey} {executing : StoredProposal}
    (hadmits : Admits e key executing) :
    executing.key = key ∧ e.after.store.effectClaims executing.effectKey = some key.2 := by
  obtain ⟨-, c', hc', -, hshared⟩ := hc.at_entry he
  have howned := RuntimeReachable.effectsOwned hc'
  rw [hshared] at howned
  have hkey := howned.filed _ _ hadmits.stored
  refine ⟨hkey, ?_⟩
  rw [howned.owned _ _ hadmits.stored (by rw [hadmits.status]; rfl), ← hkey]
  rfl

/-- An attempt is admitted by an admission, and under the conditions of one. -/
theorem Admits.issued
    (hexecutors : ∀ definition, LawfulExecutor hostIssues definition (executorOf definition))
    (hc : RuntimeReachable env executorOf start c)
    {e : Entry (runtimeSignature V H) Exn World} {older : RuntimeLog V H}
    (he : e :: older <:+ c.log) {key : ProposalKey} {executing : StoredProposal}
    (hadmits : Admits e key executing) :
    ∃ args runtime definition record executionPrecondition reference,
      e.event.op = .admitExecution args ∧ args.updated = executing ∧
        AdmissionIssued (historyOf older e.caller) args runtime definition record
          executionPrecondition reference := by
  rcases hc.change_at hexecutors he key with hsame | ⟨record, hafter, hchange⟩
  · exact absurd (hsame ▸ hadmits.stored) hadmits.new
  · rw [hadmits.stored] at hafter
    cases hafter
    have hstatus := hadmits.status
    generalize hbefore : e.before.store.proposals key = before at hchange
    cases hchange with
    | created _ _ hvalid =>
      rw [(validateProposalCreate_ok hvalid).2.1] at hstatus
      cases hstatus
    | written _ hissued _ => exact absurd hstatus hissued.write.not_executing
    | admitted ho hissued _ _ => exact ⟨_, _, _, _, _, _, ho, rfl, hissued⟩
    | erasureMarked _ herasable _ =>
      rw [proposalWithErasurePending] at hstatus
      rw [hstatus] at herasable
      exact absurd herasable executing_not_erasable
    | @erased args current _ hpending _ =>
      obtain ⟨⟨c₁, hc₁, -, hshared⟩, -⟩ := hc.at_entry he
      rw [← hshared] at hbefore
      have hunmarked := RuntimeReachable.unmarked_of_executing hexecutors hc₁ hbefore hstatus
      rw [StoredProposal.erasureMarked, Option.isSome_iff_ne_none.mpr hpending] at hunmarked
      cases hunmarked

/-- The attempt `executing` is on file before the operation and no longer after it. -/
structure Leaves (e : Entry (runtimeSignature V H) Exn World) (key : ProposalKey)
    (executing : StoredProposal) : Prop where
  was : e.before.store.proposals key = some executing
  left : e.after.store.proposals key ≠ some executing

namespace RuntimeReachable

variable {a : Entry (runtimeSignature V H) Exn World} {older : RuntimeLog V H}
  {key : ProposalKey} {executing : StoredProposal}

/-- A granted admission admits what it was asked to store. -/
theorem admits_of_granted (hc : RuntimeReachable env executorOf start c)
    {e : Entry (runtimeSignature V H) Exn World} {past : RuntimeLog V H}
    (he : e :: past <:+ c.log) {args : MemoryActionStore.AdmitExecution}
    {claim : EffectClaimResult} (hevent : e.event = ⟨.admitExecution args, .ok claim⟩)
    (hclaim : claim.admits = true) : Admits e args.updated.key args.updated := by
  have hexec := hc.exec (he.subset List.mem_cons_self)
  rw [hevent] at hexec
  obtain ⟨hanswer, hafter⟩ := World.StoreCall.ok hexec
  rcases MemoryActionStore.admitExecution_cases e.before.store args with
    ⟨-, hrefused⟩ | ⟨current, result, -, -, happlied⟩
  · rw [hrefused claim hanswer] at hclaim
    cases hclaim
  · refine ⟨⟨?_, fun hsame ↦ ?_⟩, happlied.executing⟩
    · rw [hafter, happlied.proposals]
      exact MemoryActionStore.put_proposals_self _ _
    · -- the record that was replaced was still authorized
      have hfound := happlied.found
      rw [← (effectsOwned_at hc he).1.filed _ _ happlied.found,
        StoredProposal.key_eq_of_identity happlied.accepted.identity, hsame] at hfound
      cases hfound
      have hauthorized := happlied.authorized
      rw [happlied.executing] at hauthorized
      cases hauthorized

/-- Only the call that stored an attempt knows that it was admitted. -/
theorem caller_of_admittedBy (hc : RuntimeReachable env executorOf start c)
    (ha : a :: older <:+ c.log) (hadmits : Admits a key executing) {i : ℕ}
    (hadmitted : AdmittedBy (historyOf c.log i) executing) : i = a.caller := by
  obtain ⟨args, claim, rfl, hclaim, hanswered⟩ := hadmitted
  obtain ⟨e, hlogged, rfl, hevent⟩ := mem_historyOf.mp hanswered
  obtain ⟨past, he⟩ := exists_suffix_of_mem hlogged
  have hadmits' := admits_of_granted hc he hevent hclaim
  rw [(hadmits.owns hc ha).1] at hadmits'
  have heq := stored_once hc he ha hadmits'.toStores hadmits.toStores
  exact congrArg Entry.caller (List.cons.inj heq).1

/-- Once an attempt is not on file any more, an operation took it away. -/
theorem exists_leaves (hc : RuntimeReachable env executorOf start c) (ha : a :: older <:+ c.log)
    (hstored : a.after.store.proposals key = some executing)
    (hgone : c.shared.store.proposals key ≠ some executing) :
    ∃ e between, e :: between <:+ c.log ∧ a :: older <:+ between ∧ Leaves e key executing := by
  induction hc with
  | initial => cases List.suffix_nil.mp ha
  | @step c c' hc hstep ih =>
    cases hstep with
    | spawn => exact ih ha hgone
    | act i answer world' _ hexec =>
      rcases List.suffix_cons_iff.mp ha with heq | ha
      · obtain ⟨rfl, rfl⟩ := List.cons.inj heq
        exact absurd hstored hgone
      · by_cases hwas : c.shared.store.proposals key = some executing
        · exact ⟨_, c.log, List.suffix_refl _, ha, hwas, hgone⟩
        · obtain ⟨e, between, he, hafter, hleaves⟩ := ih ha hwas
          exact ⟨e, between, he.trans (List.suffix_cons _ _), hafter, hleaves⟩
    | drift world' hdrift =>
      rw [(drift_store hdrift).1] at hgone
      exact ih ha hgone

/-- **Who takes an attempt off the file.** The call that admitted it, or a call that takes it over
after having found it due. -/
theorem leaves_cases
    (hexecutors : ∀ definition, LawfulExecutor hostIssues definition (executorOf definition))
    (hc : RuntimeReachable env executorOf start c) {e : Entry (runtimeSignature V H) Exn World}
    {past : RuntimeLog V H} (he : e :: past <:+ c.log) (ha : a :: older <:+ past)
    (hadmits : Admits a key executing) (hleaves : Leaves e key executing) :
    e.caller = a.caller ∨ ∃ now, Answered (historyOf past e.caller) .now now ∧
      notYetDue executing now = false := by
  obtain ⟨⟨c₁, hc₁, hlog, hshared⟩, -⟩ := hc.at_entry he
  rcases hc.change_at hexecutors he key with hsame | ⟨record, hafter, hchange⟩
  · exact absurd (hsame.trans hleaves.was) hleaves.left
  · have hstatus := hadmits.status
    generalize hbefore : e.before.store.proposals key = before at hchange
    rw [hleaves.was] at hbefore
    cases hbefore
    cases hchange with
    | written _ hissued _ =>
      rcases hissued.write.of_executing hstatus with hadmitted | ⟨-, hdue⟩
      · rw [← hlog] at ha hadmitted
        exact Or.inl (caller_of_admittedBy hc₁ ha hadmits hadmitted)
      · exact Or.inr hdue
    | admitted _ hissued _ _ =>
      rw [hissued.authorized] at hstatus
      cases hstatus
    | erasureMarked _ herasable _ =>
      rw [hstatus] at herasable
      exact absurd herasable executing_not_erasable
    | erased _ hpending _ =>
      have hwas := hleaves.was
      rw [← hshared] at hwas
      have hunmarked := unmarked_of_executing hexecutors hc₁ hwas hstatus
      rw [StoredProposal.erasureMarked, Option.isSome_iff_ne_none.mpr hpending] at hunmarked
      cases hunmarked

/-- Once an attempt was taken off the file, only later revisions are on file. -/
theorem revision_after_leaves (hc : RuntimeReachable env executorOf start c)
    (hadmits : Admits a key executing)
    {t e : Entry (runtimeSignature V H) Exn World} {between past : RuntimeLog V H}
    (he : e :: past <:+ c.log) (ht : t :: between <:+ past) (ha : a :: older <:+ between)
    (hleaves : Leaves t key executing) :
    ∃ current, e.before.store.proposals key = some current ∧
      executing.revision < current.revision := by
  have hpast : past <:+ c.log := (List.suffix_cons _ _).trans he
  have hkey := (hadmits.owns hc (ha.trans ((List.suffix_cons _ _).trans (ht.trans hpast)))).1
  -- right after `t` a later revision is on file
  obtain ⟨-, c₂, hc₂, hlog, hshared⟩ := hc.at_entry (ht.trans hpast)
  have ha₂ : a :: older <:+ c₂.log := by
    rw [hlog]
    exact ha.trans (List.suffix_cons _ _)
  obtain ⟨record, hrecord, hversion⟩ := upToDate_after hc₂ ha₂ hadmits.stored
  rw [hkey, hshared] at hrecord
  have hlater : executing.revision < record.revision := by
    rcases hversion with rfl | hlt
    · exact absurd hrecord hleaves.left
    · exact hlt
  -- and since then revisions only grew
  obtain ⟨current, hcurrent, hversion'⟩ := upToDate_before hc he ht hrecord
  rw [(effectsOwned_at hc (ht.trans hpast)).2.filed _ _ hrecord] at hcurrent
  refine ⟨current, hcurrent, ?_⟩
  rcases hversion' with rfl | hlt
  · exact hlater
  · exact hlater.trans hlt

/-- **A call writes nothing once its own attempt was taken off the file.** -/
theorem writes_nothing
    (hexecutors : ∀ definition, LawfulExecutor hostIssues definition (executorOf definition))
    (hc : RuntimeReachable env executorOf start c) (hadmits : Admits a key executing)
    {t e : Entry (runtimeSignature V H) Exn World} {between past : RuntimeLog V H}
    (he : e :: past <:+ c.log) (ht : t :: between <:+ past) (ha : a :: older <:+ between)
    (hleaves : Leaves t key executing) (hcaller : e.caller = a.caller)
    {args : MemoryActionStore.CompareAndSet} (hop : e.event.op = .compareAndSet args) :
    e.after.store = e.before.store := by
  have hpast : past <:+ c.log := (List.suffix_cons _ _).trans he
  have hlogged : a :: older <:+ past := ha.trans ((List.suffix_cons _ _).trans ht)
  obtain ⟨args₀, _, _, _, _, _, hadmission, hupdated, -⟩ :=
    hadmits.issued hexecutors hc (hlogged.trans hpast)
  -- whatever the call writes is meant to replace its own attempt
  have hissued := hc.issued hexecutors he
  rw [hop] at hissued
  obtain ⟨current, updated, rfl, hissued⟩ := hissued
  have hasked : AdmissionAsked (historyOf past e.caller) args₀ := by
    obtain ⟨caller, ⟨o, answer⟩, before, after⟩ := a
    cases hadmission
    exact ⟨answer, mem_historyOf.mpr ⟨_, hlogged.subset List.mem_cons_self, hcaller.symm, rfl⟩⟩
  have hcurrent := hissued.settles args₀ hasked
  rw [hupdated] at hcurrent
  subst hcurrent
  -- which is an old revision by now
  obtain ⟨record, hrecord, hlater⟩ := revision_after_leaves hc hadmits he ht ha hleaves
  have hkey := (hadmits.owns hc (hlogged.trans hpast)).1
  have hexec := hc.exec (he.subset List.mem_cons_self)
  rcases World.exec_store hexec with hsame | ⟨call, hcall, hafter⟩
  · exact hsame
  · rw [hop] at hcall
    cases hcall
    rw [hafter]
    rcases MemoryActionStore.compareAndSet_cases e.before.store (casArguments current updated) with
      ⟨hsame, -⟩ | ⟨found, happlied⟩
    · exact hsame
    · have hfound : e.before.store.proposals key = some found := by
        rw [← hkey]
        exact happlied.found
      rw [hrecord] at hfound
      cases hfound
      have hrevision : record.revision = current.revision := happlied.revision
      omega

end RuntimeReachable

end Reachable

/-! ## Reading a log -/

/-- The lifecycle status on file under `key`. -/
def MemoryActionStore.statusOf (store : MemoryActionStore) (key : ProposalKey) :
    Option LifecycleStatus :=
  (store.proposals key).map (·.lifecycleStatus)

/-- An operation that turns a proposal from authorized to executing admits it. -/
theorem exists_admits {e : Entry (runtimeSignature V H) Exn World} {key : ProposalKey}
    (hbefore : e.before.store.statusOf key = some .authorized)
    (hafter : e.after.store.statusOf key = some .executing) :
    ∃ executing, Admits e key executing := by
  obtain ⟨executing, hstored, hstatus⟩ := Option.map_eq_some_iff.mp hafter
  refine ⟨executing, ⟨hstored, fun hsame ↦ ?_⟩, hstatus⟩
  rw [MemoryActionStore.statusOf, hsame, Option.map_some, hstatus] at hbefore
  cases hbefore

/-- The operation is `compare_and_set`. -/
def Op.isCompareAndSet : Op V H → Bool
  | .compareAndSet _ => true
  | _ => false

theorem exists_compareAndSet {o : Op V H} (ho : o.isCompareAndSet = true) :
    ∃ args, o = .compareAndSet args := by
  cases o with
  | compareAndSet args => exact ⟨args, rfl⟩
  | _ => cases ho

/-- What is computed of the entry that follows the `n` newest ones. -/
theorem eq_of_entry {β : Type} {log older : RuntimeLog V H}
    {e : Entry (runtimeSignature V H) Exn World} {n : ℕ} (he : log.drop n = e :: older)
    {f : Entry (runtimeSignature V H) Exn World → β} {b : β}
    (hf : (log.drop n).head?.map f = some b) : f e = b := by
  rw [he] at hf
  exact Option.some.inj hf

/-- What is computed of two entries. -/
theorem eq_of_entries {β : Type} {log older older' : RuntimeLog V H}
    {e e' : Entry (runtimeSignature V H) Exn World} {n m : ℕ} (he : log.drop n = e :: older)
    (he' : log.drop m = e' :: older') {f g : Entry (runtimeSignature V H) Exn World → β}
    (hfg : (log.drop n).head?.map f = (log.drop m).head?.map g) : f e = g e' := by
  rw [he, he'] at hfg
  exact Option.some.inj hfg

end ThrevoActions
