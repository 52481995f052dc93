import ThrevoActions.Runtime.Erasure
import ThrevoActions.Runtime.EvidenceConsistency
import ThrevoActions.Runtime.Indifference
import ThrevoActions.Runtime.Reads

/-!
# Masked content

What is returned about a proposal marked for erasure. The readers mask its content and would return
the same whatever that is. A call that began after the mark goes on in the same way whatever the
content is, in any interleaving. A call that began earlier may report a version it reads back after
losing a guarded write, and that report is not masked: it carries the safe result, if there is one.
-/

namespace ThrevoActions

open Interleaving Interleaving.Program
open MemoryActionStore (EffectsOwned)

variable {V : Type} [HostModels V] {H : Signature} {α β : Type}

/-! ## The readers -/

section Readers

variable {mask : Mask} {E : RuntimeHistory V H → StoredProposal → Prop}

theorem readable_ignores {definition : ActionDeclaration V} {proposalReference : SafeReference}
    {context : ReadContext} {f : StoredProposal → Coroutine V H β}
    (hmarked : ∀ record, record.erasureMarked = true → f (record.without mask.evidence) = f record)
    (hnext : ∀ record h', Ignores mask E (f record) h') (h : RuntimeHistory V H) :
    Ignores mask E (readable definition proposalReference context >>= f) h := by
  rw [readable, LawfulMonad.bind_assoc]
  refine Ignores.required (fun record _ hcovers _ ↦ ?_) fun record _ _ ↦ ?_
  · simp only [LawfulMonad.bind_assoc, pure_bind]
    rw [hmarked record (Mask.marked_of_covers hcovers)]
    rfl
  · simp only [LawfulMonad.bind_assoc, pure_bind]
    exact Ignores.raiseIf fun _ ↦ Ignores.await (fun _ ↦ rfl) fun _ ↦ Ignores.raiseIf fun _ ↦
      hnext _ _

theorem read_ignores (definition : ActionDeclaration V) (proposalReference : SafeReference)
    (context : ReadContext) (h : RuntimeHistory V H) :
    Ignores mask E (read definition proposalReference context) h := by
  refine readable_ignores (fun record hmarked ↦ ?_) (fun _ _ ↦ Ignores.pure _ _) h
  have hmarked' : (record.without mask.evidence).erasureMarked = true := hmarked
  rw [proposalView, proposalView, hmarked, hmarked']
  rfl

theorem buildEvidenceBundle_without [UnicodeNormalization] [PydanticJson] {record : StoredProposal}
    (hmarked : record.erasureMarked = true) (evidence : Bool) (exportedAt : Timestamp)
    (exporterRuntimeRevision : SafeReference) :
    buildEvidenceBundle (record.without evidence) exportedAt exporterRuntimeRevision =
      buildEvidenceBundle record exportedAt exporterRuntimeRevision := by
  have hmarked' : (record.without evidence).erasureMarked = true := hmarked
  simp only [buildEvidenceBundle, evidenceOmissions, hmarked, hmarked', if_true]
  rfl

theorem exportEvidence_ignores [UnicodeNormalization] [PydanticJson] (runtime : ActionRuntime)
    (definition : ActionDeclaration V) (proposalReference : SafeReference) (context : ReadContext)
    (h : RuntimeHistory V H) :
    Ignores mask E (exportEvidence runtime definition proposalReference context) h := by
  refine readable_ignores (fun record hmarked ↦ ?_) (fun record h' ↦ ?_) h
  · simp only [buildEvidenceBundle_without hmarked]
  · refine Ignores.await (fun _ ↦ rfl) fun now ↦ ?_
    rw [← bind_pure (orRaise _)]
    exact Ignores.orRaise fun _ ↦ Ignores.pure _ _

theorem observeOwner_ignores (record : StoredProposal) (h : RuntimeHistory V H) :
    Ignores mask E (observeOwner record) h := by
  refine Ignores.attempt (fun _ ↦ rfl) fun owner ↦ ?_
  cases owner with
  | ok owner => exact Ignores.pure _ _
  | error failure => exact Ignores.raiseIf fun _ ↦ Ignores.pure _ _

/-- A marked owner is not shown. -/
theorem mayShowOwner_of_marked {definition : ActionDeclaration V} {record owner : StoredProposal}
    {context : ReadContext} {ownerReference : SafeReference} (hmarked : owner.erasureMarked = true) :
    mayShowOwner (H := H) definition record context ownerReference (some owner) = pure false := by
  refine if_neg fun hshows ↦ ?_
  rw [hmarked] at hshows
  cases hshows.2.2

theorem mayShowOwner_ignores (definition : ActionDeclaration V) (record : StoredProposal)
    (context : ReadContext) (ownerReference : SafeReference) (owner : Option StoredProposal)
    (h : RuntimeHistory V H) :
    Ignores mask E (mayShowOwner definition record context ownerReference owner) h := by
  cases owner with
  | none => exact Ignores.pure _ _
  | some owner =>
    rw [mayShowOwner]
    split
    · exact Ignores.port (fun _ ↦ rfl) _
    · exact Ignores.pure _ _

theorem readEffectOwner_ignores (definition : ActionDeclaration V) (record : StoredProposal)
    (context : ReadContext) (observedAt : Timestamp) (h : RuntimeHistory V H) :
    Ignores mask E (readEffectOwner definition record context observedAt) h := by
  refine Ignores.bind (observeOwner_ignores record h) fun _ observed ↦ ?_
  split
  · exact Ignores.pure _ _
  · exact Ignores.pure _ _
  · split
    · exact Ignores.pure _ _
    refine Ignores.get (fun owner hcovers _ ↦ ?_) fun owner _ ↦ ?_
    · have hmarked := Mask.marked_of_covers hcovers
      have hmarked' : (owner.without mask.evidence).erasureMarked = true := hmarked
      rw [mayShowOwner_of_marked hmarked, mayShowOwner_of_marked hmarked', pure_bind, pure_bind]
      rfl
    · refine Ignores.bind (mayShowOwner_ignores _ _ _ _ _ _) fun _ mayShow ↦ ?_
      refine Ignores.bind (observeOwner_ignores record _) fun _ confirmed ↦ ?_
      split <;> exact Ignores.pure _ _

theorem readRecovery_ignores (definition : ActionDeclaration V) (proposalReference : SafeReference)
    (context : ReadContext) (h : RuntimeHistory V H) :
    Ignores mask E (readRecovery definition proposalReference context) h := by
  refine readable_ignores (fun record hmarked ↦ ?_) (fun record h' ↦ ?_) h
  · have hmarked' : (record.without mask.evidence).erasureMarked = true := hmarked
    refine congrArg _ (funext fun observedAt ↦ ?_)
    rw [if_pos hmarked, if_pos hmarked']
    rfl
  · refine Ignores.await (fun _ ↦ rfl) fun observedAt ↦ ?_
    split
    · exact Ignores.pure _ _
    · exact Ignores.bind (readEffectOwner_ignores _ _ _ _ _) fun _ _ ↦ Ignores.pure _ _

end Readers

/-- The history as it is seen through the mask. -/
def Mask.view (mask : Mask) (h : RuntimeHistory V H) : RuntimeHistory V H :=
  (mask.disguise fun _ _ ↦ True).history h

/-! ## The calls -/

section Reachable

variable [UnicodeNormalization] {env : Env V H} {executorOf : ExecutorOf V H}
  {hostIssues : RuntimeHistory V H → H.Op → Prop} {start : Timestamp} {c : RuntimeConfig V H}

/-- What a coroutine knows was on file after one of its operations. -/
theorem RuntimeReachable.known_entry (hc : RuntimeReachable env executorOf start c) {i : ℕ}
    {record : StoredProposal} (hknown : Known (historyOf c.log i) record) :
    ∃ e past, e :: past <:+ c.log ∧ e.caller = i ∧
      e.after.store.proposals record.key = some record := by
  cases hknown with
  | read hread =>
    obtain ⟨e, he, hcaller, hevent⟩ := mem_historyOf.mp hread
    obtain ⟨past, hsuffix⟩ := exists_suffix_of_mem he
    exact ⟨e, past, hsuffix, hcaller, (hc.read_on_file he hevent).2⟩
  | @wrote current hwrote =>
    obtain ⟨e, he, hcaller, hevent⟩ := mem_historyOf.mp hwrote
    obtain ⟨past, hsuffix⟩ := exists_suffix_of_mem he
    have hexec := hc.exec he
    rw [hevent] at hexec
    obtain ⟨hwritten, hafter⟩ := World.StoreCall.ok hexec
    refine ⟨e, past, hsuffix, hcaller, ?_⟩
    rcases MemoryActionStore.compareAndSet_cases e.before.store (casArguments current record) with
      ⟨-, hrefused⟩ | ⟨current', happlied⟩
    · exact absurd hwritten hrefused
    · rw [hafter, happlied.result]
      exact MemoryActionStore.put_proposals_self _ _
  | admitted hadmitted =>
    obtain ⟨args, claim, rfl, hclaim, hanswered⟩ := hadmitted
    obtain ⟨e, he, hcaller, hevent⟩ := mem_historyOf.mp hanswered
    obtain ⟨past, hsuffix⟩ := exists_suffix_of_mem he
    have hexec := hc.exec he
    rw [hevent] at hexec
    obtain ⟨hadmitted, hafter⟩ := World.StoreCall.ok hexec
    refine ⟨e, past, hsuffix, hcaller, ?_⟩
    rcases MemoryActionStore.admitExecution_cases e.before.store args with
      ⟨-, hrefused⟩ | ⟨current, result, -, -, happlied⟩
    · rw [hrefused claim hadmitted] at hclaim
      cases hclaim
    · rw [hafter]
      exact (congrFun happlied.proposals _).trans (MemoryActionStore.put_proposals_self _ _)

/-- Call `i` begins after the proposal under `key` was marked. -/
def BeginsMarked (log : RuntimeLog V H) (i : ℕ) (key : ProposalKey) : Prop :=
  ∃ (g : Entry (runtimeSignature V H) Exn World) (older : RuntimeLog V H) (record : StoredProposal),
    g :: older <:+ log ∧ historyOf (g :: older) i = [] ∧
      g.after.store.proposals key = some record ∧ record.erasureMarked = true

/-- A call that begins after the mark knows marked versions only. -/
theorem RuntimeReachable.known_marked
    (hexecutors : ∀ definition, LawfulExecutor hostIssues definition (executorOf definition))
    (hc : RuntimeReachable env executorOf start c) {i : ℕ} {record : StoredProposal}
    (hbegins : BeginsMarked c.log i record.key) {past : RuntimeLog V H} (hpast : past <:+ c.log)
    (hknown : Known (historyOf past i) record) : record.erasureMarked = true := by
  obtain ⟨g, older, first, hg, hnone, hfirst, hmarked⟩ := hbegins
  obtain ⟨e, past', he, hcaller, hrecord⟩ :=
    RuntimeReachable.known_entry hc (hknown.mono (historyOf_suffix hpast i))
  have hafter := suffix_of_historyOf_eq_nil hg hnone he hcaller
  obtain ⟨-, c₁, hc₁, hlog, hshared⟩ := hc.at_entry he
  obtain ⟨current, hcurrent, hretained⟩ := RuntimeReachable.marked_kept hexecutors hc₁
    (hlog.symm ▸ hafter.trans (List.suffix_cons e past')) hfirst hmarked
  rw [hshared, hrecord] at hcurrent
  obtain rfl := Option.some.inj hcurrent
  exact hretained.erasureMarked hmarked

/-- A call that begins after the mark writes nothing over the proposal, so it loses no write. -/
theorem RuntimeReachable.not_lostWrite
    (hexecutors : ∀ definition, LawfulExecutor hostIssues definition (executorOf definition))
    (hc : RuntimeReachable env executorOf start c) {i : ℕ} {key : ProposalKey}
    (hbegins : BeginsMarked c.log i key) {past : RuntimeLog V H} (hpast : past <:+ c.log) :
    ¬LostWrite (historyOf past i) key := by
  intro hlost
  cases hlost with
  | @written args h hh hkey =>
    obtain ⟨e, older, he, rfl, hevent, rfl⟩ := exists_entry_of_historyOf hh
    have hissued := RuntimeReachable.issued hexecutors hc (he.trans hpast)
    rw [hevent] at hissued
    obtain ⟨current, updated, rfl, hissued⟩ := hissued
    subst hkey
    have hmarked := RuntimeReachable.known_marked hexecutors hc hbegins
      ((List.suffix_cons e older).trans (he.trans hpast)) hissued.known
    rw [hissued.unmarked] at hmarked
    cases hmarked
  | @admission args claim h hh hclaim hkey =>
    obtain ⟨e, older, he, rfl, hevent, rfl⟩ := exists_entry_of_historyOf hh
    have hissued := RuntimeReachable.issued hexecutors hc (he.trans hpast)
    rw [hevent] at hissued
    obtain ⟨runtime, definition, record, executionPrecondition, reference, hissued⟩ := hissued
    rw [hissued.key] at hkey
    subst hkey
    have hmarked := RuntimeReachable.known_marked hexecutors hc hbegins
      ((List.suffix_cons e older).trans (he.trans hpast)) hissued.known
    rw [hissued.unmarked] at hmarked
    cases hmarked

/-- Every tombstone on file is free of content. -/
theorem RuntimeReachable.tombstone (hc : RuntimeReachable env executorOf start c)
    {key : ProposalKey} {record : StoredProposal}
    (hrecord : c.shared.store.proposals key = some record) (herased : record.erasedAt ≠ none) :
    contentFree record = true := by
  obtain ⟨calls, hcalls⟩ := hc.exists_calls
  have htombstones : (MemoryActionStore.empty.run calls).Tombstones :=
    MemoryActionStore.Tombstones.run (fun _ _ hnone ↦ by cases hnone) EffectsOwned.empty calls
  rw [hcalls] at hrecord
  exact htombstones key record hrecord (Option.isSome_iff_ne_none.mpr herased)

/-- **What a call reads is as expected**, if it is so after the writes the call lost. -/
theorem RuntimeReachable.expected
    (hexecutors : ∀ definition, LawfulExecutor hostIssues definition (executorOf definition))
    (hc : RuntimeReachable env executorOf start c) {i : ℕ} {mask : Mask}
    (hlost : ∀ e past record, e :: past <:+ c.log → e.caller = i →
      e.before.store.proposals record.key = some record → mask.covers record = true →
      LostWrite (historyOf past i) record.key → e.event =
        ⟨.get record.tenantReference record.proposalReference, .ok (some record)⟩ →
      record.safeResult = none ∧ mask.evidence = false) :
    (mask.disguise (V := V) (H := H) (ExpectedRead mask)).Expected (historyOf c.log i) := by
  intro ev past hev
  obtain ⟨e, older, he, hcaller, rfl, rfl⟩ := exists_entry_of_suffix hev
  refine Mask.expects_of fun tenantReference proposalReference record hevent hcovers ↦ ?_
  obtain ⟨⟨c₁, hc₁, hlog, hbefore⟩, -⟩ := hc.at_entry he
  have howned : EffectsOwned e.before.store := hbefore ▸ RuntimeReachable.effectsOwned hc₁
  have hexec := hc.exec (he.subset List.mem_cons_self)
  rw [hevent] at hexec
  have hrecord : e.before.store.proposals (tenantReference, proposalReference) = some record :=
    Except.ok.inj (World.StoreCall.ok hexec).1
  obtain ⟨rfl, rfl⟩ := Prod.mk.inj (howned.filed _ _ hrecord)
  refine ⟨fun herased ↦ ?_, fun args completed hcompleted hkey ↦ ?_, fun hlostWrite ↦ ?_⟩
  · rw [← hbefore] at hrecord
    exact RuntimeReachable.tombstone hc₁ hrecord herased
  · rw [← hlog] at hcompleted
    obtain ⟨current, hcurrent, herased⟩ :=
      RuntimeReachable.completed_erased hexecutors hc₁ hcompleted
    rw [hkey, hbefore] at hcurrent
    rw [Option.some.inj (hrecord.symm.trans hcurrent)]
    exact herased
  · exact hlost e older record he hcaller hrecord hcovers hlostWrite hevent

/-- **A call goes on in the same way on masked readings**, if they are as expected after the writes
it lost. -/
theorem RuntimeReachable.executes_view {c : RuntimeConfig V H}
    (hc : RuntimeReachable env (hostExecutors V H) start c) {i : ℕ} {q : RuntimeCall V}
    {p : Coroutine V H ActionOperationResult} (hcall : c.calls[i]? = some (q, p)) {mask : Mask}
    (hlost : ∀ e past record, e :: past <:+ c.log → e.caller = i →
      e.before.store.proposals record.key = some record → mask.covers record = true →
      LostWrite (historyOf past i) record.key → e.event =
        ⟨.get record.tenantReference record.proposalReference, .ok (some record)⟩ →
      record.safeResult = none ∧ mask.evidence = false) :
    Executes (fun _ _ ↦ True) (q.coroutine (hostExecutors V H)) [] p
      (mask.view (historyOf c.log i)) :=
  (Indifferent.executes (coroutine_unaffected hostExecutors_unaffected q [])
    (Reachable.executes (fun _ _ _ _ _ ↦ trivial) hc hcall)
    (RuntimeReachable.expected hostExecutors_lawful_any hc hlost)).2

end Reachable

/-! ## What is returned -/

/-- The content of one proposal, its evidence included. -/
def contentOf (key : ProposalKey) : Mask := ⟨fun key' ↦ decide (key' = key), true⟩

/-- A call that begins after the mark goes on as it would on masked readings. -/
theorem RuntimeReachable.executes_content [UnicodeNormalization] {env : Env V H}
    {start : Timestamp} {c : RuntimeConfig V H}
    (hc : RuntimeReachable env (hostExecutors V H) start c) {key : ProposalKey} {i : ℕ}
    {q : RuntimeCall V} {p : Coroutine V H ActionOperationResult}
    (hbegins : BeginsMarked c.log i key) (hcall : c.calls[i]? = some (q, p)) :
    Executes (fun _ _ ↦ True) (q.coroutine (hostExecutors V H)) [] p
      ((contentOf key).view (historyOf c.log i)) := by
  refine RuntimeReachable.executes_view hc hcall ?_
  intro e past record he _ _ hcovers hlost _
  rw [Mask.covers, Bool.and_eq_true] at hcovers
  have hkey : record.key = key := of_decide_eq_true hcovers.1
  rw [hkey] at hlost
  exact absurd hlost (RuntimeReachable.not_lostWrite hostExecutors_lawful_any hc hbegins
    ((List.suffix_cons e past).trans he))

/-- The content of every proposal, apart from its evidence. -/
def allContent : Mask := ⟨fun _ ↦ true, false⟩

/-- The coroutine ends in the same way whatever the mask hides: as it would on masked answers, and
as in every other execution that looks the same through the mask. -/
structure Blind (mask : Mask) (p : Coroutine V H α) : Prop where
  masked : ∀ q h, Executes (fun _ _ ↦ True) p [] q h →
    Executes (fun _ _ ↦ True) p [] q (mask.view h)
  alike : ∀ q q' h h', Executes (fun _ _ ↦ True) p [] q h → Executes (fun _ _ ↦ True) p [] q' h' →
    mask.view h = mask.view h' → q = q'

theorem Blind.of_ignores {mask : Mask} {p : Coroutine V H α}
    (hignores : Ignores mask (fun _ _ ↦ True) p []) : Blind mask p := by
  have hmasked : ∀ q h, Executes (fun _ _ ↦ True) p [] q h →
      Executes (fun _ _ ↦ True) p [] q (mask.view h) := by
    intro q h hx
    refine (Indifferent.executes hignores hx fun ev past _ ↦ ?_).2
    exact Mask.expects_of fun _ _ _ _ _ ↦ trivial
  refine ⟨hmasked, fun q q' h h' hx hx' hview ↦ ?_⟩
  have hseen := hmasked q h hx
  rw [hview] at hseen
  exact hseen.unique (hmasked q' h' hx')

/-- No call that has just lost a guarded write reads back a safe result of a proposal whose erasure
is pending. -/
def RereadsClean (log : RuntimeLog V H) : Prop :=
  ∀ e past tenantReference proposalReference record, e :: past <:+ log →
    e.event.op = .get tenantReference proposalReference →
    LostWrite (historyOf past e.caller) (tenantReference, proposalReference) →
    e.before.store.proposals (tenantReference, proposalReference) = some record →
    record.erasurePendingAt ≠ none → record.safeResult = none

/-- **The content of what is to be erased.** Of two calls in any two runs that begin after the mark
and see the same but for the content of the marked proposal, one goes on as the other, so they
return or raise the same. The readers do so whenever they begin. In a run in which no call reads
back a safe result of a proposal whose erasure is pending after losing a write, every call ends as
it would have ended on records without preview, receipts and safe result. -/
theorem content_masked [UnicodeNormalization] [PydanticJson] {env env' : Env V H}
    {start start' : Timestamp} {c c' : RuntimeConfig V H}
    (hc : RuntimeReachable env (hostExecutors V H) start c)
    (hc' : RuntimeReachable env' (hostExecutors V H) start' c') :
    (∀ key i i' q p p', BeginsMarked c.log i key → BeginsMarked c'.log i' key →
      c.calls[i]? = some (q, p) → c'.calls[i']? = some (q, p') →
      (contentOf key).view (historyOf c.log i) = (contentOf key).view (historyOf c'.log i') →
      p = p') ∧
    (∀ mask runtime definition proposalReference context,
      Blind mask (read (V := V) (H := H) definition proposalReference context) ∧
      Blind mask (readRecovery (V := V) (H := H) definition proposalReference context) ∧
      Blind mask (exportEvidence (V := V) (H := H) runtime definition proposalReference context)) ∧
    (RereadsClean c.log → ∀ i q p, c.calls[i]? = some (q, p) →
      Executes (fun _ _ ↦ True) (q.coroutine (hostExecutors V H)) [] p
        (allContent.view (historyOf c.log i))) := by
  refine ⟨?_, ?_, ?_⟩
  · intro key i i' q p p' hbegins hbegins' hcall hcall' hview
    have hseen := RuntimeReachable.executes_content hc hbegins hcall
    rw [hview] at hseen
    exact hseen.unique (RuntimeReachable.executes_content hc' hbegins' hcall')
  · intro mask runtime definition proposalReference context
    exact ⟨.of_ignores (read_ignores _ _ _ _), .of_ignores (readRecovery_ignores _ _ _ _),
      .of_ignores (exportEvidence_ignores _ _ _ _ _)⟩
  · intro hclean i q p hcall
    refine RuntimeReachable.executes_view hc hcall ?_
    rintro e past record he rfl hrecord hcovers hlost hevent
    refine ⟨?_, rfl⟩
    by_cases herased : record.erasedAt = none
    · refine hclean e past _ _ record he (congrArg Event.op hevent) hlost hrecord ?_
      have hmarked := Mask.marked_of_covers hcovers
      rw [StoredProposal.erasureMarked, herased, Bool.or_eq_true,
        Option.isSome_iff_ne_none] at hmarked
      exact hmarked.resolve_right Bool.false_ne_true
    · obtain ⟨⟨c₁, hc₁, -, hbefore⟩, -⟩ := hc.at_entry he
      rw [← hbefore] at hrecord
      exact safeResult_of_contentFree (RuntimeReachable.tombstone hc₁ hrecord herased)

/-! ## A report after the mark -/

/-- If the coroutine ends right after reading a version back that it had lost a write over, then with
the safe result of that version. -/
def ReportsSafeResult (key : ProposalKey) (h : RuntimeHistory V H)
    (r : Except Exn ActionOperationResult) : Prop :=
  ∀ result args past later, r = .ok result →
    h = ⟨.get key.1 key.2, .ok (some later)⟩ :: ⟨.compareAndSet args, .ok false⟩ :: past →
    result.safeResult = later.safeResult

theorem ReportsSafeResult.error {key : ProposalKey} (h : RuntimeHistory V H) (e : Exn) :
    ReportsSafeResult key h (.error e) := by
  intro result args past later hresult
  cases hresult

/-- After another operation than that reading there is nothing to show. -/
theorem ReportsSafeResult.of_not_written {key : ProposalKey} {h : RuntimeHistory V H}
    {r : Except Exn ActionOperationResult}
    (hother : ∀ args past, h.tail ≠ ⟨.compareAndSet args, .ok false⟩ :: past) :
    ReportsSafeResult key h r := by
  intro result args past later _ hh
  rw [hh] at hother
  exact absurd rfl (hother args past)

theorem expireDue_reports (definition : ActionDeclaration V)
    (tenantReference proposalReference : SafeReference) :
    (expireDue definition tenantReference proposalReference : Coroutine V H _).Meets free
      (ReportsSafeResult (tenantReference, proposalReference)) [] := by
  refine required_meets (fun _ _ _ ↦ trivial) .error fun record _ ↦ ?_
  refine Meets.raiseIf_bind (fun _ ↦ .error _ _) fun _ ↦
    Meets.raiseIf_bind (fun _ ↦ .error _ _) fun _ ↦ ?_
  split
  · exact .of_not_written fun args past hnil ↦ by cases hnil
  refine Meets.perform_bind trivial (fun e _ ↦ .error _ e) fun now _ ↦ ?_
  split
  · exact .of_not_written fun args past hget ↦ by cases hget
  refine Meets.perform_bind trivial (fun e _ ↦ .error _ e) fun written _ ↦ ?_
  split
  · refine required_meets (fun _ _ _ ↦ trivial) .error fun current hkey ↦ ?_
    intro result args past later hresult hh
    cases hresult
    obtain ⟨rfl, rfl⟩ := Prod.mk.inj hkey
    cases (List.cons.inj hh).1
    rfl
  · rename_i hwritten
    rw [emit, LawfulMonad.bind_assoc]
    refine Meets.attempt_perform_bind trivial fun sent _ ↦ ?_
    have hkept : ∀ {args : MemoryActionStore.CompareAndSet} {past h : RuntimeHistory V H},
        ⟨.compareAndSet (casArguments record (expiredProposal record)), .ok written⟩ :: h ≠
          (⟨.compareAndSet args, .ok false⟩ :: past : RuntimeHistory V H) := by
      intro args past h htail
      cases htail
      exact hwritten rfl
    cases sent with
    | ok _ => exact .of_not_written fun args past ↦ hkept
    | error failure =>
      refine Meets.raiseIf_bind (fun _ ↦ .error _ _) fun _ ↦ ?_
      exact .of_not_written fun args past ↦ hkept

section Sample

attribute [local instance] normalizedTexts samplePydanticJson

/-- A call of `expire_due` reads an authorized proposal and goes on after it was executed, verified
and marked for erasure. -/
def lateExpiry : RuntimeConfig SampleModel noOperations :=
  sampleRun sampleAcceptance
    { sampleConfirmation with
      result := some .result
      absence_carries_nothing := by simp [sampleConfirmation] }
    ([.spawn (.prepare sampleRuntime sampleDefinition "tenant" .command ⟨"requester"⟩ none
      (some "proposal"))] ++ turnsOf 0 8 ++
    [.spawn (.recordAuthority sampleRuntime sampleDefinition (sampleEvidence "proposal")
      ⟨"approver"⟩ none)] ++ turnsOf 1 7 ++
    [.spawn (.expireDue sampleDefinition "tenant" "proposal")] ++ turnsOf 2 1 ++
    [.spawn (.execute sampleRuntime sampleDefinition "tenant" "proposal")] ++ turnsOf 3 18 ++
    [.spawn (.reconcile sampleRuntime sampleDefinition "tenant" "proposal")] ++ turnsOf 4 7 ++
    [sampleErase] ++ turnsOf 5 4 ++ [.drift 600000000] ++ turnsOf 2 3)

/-- Whether a call of `expire_due` has ended right after reading back a version whose erasure was
pending, and both its report and that version have an empty safe result. -/
def reportsPending (c : RuntimeConfig SampleModel noOperations) (i : ℕ) : Bool :=
  match c.calls[i]?, historyOf c.log i with
  | some (.expireDue _ tenantReference proposalReference, .ret result),
      ⟨.get tenantReference' proposalReference', .ok (some later)⟩ ::
        ⟨.compareAndSet _, .ok false⟩ :: _ =>
    decide ((tenantReference', proposalReference') = (tenantReference, proposalReference)) &&
      later.erasurePendingAt.isSome && later.safeResult.any List.isEmpty &&
      result.safeResult.any List.isEmpty
  | _, _ => false

theorem any_isEmpty_iff {result : Option JsonObject} :
    result.any List.isEmpty = true ↔ result = some [] := by
  cases result with
  | none => simp
  | some object => simp

/-- A call that reports the safe result of a version whose erasure is pending would have ended
otherwise on masked readings. -/
theorem exists_report {c : RuntimeConfig SampleModel noOperations} {i : ℕ}
    (hfacts : reportsPending c i = true) :
    ∃ q report tenantReference proposalReference later past,
      c.calls[i]? = some (q, .ret report) ∧
      historyOf c.log i = ⟨.get tenantReference proposalReference, .ok (some later)⟩ :: past ∧
      later.erasurePendingAt ≠ none ∧ later.safeResult = some [] ∧ report.safeResult = some [] ∧
      ¬Executes (fun _ _ ↦ True) (q.coroutine (hostExecutors SampleModel noOperations)) []
        (.ret report) (allContent.view (historyOf c.log i)) := by
  rw [reportsPending] at hfacts
  split at hfacts
  · rename_i definition tenantReference proposalReference report tenantReference'
      proposalReference' later args past hcall hhistory
    simp only [Bool.and_eq_true, decide_eq_true_eq, Option.isSome_iff_ne_none,
      any_isEmpty_iff] at hfacts
    obtain ⟨⟨⟨hkey, hpending⟩, hlater⟩, hreport⟩ := hfacts
    obtain ⟨rfl, rfl⟩ := Prod.mk.inj hkey
    refine ⟨_, report, _, _, later, _, hcall, hhistory, hpending, hlater, hreport, fun hx ↦ ?_⟩
    have hcovers : allContent.covers later = true := by
      rw [Mask.covers, StoredProposal.erasureMarked, Option.isSome_iff_ne_none.mpr hpending]
      rfl
    have hmasked : allContent.record later = later.without false := Mask.record_of_covers hcovers
    have hview : allContent.view (historyOf c.log i) =
        ⟨.get tenantReference' proposalReference', .ok (some (later.without false))⟩ ::
          ⟨.compareAndSet args, .ok false⟩ :: allContent.view past := by
      rw [hhistory, ← hmasked]
      rfl
    have hends : Finishes (fun _ _ ↦ True) (expireDue definition tenantReference'
        proposalReference') (allContent.view (historyOf c.log i)) (.ok report) := hx
    have hsame := Meets.finishes (expireDue_reports definition tenantReference' proposalReference')
      hends report args _ _ rfl hview
    rw [hreport] at hsame
    cases hsame
  · cases hfacts

theorem lateExpiry_facts : reportsPending lateExpiry 2 = true := by
  decide +kernel

/-- **A report after the mark carries a safe result.** `expire_due` loses its write, reads back the
version whose erasure is pending, and returns its safe result. -/
theorem safe_result_reported :
    ∃ c, RuntimeReachable (Env.oneClock fun _ ↦ false)
        (hostExecutors SampleModel noOperations) 0 c ∧
      ∃ i q report tenantReference proposalReference later past,
        c.calls[i]? = some (q, .ret report) ∧
        historyOf c.log i = ⟨.get tenantReference proposalReference, .ok (some later)⟩ :: past ∧
        later.erasurePendingAt ≠ none ∧ later.safeResult = some [] ∧
        report.safeResult = some [] ∧
        ¬Executes (fun _ _ ↦ True) (q.coroutine (hostExecutors SampleModel noOperations)) []
          (.ret report) (allContent.view (historyOf c.log i)) :=
  ⟨lateExpiry, sampleRun_reachable _ _ _, 2, exists_report lateExpiry_facts⟩

/-- The event is a lost write. -/
def losesWrite : Event (runtimeSignature V H) Exn → Bool
  | ⟨.compareAndSet _, .ok written⟩ => !written
  | ⟨.admitExecution _, .ok claim⟩ => !claim.admits
  | _ => false

/-- Where no write is lost, nothing is read back after a lost write. -/
theorem rereadsClean_of_losesNothing {log : RuntimeLog V H}
    (hloses : (log.any fun e ↦ losesWrite e.event) = false) : RereadsClean log := by
  intro e past tenantReference proposalReference record he _ hlost
  have hnone : ∀ {ev : Event (runtimeSignature V H) Exn} {h : RuntimeHistory V H},
      historyOf past e.caller = ev :: h → losesWrite ev = true → False := by
    intro ev h hh hloses'
    obtain ⟨f, older, hf, -, rfl, -⟩ := exists_entry_of_historyOf hh
    have hmem : f ∈ log := (hf.trans ((List.suffix_cons e past).trans he)).subset
      List.mem_cons_self
    exact List.any_eq_false.mp hloses f hmem hloses'
  cases hlost with
  | written hh => exact (hnone hh rfl).elim
  | @admission args claim h hh hclaim =>
    refine (hnone hh ?_).elim
    rw [losesWrite, hclaim]
    rfl

theorem abandonedErasure_losesNothing :
    (abandonedErasure.log.any fun e ↦ losesWrite e.event) = false ∧
      abandonedErasure.calls.length = 3 := by
  decide +kernel

/-- A call that erases ends as it would on masked readings. -/
theorem content_masked_sample :
    ∃ q p, abandonedErasure.calls[2]? = some (q, p) ∧
      Executes (fun _ _ ↦ True) (q.coroutine (hostExecutors SampleModel noOperations)) [] p
        (allContent.view (historyOf abandonedErasure.log 2)) := by
  obtain ⟨hloses, hlength⟩ := abandonedErasure_losesNothing
  have hlt : 2 < abandonedErasure.calls.length := by omega
  obtain ⟨⟨q, p⟩, hcall⟩ : ∃ call, abandonedErasure.calls[2]? = some call :=
    ⟨_, List.getElem?_eq_getElem hlt⟩
  have hreachable : RuntimeReachable (Env.oneClock fun _ ↦ false)
      (hostExecutors SampleModel noOperations) 0 abandonedErasure := sampleRun_reachable _ _ _
  refine ⟨q, p, hcall, ?_⟩
  exact (content_masked hreachable hreachable).2.2 (rereadsClean_of_losesNothing hloses) 2 q p hcall

end Sample

end ThrevoActions
