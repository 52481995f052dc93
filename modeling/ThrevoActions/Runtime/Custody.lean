import ThrevoActions.Runtime.Changes
import ThrevoActions.Runtime.Schedules

/-!
# Custody of protected material

When the creation of a proposal raises, `_persist_prepared` cannot know whether it took effect. It
reads the proposal back, and unless it finds the very record it tried to create it destroys the
protected snapshot and the commitment. No proposal refers to destroyed material as long as nobody
advances a proposal between its creation and that reading (`persistPrepared_safe`); if somebody
does, the proposal is left without the material it was approved with
(`persistPrepared_destroys_live`).
-/

namespace ThrevoActions

open Interleaving Interleaving.Program

variable {V : Type} [HostModels V] {H : Signature}

/-! ## What happens to material on file -/

/-- A guarded write keeps what the record refers to. -/
theorem Write.refersTo {h : RuntimeHistory V H} {current updated : StoredProposal}
    (hwrite : Write h current updated) (m : Material) :
    updated.RefersTo m ↔ current.RefersTo m := by
  have hkeeps : updated.protectedPrivateSnapshot = current.protectedPrivateSnapshot ∧
      updated.commitment = current.commitment := by
    cases hwrite <;> exact ⟨rfl, rfl⟩
  cases m with
  | payload payload => rw [StoredProposal.RefersTo, StoredProposal.RefersTo, hkeeps.1]
  | commitment commitment => rw [StoredProposal.RefersTo, StoredProposal.RefersTo, hkeeps.2]

/-- A record that refers to material is created so, or succeeds one that did. -/
theorem Change.refersTo {h : RuntimeHistory V H} {o : Op V H} {before : Option StoredProposal}
    {record : StoredProposal} (hchange : Change h o before record) {m : Material}
    (hrefers : record.RefersTo m) :
    o = .create record ∨ ∃ current, before = some current ∧ current.RefersTo m := by
  cases hchange with
  | created ho => exact Or.inl ho
  | written _ hissued => exact Or.inr ⟨_, rfl, (hissued.write.refersTo m).mp hrefers⟩
  | admitted _ hissued =>
    rw [hissued.updated] at hrefers
    exact Or.inr ⟨_, rfl, by cases m <;> exact hrefers⟩
  | erasureMarked => exact Or.inr ⟨_, rfl, by cases m <;> exact hrefers⟩
  | erased => cases m <;> cases hrefers

/-- The record under `key` has referred to the material ever since a coroutine that had obtained it
created the proposal. -/
def Filed (log : RuntimeLog V H) (key : ProposalKey) (m : Material) : Prop :=
  ∃ e past record, e :: past <:+ log ∧ e.event.op = .create record ∧ record.key = key ∧
    Obtained (historyOf past e.caller) m ∧
    ∀ x older, x :: older <:+ log → e :: past <:+ older →
      ∃ current, x.after.store.proposals key = some current ∧ current.RefersTo m

section Reachable

variable [UnicodeNormalization] {env : Env V H} {executorOf : ExecutorOf V H}
  {hostIssues : RuntimeHistory V H → H.Op → Prop} {start : Timestamp} {c : RuntimeConfig V H}

/-- **Where material on file comes from.** -/
theorem RuntimeReachable.filed
    (hexecutors : ∀ definition, LawfulExecutor hostIssues definition (executorOf definition))
    (hc : RuntimeReachable env executorOf start c) {key : ProposalKey} {record : StoredProposal}
    {m : Material} (hrecord : c.shared.store.proposals key = some record)
    (hrefers : record.RefersTo m) : Filed c.log key m := by
  refine RuntimeReachable.induction (P := fun log world ↦ ∀ record,
    world.store.proposals key = some record → record.RefersTo m → Filed log key m)
    hexecutors ?_ ?_ ?_ hc record hrecord hrefers
  · intro record hrecord
    cases hrecord
  · intro c hc i o answer world' hissues hexec ih record hrecord hrefers
    -- a record that referred to the material before the step was filed before it
    have hkept : ∀ current, c.shared.store.proposals key = some current → current.RefersTo m →
        Filed (⟨i, ⟨o, answer⟩, c.shared, world'⟩ :: c.log) key m := by
      intro current hcurrent hcurrent'
      obtain ⟨e, past, created, he, hop, hkey, hobtained, hever⟩ := ih current hcurrent hcurrent'
      refine ⟨e, past, created, he.trans (List.suffix_cons _ _), hop, hkey, hobtained, ?_⟩
      intro x older hx holder
      rcases List.suffix_cons_iff.mp hx with heq | hx
      · obtain ⟨rfl, rfl⟩ := List.cons.inj heq
        exact ⟨record, hrecord, hrefers⟩
      · exact hever x older hx holder
    rcases hc.change hissues hexec key with hsame | ⟨record', hafter, hchange⟩
    · exact hkept record (hsame ▸ hrecord) hrefers
    · rw [hafter] at hrecord
      cases hrecord
      rcases hchange.refersTo hrefers with ho | ⟨current, hcurrent, hcurrent'⟩
      · subst ho
        have hkey := (World.exec_effectsOwned hc.effectsOwned hexec).filed key record hafter
        refine ⟨_, c.log, record, List.suffix_refl _, rfl, hkey, hissues.2 m hrefers, ?_⟩
        intro x older hx holder
        have hlength := (hx.trans holder).length_le
        simp at hlength
      · exact hkept current hcurrent hcurrent'
  · exact fun _ _ _ _ ih ↦ ih

/-! ## What is destroyed after an interrupted creation -/

/-- No port hands the same material out twice. -/
def FreshMaterial (log : RuntimeLog V H) : Prop :=
  ∀ m e e' past past', e :: past <:+ log → e' :: past' <:+ log → HandsOut e.event m →
    HandsOut e'.event m → e :: past = e' :: past'

/-- What is on file when a coroutine reads back a record whose creation raised is that record, or
refers to nothing the record refers to. -/
def RereadsUndisturbed (log : RuntimeLog V H) : Prop :=
  ∀ e past record persisted failure older m, e :: past <:+ log →
    e.event = ⟨.get record.tenantReference record.proposalReference, .ok (some persisted)⟩ →
    historyOf past e.caller = ⟨.create record, .error failure⟩ :: older →
    record.RefersTo m → persisted.RefersTo m → persisted = record

section Fresh

variable {log : RuntimeLog V H} {m : Material} {e : Entry (runtimeSignature V H) Exn World}
  {past : RuntimeLog V H} {record : StoredProposal}

omit [UnicodeNormalization] in
/-- Whoever created a record from material that is handed out once, and the coroutine that obtained
it, are the same; and that coroutine did not create the record before it obtained the material, nor
while it had not filed it. -/
theorem Unfiled.not_created (hfresh : FreshMaterial log) {i : ℕ} {h : RuntimeHistory V H}
    (hunfiled : Unfiled h m) (hh : h <:+ historyOf log i) (he : e :: past <:+ log)
    (hop : e.event.op = .create record) (hobtained : Obtained (historyOf past e.caller) m) :
    e.caller = i ∧ ¬e.event :: historyOf past i <:+ h := by
  obtain ⟨since, ev, older, rfl, hout, hsince⟩ := hunfiled
  obtain ⟨d, before, hd, hcaller, rfl, hbefore⟩ :=
    exists_entry_of_suffix ((List.suffix_append since (ev :: older)).trans hh)
  obtain ⟨ev', hev', hout'⟩ := hobtained
  obtain ⟨older', hev'⟩ := exists_suffix_of_mem hev'
  obtain ⟨d', before', hd', hcaller', rfl, -⟩ := exists_entry_of_suffix hev'
  have hlog' := (hd'.trans (List.suffix_cons e past)).trans he
  obtain ⟨rfl, rfl⟩ := List.cons.inj (hfresh m d d' before before' hd hlog' hout hout')
  rw [hcaller] at hcaller'
  refine ⟨hcaller'.symm, fun hcreated ↦ ?_⟩
  have hnot : e.event ∉ since := by
    intro hmem
    have hcreation := hsince _ hmem
    rw [hop] at hcreation
    cases hcreation
  have hafter := suffix_of_not_mem hcreated hnot
  have hinside := historyOf_suffix hd' i
  rw [← hcaller, historyOf_cons_self, hcaller, hbefore] at hinside
  have h₁ := hafter.length_le
  have h₂ := hinside.length_le
  simp only [List.length_cons] at h₁ h₂
  omega

end Fresh

/-- **Abandoned material is nobody's.** -/
theorem RuntimeReachable.abandoned_unreferenced
    (hexecutors : ∀ definition, LawfulExecutor hostIssues definition (executorOf definition))
    (hc : RuntimeReachable env executorOf start c) (hfresh : FreshMaterial c.log)
    (hundisturbed : RereadsUndisturbed c.log) {e : Entry (runtimeSignature V H) Exn World}
    {past : RuntimeLog V H} {m : Material} (he : e :: past <:+ c.log)
    (habandoned : Abandoned (historyOf past e.caller) m) {key : ProposalKey}
    {record : StoredProposal} (hrecord : e.before.store.proposals key = some record) :
    ¬record.RefersTo m := by
  intro hrefers
  have hpast : past <:+ c.log := (List.suffix_cons e past).trans he
  obtain ⟨⟨c₁, hc₁, hlog, hbefore⟩, -⟩ := hc.at_entry he
  obtain ⟨f, older, created, hf, hop, hkey, hobtained, hever⟩ :=
    RuntimeReachable.filed hexecutors hc₁ (hbefore ▸ hrecord) hrefers
  rw [hlog] at hf hever
  have hf' := hf.trans hpast
  have hevent := historyOf_suffix hf f.caller
  rw [historyOf_cons_self] at hevent
  cases habandoned with
  | unattempted hunfiled =>
    obtain ⟨hcaller, hnot⟩ := hunfiled.not_created hfresh (historyOf_suffix hpast _) hf' hop hobtained
    rw [hcaller] at hevent
    exact hnot hevent
  | @notFound since between created' persisted failure hh hunfiled hrefers' hsince hother =>
    have hbetween : between <:+ historyOf past e.caller := by
      rw [hh]
      exact ((List.suffix_cons _ _).trans (List.suffix_cons _ _)).trans (List.suffix_append _ _)
    obtain ⟨hcaller, hnot⟩ :=
      hunfiled.not_created hfresh (hbetween.trans (historyOf_suffix hpast _)) hf' hop hobtained
    rw [hcaller, hh] at hevent
    -- the only creation that is left is the one that raised
    have hnotSince : f.event ∉ since := by
      intro hmem
      have hcreation := hsince _ hmem
      rw [hop] at hcreation
      cases hcreation
    have hattempt : f.event :: historyOf older e.caller = ⟨.create created', .error failure⟩ ::
        between := by
      rcases List.suffix_cons_iff.mp (suffix_of_not_mem hevent hnotSince) with heq | hevent
      · rw [(List.cons.inj heq).1] at hop
        cases hop
      · exact (List.suffix_cons_iff.mp hevent).resolve_right hnot
    obtain ⟨hattempt, holder⟩ := List.cons.inj hattempt
    rw [hattempt] at hop
    cases hop
    -- the record was read back after that
    have hread : ⟨.get created.tenantReference created.proposalReference, .ok persisted⟩ ::
        ⟨.create created, .error failure⟩ :: between <:+ historyOf past e.caller := by
      rw [hh]
      exact List.suffix_append _ _
    obtain ⟨g, before, hg, hgcaller, hgevent, hgbefore⟩ := exists_entry_of_suffix hread
    have hforder : f :: older <:+ before := by
      rcases suffix_trichotomy hg hf with heq | hg' | hf'
      · rw [(List.cons.inj heq).1, hattempt] at hgevent
        cases hgevent
      · have hlength := (historyOf_suffix hg' e.caller).length_le
        rw [holder, ← hgcaller, historyOf_cons_self, hgcaller, hgbefore] at hlength
        simp only [List.length_cons] at hlength
        omega
      · exact hf'
    obtain ⟨current, hcurrent, hcurrent'⟩ := hever g before hg hforder
    have hexec := hc.exec (hpast.subset (hg.subset List.mem_cons_self))
    rw [hgevent] at hexec
    obtain ⟨hget, hafter⟩ := World.StoreCall.ok hexec
    rw [hafter, ← hkey] at hcurrent
    have hpersisted : persisted = some current := (Except.ok.inj hget).symm.trans hcurrent
    subst hpersisted
    rw [← hgcaller] at hgbefore
    have hsame := hundisturbed g before created current failure between m (hg.trans hpast) hgevent
      hgbefore hrefers' hcurrent'
    exact hother (congrArg some hsame)

end Reachable

/-! ## How `_persist_prepared` ends -/

/-- The operations of `_persist_prepared` up to the creation. -/
def Op.isPreparatory : Op V H → Bool
  | .newIdentifier _ => true
  | .createCommitment _ _ _ => true
  | .protectPayload _ _ _ => true
  | _ => false

/-- The creation raised, and so did reading the record back. -/
def OutcomeUnknown (h : RuntimeHistory V H) : Prop :=
  ∃ (record : StoredProposal) (failure failure' : Exn),
    (⟨.create record, .error failure⟩ : Event (runtimeSignature V H) Exn) ∈ h ∧
    (⟨.get record.tenantReference record.proposalReference, .error failure'⟩ :
      Event (runtimeSignature V H) Exn) ∈ h

/-- The event shows that `record` is on file. -/
inductive ShowsStored (record : StoredProposal) : Event (runtimeSignature V H) Exn → Prop
  | created : ShowsStored record ⟨.create record, .ok ()⟩
  | read : ShowsStored record
      ⟨.get record.tenantReference record.proposalReference, .ok (some record)⟩

/-- How `_persist_prepared` may end: what it returns was on file a moment before and is made of
material it obtained, and if it cannot know whether the record was created it raises and has
destroyed nothing. -/
structure PersistEnding (h : RuntimeHistory V H) (r : Except Exn StoredProposal) : Prop where
  stored : ∀ record, r = .ok record → (∃ ev past, h = ev :: past ∧ ShowsStored record ev) ∧
    ∃ payload commitment, record.RefersTo (.payload payload) ∧ Obtained h (.payload payload) ∧
      record.RefersTo (.commitment commitment) ∧ Obtained h (.commitment commitment)
  unknown : OutcomeUnknown h → (∃ failure, r = .error failure) ∧ ∀ ev ∈ h, ev.op.destroys = none

/-- A contract that lets a coroutine destroy what it obtained itself, and nothing else. -/
def ownMaterial : Contract (runtimeSignature V H) Exn where
  legal _ _ := True
  issues h o := ∀ proposalIdentity m, o.destroys = some (proposalIdentity, m) → Obtained h m

theorem ownMaterial_issues {h : RuntimeHistory V H} {o : Op V H} (ho : o.destroys = none) :
    ownMaterial.issues h o := by
  intro proposalIdentity m hdestroys
  cases ho.symm.trans hdestroys

/-- Nothing but preparation so far. -/
def Preparing (h : RuntimeHistory V H) : Prop := ∀ ev ∈ h, ev.op.isPreparatory = true

theorem Preparing.event {h : RuntimeHistory V H} (hpreparing : Preparing h) {o : Op V H}
    (ho : o.isPreparatory = true) (r : Except Exn o.Ans) :
    Preparing (V := V) (H := H) (⟨o, r⟩ :: h) :=
  List.forall_mem_cons.mpr ⟨ho, hpreparing⟩

/-- No reading of a record raised. -/
def NoFailedRead (h : RuntimeHistory V H) : Prop :=
  ∀ tenantReference proposalReference failure,
    (⟨.get tenantReference proposalReference, .error failure⟩ :
      Event (runtimeSignature V H) Exn) ∉ h

theorem Preparing.noFailedRead {h : RuntimeHistory V H} (hpreparing : Preparing h) :
    NoFailedRead h := by
  intro tenantReference proposalReference failure hmem
  cases hpreparing _ hmem

theorem NoFailedRead.event {h : RuntimeHistory V H} (hread : NoFailedRead h) {o : Op V H}
    (ho : ∀ tenantReference proposalReference, o ≠ .get tenantReference proposalReference)
    (r : Except Exn o.Ans) : NoFailedRead (V := V) (H := H) (⟨o, r⟩ :: h) := by
  intro tenantReference proposalReference failure hmem
  rcases List.mem_cons.mp hmem with heq | hmem
  · exact ho _ _ (congrArg Event.op heq).symm
  · exact hread _ _ _ hmem

theorem NoFailedRead.read {h : RuntimeHistory V H} (hread : NoFailedRead h)
    (tenantReference proposalReference : SafeReference) (found : Option StoredProposal) :
    NoFailedRead (V := V) (H := H)
      (⟨.get tenantReference proposalReference, .ok found⟩ :: h) := by
  intro tenantReference' proposalReference' failure hmem
  rcases List.mem_cons.mp hmem with heq | hmem
  · cases heq
  · exact hread _ _ _ hmem

/-- Raising is all that is asked if no reading raised. -/
theorem NoFailedRead.ending {h : RuntimeHistory V H} (hread : NoFailedRead h) (failure : Exn) :
    PersistEnding h (.error failure) where
  stored record hrecord := by cases hrecord
  unknown := by
    rintro ⟨record, -, failure', -, hmem⟩
    exact absurd hmem (hread _ _ failure')

theorem compensatePrepared_meets (definition : ActionDeclaration V)
    (proposalIdentity : ProposalIdentity) {payload : Option ProtectedPayload}
    {commitment : KeyedCommitment} (failure : Exn) {h : RuntimeHistory V H}
    (hpayload : ∀ payload', payload = some payload' → Obtained h (.payload payload'))
    (hcommitment : Obtained h (.commitment commitment)) (hread : NoFailedRead h) :
    (compensatePrepared definition proposalIdentity payload commitment failure).Meets ownMaterial
      PersistEnding h := by
  have hdestroyCommitment : ∀ {h' : RuntimeHistory V H}, Obtained h' (.commitment commitment) →
      ownMaterial.issues h' (.destroyCommitment definition proposalIdentity commitment) := by
    intro h' hobtained proposalIdentity' m hdestroys
    cases hdestroys
    exact hobtained
  cases payload with
  | none =>
    refine Meets.attempt_perform_bind (hdestroyCommitment hcommitment) fun answer _ ↦ ?_
    exact (hread.event (o := .destroyCommitment _ _ _) (fun _ _ ↦ nofun) answer).ending failure
  | some payload =>
    have hdestroyPayload :
        ownMaterial.issues h (.destroyPayload definition proposalIdentity payload) := by
      intro proposalIdentity' m hdestroys
      cases hdestroys
      exact hpayload payload rfl
    refine Meets.attempt_perform_bind hdestroyPayload fun answer _ ↦ ?_
    refine Meets.attempt_perform_bind
      (hdestroyCommitment (hcommitment.mono (List.suffix_cons _ _))) fun answer' _ ↦ ?_
    exact ((hread.event (o := .destroyPayload _ _ _) (fun _ _ ↦ nofun) answer).event
      (o := .destroyCommitment _ _ _) (fun _ _ ↦ nofun) answer').ending failure

theorem createPrepared_meets (definition : ActionDeclaration V)
    {proposalIdentity : ProposalIdentity} {payload : ProtectedPayload}
    {commitment : KeyedCommitment} {record : StoredProposal} {h : RuntimeHistory V H}
    (hkey : record.key = (proposalIdentity.tenantReference, proposalIdentity.proposalReference))
    (hsnapshot : record.RefersTo (.payload payload))
    (hcommitment : record.RefersTo (.commitment commitment))
    (hpayload : Obtained h (.payload payload)) (hcommitment' : Obtained h (.commitment commitment))
    (hpreparing : Preparing h) :
    (createPrepared definition proposalIdentity payload commitment record).Meets ownMaterial
      PersistEnding h := by
  have htenant : record.tenantReference = proposalIdentity.tenantReference :=
    congrArg Prod.fst hkey
  have hreference : record.proposalReference = proposalIdentity.proposalReference :=
    congrArg Prod.snd hkey
  have hmade : ∀ {h' : RuntimeHistory V H}, h <:+ h' →
      ∃ payload commitment, record.RefersTo (.payload payload) ∧ Obtained h' (.payload payload) ∧
        record.RefersTo (.commitment commitment) ∧ Obtained h' (.commitment commitment) :=
    fun hsuffix ↦ ⟨payload, commitment, hsnapshot, hpayload.mono hsuffix, hcommitment,
      hcommitment'.mono hsuffix⟩
  refine Meets.attempt_perform_bind (ownMaterial_issues rfl) fun created _ ↦ ?_
  have hread : ∀ created, NoFailedRead (V := V) (H := H) (⟨.create record, created⟩ :: h) :=
    fun _ ↦ hpreparing.noFailedRead.event (o := .create record) (fun _ _ ↦ nofun) _
  cases created with
  | ok u =>
    refine ⟨fun record' hrecord ↦ ?_, ?_⟩
    · cases hrecord
      exact ⟨⟨_, _, rfl, .created⟩, hmade (List.suffix_cons _ _)⟩
    · rintro ⟨record', failure, failure', -, hmem⟩
      exact absurd hmem (hread _ _ _ failure')
  | error failure =>
    refine Meets.attempt_perform_bind (ownMaterial_issues rfl) fun read _ ↦ ?_
    have hsuffix : h <:+ ⟨.get proposalIdentity.tenantReference proposalIdentity.proposalReference,
        read⟩ :: ⟨.create record, .error failure⟩ :: h :=
      (List.suffix_cons _ _).trans (List.suffix_cons _ _)
    cases read with
    | error failure' =>
      -- nothing has been destroyed yet
      have hending : ∀ failure'', PersistEnding (V := V) (H := H)
          (⟨.get proposalIdentity.tenantReference proposalIdentity.proposalReference,
            .error failure'⟩ :: ⟨.create record, .error failure⟩ :: h) (.error failure'') := by
        intro failure''
        refine ⟨?_, fun _ ↦ ⟨⟨_, rfl⟩, ?_⟩⟩
        · intro record' hrecord
          cases hrecord
        refine List.forall_mem_cons.mpr ⟨rfl, List.forall_mem_cons.mpr ⟨rfl, fun ev hev ↦ ?_⟩⟩
        have hpreparatory := hpreparing ev hev
        revert hpreparatory
        cases ev.op
        case destroyPayload | destroyCommitment => exact fun h ↦ nomatch h
        all_goals exact fun _ ↦ rfl
      dsimp only
      split
      · exact hending _
      · exact hending _
    | ok persisted =>
      have hread' := (hread (.error failure)).read proposalIdentity.tenantReference
        proposalIdentity.proposalReference persisted
      dsimp only
      split
      · rename_i hpersisted
        split
        · exact hread'.ending _
        · refine ⟨fun record' hrecord ↦ ?_, ?_⟩
          · cases hrecord
            refine ⟨⟨_, _, rfl, ?_⟩, hmade hsuffix⟩
            rw [hpersisted, ← htenant, ← hreference]
            exact .read
          · rintro ⟨record', failure', failure'', -, hmem⟩
            exact absurd hmem (hread' _ _ failure'')
      · refine compensatePrepared_meets _ _ _ ?_ (hcommitment'.mono hsuffix) hread'
        intro payload' hpayload'
        cases hpayload'
        exact hpayload.mono hsuffix

theorem protectAndCreate_meets (runtime : ActionRuntime) (definition : ActionDeclaration V)
    (proposalIdentity : ProposalIdentity) (prepared : PreparedAction V) (privateCanonical : Bytes)
    {commitment : KeyedCommitment} (requestingPrincipal : RequestingPrincipal)
    (proposingAgent : Option ProposingAgent) (now : Timestamp) {h : RuntimeHistory V H}
    (hcommitment : Obtained h (.commitment commitment)) (hpreparing : Preparing h) :
    (protectAndCreate runtime definition proposalIdentity prepared privateCanonical commitment
      requestingPrincipal proposingAgent now).Meets ownMaterial PersistEnding h := by
  refine Meets.attempt_perform_bind (ownMaterial_issues rfl) fun protect _ ↦ ?_
  have hpreparing' := hpreparing.event (o := .protectPayload definition proposalIdentity
    privateCanonical) rfl protect
  have hcommitment' := hcommitment.mono (List.suffix_cons (⟨.protectPayload definition
    proposalIdentity privateCanonical, protect⟩ : Event (runtimeSignature V H) Exn) h)
  cases protect with
  | error failure =>
    refine compensatePrepared_meets _ _ _ ?_ hcommitment' hpreparing'.noFailedRead
    intro payload hpayload
    cases hpayload
  | ok payload =>
    refine Meets.attempt_bind_of (buildPrepared_meets _ _ _ _ _ _ _ _ _ (ownMaterial_issues rfl)) ?_
    rintro h' built - ⟨⟨answer, rfl⟩, hbuilt⟩
    have hpreparing'' := hpreparing'.event (o := .newIdentifier .receipt) rfl answer
    have hcommitment'' := hcommitment'.mono (List.suffix_cons (⟨.newIdentifier .receipt, answer⟩ :
      Event (runtimeSignature V H) Exn) _)
    have hpayload : Obtained (V := V) (H := H) (⟨.newIdentifier .receipt, answer⟩ ::
        ⟨.protectPayload definition proposalIdentity privateCanonical, .ok payload⟩ :: h)
        (.payload payload) :=
      ⟨_, List.mem_cons_of_mem _ List.mem_cons_self, rfl⟩
    cases built with
    | error failure =>
      refine compensatePrepared_meets _ _ _ ?_ hcommitment'' hpreparing''.noFailedRead
      intro payload' hpayload'
      cases hpayload'
      exact hpayload
    | ok record =>
      obtain ⟨-, hkey, -, hsnapshot, hrecorded⟩ := hbuilt record rfl
      exact createPrepared_meets definition hkey hsnapshot hrecorded hpayload hcommitment''
        hpreparing''

theorem persistPrepared_meets [UnicodeNormalization] (runtime : ActionRuntime)
    (definition : ActionDeclaration V) (tenantReference : SafeReference)
    (prepared : PreparedAction V) (requestingPrincipal : RequestingPrincipal)
    (proposingAgent : Option ProposingAgent) (now : Timestamp)
    (proposalReference : Option SafeReference) :
    (persistPrepared (H := H) runtime definition tenantReference prepared requestingPrincipal
      proposingAgent now proposalReference).Meets ownMaterial PersistEnding [] := by
  have hresolve : (resolveProposalReference (V := V) (H := H) proposalReference).Meets ownMaterial
      (fun h' _ ↦ Preparing h') [] := by
    cases proposalReference with
    | some reference => exact List.forall_mem_nil _
    | none =>
      exact meets_perform.mpr ⟨ownMaterial_issues rfl, fun _ _ ↦ List.forall_mem_singleton.mpr rfl⟩
  refine Meets.bind_of hresolve (fun h' e _ hpreparing ↦ hpreparing.noFailedRead.ending e)
    fun h' reference _ hpreparing ↦ ?_
  have hraises := hpreparing.noFailedRead.ending
  refine Meets.orRaise_bind (fun e _ ↦ hraises e) fun privateJson _ ↦ ?_
  refine Meets.orRaise_bind (fun e _ ↦ hraises e) fun privateCanonical _ ↦ ?_
  refine Meets.orRaise_bind (fun e _ ↦ hraises e) fun commitmentInput _ ↦ ?_
  refine Meets.perform_bind (ownMaterial_issues rfl) (fun e _ ↦ ?_) fun commitment _ ↦ ?_
  · exact (hpreparing.event (o := .createCommitment _ _ _) rfl _).noFailedRead.ending e
  · exact protectAndCreate_meets runtime definition ⟨tenantReference, reference⟩ prepared
      privateCanonical requestingPrincipal proposingAgent now ⟨_, List.mem_cons_self, rfl⟩
      (hpreparing.event (o := .createCommitment _ _ _) rfl _)

/-! ## Custody -/

/-- What shows that a record is on file is true. -/
theorem ShowsStored.on_file {env : Env V H} {world world' : World}
    {ev : Event (runtimeSignature V H) Exn} {record : StoredProposal}
    (hshows : ShowsStored record ev) (hexec : world.exec env ev.op ev.answer world') :
    world'.store.proposals record.key = some record := by
  cases hshows with
  | created =>
    obtain ⟨hcreated, rfl⟩ := World.StoreCall.ok hexec
    rcases MemoryActionStore.create_cases world.store record with ⟨-, e, hrefused⟩ | ⟨happlied, -⟩
    · cases hrefused.symm.trans hcreated
    · rw [happlied]
      exact MemoryActionStore.put_proposals_self _ _
  | read =>
    obtain ⟨hread, rfl⟩ := World.StoreCall.ok hexec
    exact Except.ok.inj hread

/-- **Custody of what `_persist_prepared` obtains.** In every run in which ports hand material out
once, and in which what a coroutine reads back after an interrupted creation is the record as it
was created or refers to nothing of it: no record on file refers to material when the coroutine
that obtained it has it destroyed. Of `_persist_prepared` itself: it destroys only what it obtained
itself; what it returns is made of that material and was on file a moment before; and if both the
creation and the reading raised, it raises and has destroyed nothing. -/
theorem persistPrepared_safe [UnicodeNormalization] {env : Env V H} {start : Timestamp}
    {c : RuntimeConfig V H} (hc : RuntimeReachable env (hostExecutors V H) start c)
    (hfresh : FreshMaterial c.log) (hundisturbed : RereadsUndisturbed c.log) :
    (∀ e past proposalIdentity m, e :: past <:+ c.log →
      e.event.op.destroys = some (proposalIdentity, m) → Obtained (historyOf past e.caller) m →
      ∀ key record, e.before.store.proposals key = some record → ¬record.RefersTo m) ∧
    (∀ e ∈ c.log, ∀ record, ShowsStored record e.event →
      e.after.store.proposals record.key = some record) ∧
    ∀ runtime definition tenantReference prepared requestingPrincipal proposingAgent now
      proposalReference,
      (∀ q h, Executes (fun _ _ ↦ True) (persistPrepared (V := V) (H := H) runtime definition
          tenantReference prepared requestingPrincipal proposingAgent now proposalReference) [] q h →
        ∀ ev past proposalIdentity m, ev :: past <:+ h →
          ev.op.destroys = some (proposalIdentity, m) → Obtained past m) ∧
      ∀ h r, Finishes (fun _ _ ↦ True) (persistPrepared (V := V) (H := H) runtime definition
          tenantReference prepared requestingPrincipal proposingAgent now proposalReference) h r →
        PersistEnding h r := by
  refine ⟨?_, fun e he record hshows ↦ hshows.on_file (hc.exec he), ?_⟩
  · intro e past proposalIdentity m he hdestroys hobtained key record hrecord
    have hissued := RuntimeReachable.issued hostExecutors_lawful_any hc he
    cases destroyIssued_of_issues hissued hdestroys with
    | abandoned habandoned =>
      exact hc.abandoned_unreferenced hostExecutors_lawful_any hfresh hundisturbed he habandoned
        hrecord
    | erasing _ _ _ hnone => exact absurd hobtained (hnone m)
  · intro runtime definition tenantReference prepared requestingPrincipal proposingAgent now
      proposalReference
    have hmeets := persistPrepared_meets (H := H) runtime definition tenantReference prepared
      requestingPrincipal proposingAgent now proposalReference
    refine ⟨fun q h hx ev past proposalIdentity m hev hdestroys ↦ ?_,
      fun h r hfinishes ↦ hmeets.finishes hfinishes⟩
    exact hmeets.issued hx hev proposalIdentity m hdestroys

/-! ## An interrupted creation -/

/-- Answers of a host that loses its connection to the store whenever a record is created, before or
after the store took it. -/
def World.lossyAnswer (commits : Bool) (host : HostAnswers V H) (names : List SafeReference)
    (world : World) (o : Op V H) : Except Exn o.Ans × World :=
  match o with
  | .create proposal => (.error (.host "connection lost"),
    if commits then { world with store := (world.store.create proposal).2 } else world)
  | o => world.answer host names o

def lossyOracle [UnicodeNormalization] (commits : Bool) (host : HostAnswers V H)
    (names : List SafeReference) (executorOf : ExecutorOf V H) :
    Oracle (runtimeMachine (Env.oneClock fun _ ↦ false) executorOf) Timestamp :=
  { hostOracle host names (fun _ ↦ false) executorOf with
    answer := World.lossyAnswer commits host names
    answer_sound := by
      intro world o
      cases o
      case create proposal =>
        refine Or.inr ⟨⟨_, rfl⟩, ?_⟩
        cases commits with
        | true => exact Or.inr rfl
        | false => exact Or.inl rfl
      all_goals exact (hostOracle host names (fun _ ↦ false) executorOf).answer_sound world _ }

section Sample

attribute [local instance] normalizedTexts

/-- What workers over the sample host reach if every creation is interrupted. -/
def interruptedRun (commits : Bool) (turns : SampleTurns) : RuntimeConfig SampleModel noOperations :=
  (Config.initial (World.initial 0)).follow (lossyOracle commits
    (sampleHost (H := noOperations) sampleAcceptance sampleNotYet
      fun o ↦ nomatch o)
    ["r1", "r2", "r3", "r4"] (hostExecutors SampleModel noOperations)) turns

theorem interruptedRun_reachable (commits : Bool) (turns : SampleTurns) :
    RuntimeReachable (Env.oneClock fun _ ↦ false) (hostExecutors SampleModel noOperations) 0
      (interruptedRun commits turns) :=
  Reachable.initial.follow _ turns

/-- A sample proposal is prepared. -/
def samplePreparation : Turn (RuntimeCall SampleModel) Timestamp :=
  .spawn (.prepare sampleRuntime sampleDefinition "tenant" .command ⟨"requester"⟩ none
    (some "proposal"))

/-- The creation is interrupted before the store took the record. -/
def refusedCreation : RuntimeConfig SampleModel noOperations :=
  interruptedRun false ([samplePreparation] ++ turnsOf 0 10)

/-- The creation is interrupted after the store took the record, and the proposal is approved before
it is read back. -/
def overtakenCreation : RuntimeConfig SampleModel noOperations :=
  interruptedRun true ([samplePreparation] ++ turnsOf 0 7 ++
    [.spawn (.recordAuthority sampleRuntime sampleDefinition (sampleEvidence "proposal")
      ⟨"approver"⟩ none)] ++ turnsOf 1 7 ++ turnsOf 0 3)

/-- Material is fresh if the list of all that was handed out has no duplicates. -/
theorem freshMaterial_of_nodup {log : RuntimeLog V H}
    (hnodup : (log.filterMap fun e ↦ handedOut e.event.op e.event.answer).Nodup) :
    FreshMaterial log := by
  have honce : ∀ {m : Material} {e e' : Entry (runtimeSignature V H) Exn World}
      {past past' : RuntimeLog V H}, e' :: past' <:+ log → HandsOut e.event m →
      HandsOut e'.event m → ¬e :: past <:+ past' := by
    intro m e e' past past' he' hout hout' he
    have hlater := hnodup.sublist (he'.sublist.filterMap _)
    have hcons : (e' :: past').filterMap (fun e ↦ handedOut e.event.op e.event.answer) =
        m :: past'.filterMap fun e ↦ handedOut e.event.op e.event.answer :=
      List.filterMap_cons_some hout'
    rw [hcons, List.nodup_cons] at hlater
    exact hlater.1 (List.mem_filterMap.mpr ⟨e, he.subset List.mem_cons_self, hout⟩)
  intro m e e' past past' he he' hout hout'
  rcases suffix_trichotomy he he' with heq | hlater | hearlier
  · exact heq
  · exact absurd hlater (honce he' hout hout')
  · exact absurd hearlier (honce he hout' hout)

/-- The event finds a record on file. -/
def findsRecord : Event (runtimeSignature V H) Exn → Bool
  | ⟨.get _ _, .ok (some _)⟩ => true
  | _ => false

/-- Where nothing is found, nothing is disturbed. -/
theorem rereadsUndisturbed_of_findsNothing {log : RuntimeLog V H}
    (hfinds : (log.any fun e ↦ findsRecord e.event) = false) : RereadsUndisturbed log := by
  intro e past record persisted failure older m he hevent
  have hnone := List.any_eq_false.mp hfinds e (he.subset List.mem_cons_self)
  rw [hevent] at hnone
  exact absurd rfl hnone

/-- The snapshot as the sample host protects it. -/
def samplePayload : ProtectedPayload := ⟨"codec", "handle", "version", "ciphertext"⟩

/-- The last operation but one destroys the sample snapshot, its caller had obtained that, and this
is what was on file. -/
def destructionFacts (c : RuntimeConfig SampleModel noOperations) :
    Option (Bool × Bool × Option (LifecycleStatus × Option ProtectedPayload)) :=
  match c.log with
  | _ :: e :: past => some
    (decide (e.event.op.destroys = some (⟨"tenant", "proposal"⟩, .payload samplePayload)),
      (historyOf past e.caller).any fun ev ↦
        decide (handedOut ev.op ev.answer = some (.payload samplePayload)),
      (e.before.store.proposals ("tenant", "proposal")).map fun record ↦
        (record.lifecycleStatus, record.protectedPrivateSnapshot))
  | _ => none

theorem exists_destruction {c : RuntimeConfig SampleModel noOperations}
    {found : Option (LifecycleStatus × Option ProtectedPayload)}
    (hfacts : destructionFacts c = some (true, true, found)) :
    ∃ e past, e :: past <:+ c.log ∧
      e.event.op.destroys = some (⟨"tenant", "proposal"⟩, .payload samplePayload) ∧
      Obtained (historyOf past e.caller) (.payload samplePayload) ∧
      (e.before.store.proposals ("tenant", "proposal")).map (fun record ↦
        (record.lifecycleStatus, record.protectedPrivateSnapshot)) = found := by
  rw [destructionFacts] at hfacts
  split at hfacts
  · rename_i e' e past hlog
    obtain ⟨hdestroys, hobtained, hfound⟩ := by simpa using hfacts
    refine ⟨e, past, hlog ▸ List.suffix_cons _ _, hdestroys, ?_, hfound⟩
    obtain ⟨ev, hev, hout⟩ := hobtained
    exact ⟨ev, hev, hout⟩
  · cases hfacts

theorem refusedCreation_facts :
    (refusedCreation.log.filterMap fun e ↦ handedOut e.event.op e.event.answer).Nodup ∧
      (refusedCreation.log.any fun e ↦ findsRecord e.event) = false ∧
      destructionFacts refusedCreation = some (true, true, none) := by
  decide +kernel

theorem overtakenCreation_facts :
    (overtakenCreation.log.filterMap fun e ↦ handedOut e.event.op e.event.answer).Nodup ∧
      destructionFacts overtakenCreation =
        some (true, true, some (.authorized, some samplePayload)) := by
  decide +kernel

/-- Nothing refers to the snapshot of a creation that was refused when it is destroyed. -/
theorem persistPrepared_safe_sample :
    ∃ e past, e :: past <:+ refusedCreation.log ∧
      e.event.op.destroys = some (⟨"tenant", "proposal"⟩, .payload samplePayload) ∧
      ∀ key record, e.before.store.proposals key = some record →
        ¬record.RefersTo (.payload samplePayload) := by
  obtain ⟨hnodup, hfinds, hfacts⟩ := refusedCreation_facts
  obtain ⟨e, past, he, hdestroys, hobtained, -⟩ := exists_destruction hfacts
  refine ⟨e, past, he, hdestroys, ?_⟩
  exact (persistPrepared_safe (interruptedRun_reachable _ _) (freshMaterial_of_nodup hnodup)
    (rereadsUndisturbed_of_findsNothing hfinds)).1 e past _ _ he hdestroys hobtained

/-- **An approved proposal loses its snapshot.** The creation took effect and raised, the proposal
was approved, and the coroutine that prepared it destroys what it refers to. -/
theorem persistPrepared_destroys_live :
    ∃ e past record,
      RuntimeReachable (Env.oneClock fun _ ↦ false) (hostExecutors SampleModel noOperations) 0
        overtakenCreation ∧
      FreshMaterial overtakenCreation.log ∧ e :: past <:+ overtakenCreation.log ∧
      e.event.op.destroys = some (⟨"tenant", "proposal"⟩, .payload samplePayload) ∧
      Obtained (historyOf past e.caller) (.payload samplePayload) ∧
      e.before.store.proposals ("tenant", "proposal") = some record ∧
      record.lifecycleStatus = .authorized ∧ record.RefersTo (.payload samplePayload) := by
  obtain ⟨hnodup, hfacts⟩ := overtakenCreation_facts
  obtain ⟨e, past, he, hdestroys, hobtained, hfound⟩ := exists_destruction hfacts
  obtain ⟨record, hrecord, heq⟩ := Option.map_eq_some_iff.mp hfound
  obtain ⟨hstatus, hrefers⟩ := Prod.mk.inj heq
  exact ⟨e, past, record, interruptedRun_reachable _ _, freshMaterial_of_nodup hnodup, he,
    hdestroys, hobtained, hrecord, hstatus, hrefers⟩

end Sample

end ThrevoActions
