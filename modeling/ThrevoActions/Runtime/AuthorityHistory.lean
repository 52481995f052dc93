import ThrevoActions.Runtime.Histories
import ThrevoActions.Runtime.Reads
import ThrevoActions.Runtime.Schedules

/-!
# Evidence and its receipts

Approvers race on one record. Each of them decides over the version it read and writes over that
version only, so the evidence on file grows one item at a time, together with the receipt of the
item, and nothing but the completion of an erasure takes any of it away.
-/

namespace ThrevoActions

open Interleaving Interleaving.Program

variable {V : Type} [HostModels V] {H : Signature}

/-! ## Evidence on one record -/

/-- What a receipt of recorded or rejected evidence says about the evidence. -/
def Receipt.decision? : Receipt → Option (ConfirmingAuthority × AuthorityDecision)
  | .authority receipt =>
    match receipt.status with
    | .recorded => some (receipt.participant, .approve)
    | .rejected => some (receipt.participant, .deny)
    | .failed | .missing => none
  | _ => none

/-- The decisions receipted on a record, in order. -/
def receiptedDecisions (record : StoredProposal) : List (ConfirmingAuthority × AuthorityDecision) :=
  record.receipts.filterMap Receipt.decision?

/-- Whose decision the evidence is, and which. -/
def AuthorityEvidence.decided (evidence : AuthorityEvidence) :
    ConfirmingAuthority × AuthorityDecision :=
  (evidence.authority, evidence.decision)

theorem receiptedDecisions_append {current updated : StoredProposal} (receipt : Receipt)
    (hreceipts : updated.receipts = current.receipts ++ [receipt]) :
    receiptedDecisions updated = receiptedDecisions current ++ receipt.decision?.toList := by
  rw [receiptedDecisions, hreceipts, List.filterMap_append, receiptedDecisions]
  cases hdecision : receipt.decision? <;> simp [hdecision]

/-- No item is on file twice, and each has its receipt, in order. -/
structure EvidenceReceipted (record : StoredProposal) : Prop where
  distinct : record.authorityEvidence.Nodup
  receipted : receiptedDecisions record =
    record.authorityEvidence.map AuthorityEvidence.decided

namespace EvidenceReceipted

variable {current updated : StoredProposal}

/-- A write without evidence and without a receipt of any. -/
theorem keep (hcurrent : EvidenceReceipted current)
    (hevidence : updated.authorityEvidence = current.authorityEvidence)
    (hreceipts : receiptedDecisions updated = receiptedDecisions current) :
    EvidenceReceipted updated where
  distinct := by
    rw [hevidence]
    exact hcurrent.distinct
  receipted := by rw [hevidence, hreceipts, hcurrent.receipted]

/-- A write of one new item with its receipt. -/
theorem append (hcurrent : EvidenceReceipted current) {evidence : AuthorityEvidence}
    {receipt : Receipt} (hnew : evidence ∉ current.authorityEvidence)
    (hevidence : updated.authorityEvidence = current.authorityEvidence ++ [evidence])
    (hreceipts : updated.receipts = current.receipts ++ [receipt])
    (hdecision : receipt.decision? = some evidence.decided) : EvidenceReceipted updated where
  distinct := by
    rw [hevidence]
    refine hcurrent.distinct.append (List.nodup_singleton _) ?_
    rwa [List.disjoint_singleton]
  receipted := by
    rw [receiptedDecisions_append receipt hreceipts, hcurrent.receipted, hevidence, hdecision,
      List.map_append]
    rfl

end EvidenceReceipted

/-- The receipt of a decision says what was decided. -/
theorem Decided.receipt_decision {h : RuntimeHistory V H} {definition : ActionDeclaration V}
    {record : StoredProposal} {evidence : AuthorityEvidence} {binding : AuthorityBinding}
    {now : Timestamp} {decided : AuthorityOutcome} (runtime : ActionRuntime)
    (reference : SafeReference)
    (hdecided : Decided h definition record evidence binding now decided) :
    Receipt.decision? (.authority (authorityReceipt runtime record reference now
      decided.receiptStatus evidence.authority decided.reasonCode)) = some evidence.decided := by
  cases hdecided with
  | denied hdeny =>
    rw [AuthorityEvidence.decided, hdeny]
    rfl
  | evaluated evaluation happrove =>
    rw [AuthorityEvidence.decided, happrove]
    rfl

/-- **A guarded write keeps evidence and receipts together.** -/
theorem Write.evidenceReceipted {h : RuntimeHistory V H} {current updated : StoredProposal}
    (hwrite : Write h current updated) (hcurrent : EvidenceReceipted current) :
    EvidenceReceipted updated := by
  -- every other receipt is of no decision
  have hother : ∀ {updated : StoredProposal} (receipt : Receipt), receipt.decision? = none →
      updated.receipts = current.receipts ++ [receipt] →
      updated.authorityEvidence = current.authorityEvidence → EvidenceReceipted updated := by
    intro updated receipt hnone hreceipts hevidence
    refine hcurrent.keep hevidence ?_
    rw [receiptedDecisions_append receipt hreceipts, hnone]
    exact List.append_nil _
  cases hwrite with
  | authorityRecorded runtime _ _ hnew _ _ _ hdecided =>
    exact hcurrent.append hnew rfl rfl (hdecided.receipt_decision runtime _)
  | expired | superseded | takenOver | unresolved | verificationAdmitted =>
    exact hcurrent.keep rfl rfl
  | blocked | stale | executionSettled | verificationSettled | resumed =>
    exact hother _ rfl rfl rfl

/-- One step over receipted evidence leaves receipted evidence, or an erased record. -/
theorem Change.evidenceReceipted {h : RuntimeHistory V H} {o : Op V H}
    {before : Option StoredProposal} {record : StoredProposal} (hchange : Change h o before record)
    (hbefore : ∀ current, before = some current → current.erasedAt = none →
      EvidenceReceipted current) (hrecord : record.erasedAt = none) :
    EvidenceReceipted record := by
  cases hchange with
  | created _ hissued =>
    obtain ⟨_, _, _, _, _, _, _, _, _, _, _, _, rfl, -⟩ := hissued
    exact ⟨List.nodup_nil, rfl⟩
  | @written current _ _ hissued =>
    have hcurrent := hbefore current rfl (erasedAt_of_unmarked hissued.unmarked)
    exact hissued.write.evidenceReceipted hcurrent
  | @admitted args runtime definition current _ reference _ hissued =>
    have hcurrent := hbefore current rfl (erasedAt_of_unmarked hissued.unmarked)
    rw [hissued.updated]
    refine hcurrent.keep rfl ?_
    exact (receiptedDecisions_append (.execution _) rfl).trans (List.append_nil _)
  | @erasureMarked _ current =>
    exact (hbefore current rfl hrecord).keep rfl rfl
  | erased => cases hrecord

/-! ## From version to version -/

/-- Between two unerased versions of one record the bindings stay and the evidence grows. -/
structure Extends (current updated : StoredProposal) : Prop where
  identity : current.identity = updated.identity
  commitment : current.commitment = updated.commitment
  evidence : current.authorityEvidence <+: updated.authorityEvidence

namespace Extends

variable {first second third : StoredProposal}

theorem refl (record : StoredProposal) : Extends record record :=
  ⟨rfl, rfl, List.prefix_refl _⟩

theorem trans (h : Extends first second) (h' : Extends second third) : Extends first third :=
  ⟨h.identity.trans h'.identity, h.commitment.trans h'.commitment, h.evidence.trans h'.evidence⟩

/-- Evidence is bound to every version in the same way. -/
theorem authorityBinding (h : Extends first second) (definition : ActionDeclaration V)
    (commitment : KeyedCommitment) :
    authorityBinding definition first commitment = authorityBinding definition second commitment := by
  have hidentity := h.identity
  simp only [StoredProposal.identity, Prod.mk.injEq] at hidentity
  obtain ⟨htenant, hreference, haction, heffect, -⟩ := hidentity
  rw [ThrevoActions.authorityBinding, ThrevoActions.authorityBinding, htenant, hreference, haction,
    heffect]

end Extends

theorem Write.extends {h : RuntimeHistory V H} {current updated : StoredProposal}
    (hwrite : Write h current updated) : Extends current updated := by
  cases hwrite with
  | authorityRecorded => exact ⟨rfl, rfl, List.prefix_append _ _⟩
  | expired | blocked | stale | superseded | executionSettled | takenOver | unresolved
  | verificationAdmitted | verificationSettled | resumed => exact ⟨rfl, rfl, List.prefix_refl _⟩

/-- One step extends the version it works on, or erases it. -/
theorem Change.extends {h : RuntimeHistory V H} {o : Op V H} {current record : StoredProposal}
    (hchange : Change h o (some current) record) (hrecord : record.erasedAt = none) :
    current.erasedAt = none ∧ Extends current record := by
  cases hchange with
  | written _ hissued => exact ⟨erasedAt_of_unmarked hissued.unmarked, hissued.write.extends⟩
  | admitted _ hissued =>
    refine ⟨erasedAt_of_unmarked hissued.unmarked, ?_⟩
    rw [hissued.updated]
    exact ⟨rfl, rfl, List.prefix_refl _⟩
  | erasureMarked => exact ⟨hrecord, rfl, rfl, List.prefix_refl _⟩
  | erased => cases hrecord

/-! ## Where an item comes from -/

/-- A call put the item on the record under `key`, and when the call read the clock the item was
bound to the proposal and inside its validity window. -/
def Vouched (log : RuntimeLog V H) (key : ProposalKey) (record : StoredProposal)
    (item : AuthorityEvidence) : Prop :=
  ∃ e past, e :: past <:+ log ∧
    (∃ current receipt target, e.event.op = .compareAndSet (casArguments current
        (authorityRecordedProposal current item receipt target)) ∧
      e.after.store.proposals key = some (authorityRecordedProposal current item receipt target)) ∧
    ∃ now definition commitment, Answered (historyOf past e.caller) .now now ∧
      record.commitment = some commitment ∧
      (validateAuthorityEvidence item (authorityBinding (V := V) definition record commitment)
        now).valid = true

namespace Vouched

variable {log log' : RuntimeLog V H} {key : ProposalKey} {record updated : StoredProposal}
  {item : AuthorityEvidence}

theorem mono (h : Vouched log key record item) (hsuffix : log <:+ log') :
    Vouched log' key record item := by
  obtain ⟨e, past, he, hrest⟩ := h
  exact ⟨e, past, he.trans hsuffix, hrest⟩

theorem carry (h : Vouched log key record item) (hextends : Extends record updated) :
    Vouched log key updated item := by
  obtain ⟨e, past, he, hwrite, now, definition, commitment, hnow, hcommitment, hvalid⟩ := h
  refine ⟨e, past, he, hwrite, now, definition, commitment, hnow, ?_, ?_⟩
  · rw [← hextends.commitment, hcommitment]
  · rwa [← hextends.authorityBinding definition commitment]

end Vouched

/-- A write that puts evidence on file is the recording of it. -/
theorem Write.new_evidence {h : RuntimeHistory V H} {current updated : StoredProposal}
    (hwrite : Write h current updated) {item : AuthorityEvidence}
    (hitem : item ∈ updated.authorityEvidence) (hnew : item ∉ current.authorityEvidence) :
    (∃ receipt target, updated = authorityRecordedProposal current item receipt target) ∧
      ∃ (now : Timestamp) (definition : ActionDeclaration V) (commitment : KeyedCommitment),
        Answered h .now now ∧ updated.commitment = some commitment ∧
        (validateAuthorityEvidence item (authorityBinding definition updated commitment)
          now).valid = true := by
  cases hwrite with
  | authorityRecorded runtime definition _ _ hcommitment hnow hvalid =>
    rw [authorityRecordedProposal, List.mem_append, List.mem_singleton] at hitem
    rcases hitem with hitem | rfl
    · exact absurd hitem hnew
    · exact ⟨⟨_, _, rfl⟩, _, definition, _, hnow, hcommitment, hvalid⟩
  | expired | blocked | stale | superseded | executionSettled | takenOver | unresolved
  | verificationAdmitted | verificationSettled | resumed => exact absurd hitem hnew

/-! ## Replays -/

/-- The call read a record under `key` with the evidence on it. -/
def ReadWith (h : RuntimeHistory V H) (key : ProposalKey) (evidence : AuthorityEvidence) : Prop :=
  ∃ record, Answered h (.get key.1 key.2) (some record) ∧ evidence ∈ record.authorityEvidence

theorem outcomeFor_ne_replayed (status : LifecycleStatus) : outcomeFor status ≠ .replayed := by
  cases status <;> exact nofun

theorem decideAuthority_returns (definition : ActionDeclaration V) (record : StoredProposal)
    (evidence : AuthorityEvidence) (binding : AuthorityBinding) (now : Timestamp)
    (h : RuntimeHistory V H) :
    (decideAuthority definition record evidence binding now).Returns
      (fun _ decided ↦ decided.outcome ≠ .replayed) h := by
  rw [decideAuthority]
  split
  · exact Returns.pure (by rintro ⟨⟩)
  · refine Returns.perform fun evaluation ↦ Returns.pure ?_
    dsimp only
    split_ifs <;> rintro ⟨⟩

theorem writeAuthority_returns (runtime : ActionRuntime) (record : StoredProposal)
    (evidence : AuthorityEvidence) (now : Timestamp) (decided : AuthorityOutcome)
    (hdecided : decided.outcome ≠ .replayed) (h : RuntimeHistory V H) :
    (writeAuthority runtime record evidence now decided).Returns
      (fun h' result ↦ result.outcome = .replayed → ReadWith h' record.key evidence) h := by
  refine Returns.perform fun reference ↦ Returns.perform fun written ↦ ?_
  split
  · refine Returns.bind (required_returns _ _ _) fun h' current _ hread ↦ Returns.pure ?_
    intro hreplayed
    rw [operationResult] at hreplayed
    dsimp only at hreplayed
    split_ifs at hreplayed with hcontains
    exact ⟨current, hread.1, List.contains_iff_mem.mp hcontains⟩
  · exact Returns.bind (Returns.any _ _) fun _ _ _ _ ↦ Returns.pure fun h ↦ absurd h hdecided

/-- **A replay is answered from what was read**: the evidence is on the record the call found, at
first or after it lost its write. -/
theorem recordAuthority_returns (runtime : ActionRuntime) (definition : ActionDeclaration V)
    (evidence : AuthorityEvidence) (authenticatedAuthority : ConfirmingAuthority)
    (proposalReference : Option SafeReference) (h : RuntimeHistory V H) :
    (recordAuthority runtime definition evidence authenticatedAuthority proposalReference).Returns
      (fun h' result ↦ result.outcome = .replayed → ReadWith h' (evidence.tenantReference,
        proposalReference.getD evidence.proposalInstanceReference) evidence) h := by
  refine Returns.bind (required_returns _ _ _) fun h₁ record _ hread ↦ Returns.perform fun now ↦ ?_
  refine Returns.raiseIf fun _ ↦ Returns.raiseIf fun _ ↦ Returns.raiseIf fun _ ↦ ?_
  refine Returns.perform fun decisionAuth ↦ Returns.raiseIf fun _ ↦ ?_
  split
  · rename_i hmem
    refine Returns.pure fun _ ↦ ⟨record, ?_, hmem⟩
    exact hread.1.mono ((List.suffix_cons _ _).trans (List.suffix_cons _ _))
  split
  · exact Returns.pure fun h ↦ absurd h (outcomeFor_ne_replayed _)
  split
  · refine Returns.perform fun written ↦ ?_
    split
    · exact Returns.pure (by rintro ⟨⟩)
    · exact Returns.bind (required_returns _ _ _) fun _ _ _ _ ↦ Returns.pure (by rintro ⟨⟩)
  split
  · exact Returns.throw
  · refine Returns.raiseIf fun _ ↦ ?_
    refine Returns.bind (decideAuthority_returns _ _ _ _ _ _) fun _ decided _ hdecided ↦ ?_
    rw [← hread.2]
    exact writeAuthority_returns runtime record evidence now decided hdecided _

section Reachable

variable [UnicodeNormalization] {env : Env V H} {executorOf : ExecutorOf V H}
  {hostIssues : RuntimeHistory V H → H.Op → Prop} {start : Timestamp} {c : RuntimeConfig V H}

namespace RuntimeReachable

theorem evidenceReceipted
    (hexecutors : ∀ definition, LawfulExecutor hostIssues definition (executorOf definition))
    (hc : RuntimeReachable env executorOf start c) {key : ProposalKey} {record : StoredProposal}
    (hrecord : c.shared.store.proposals key = some record) (hunerased : record.erasedAt = none) :
    EvidenceReceipted record := by
  refine hc.record_induction hexecutors ?_ hrecord hunerased
  intro h o before record hchange hbefore hunerased
  exact hchange.evidenceReceipted hbefore hunerased

/-- **No version is taken back.** What is on file extends every version that ever was, unless it
has been erased. -/
theorem extends_version
    (hexecutors : ∀ definition, LawfulExecutor hostIssues definition (executorOf definition))
    (hc : RuntimeReachable env executorOf start c)
    {e : Entry (runtimeSignature V H) Exn World} {past : RuntimeLog V H}
    (he : e :: past <:+ c.log) {key : ProposalKey} {version : StoredProposal}
    (hversion : e.after.store.proposals key = some version) :
    ∃ record, c.shared.store.proposals key = some record ∧
      (record.erasedAt = none → Extends version record) := by
  refine RuntimeReachable.induction (P := fun log world ↦ ∀ e past, e :: past <:+ log →
    ∀ version, e.after.store.proposals key = some version →
      ∃ record, world.store.proposals key = some record ∧
        (record.erasedAt = none → Extends version record)) hexecutors ?_ ?_ ?_ hc e past he version
    hversion
  · intro e past he
    cases List.suffix_nil.mp he
  · intro c hc i o answer world' hissues hexec ih e past he version hversion
    rcases List.suffix_cons_iff.mp he with heq | he
    · obtain ⟨rfl, -⟩ := List.cons.inj heq
      exact ⟨version, hversion, fun _ ↦ .refl version⟩
    · obtain ⟨record, hrecord, hextends⟩ := ih e past he version hversion
      rcases hc.change hissues hexec key with hsame | ⟨record', hafter, hchange⟩
      · exact ⟨record, by rw [hsame, hrecord], hextends⟩
      · refine ⟨record', hafter, fun hunerased ↦ ?_⟩
        rw [hrecord] at hchange
        obtain ⟨hcurrent, hstep⟩ := hchange.extends hunerased
        exact (hextends hcurrent).trans hstep
  · exact fun _ _ _ _ ih ↦ ih

/-- **Every item on file is vouched for.** -/
theorem vouched
    (hexecutors : ∀ definition, LawfulExecutor hostIssues definition (executorOf definition))
    (hc : RuntimeReachable env executorOf start c) {key : ProposalKey} {record : StoredProposal}
    (hrecord : c.shared.store.proposals key = some record) (hunerased : record.erasedAt = none)
    {item : AuthorityEvidence} (hitem : item ∈ record.authorityEvidence) :
    Vouched c.log key record item := by
  refine RuntimeReachable.induction (P := fun log world ↦ ∀ record,
    world.store.proposals key = some record → record.erasedAt = none →
      ∀ item ∈ record.authorityEvidence, Vouched log key record item) hexecutors ?_ ?_ ?_ hc record
    hrecord hunerased item hitem
  · intro record hrecord
    cases hrecord
  · intro c hc i o answer world' hissues hexec ih record hrecord hunerased item hitem
    have hsuffix := List.suffix_cons (⟨i, ⟨o, answer⟩, c.shared, world'⟩ :
      Entry (runtimeSignature V H) Exn World) c.log
    rcases hc.change hissues hexec key with hsame | ⟨record', hafter, hchange⟩
    · exact (ih record (hsame ▸ hrecord) hunerased item hitem).mono hsuffix
    · rw [hafter] at hrecord
      cases hrecord
      cases hbefore : c.shared.store.proposals key with
      | none =>
        -- a proposal is prepared without evidence
        rw [hbefore] at hchange
        cases hchange with
        | created _ hissued =>
          obtain ⟨_, _, _, _, _, _, _, _, _, _, _, _, rfl, -⟩ := hissued
          cases hitem
      | some current =>
        rw [hbefore] at hchange
        obtain ⟨hcurrent, hextends⟩ := hchange.extends hunerased
        by_cases hold : item ∈ current.authorityEvidence
        · exact ((ih current hbefore hcurrent item hold).mono hsuffix).carry hextends
        · cases hchange with
          | written ho hissued =>
            obtain ⟨⟨receipt, target, rfl⟩, hvouched⟩ := hissued.write.new_evidence hitem hold
            exact ⟨_, c.log, List.suffix_refl _, ⟨current, receipt, target, ho, hafter⟩, hvouched⟩
          | admitted _ hissued =>
            rw [hissued.updated] at hitem
            exact absurd hitem hold
          | erasureMarked => exact absurd hitem hold
          | erased => cases hunerased
  · exact fun _ _ _ _ ih ↦ ih

/-- What a call read was on file when it read it. -/
theorem answered_get (hc : RuntimeReachable env executorOf start c) {i : ℕ}
    {tenantReference proposalReference : SafeReference} {record : StoredProposal}
    (hread : Answered (historyOf c.log i) (.get tenantReference proposalReference) (some record)) :
    ∃ e past, e :: past <:+ c.log ∧ e.caller = i ∧
      e.before.store.proposals (tenantReference, proposalReference) = some record ∧
      e.after.store.proposals (tenantReference, proposalReference) = some record := by
  obtain ⟨older, holder⟩ := exists_suffix_of_mem hread
  obtain ⟨e, past, he, hcaller, hevent, -⟩ := exists_entry_of_suffix holder
  have hexec := Reachable.exec hc (he.subset List.mem_cons_self)
  rw [hevent] at hexec
  obtain ⟨hget, hafter⟩ := World.StoreCall.ok hexec
  have hbefore : e.before.store.proposals (tenantReference, proposalReference) = some record :=
    Except.ok.inj hget
  refine ⟨e, past, he, hcaller, hbefore, ?_⟩
  rw [hafter]
  exact hbefore

/-- What a successful guarded write wrote is on file after it. -/
theorem after_compareAndSet (hc : RuntimeReachable env executorOf start c) {i : ℕ}
    {current updated : StoredProposal} {before after : World} (hidentity : current.key = updated.key)
    (hwrite : (⟨i, ⟨.compareAndSet (casArguments current updated), .ok true⟩, before, after⟩ :
      Entry (runtimeSignature V H) Exn World) ∈ c.log) :
    after.store.proposals current.key = some updated := by
  have hexec : before.exec env (.compareAndSet (casArguments current updated)) (.ok true) after :=
    Reachable.exec hc hwrite
  obtain ⟨hcas, rfl⟩ := World.StoreCall.ok hexec
  rcases MemoryActionStore.compareAndSet_cases before.store (casArguments current updated) with
    ⟨-, hne⟩ | ⟨current', happlied⟩
  · exact absurd hcas hne
  · rw [happlied.result, hidentity]
    exact MemoryActionStore.put_proposals_self _ _

/-- A call that answers a replay read its evidence on file. -/
theorem replayed_read (hc : RuntimeReachable env executorOf start c) {i : ℕ}
    {runtime : ActionRuntime} {definition : ActionDeclaration V} {evidence : AuthorityEvidence}
    {authority : ConfirmingAuthority} {proposalReference : Option SafeReference}
    {result : ActionOperationResult} (hcall : c.calls[i]? = some (.recordAuthority runtime
      definition evidence authority proposalReference, .ret result))
    (hreplayed : result.outcome = .replayed) :
    ReadWith (historyOf c.log i) (evidence.tenantReference,
      proposalReference.getD evidence.proposalInstanceReference) evidence := by
  -- of the other calls nothing is asked
  let Q : RuntimeCall V → RuntimeHistory V H → Except Exn ActionOperationResult → Prop
    | .recordAuthority _ _ evidence _ proposalReference => fun h r ↦ ∀ result, r = .ok result →
      result.outcome = .replayed → ReadWith h (evidence.tenantReference,
        proposalReference.getD evidence.proposalInstanceReference) evidence
    | _ => fun _ _ ↦ True
  refine Reachable.meets (C := free) (Q := Q) (fun _ _ _ _ _ ↦ trivial) (fun q ↦ ?_) hc hcall
    result rfl hreplayed
  cases q with
  | recordAuthority runtime definition evidence authority proposalReference =>
    exact Meets.imp (recordAuthority_returns runtime definition evidence authority
      proposalReference []) fun h r _ hreturns ↦ hreturns.2
  | prepare | expireDue | execute | reconcile | resumeVerification | erase => exact meets_free _ _

end RuntimeReachable

/-- **Authority under contention.** Whatever approvers and other workers do: on every unerased
record the evidence is without repetition and matches its receipts one by one, and each item was
bound and valid when its call read the clock; no item whose write succeeded is missing later; and
who is answered a replay had the evidence on file. -/
theorem authority_history (hc : RuntimeReachable env (hostExecutors V H) start c) :
    (∀ key record, c.shared.store.proposals key = some record → record.erasedAt = none →
      record.authorityEvidence.Nodup ∧
      receiptedDecisions record = record.authorityEvidence.map AuthorityEvidence.decided ∧
      ∀ item ∈ record.authorityEvidence, Vouched c.log key record item) ∧
    (∀ i current item receipt target before after,
      (⟨i, ⟨.compareAndSet (casArguments current (authorityRecordedProposal current item receipt
        target)), .ok true⟩, before, after⟩ : Entry (runtimeSignature V H) Exn World) ∈ c.log →
      ∀ record, c.shared.store.proposals current.key = some record → record.erasedAt = none →
        item ∈ record.authorityEvidence) ∧
    (∀ i runtime definition evidence authority proposalReference result,
      c.calls[i]? = some (.recordAuthority runtime definition evidence authority proposalReference,
        .ret result) → result.outcome = .replayed →
      (∃ e ∈ c.log, e.caller = i ∧ ∃ version, e.before.store.proposals (evidence.tenantReference,
        proposalReference.getD evidence.proposalInstanceReference) = some version ∧
        evidence ∈ version.authorityEvidence) ∧
      ∀ record, c.shared.store.proposals (evidence.tenantReference,
        proposalReference.getD evidence.proposalInstanceReference) = some record →
        record.erasedAt = none → evidence ∈ record.authorityEvidence) := by
  refine ⟨fun key record hrecord hunerased ↦ ?_, ?_, ?_⟩
  · have hevidence := hc.evidenceReceipted hostExecutors_lawful_any hrecord hunerased
    exact ⟨hevidence.distinct, hevidence.receipted, fun item hitem ↦
      hc.vouched hostExecutors_lawful_any hrecord hunerased hitem⟩
  · intro i current item receipt target before after hwrite record hrecord hunerased
    have hafter := hc.after_compareAndSet (by rfl) hwrite
    obtain ⟨past, hpast⟩ := exists_suffix_of_mem hwrite
    obtain ⟨record', hrecord', hextends⟩ :=
      hc.extends_version hostExecutors_lawful_any hpast hafter
    rw [hrecord] at hrecord'
    cases hrecord'
    refine (hextends hunerased).evidence.subset ?_
    exact List.mem_append_right _ (List.mem_singleton_self item)
  · intro i runtime definition evidence authority proposalReference result hcall hreplayed
    obtain ⟨version, hread, hmem⟩ := hc.replayed_read hcall hreplayed
    obtain ⟨e, past, he, hcaller, hbefore, hafter⟩ := hc.answered_get hread
    refine ⟨⟨e, he.subset List.mem_cons_self, hcaller, version, hbefore, hmem⟩, ?_⟩
    intro record hrecord hunerased
    obtain ⟨record', hrecord', hextends⟩ := hc.extends_version hostExecutors_lawful_any he hafter
    rw [hrecord] at hrecord'
    cases hrecord'
    exact (hextends hunerased).evidence.subset hmem

end Reachable

section Sample

attribute [local instance] normalizedTexts

/-- A sample proposal whose approval is handed in twice. -/
def repeatedApproval : RuntimeConfig SampleModel noOperations :=
  sampleRun sampleAcceptance sampleConfirmation
    (sampleAttempt 0 "proposal" 0 ++
      [.spawn (.recordAuthority sampleRuntime sampleDefinition (sampleEvidence "proposal")
        ⟨"approver"⟩ none)] ++ turnsOf 3 3)

theorem repeatedApproval_facts :
    (repeatedApproval.shared.store.proposals ("tenant", "proposal")).map
        (fun record ↦ (record.authorityEvidence, record.erasedAt)) =
      some ([sampleEvidence "proposal"], none) := by
  decide +kernel

/-- The approval handed in twice is on file once, with one receipt, and is vouched for. -/
theorem authority_history_sample :
    ∃ record, repeatedApproval.shared.store.proposals ("tenant", "proposal") = some record ∧
      receiptedDecisions record = [(⟨"approver"⟩, .approve)] ∧
      Vouched repeatedApproval.log ("tenant", "proposal") record (sampleEvidence "proposal") := by
  obtain ⟨record, hrecord, hfacts⟩ := Option.map_eq_some_iff.mp repeatedApproval_facts
  obtain ⟨hevidence, hunerased⟩ := Prod.mk.inj hfacts
  obtain ⟨hrecords, -, -⟩ := authority_history (c := repeatedApproval) (sampleRun_reachable _ _ _)
  obtain ⟨-, hreceipted, hvouched⟩ := hrecords _ record hrecord hunerased
  refine ⟨record, hrecord, ?_, hvouched _ ?_⟩
  · rw [hreceipted, hevidence]
    rfl
  · rw [hevidence]
    exact List.mem_singleton_self _

end Sample

end ThrevoActions
