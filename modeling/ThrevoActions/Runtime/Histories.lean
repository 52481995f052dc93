import ThrevoActions.Evidence
import ThrevoActions.Runtime.Changes

/-!
# The receipts of a stored proposal

What the receipts on file for a proposal look like, in every version any interleaving stores: they
open with the receipt of the preparation, each of them is attributed to the proposal, they agree
with the lifecycle status, and no two of them carry one reference.

Receipts are written by appending one, so the first part is an invariant of a single record that
each write keeps. That references are distinct needs the whole log: a receipt carries the newest
identifier of its writer, and an identifier is drawn once.
-/

namespace ThrevoActions

open Interleaving

variable {V : Type} [HostModels V] {H : Signature}

/-! ## Receipts and lifecycle -/

/-- A receipt of a known failure of the executor or of a terminal failure found by the verifier. -/
def Receipt.supportsFailure (receipt : Receipt) : Bool :=
  receipt.isExecution .failedKnown || receipt.isVerification .verifiedTerminalFailure

/-- Nothing is executed from these statuses again. -/
def LifecycleStatus.gaveUp : LifecycleStatus → Bool
  | .failedKnown | .stale | .superseded => true
  | _ => false

/-- How the runtime attributes a receipt of `record`. -/
structure Attributed (record : StoredProposal) (receipt : Receipt) : Prop where
  correlation : receipt.correlationReference = record.proposalReference
  causation : receipt.causationReference = record.proposalReference ∨
    receipt.causationReference ∈ record.receipts.map Receipt.receiptReference
  runtimeRevision : receipt.base.runtimeRevision ≠ none
  corrects : receipt.base.correctsReceiptReference = none
  supersedes : receipt.base.supersedesReceiptReference = none

/-- A later version of a record, with the receipts kept, attributes the same receipts. -/
theorem Attributed.mono {record updated : StoredProposal} {receipt : Receipt}
    (hattributed : Attributed record receipt)
    (hreference : updated.proposalReference = record.proposalReference)
    (hreceipts : record.receipts ⊆ updated.receipts) : Attributed updated receipt where
  correlation := by rw [hreference, hattributed.correlation]
  causation := by
    rw [hreference]
    exact hattributed.causation.imp id fun hmem ↦ List.map_subset _ hreceipts hmem
  runtimeRevision := hattributed.runtimeRevision
  corrects := hattributed.corrects
  supersedes := hattributed.supersedes

/-- The receipt with which a proposal may enter `status`. -/
def Enters (status : LifecycleStatus) (receipt : Receipt) : Prop :=
  match status with
  | .verified => receipt.isVerification .verifiedCompletion = true
  | .failedKnown => receipt.supportsFailure = true ∨
    receipt.isVerification .authoritativeFinalAbsence = true
  | .stale => True
  | _ => receipt.supportsFailure = false

/-- The receipts of a record agree with its lifecycle status. -/
structure SoundHistory (record : StoredProposal) : Prop where
  prepared : ∃ receipt rest, record.receipts = .proposal receipt :: rest ∧
    receipt.status = .prepared
  attributed : ∀ receipt ∈ record.receipts, Attributed record receipt
  unfailed : record.lifecycleStatus.gaveUp = false →
    ∀ receipt ∈ record.receipts, receipt.supportsFailure = false
  verified : record.lifecycleStatus = .verified →
    ∃ receipt ∈ record.receipts, receipt.isVerification .verifiedCompletion = true
  failed : record.lifecycleStatus = .failedKnown → ∃ front last,
    record.receipts = front ++ [last] ∧ Enters .failedKnown last ∧
      ∀ receipt ∈ front, receipt.supportsFailure = false

/-- A proposal that has not given up keeps a sound history when one receipt is appended, provided
the receipt fits the status it enters. -/
theorem SoundHistory.append {current updated : StoredProposal} {receipt : Receipt}
    (hcurrent : SoundHistory current) (hactive : current.lifecycleStatus.gaveUp = false)
    (hreceipts : updated.receipts = current.receipts ++ [receipt])
    (hreference : updated.proposalReference = current.proposalReference)
    (hattributed : Attributed current receipt)
    (henters : Enters updated.lifecycleStatus receipt) : SoundHistory updated := by
  have hkept : current.receipts ⊆ updated.receipts := by
    rw [hreceipts]
    exact List.subset_append_left _ _
  have hlast : receipt ∈ updated.receipts := by
    rw [hreceipts]
    exact List.mem_append_right _ (List.mem_singleton_self _)
  refine ⟨?_, ?_, ?_, ?_, ?_⟩
  · obtain ⟨first, rest, hfirst, hprepared⟩ := hcurrent.prepared
    exact ⟨first, rest ++ [receipt], by rw [hreceipts, hfirst, List.cons_append], hprepared⟩
  · intro r hr
    rw [hreceipts, List.mem_append, List.mem_singleton] at hr
    rcases hr with hr | rfl
    · exact (hcurrent.attributed r hr).mono hreference hkept
    · exact hattributed.mono hreference hkept
  · intro hgaveUp r hr
    rw [hreceipts, List.mem_append, List.mem_singleton] at hr
    rcases hr with hr | rfl
    · exact hcurrent.unfailed hactive r hr
    · cases hstatus : updated.lifecycleStatus <;> rw [hstatus] at henters hgaveUp
      case verified =>
        cases r with
        | verification v =>
          have hstatus' : v.status = .verifiedCompletion := by
            simpa [Enters, Receipt.isVerification] using henters
          simp [Receipt.supportsFailure, Receipt.isExecution, Receipt.isVerification, hstatus']
        | _ => cases henters
      case failedKnown | stale | superseded => cases hgaveUp
      all_goals exact henters
  · intro hverified
    rw [hverified] at henters
    exact ⟨receipt, hlast, henters⟩
  · intro hfailed
    rw [hfailed] at henters
    exact ⟨current.receipts, receipt, hreceipts, henters, hcurrent.unfailed hactive⟩

/-- A write without a receipt keeps a sound history, unless it enters a status that needs one. -/
theorem SoundHistory.keep {current updated : StoredProposal} (hcurrent : SoundHistory current)
    (hreceipts : updated.receipts = current.receipts)
    (hreference : updated.proposalReference = current.proposalReference)
    (hactive : current.lifecycleStatus.gaveUp = false ∨ updated.lifecycleStatus = .superseded)
    (hverified : updated.lifecycleStatus ≠ .verified)
    (hfailed : updated.lifecycleStatus ≠ .failedKnown) : SoundHistory updated where
  prepared := by
    rw [hreceipts]
    exact hcurrent.prepared
  attributed receipt hmem := by
    rw [hreceipts] at hmem
    exact (hcurrent.attributed receipt hmem).mono hreference (hreceipts ▸ fun _ ↦ id)
  unfailed hgaveUp := by
    rcases hactive with hactive | hsuperseded
    · rw [hreceipts]
      exact hcurrent.unfailed hactive
    · rw [hsuperseded] at hgaveUp
      cases hgaveUp
  verified hstatus := absurd hstatus hverified
  failed hstatus := absurd hstatus hfailed

/-! ## What the writes append -/

/-- A receipt built on `receiptBase` is attributed to its record. -/
theorem Attributed.of_base {runtime : ActionRuntime} {record : StoredProposal}
    {reference : SafeReference} {now : Timestamp} {reasonCode : Option SafeReference}
    {external : Option ExternalReference} {receipt : Receipt}
    (hbase : receipt.base =
      { receiptBase runtime record reference now reasonCode with externalReference := external }) :
    Attributed record receipt where
  correlation := by rw [Receipt.correlationReference, hbase]; rfl
  causation := by
    rw [Receipt.causationReference, hbase]
    exact Or.inl rfl
  runtimeRevision := by
    rw [hbase]
    exact Option.some_ne_none _
  corrects := by rw [hbase]; rfl
  supersedes := by rw [hbase]; rfl

/-- The receipt an operator's resumption is caused by is on file. -/
theorem causalReceipt_mem {record : StoredProposal} {cause : Receipt}
    (hcause : causalReceipt record = some cause) : cause ∈ record.receipts := by
  rw [causalReceipt] at hcause
  split at hcause
  · rename_i receipt hfind
    cases hcause
    exact List.mem_reverse.mp (List.mem_of_find?_eq_some hfind)
  · exact List.mem_of_getLast? hcause

/-- A settlement of an execution appends a receipt that fits its status. -/
theorem executionSettlement_enters (runtime : ActionRuntime) (definition : ActionDeclaration V)
    (record : StoredProposal) (execution : ExecutionResult V) (reference : SafeReference)
    (now : Timestamp) (external : Option ExternalReference) (items : List ItemOutcome) :
    Enters (executionSettlement definition execution now).target
      (.execution (executionReceipt runtime definition record reference now
        (executionSettlement definition execution now).receiptStatus
        (executionSettlement definition execution now).reasonCode external items)) := by
  rw [executionSettlement]
  split
  · trivial
  · exact Or.inl rfl
  all_goals rfl

/-- So does a settlement of a verification. -/
theorem verificationTransition_enters (runtime : ActionRuntime) (definition : ActionDeclaration V)
    (record : StoredProposal) (verification : VerificationResult V) (reference : SafeReference)
    (now : Timestamp) (attempts : ℕ) :
    Enters (verificationTransition definition record verification attempts).target
      (.verification (verificationReceipt runtime definition record reference now
        verification.status.receiptStatus verification)) := by
  rw [verificationTransition]
  cases hstatus : verification.status with
  | verifiedCompletion =>
    dsimp only
    split_ifs <;> rfl
  | verifiedTerminalFailure => exact Or.inl rfl
  | authoritativeFinalAbsence =>
    dsimp only
    split_ifs
    · rfl
    · exact Or.inr rfl
  | provisionalAbsence | targetUnavailable =>
    dsimp only
    split_ifs <;> rfl

/-- **A guarded write keeps a sound history.** -/
theorem Write.soundHistory {h : RuntimeHistory V H} {current updated : StoredProposal}
    (hwrite : Write h current updated) (hcurrent : SoundHistory current) :
    SoundHistory updated := by
  cases hwrite with
  | expired hstatus =>
    refine hcurrent.keep rfl rfl (Or.inl ?_) (by rintro ⟨⟩) (by rintro ⟨⟩)
    rcases hstatus with hstatus | hstatus <;> rw [hstatus] <;> rfl
  | authorityRecorded _ _ hstatus _ _ _ _ hdecided =>
    refine hcurrent.append (by rw [hstatus]; rfl) rfl rfl (.of_base rfl) ?_
    cases hdecided with
    | denied => rfl
    | evaluated evaluation =>
      rw [authorityRecordedProposal]
      dsimp only
      split_ifs <;> rfl
  | blocked _ hstatus => exact hcurrent.append (by rw [hstatus]; rfl) rfl rfl (.of_base rfl) rfl
  | stale _ _ hstatus => exact hcurrent.append (by rw [hstatus]; rfl) rfl rfl (.of_base rfl) trivial
  | superseded => exact hcurrent.keep rfl rfl (Or.inr rfl) (by rintro ⟨⟩) (by rintro ⟨⟩)
  | executionSettled _ _ hstatus =>
    refine hcurrent.append (by rw [hstatus]; rfl) rfl rfl (.of_base rfl) ?_
    exact executionSettlement_enters _ _ _ _ _ _ _ _
  | takenOver hstatus =>
    refine hcurrent.keep rfl rfl (Or.inl ?_) (by rintro ⟨⟩) (by rintro ⟨⟩)
    rcases hstatus with hstatus | hstatus <;> rw [hstatus] <;> rfl
  | unresolved hstatus => exact hcurrent.keep rfl rfl (Or.inl (by rw [hstatus]; rfl)) (by rintro ⟨⟩) (by rintro ⟨⟩)
  | verificationAdmitted _ hstatus =>
    refine hcurrent.keep rfl rfl (Or.inl (by rw [hstatus]; rfl)) ?_ ?_ <;>
      rw [verificationAdmittedProposal] <;> dsimp only <;> rw [hstatus] <;> rintro ⟨⟩
  | verificationSettled _ _ hstatus =>
    refine hcurrent.append ?_ rfl rfl (.of_base rfl) ?_
    · rw [verificationAdmittedProposal]
      dsimp only
      rw [hstatus]
      rfl
    · exact verificationTransition_enters _ _ _ _ _ _ _
  | resumed runtime hstatus hcause =>
    refine hcurrent.append ?_ rfl rfl ?_ rfl
    · rcases hstatus with hstatus | hstatus <;> rw [hstatus] <;> rfl
    · exact ⟨rfl, Or.inr (List.mem_map_of_mem (causalReceipt_mem hcause)), (by rintro ⟨⟩), rfl, rfl⟩

/-! ## Sound histories are invariant -/

/-- A prepared proposal has a sound history. -/
theorem CreateIssued.soundHistory {h : RuntimeHistory V H} {record : StoredProposal}
    (hissued : CreateIssued h record) : SoundHistory record := by
  obtain ⟨runtime, definition, tenantReference, proposalReference, semanticEffectReference,
    reference, payload, commitment, displayPreview, requestingPrincipal, proposingAgent, now, rfl,
    -⟩ := hissued
  -- its only receipt is that of the preparation
  refine ⟨⟨_, [], rfl, rfl⟩, fun receipt hmem ↦ ?_, fun _ receipt hmem ↦ ?_, nofun, nofun⟩
  · rw [List.mem_singleton.mp hmem]
    exact ⟨rfl, Or.inl rfl, nofun, rfl, rfl⟩
  · rw [List.mem_singleton.mp hmem]
    rfl

/-- An admitted attempt keeps a sound history. -/
theorem AdmissionIssued.soundHistory {h : RuntimeHistory V H}
    {args : MemoryActionStore.AdmitExecution} {runtime : ActionRuntime}
    {definition : ActionDeclaration V} {record : StoredProposal}
    {executionPrecondition reference : SafeReference}
    (hissued : AdmissionIssued h args runtime definition record executionPrecondition reference)
    (hrecord : SoundHistory record) : SoundHistory args.updated := by
  rw [hissued.updated]
  refine hrecord.append ?_ rfl rfl (.of_base rfl) rfl
  rw [hissued.authorized]
  rfl

/-- One step over a sound history leaves a sound one, or an erased record. -/
theorem Change.soundHistory {h : RuntimeHistory V H} {o : Op V H} {before : Option StoredProposal}
    {record : StoredProposal} (hchange : Change h o before record)
    (hbefore : ∀ current, before = some current → current.erasedAt = none → SoundHistory current)
    (hrecord : record.erasedAt = none) : SoundHistory record := by
  cases hchange with
  | created _ hissued => exact hissued.soundHistory
  | @written current _ _ hissued =>
    exact hissued.write.soundHistory (hbefore current rfl (erasedAt_of_unmarked hissued.unmarked))
  | @admitted _ _ _ current _ _ _ hissued =>
    exact hissued.soundHistory (hbefore current rfl (erasedAt_of_unmarked hissued.unmarked))
  | @erasureMarked _ current =>
    -- marking a record keeps its status and its receipts
    have hcurrent := hbefore current rfl hrecord
    exact ⟨hcurrent.prepared, fun receipt hmem ↦ (hcurrent.attributed receipt hmem).mono rfl
      fun _ ↦ id, hcurrent.unfailed, hcurrent.verified, hcurrent.failed⟩
  | erased => cases hrecord

/-! ## Receipt references -/

/-- The references on the receipts of a record. -/
def receiptReferences (record : StoredProposal) : List SafeReference :=
  record.receipts.map Receipt.receiptReference

/-- What a step does to the references on file for a proposal: nothing, it appends the newest
identifier of the coroutine that writes, or it erases them. -/
theorem Change.receiptReferences {h : RuntimeHistory V H} {o : Op V H}
    {before : Option StoredProposal} {record : StoredProposal} (hchange : Change h o before record) :
    receiptReferences record = before.elim [] ThrevoActions.receiptReferences ∨
      receiptReferences record = [] ∨ ∃ reference, NewestIdentifier h reference ∧
        receiptReferences record =
          before.elim [] ThrevoActions.receiptReferences ++ [reference] := by
  -- a record with one receipt more has one reference more
  have happend : ∀ {current updated : StoredProposal} (receipt : Receipt),
      updated.receipts = current.receipts ++ [receipt] →
      NewestIdentifier h receipt.receiptReference →
      ∃ reference, NewestIdentifier h reference ∧ ThrevoActions.receiptReferences updated =
        ThrevoActions.receiptReferences current ++ [reference] := by
    intro current updated receipt hreceipts hnewest
    refine ⟨receipt.receiptReference, hnewest, ?_⟩
    rw [ThrevoActions.receiptReferences, hreceipts, List.map_append]
    rfl
  cases hchange with
  | created _ hissued =>
    obtain ⟨_, _, _, _, _, reference, _, _, _, _, _, _, rfl, hnewest⟩ := hissued
    exact Or.inr (Or.inr ⟨reference, hnewest, rfl⟩)
  | written _ hissued =>
    cases hissued.write with
    | expired | superseded | takenOver | unresolved | verificationAdmitted => exact Or.inl rfl
    | authorityRecorded _ _ _ _ _ _ _ _ hnewest | blocked _ _ _ hnewest | stale _ _ _ hnewest
    | executionSettled _ _ _ _ _ hnewest | verificationSettled _ _ _ _ _ hnewest
    | resumed _ _ _ _ hnewest => exact Or.inr (Or.inr (happend _ rfl hnewest))
  | admitted _ hissued =>
    rw [hissued.updated]
    exact Or.inr (Or.inr (happend _ rfl hissued.newest))
  | erasureMarked => exact Or.inl rfl
  | erased => exact Or.inr (Or.inl rfl)

/-- Only drawing an identifier issues one. -/
theorem World.exec_issued {env : Env V H} {world world' : World} {o : Op V H} {answer : Except Exn o.Ans}
    (ho : ∀ kind, o ≠ .newIdentifier kind) (hexec : world.exec env o answer world') :
    world'.issued = world.issued := by
  cases o with
  | newIdentifier kind => exact absurd rfl (ho kind)
  | create | get | compareAndSet | admitExecution | getEffectClaimOwner | markErasurePending
  | completeErasure => rcases hexec with ⟨-, rfl⟩ | ⟨-, rfl | rfl⟩ <;> rfl
  | now => rw [hexec.2]
  | emit | canPrepare | prepare | canDecide | evaluate | resolve | canExecute | execute | verify
  | canRead | canRecover | authorizeErasure | createCommitment | verifyCommitment | destroyCommitment
  | protectPayload | unprotectPayload | destroyPayload | host => rw [hexec]

/-- Every reference on file was issued once, and what a coroutine has just drawn is on no record
and in no other coroutine's hands. -/
structure ReferencesDistinct (log : RuntimeLog V H) (world : World) : Prop where
  issued : ∀ key record, world.store.proposals key = some record →
    ∀ reference ∈ receiptReferences record, reference ∈ world.issued
  nodup : ∀ key record, world.store.proposals key = some record → (receiptReferences record).Nodup
  drawn : ∀ i reference, NewestIdentifier (historyOf log i) reference → reference ∈ world.issued
  unused : ∀ i reference, NewestIdentifier (historyOf log i) reference →
    ∀ key record, world.store.proposals key = some record → reference ∉ receiptReferences record
  apart : ∀ i j reference, NewestIdentifier (historyOf log i) reference →
    NewestIdentifier (historyOf log j) reference → i = j

/-- What a call has just drawn after a step is what it drew in the step, or what it had drawn
before and has not used. -/
theorem NewestIdentifier.of_step {log : RuntimeLog V H} {world world' : World} {i j : ℕ} {o : Op V H}
    {answer : Except Exn o.Ans} {reference : SafeReference}
    (hnewest : NewestIdentifier (historyOf (⟨i, ⟨o, answer⟩, world, world'⟩ :: log) j) reference) :
    i = j ∧ (⟨o, answer⟩ : Event (runtimeSignature V H) Exn) =
        ⟨.newIdentifier .receipt, .ok reference⟩ ∨
      i ≠ j ∧ NewestIdentifier (historyOf log j) reference := by
  rw [historyOf] at hnewest
  split_ifs at hnewest with hij
  · obtain ⟨past, hpast⟩ := hnewest
    exact Or.inl ⟨hij, (List.cons.inj hpast).1⟩
  · exact Or.inr ⟨hij, hnewest⟩

/-- Drawing an identifier keeps the references distinct: the new one is on no record yet. -/
theorem ReferencesDistinct.draw {log : RuntimeLog V H} {world world' : World} {i : ℕ}
    {kind : IdentifierKind} {answer : Except Exn SafeReference}
    (hdistinct : ReferencesDistinct log world) (hexec : world.NewIdentifier answer world') :
    ReferencesDistinct (⟨i, ⟨.newIdentifier kind, answer⟩, world, world'⟩ :: log) world' := by
  have hstore : world'.store = world.store := by
    rcases hexec with ⟨reference, -, -, rfl⟩ | ⟨-, rfl⟩ <;> rfl
  have hissued : ∀ reference ∈ world.issued, reference ∈ world'.issued := by
    rcases hexec with ⟨reference, -, -, rfl⟩ | ⟨-, rfl⟩
    · exact fun _ ↦ List.mem_cons_of_mem _
    · exact fun _ ↦ id
  -- what this very step has drawn was not issued before
  have hnew : ∀ {reference : SafeReference}, (⟨.newIdentifier kind, answer⟩ :
      Event (runtimeSignature V H) Exn) = ⟨.newIdentifier .receipt, .ok reference⟩ →
      reference ∉ world.issued ∧ reference ∈ world'.issued := by
    intro reference heq
    cases heq
    rcases hexec with ⟨reference', heq, hfresh, rfl⟩ | ⟨⟨failure, hfailure⟩, -⟩
    · cases heq
      exact ⟨hfresh, List.mem_cons_self⟩
    · cases hfailure
  constructor
  · rw [hstore]
    exact fun key record hrecord reference hmem ↦
      hissued _ (hdistinct.issued key record hrecord reference hmem)
  · rw [hstore]
    exact hdistinct.nodup
  · intro j reference hnewest
    rcases hnewest.of_step with ⟨-, heq⟩ | ⟨-, hold⟩
    · exact (hnew heq).2
    · exact hissued _ (hdistinct.drawn j reference hold)
  · intro j reference hnewest key record hrecord hmem
    rw [hstore] at hrecord
    rcases hnewest.of_step with ⟨-, heq⟩ | ⟨-, hold⟩
    · exact (hnew heq).1 (hdistinct.issued key record hrecord reference hmem)
    · exact hdistinct.unused j reference hold key record hrecord hmem
  · intro j k reference hj hk
    rcases hj.of_step with ⟨rfl, hjnew⟩ | ⟨-, hjold⟩ <;>
      rcases hk.of_step with ⟨hik, hknew⟩ | ⟨-, hkold⟩
    · exact hik
    · exact absurd (hdistinct.drawn k reference hkold) (hnew hjnew).1
    · exact absurd (hdistinct.drawn j reference hjold) (hnew hknew).1
    · exact hdistinct.apart j k reference hjold hkold

/-- Every other step keeps them distinct: it puts at most the newest identifier of its own call on
a record, and thereby uses it up. -/
theorem ReferencesDistinct.use {log : RuntimeLog V H} {world world' : World} {i : ℕ} {o : Op V H}
    {answer : Except Exn o.Ans} (hdistinct : ReferencesDistinct log world)
    (ho : ∀ kind, o ≠ .newIdentifier kind) (hissued : world'.issued = world.issued)
    (hchange : ∀ key, world'.store.proposals key = world.store.proposals key ∨
      ∃ record, world'.store.proposals key = some record ∧
        Change (historyOf log i) o (world.store.proposals key) record) :
    ReferencesDistinct (⟨i, ⟨o, answer⟩, world, world'⟩ :: log) world' := by
  -- the references on a record after the step: those before, and perhaps what call `i` had drawn
  have hcases : ∀ key record, world'.store.proposals key = some record →
      receiptReferences record = [] ∨ ∃ before added,
        receiptReferences record = before ++ added ∧
        (before = [] ∨ ∃ current, world.store.proposals key = some current ∧
          before = receiptReferences current) ∧
        (added = [] ∨ ∃ reference, added = [reference] ∧
          NewestIdentifier (historyOf log i) reference) := by
    intro key record hrecord
    have hbefore : ∀ stored : Option StoredProposal,
        stored.elim [] receiptReferences = [] ∨ ∃ current, stored = some current ∧
          stored.elim [] receiptReferences = receiptReferences current := by
      rintro (_ | current)
      · exact Or.inl rfl
      · exact Or.inr ⟨current, rfl, rfl⟩
    rcases hchange key with hsame | ⟨record', hafter, hstep⟩
    · rw [hsame] at hrecord
      exact Or.inr ⟨_, [], (List.append_nil _).symm, Or.inr ⟨record, hrecord, rfl⟩, Or.inl rfl⟩
    · rw [hafter] at hrecord
      cases hrecord
      rcases hstep.receiptReferences with heq | heq | ⟨reference, hnewest, heq⟩
      · exact Or.inr ⟨_, [], by rw [heq, List.append_nil], hbefore _, Or.inl rfl⟩
      · exact Or.inl heq
      · exact Or.inr ⟨_, _, heq, hbefore _, Or.inr ⟨reference, rfl, hnewest⟩⟩
  have hmem : ∀ key record reference, world'.store.proposals key = some record →
      reference ∈ receiptReferences record →
      (∃ current, world.store.proposals key = some current ∧
        reference ∈ receiptReferences current) ∨ NewestIdentifier (historyOf log i) reference := by
    intro key record reference hrecord hreference
    rcases hcases key record hrecord with hnil | ⟨before, added, heq, hbefore, hadded⟩
    · rw [hnil] at hreference
      cases hreference
    · rw [heq, List.mem_append] at hreference
      rcases hreference with hreference | hreference
      · rcases hbefore with rfl | ⟨current, hcurrent, rfl⟩
        · cases hreference
        · exact Or.inl ⟨current, hcurrent, hreference⟩
      · rcases hadded with rfl | ⟨reference', rfl, hnewest⟩
        · cases hreference
        · rw [List.mem_singleton.mp hreference]
          exact Or.inr hnewest
  -- only other calls still hold what they have drawn
  have hold : ∀ {j : ℕ} {reference : SafeReference},
      NewestIdentifier (historyOf (⟨i, ⟨o, answer⟩, world, world'⟩ :: log) j) reference →
      i ≠ j ∧ NewestIdentifier (historyOf log j) reference := by
    intro j reference hnewest
    rcases hnewest.of_step with ⟨-, heq⟩ | hold
    · exact absurd (congrArg Event.op heq) (ho .receipt)
    · exact hold
  constructor
  · intro key record hrecord reference hreference
    rw [hissued]
    rcases hmem key record reference hrecord hreference with ⟨current, hcurrent, hreference⟩ | hnewest
    · exact hdistinct.issued key current hcurrent reference hreference
    · exact hdistinct.drawn i reference hnewest
  · intro key record hrecord
    rcases hcases key record hrecord with hnil | ⟨before, added, heq, hbefore, hadded⟩
    · rw [hnil]
      exact List.nodup_nil
    · have hnodup : before.Nodup := by
        rcases hbefore with rfl | ⟨current, hcurrent, rfl⟩
        · exact List.nodup_nil
        · exact hdistinct.nodup key current hcurrent
      rw [heq]
      rcases hadded with rfl | ⟨reference, rfl, hnewest⟩
      · rwa [List.append_nil]
      · refine hnodup.append (List.nodup_singleton _) ?_
        rw [List.disjoint_singleton]
        rcases hbefore with rfl | ⟨current, hcurrent, rfl⟩
        · exact List.not_mem_nil
        · exact hdistinct.unused i reference hnewest key current hcurrent
  · intro j reference hnewest
    rw [hissued]
    exact hdistinct.drawn j reference (hold hnewest).2
  · intro j reference hnewest key record hrecord hreference
    obtain ⟨hij, hnewest⟩ := hold hnewest
    rcases hmem key record reference hrecord hreference with ⟨current, hcurrent, hreference⟩ | hnewest'
    · exact hdistinct.unused j reference hnewest key current hcurrent hreference
    · exact hij (hdistinct.apart i j reference hnewest' hnewest)
  · intro j k reference hj hk
    exact hdistinct.apart j k reference (hold hj).2 (hold hk).2

/-! ## Reachable configurations -/

section Reachable

variable [UnicodeNormalization] {env : Env V H} {executorOf : ExecutorOf V H}
  {hostIssues : RuntimeHistory V H → H.Op → Prop} {start : Timestamp} {c : RuntimeConfig V H}

/-- **Every unerased record on file has a sound history.** -/
theorem RuntimeReachable.soundHistory
    (hexecutors : ∀ definition, LawfulExecutor hostIssues definition (executorOf definition))
    (hc : RuntimeReachable env executorOf start c) {key : ProposalKey} {record : StoredProposal}
    (hrecord : c.shared.store.proposals key = some record) (hunerased : record.erasedAt = none) :
    SoundHistory record := by
  refine hc.record_induction hexecutors ?_ hrecord hunerased
  intro h o before record hchange hbefore hunerased
  exact hchange.soundHistory hbefore hunerased

/-- **No reference is on file twice.** -/
theorem RuntimeReachable.referencesDistinct
    (hexecutors : ∀ definition, LawfulExecutor hostIssues definition (executorOf definition))
    (hc : RuntimeReachable env executorOf start c) : ReferencesDistinct c.log c.shared := by
  refine RuntimeReachable.induction (P := ReferencesDistinct) hexecutors ?_ ?_ ?_ hc
  · refine ⟨fun key record hrecord ↦ ?_, fun key record hrecord ↦ ?_, ?_, ?_, ?_⟩
    · cases hrecord
    · cases hrecord
    · rintro i reference ⟨past, hpast⟩
      cases hpast
    · rintro i reference ⟨past, hpast⟩
      cases hpast
    · rintro i j reference ⟨past, hpast⟩
      cases hpast
  · intro c hc i o answer world' hissues hexec ih
    by_cases ho : ∃ kind, o = .newIdentifier kind
    · obtain ⟨kind, rfl⟩ := ho
      exact ih.draw hexec
    · rw [not_exists] at ho
      exact ih.use ho (World.exec_issued ho hexec) fun key ↦ hc.change hissues hexec key
  · intro log world time _ ih
    exact ⟨ih.issued, ih.nodup, ih.drawn, ih.unused, ih.apart⟩

end Reachable

end ThrevoActions
