import ThrevoActions.Runtime.Histories
import ThrevoActions.Runtime.Schedules

/-!
# Exported histories

Which evidence bundles the runtime's own records give rise to, judged by `validateEvidenceBundle`.
A bundle of a record with a sound history and distinct receipt references can be found inconsistent
for one reason only: its lifecycle status is not supported by its receipts. The runtime enters
`failed_known` on an authoritative final absence, and the validator knows no such failure.
-/

namespace ThrevoActions

open Interleaving

variable {V : Type} [HostModels V] {H : Signature}

/-! ## What a bundle says -/

/-- Freezing an empty object. -/
theorem fromMapping_nil [UnicodeNormalization] : FrozenJsonObject.fromMapping [] = .ok ⟨[]⟩ := by
  rw [FrozenJsonObject.fromMapping, sortEntries]
  rfl

section Bundles

variable [UnicodeNormalization] [PydanticJson]

/-- The digest does not cover itself. -/
theorem evidenceDigest_contentDigest (bundle : ActionEvidenceBundle) (digest : String) :
    evidenceDigest { bundle with contentDigest := digest } = evidenceDigest bundle := rfl

/-- A bundle carries its own digest and the receipts of an unmarked record, and of a marked one no
content at all. -/
structure Exports (record : StoredProposal) (bundle : ActionEvidenceBundle) : Prop where
  digest : evidenceDigest bundle = .ok bundle.contentDigest
  proposalReference : bundle.proposalReference = record.proposalReference
  lifecycleStatus : bundle.lifecycleStatus = record.lifecycleStatus
  erased : bundle.erased = record.erasureMarked
  receipts : bundle.receipts = if record.erasureMarked then [] else record.receipts
  versions : bundle.embeddedReceiptSchemaVersions = schemaVersionsOf bundle.receipts
  contentFree : record.erasureMarked = true → bundle.authoritySummaries = [] ∧
    bundle.displayPreview.isEmpty = true ∧ bundle.safeResult = none

theorem buildEvidenceBundle_exports {record : StoredProposal} {exportedAt : Timestamp}
    {exporterRuntimeRevision : SafeReference} {bundle : ActionEvidenceBundle}
    (hbundle : buildEvidenceBundle record exportedAt exporterRuntimeRevision = .ok bundle) :
    Exports record bundle := by
  rw [buildEvidenceBundle] at hbundle
  dsimp only at hbundle
  obtain ⟨displayPreview, hpreview, hbundle⟩ := Except.bind_eq_ok.mp hbundle
  obtain ⟨safeResult, hresult, hbundle⟩ := Except.bind_eq_ok.mp hbundle
  obtain ⟨digest, hdigest, hbundle⟩ := Except.bind_eq_ok.mp hbundle
  cases hbundle
  refine ⟨?_, rfl, rfl, rfl, rfl, rfl, ?_⟩
  · exact (evidenceDigest_contentDigest _ digest).trans hdigest
  · intro herased
    rw [herased, if_pos rfl, fromMapping_nil] at hpreview
    rw [herased, if_pos rfl, frozenResult] at hresult
    cases hpreview
    cases hresult
    exact ⟨by dsimp only; rw [herased, if_pos rfl], rfl, rfl⟩

/-- The report on a bundle with its own digest. -/
theorem validateEvidenceBundle_of_digest {bundle : ActionEvidenceBundle}
    (hdigest : evidenceDigest bundle = .ok bundle.contentDigest) :
    ∃ report, validateEvidenceBundle bundle = .ok report ∧
      (report.status = .inconsistent ↔ inconsistentReasons bundle true ≠ []) := by
  rw [validateEvidenceBundle, hdigest]
  refine ⟨_, rfl, ?_⟩
  rw [beq_self_eq_true]
  split_ifs with hinconsistent hinsufficient
  · exact iff_of_true rfl hinconsistent
  · exact iff_of_false nofun hinconsistent
  · exact iff_of_false nofun hinconsistent

end Bundles

/-! ## What the validator looks for -/

/-- A list without repetitions is not shortened. -/
private theorem eraseDups_eq_self {xs : List SafeReference} (h : xs.Nodup) :
    xs.eraseDups = xs := by
  induction xs with
  | nil => rfl
  | cons x xs ih =>
    obtain ⟨hx, hxs⟩ := List.nodup_cons.mp h
    have hfilter : xs.filter (fun y ↦ !y == x) = xs := by
      rw [List.filter_eq_self]
      intro y hy
      have hne : y ≠ x := fun heq ↦ hx (heq ▸ hy)
      simpa using hne
    rw [List.eraseDups_cons, hfilter, ih hxs]

/-- All receipts of the runtime are of one schema version. -/
theorem schemaVersionsOf_internal (receipts : List Receipt) :
    (schemaVersionsOf receipts).any (fun version ↦ version != "internal/v0") = false := by
  rw [List.any_eq_false]
  intro version hversion
  rw [schemaVersionsOf, List.mem_mergeSort, List.mem_eraseDups] at hversion
  obtain ⟨receipt, -, rfl⟩ := List.mem_map.mp hversion
  exact Bool.false_ne_true

/-- A receipt attributed to a record leads nowhere but to the record's own receipts. -/
theorem Attributed.links {record : StoredProposal} {receipt : Receipt}
    (hattributed : Attributed record receipt) (references : List SafeReference) :
    danglingLink references receipt receipt.base.correctsReceiptReference = false ∧
      danglingLink references receipt receipt.base.supersedesReceiptReference = false := by
  rw [hattributed.corrects, hattributed.supersedes]
  exact ⟨rfl, rfl⟩

/-- Nothing but an unsupported lifecycle status makes receipts inconsistent that are attributed to
the proposal and carry distinct references. -/
theorem inconsistentReasons_of_attributed {record : StoredProposal}
    {bundle : ActionEvidenceBundle} (hreference : bundle.proposalReference = record.proposalReference)
    (hversions : bundle.embeddedReceiptSchemaVersions = schemaVersionsOf bundle.receipts)
    (hreceipts : bundle.receipts = [] ∨ bundle.receipts = record.receipts)
    (hnodup : (bundle.receipts.map Receipt.receiptReference).Nodup)
    (hattributed : ∀ receipt ∈ bundle.receipts, Attributed record receipt) :
    inconsistentReasons bundle true =
      reasonIf (!lifecycleIsSupported bundle) .lifecycleEvidenceMismatch := by
  have hlinks : (bundle.receipts.any fun receipt ↦
      danglingLink (bundle.receipts.map Receipt.receiptReference) receipt
          receipt.base.correctsReceiptReference
        || danglingLink (bundle.receipts.map Receipt.receiptReference) receipt
          receipt.base.supersedesReceiptReference) = false := by
    rw [List.any_eq_false]
    intro receipt hreceipt
    obtain ⟨hcorrects, hsupersedes⟩ := (hattributed receipt hreceipt).links
      (bundle.receipts.map Receipt.receiptReference)
    rw [hcorrects, hsupersedes]
    exact Bool.false_ne_true
  have hidentity : (bundle.receipts.any fun receipt ↦
      receipt.correlationReference != bundle.proposalReference
        || (receipt.causationReference != bundle.proposalReference
          && !(bundle.receipts.map Receipt.receiptReference).contains
            receipt.causationReference)) = false := by
    rw [List.any_eq_false]
    intro receipt hreceipt
    have hcorrelation := (hattributed receipt hreceipt).correlation
    rcases (hattributed receipt hreceipt).causation with hcause | hcause
    · simp [hcorrelation, hcause, hreference]
    · rcases hreceipts with hnil | hsame
      · rw [hnil] at hreceipt
        cases hreceipt
      · rw [hsame, hreference, hcorrelation, List.contains_iff_mem.mpr hcause]
        simp
  rw [inconsistentReasons]
  rw [hlinks, hidentity, hversions, schemaVersionsOf_internal, eraseDups_eq_self hnodup,
    bne_self_eq_false, bne_self_eq_false]
  rfl

/-! ## The verdict on a record -/

/-- The proposal failed on an authoritative final absence, the last thing its receipts say. -/
def failedOnAbsence (record : StoredProposal) : Bool :=
  record.lifecycleStatus == .failedKnown &&
    record.receipts.getLast?.any (Receipt.isVerification .authoritativeFinalAbsence)

/-- An authoritative final absence supports no failure. -/
theorem Receipt.supportsFailure_of_absence {receipt : Receipt}
    (h : receipt.isVerification .authoritativeFinalAbsence = true) :
    receipt.supportsFailure = false := by
  cases receipt with
  | verification v =>
    have hstatus : v.status = .authoritativeFinalAbsence := by
      simpa [Receipt.isVerification] using h
    simp [Receipt.supportsFailure, Receipt.isExecution, Receipt.isVerification, hstatus]
  | proposal | authority | execution | recovery => cases h

/-- Among the receipts of a failed proposal one supports the failure, unless the proposal failed
on an authoritative final absence. -/
theorem SoundHistory.any_supportsFailure {record : StoredProposal} (hsound : SoundHistory record)
    (hfailed : record.lifecycleStatus = .failedKnown) :
    record.receipts.any Receipt.supportsFailure = !failedOnAbsence record := by
  obtain ⟨front, last, hreceipts, henters, hfront⟩ := hsound.failed hfailed
  have hfront : front.any Receipt.supportsFailure = false := by
    rw [List.any_eq_false]
    exact fun receipt hmem ↦ by simp [hfront receipt hmem]
  rw [failedOnAbsence, hfailed, hreceipts, List.getLast?_concat, List.any_append, hfront]
  rcases henters with hsupports | habsence
  · have habsent : last.isVerification .authoritativeFinalAbsence = false := by
      by_contra h
      rw [Bool.not_eq_false] at h
      rw [Receipt.supportsFailure_of_absence h] at hsupports
      cases hsupports
    simp [hsupports, habsent]
  · simp [Receipt.supportsFailure_of_absence habsence, habsence]

/-- Which unmarked records the lifecycle rules of the validator support. -/
theorem lifecycleIsSupported_of_sound {record : StoredProposal} {bundle : ActionEvidenceBundle}
    (hsound : SoundHistory record) (herased : bundle.erased = false)
    (hreceipts : bundle.receipts = record.receipts)
    (hstatus : bundle.lifecycleStatus = record.lifecycleStatus) :
    lifecycleIsSupported bundle = !failedOnAbsence record := by
  obtain ⟨first, rest, hfirst, hprepared⟩ := hsound.prepared
  have hmatch : lifecycleIsSupported bundle =
      if record.lifecycleStatus = .verified then
        record.receipts.any (Receipt.isVerification .verifiedCompletion)
      else if record.lifecycleStatus = .failedKnown then
        record.receipts.any Receipt.supportsFailure
      else true := by
    rw [lifecycleIsSupported, herased, hreceipts, hstatus, hfirst]
    simp only [Bool.false_eq_true, if_false, hprepared, ne_eq, not_true_eq_false]
    rfl
  rw [hmatch]
  split_ifs with hverified hfailed
  · obtain ⟨receipt, hmem, hcompletion⟩ := hsound.verified hverified
    rw [failedOnAbsence, hverified, List.any_eq_true.mpr ⟨receipt, hmem, hcompletion⟩]
    rfl
  · exact hsound.any_supportsFailure hfailed
  · rw [failedOnAbsence, beq_false_of_ne hfailed]
    rfl

/-- **The verdict on the bundle of a record** whose history is sound and whose receipt references
are distinct. -/
theorem verdict_of_sound [UnicodeNormalization] [PydanticJson] {record : StoredProposal}
    (hsound : record.erasureMarked = false → SoundHistory record)
    (hnodup : (receiptReferences record).Nodup) {exportedAt : Timestamp}
    {exporterRuntimeRevision : SafeReference} {bundle : ActionEvidenceBundle}
    (hbundle : buildEvidenceBundle record exportedAt exporterRuntimeRevision = .ok bundle) :
    ∃ report, validateEvidenceBundle bundle = .ok report ∧
      (report.status ≠ .inconsistent ↔
        record.erasureMarked = true ∨ failedOnAbsence record = false) := by
  have hexports := buildEvidenceBundle_exports hbundle
  obtain ⟨report, hreport, hstatus⟩ := validateEvidenceBundle_of_digest hexports.digest
  refine ⟨report, hreport, ?_⟩
  rw [ne_eq, hstatus, ne_eq, not_not]
  have hreceipts := hexports.receipts
  by_cases hmarked : record.erasureMarked = true
  · -- nothing is left of a marked record that could be inconsistent
    rw [if_pos hmarked] at hreceipts
    obtain ⟨hsummaries, hpreview, hresult⟩ := hexports.contentFree hmarked
    rw [inconsistentReasons_of_attributed hexports.proposalReference hexports.versions
      (Or.inl hreceipts) (by rw [hreceipts]; exact List.nodup_nil)
      (fun receipt hmem ↦ by rw [hreceipts] at hmem; cases hmem),
      lifecycleIsSupported, hexports.erased, hmarked, hreceipts, hsummaries, hpreview, hresult]
    exact iff_of_true rfl (Or.inl rfl)
  · rw [if_neg hmarked] at hreceipts
    rw [Bool.not_eq_true] at hmarked
    have hsound := hsound hmarked
    rw [inconsistentReasons_of_attributed hexports.proposalReference hexports.versions
      (Or.inr hreceipts) (by rw [hreceipts]; exact hnodup)
      (fun receipt hmem ↦ hsound.attributed receipt (hreceipts ▸ hmem)),
      lifecycleIsSupported_of_sound hsound (hexports.erased.trans hmarked) hreceipts
        hexports.lifecycleStatus, hmarked, Bool.not_not]
    cases failedOnAbsence record with
    | true => exact iff_of_false nofun nofun
    | false => exact iff_of_true rfl (Or.inr rfl)

/-! ## Every record on file -/

section Reachable

variable [UnicodeNormalization] [PydanticJson] {env : Env V H} {start : Timestamp}
  {c : RuntimeConfig V H}

/-- The verdict on every record of workers with lawful executors. -/
theorem RuntimeReachable.verdict {executorOf : ExecutorOf V H}
    {hostIssues : RuntimeHistory V H → H.Op → Prop}
    (hexecutors : ∀ definition, LawfulExecutor hostIssues definition (executorOf definition))
    (hc : RuntimeReachable env executorOf start c) {key : ProposalKey} {record : StoredProposal}
    (hrecord : c.shared.store.proposals key = some record) {exportedAt : Timestamp}
    {exporterRuntimeRevision : SafeReference} {bundle : ActionEvidenceBundle}
    (hbundle : buildEvidenceBundle record exportedAt exporterRuntimeRevision = .ok bundle) :
    ∃ report, validateEvidenceBundle bundle = .ok report ∧
      (report.status ≠ .inconsistent ↔
        record.erasureMarked = true ∨ failedOnAbsence record = false) := by
  have hsound : record.erasureMarked = false → SoundHistory record := fun hunmarked ↦
    hc.soundHistory hexecutors hrecord (erasedAt_of_unmarked hunmarked)
  exact verdict_of_sound hsound ((hc.referencesDistinct hexecutors).nodup key record hrecord)
    hbundle

/-- **Exported histories.** Whatever workers do, the bundle of a record on file is found consistent
or merely insufficient exactly if the record is marked for erasure or did not fail on an
authoritative final absence. -/
theorem evidence_not_inconsistent_iff (hc : RuntimeReachable env (hostExecutors V H) start c)
    {key : ProposalKey} {record : StoredProposal}
    (hrecord : c.shared.store.proposals key = some record) {exportedAt : Timestamp}
    {exporterRuntimeRevision : SafeReference} {bundle : ActionEvidenceBundle}
    (hbundle : buildEvidenceBundle record exportedAt exporterRuntimeRevision = .ok bundle) :
    ∃ report, validateEvidenceBundle bundle = .ok report ∧
      (report.status ≠ .inconsistent ↔
        record.erasureMarked = true ∨ failedOnAbsence record = false) :=
  hc.verdict hostExecutors_lawful_any hrecord hbundle

end Reachable

section Sample

attribute [local instance] normalizedTexts

/-- Two decimal digits. -/
def twoDigits (n : ℕ) : PyStr := PyStr.ofString (toString (n / 10) ++ toString (n % 10))

/-- Pydantic's text of a whole second of the first day of the epoch. No sample bundle carries a
frozen entry, so no text is parsed. -/
@[reducible] def samplePydanticJson : PydanticJson where
  datetimeText t :=
    PyStr.ofString "1970-01-01T" ++ twoDigits (t.toNat / 3600000000) ++ PyStr.ofString ":" ++
      twoDigits (t.toNat / 60000000 % 60) ++ PyStr.ofString ":" ++
      twoDigits (t.toNat / 1000000 % 60) ++ PyStr.ofString "Z"
  validateJson _ := .error .validationError

attribute [local instance] samplePydanticJson

/-- A sample attempt that turns out to be absent for good. -/
def sampleAbsence : RuntimeConfig SampleModel noOperations :=
  sampleVerification sampleNever

/-- What the sample record looks like, and whether it can be exported. -/
def sampleFacts (c : RuntimeConfig SampleModel noOperations) :
    Option (LifecycleStatus × Bool × Bool × Bool) :=
  (c.shared.store.proposals ("tenant", "proposal")).map fun record ↦ (record.lifecycleStatus,
    record.erasureMarked, failedOnAbsence record, (buildEvidenceBundle record 0 "exporter").isOk)

theorem sampleCompletion_facts :
    sampleFacts sampleCompletion = some (.verified, false, false, true) := by
  decide +kernel

theorem sampleAbsence_facts :
    sampleFacts sampleAbsence = some (.failedKnown, false, true, true) := by
  decide +kernel

/-- A sample record and its bundle, from what evaluation says about them. -/
theorem exists_sampleBundle {c : RuntimeConfig SampleModel noOperations} {status : LifecycleStatus}
    {absent : Bool} (h : sampleFacts c = some (status, false, absent, true)) :
    ∃ record bundle, c.shared.store.proposals ("tenant", "proposal") = some record ∧
      record.lifecycleStatus = status ∧ record.erasureMarked = false ∧
      failedOnAbsence record = absent ∧
      buildEvidenceBundle record 0 "exporter" = .ok bundle := by
  obtain ⟨record, hrecord, hfacts⟩ := Option.map_eq_some_iff.mp h
  simp only [Prod.mk.injEq] at hfacts
  obtain ⟨hstatus, hmarked, habsent, hok⟩ := hfacts
  cases hbundle : buildEvidenceBundle record 0 "exporter" with
  | error failure =>
    rw [hbundle] at hok
    cases hok
  | ok bundle => exact ⟨record, bundle, hrecord, hstatus, hmarked, habsent, hbundle⟩

/-- The bundle of the verified sample is not found inconsistent. -/
theorem evidence_not_inconsistent_sample :
    ∃ record bundle report,
      sampleCompletion.shared.store.proposals ("tenant", "proposal") = some record ∧
      record.lifecycleStatus = .verified ∧ buildEvidenceBundle record 0 "exporter" = .ok bundle ∧
      validateEvidenceBundle bundle = .ok report ∧ report.status ≠ .inconsistent := by
  obtain ⟨record, bundle, hrecord, hstatus, -, habsent, hbundle⟩ :=
    exists_sampleBundle sampleCompletion_facts
  obtain ⟨report, hreport, hverdict⟩ :=
    evidence_not_inconsistent_iff (c := sampleCompletion) (sampleRun_reachable _ _ _) hrecord hbundle
  exact ⟨record, bundle, report, hrecord, hstatus, hbundle, hreport, hverdict.mpr (Or.inr habsent)⟩

/-- The bundle of the absent sample, an honest export of a stored record, is found inconsistent. -/
theorem evidence_inconsistent_of_absence :
    ∃ record bundle report,
      RuntimeReachable (Env.oneClock fun _ ↦ false) (hostExecutors SampleModel noOperations) 0
        sampleAbsence ∧
      sampleAbsence.shared.store.proposals ("tenant", "proposal") = some record ∧
      record.erasureMarked = false ∧ record.lifecycleStatus = .failedKnown ∧
      buildEvidenceBundle record 0 "exporter" = .ok bundle ∧
      validateEvidenceBundle bundle = .ok report ∧ report.status = .inconsistent := by
  obtain ⟨record, bundle, hrecord, hstatus, hmarked, habsent, hbundle⟩ :=
    exists_sampleBundle sampleAbsence_facts
  have hc : RuntimeReachable (Env.oneClock fun _ ↦ false)
      (hostExecutors SampleModel noOperations) 0 sampleAbsence := sampleRun_reachable _ _ _
  obtain ⟨report, hreport, hverdict⟩ :=
    RuntimeReachable.verdict hostExecutors_lawful_any hc hrecord hbundle
  refine ⟨record, bundle, report, hc, hrecord, hmarked, hstatus, hbundle, hreport, ?_⟩
  by_contra hconsistent
  rcases hverdict.mp hconsistent with hmarked' | habsent'
  · rw [hmarked] at hmarked'
    cases hmarked'
  · rw [habsent] at habsent'
    cases habsent'

end Sample

end ThrevoActions
