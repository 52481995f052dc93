import ThrevoActions.EvidenceRoundTrip
import ThrevoActions.Store.PostgresErasure
import ThrevoActions.Store.PostgresTables

/-!
# Loading what was written to PostgreSQL

Every accepted write of a record is loaded as that record, unless the record has a number that is
not finite, which is stored as `null`, or a document beyond the limits of the parser.

The invariant files a record with every row: the columns and `proposal_data` say the record, and the
child rows are numbered from zero without a gap, in the order of its evidence and of its receipts.
An erased record has no child rows. That is kept by the trigger, which lets nobody but the owner of
the table change `erased_at`: appending starts at the length of the current lists.
-/

namespace ThrevoActions

/-! ## Written documents -/

namespace JsonValue

/-- A document is written as it is exactly when all its numbers are finite. -/
theorem written_eq_self_iff {v : JsonValue} : written v = v ↔ finite v = true := by
  induction v using JsonValue.induction with
  | null | bool | int | str => exact iff_of_true rfl rfl
  | float bits =>
    rw [written, finite]
    cases isFinite bits with
    | true => exact iff_of_true rfl rfl
    | false => exact iff_of_false nofun Bool.false_ne_true
  | list items ih =>
    rw [written, finite, writtenList_eq_map, finiteList_eq_all, list.injEq, List.all_eq_true]
    conv_lhs => rw [← List.map_id items, List.map_map]
    rw [List.map_inj_left]
    exact forall₂_congr ih
  | dict entries ih =>
    rw [written, finite, writtenEntries_eq_map, finiteEntries_eq_all, dict.injEq, List.all_eq_true]
    conv_lhs => rw [← List.map_id entries, List.map_map]
    rw [List.map_inj_left]
    refine forall₂_congr fun entry hentry ↦ ?_
    rw [← ih entry hentry, Function.comp_apply, id_eq, Prod.ext_iff]
    exact ⟨And.right, fun hvalue ↦ ⟨rfl, hvalue⟩⟩

theorem writtenEntries_eq_self_iff {entries : JsonObject} :
    writtenEntries entries = entries ↔ finite (.dict entries) = true := by
  rw [← written_eq_self_iff, written, dict.injEq]

end JsonValue

namespace PostgresTables

open JsonValue

/-! ## Numbered rows -/

/-- Rows that are numbered without a gap are in the order of their numbers. -/
theorem orderBySequence_of_numbered {α : Type} {sequence : α → ℕ} {rows : List α} {n : ℕ}
    (h : rows.map sequence = List.range' 0 n) : orderBySequence sequence rows = rows := by
  have hsorted : rows.Pairwise fun a b ↦ sequence a ≤ sequence b := by
    rw [← List.pairwise_map (f := sequence) (R := (· ≤ ·)), h]
    exact List.pairwise_le_range'
  exact hsorted.insertionSort_eq

section Rows

variable [PydanticDumps]

open PydanticDumps PydanticValues

/-- The numbers and the data of the rows of a list. -/
def numbered {α : Type} (dump : α → JsonObject) (values : List α) (offset : ℕ) :
    List (ℕ × JsonValue) :=
  (values.zipIdx offset).map fun value ↦ (value.2, .dict (dump value.1))

omit [PydanticDumps] in
theorem numbered_append {α : Type} (dump : α → JsonObject) (front back : List α) :
    numbered dump (front ++ back) 0 = numbered dump front 0 ++ numbered dump back front.length := by
  rw [numbered, List.zipIdx_append, List.map_append, Nat.zero_add, numbered, numbered]

omit [PydanticDumps] in
/-- Rows numbered from zero are read in the order of the list. -/
theorem data_of_numbered {α β : Type} {dump : α → JsonObject} {values : List α} {rows : List β}
    {sequence : β → ℕ} {data : β → JsonValue}
    (h : rows.map (fun row ↦ (sequence row, data row)) = numbered dump values 0) :
    (orderBySequence sequence rows).map data = values.map fun value ↦ .dict (dump value) := by
  have hsequence : rows.map sequence = List.range' 0 values.length := by
    have hfst := congrArg (List.map Prod.fst) h
    rw [List.map_map, numbered, List.map_map] at hfst
    exact hfst.trans (List.zipIdx_map_snd 0 values)
  have hdata : rows.map data = values.map fun value ↦ .dict (dump value) := by
    have hsnd := congrArg (List.map Prod.snd) h
    rw [List.map_map, numbered, List.map_map] at hsnd
    refine hsnd.trans ?_
    conv_rhs => rw [← List.zipIdx_map_fst 0 values, List.map_map]
    rfl
  rw [orderBySequence_of_numbered hsequence, hdata]

/-- The record filed under a row: the row and its children say it, its child rows are numbered in
order, and an erased record has none. -/
structure Filed (tables : PostgresTables) (key : ProposalKey) (row : ProposalRow)
    (proposal : StoredProposal) : Prop where
  content : PostgresStore.Says key row
    (proposal.authorityEvidence.map fun evidence ↦ .dict (authorityEvidenceDump evidence))
    (proposal.receipts.map fun receipt ↦ .dict (receiptDump receipt)) proposal
  evidence : (tables.authorityEvidence key).map
      (fun row ↦ (row.evidenceSequence, row.evidenceData)) =
    numbered authorityEvidenceDump proposal.authorityEvidence 0
  receipts : (tables.receipts key).map (fun row ↦ (row.receiptSequence, row.receiptData)) =
    numbered receiptDump proposal.receipts 0
  erased : proposal.erasedAt ≠ none → proposal.authorityEvidence = [] ∧ proposal.receipts = []

/-- Every row has a filed record, and without a row there are no children. -/
def Intact (tables : PostgresTables) : Prop :=
  ∀ key, (tables.proposals key = none →
      tables.authorityEvidence key = [] ∧ tables.receipts key = []) ∧
    ∀ row, tables.proposals key = some row → ∃ proposal, tables.Filed key row proposal

theorem Filed.evidenceData {tables : PostgresTables} {key : ProposalKey} {row : ProposalRow}
    {proposal : StoredProposal} (h : tables.Filed key row proposal) :
    tables.evidenceData key =
      proposal.authorityEvidence.map fun evidence ↦ .dict (authorityEvidenceDump evidence) :=
  data_of_numbered h.evidence

theorem Filed.receiptData {tables : PostgresTables} {key : ProposalKey} {row : ProposalRow}
    {proposal : StoredProposal} (h : tables.Filed key row proposal) :
    tables.receiptData key = proposal.receipts.map fun receipt ↦ .dict (receiptDump receipt) :=
  data_of_numbered h.receipts

/-- A filed record is loaded, unless a document is beyond the limits of the parser. -/
theorem Filed.load {tables : PostgresTables} {key : ProposalKey} {row : ProposalRow}
    {proposal : StoredProposal} (h : tables.Filed key row proposal)
    (hrow : tables.proposals key = some row) :
    tables.load key =
      if withinLimits (.dict row.proposalData) && (tables.evidenceData key).all withinLimits &&
          (tables.receiptData key).all withinLimits then .ok (some proposal)
      else .error .storedDataCorruption := by
  have hload : tables.ordered.load key = .ok (some proposal) := by
    rw [PostgresStore.load_eq_ok_some]
    refine ⟨row, hrow, ?_⟩
    rw [ordered]
    dsimp only
    rw [h.evidenceData, h.receiptData]
    exact h.content
  rw [PostgresTables.load, hrow]
  dsimp only
  rw [hload]

/-- What is loaded is the filed record. -/
theorem Intact.filed {tables : PostgresTables} (h : tables.Intact) {key : ProposalKey}
    {current : StoredProposal} (hload : tables.load key = .ok (some current)) :
    ∃ row, tables.proposals key = some row ∧ tables.Filed key row current := by
  cases hrow : tables.proposals key with
  | none =>
    rw [PostgresTables.load, hrow] at hload
    cases hload
  | some row =>
    obtain ⟨proposal, hfiled⟩ := (h key).2 row hrow
    rw [hfiled.load hrow] at hload
    split_ifs at hload
    cases hload
    exact ⟨row, rfl, hfiled⟩

/-! ## What the statements do -/

variable {tables tables' : PostgresTables}

omit [PydanticDumps] in
/-- The tables with these rows appended to the children of a proposal. -/
def appendRows (tables : PostgresTables) (key : ProposalKey) (evidence : List EvidenceRow)
    (receipts : List ReceiptRow) : PostgresTables :=
  { tables with
    authorityEvidence := Function.update tables.authorityEvidence key
      (tables.authorityEvidence key ++ evidence)
    receipts := Function.update tables.receipts key (tables.receipts key ++ receipts) }

omit [PydanticDumps] in
theorem appendRows_nil (tables : PostgresTables) (key : ProposalKey) :
    tables.appendRows key [] [] = tables := by
  rw [appendRows, List.append_nil, List.append_nil, Function.update_eq_self,
    Function.update_eq_self]

omit [PydanticDumps] in
theorem appendRows_appendRows (tables : PostgresTables) (key : ProposalKey)
    (evidence evidence' : List EvidenceRow) (receipts receipts' : List ReceiptRow) :
    (tables.appendRows key evidence receipts).appendRows key evidence' receipts' =
      tables.appendRows key (evidence ++ evidence') (receipts ++ receipts') := by
  simp only [appendRows, Function.update_self, Function.update_idem, List.append_assoc]

omit [PydanticDumps] in
theorem insertEvidence_ok {key : ProposalKey} {row : EvidenceRow}
    (h : tables.insertEvidence key row = .ok tables') : tables' = tables.appendRows key [row] [] := by
  rw [insertEvidence] at h
  by_cases hlimit : bigintMax < row.evidenceSequence
  · rw [if_pos hlimit] at h
    cases h
  · rw [if_neg hlimit] at h
    cases hrow : tables.proposals key with
    | none =>
      rw [hrow] at h
      cases h
    | some parent =>
      rw [hrow] at h
      dsimp only at h
      split_ifs at h
      cases h
      rw [appendRows, List.append_nil, Function.update_eq_self]

omit [PydanticDumps] in
theorem insertReceipt_ok {key : ProposalKey} {row : ReceiptRow}
    (h : tables.insertReceipt key row = .ok tables') : tables' = tables.appendRows key [] [row] := by
  rw [insertReceipt] at h
  by_cases hlimit : bigintMax < row.receiptSequence
  · rw [if_pos hlimit] at h
    cases h
  · rw [if_neg hlimit] at h
    cases hrow : tables.proposals key with
    | none =>
      rw [hrow] at h
      cases h
    | some parent =>
      rw [hrow] at h
      dsimp only at h
      split_ifs at h
      cases h
      rw [appendRows, List.append_nil, Function.update_eq_self]

omit [PydanticDumps] in
/-- `executemany` over rows that are each appended appends them all. -/
theorem foldlM_appendRows {α : Type} {key : ProposalKey}
    {insert : PostgresTables → α → Transaction PostgresTables} (evidence : α → List EvidenceRow)
    (receipts : α → List ReceiptRow)
    (hinsert : ∀ before value after, insert before value = .ok after →
      after = before.appendRows key (evidence value) (receipts value))
    {values : List α} {before after : PostgresTables}
    (h : values.foldlM insert before = .ok after) :
    after = before.appendRows key (values.flatMap evidence) (values.flatMap receipts) := by
  induction values generalizing before with
  | nil =>
    cases h
    exact (appendRows_nil _ key).symm
  | cons value values ih =>
    rw [List.foldlM_cons] at h
    obtain ⟨inserted, hvalue, h⟩ := Except.bind_eq_ok.mp h
    rw [ih h, hinsert _ _ _ hvalue, appendRows_appendRows, List.flatMap_cons, List.flatMap_cons]

theorem insertNewEvidence_ok {current : Option StoredProposal} {updated : StoredProposal}
    (h : tables.insertNewEvidence current updated = .ok tables') :
    ∃ evidence, tables' = tables.appendRows updated.key evidence [] ∧
      evidence.map (fun row ↦ (row.evidenceSequence, row.evidenceData)) =
        numbered authorityEvidenceDump (updated.authorityEvidence.drop
          ((current.map fun proposal ↦ proposal.authorityEvidence.length).getD 0))
          ((current.map fun proposal ↦ proposal.authorityEvidence.length).getD 0) := by
  rw [insertNewEvidence] at h
  by_cases hnew : updated.authorityEvidence.drop
      ((current.map fun proposal ↦ proposal.authorityEvidence.length).getD 0) = []
  · rw [if_pos hnew] at h
    cases h
    refine ⟨[], (appendRows_nil tables updated.key).symm, ?_⟩
    rw [hnew, numbered, List.zipIdx_nil]
    rfl
  · rw [if_neg hnew] at h
    cases hcommitment : updated.commitment with
    | none =>
      rw [hcommitment] at h
      cases h
    | some commitment =>
      rw [hcommitment] at h
      have happend := foldlM_appendRows (fun value ↦ [evidenceRow updated commitment value])
        (fun _ ↦ []) (fun _ _ _ ↦ insertEvidence_ok) h
      rw [List.flatMap_eq_nil_iff.mpr fun _ _ ↦ rfl] at happend
      refine ⟨_, happend, ?_⟩
      rw [List.map_flatMap, numbered, ← List.flatMap_singleton' (List.map _ _), List.flatMap_map]
      rfl

theorem insertNewReceipts_ok {current : Option StoredProposal} {updated : StoredProposal}
    (h : tables.insertNewReceipts current updated = .ok tables') :
    ∃ receipts, tables' = tables.appendRows updated.key [] receipts ∧
      receipts.map (fun row ↦ (row.receiptSequence, row.receiptData)) =
        numbered receiptDump (updated.receipts.drop
          ((current.map fun proposal ↦ proposal.receipts.length).getD 0))
          ((current.map fun proposal ↦ proposal.receipts.length).getD 0) := by
  rw [insertNewReceipts] at h
  have happend := foldlM_appendRows (fun _ ↦ []) (fun value ↦ [receiptRow value])
    (fun _ _ _ ↦ insertReceipt_ok) h
  rw [List.flatMap_eq_nil_iff.mpr fun _ _ ↦ rfl] at happend
  refine ⟨_, happend, ?_⟩
  rw [List.map_flatMap, numbered, ← List.flatMap_singleton' (List.map _ _), List.flatMap_map]
  rfl

/-- **What `_insert_children` appends**: the rows of the evidence and of the receipts that the
current lists do not have, numbered on from their lengths. -/
theorem insertChildren_ok {current : Option StoredProposal} {updated : StoredProposal}
    (h : tables.insertChildren current updated = .ok tables') :
    ∃ evidence receipts, tables' = tables.appendRows updated.key evidence receipts ∧
      evidence.map (fun row ↦ (row.evidenceSequence, row.evidenceData)) =
        numbered authorityEvidenceDump (updated.authorityEvidence.drop
          ((current.map fun proposal ↦ proposal.authorityEvidence.length).getD 0))
          ((current.map fun proposal ↦ proposal.authorityEvidence.length).getD 0) ∧
      receipts.map (fun row ↦ (row.receiptSequence, row.receiptData)) =
        numbered receiptDump (updated.receipts.drop
          ((current.map fun proposal ↦ proposal.receipts.length).getD 0))
          ((current.map fun proposal ↦ proposal.receipts.length).getD 0) := by
  obtain ⟨inserted, hinserted, h⟩ := Except.bind_eq_ok.mp h
  obtain ⟨evidence, rfl, hevidence⟩ := insertNewEvidence_ok hinserted
  obtain ⟨receipts, rfl, hreceipts⟩ := insertNewReceipts_ok h
  refine ⟨evidence, receipts, ?_, hevidence, hreceipts⟩
  rw [appendRows_appendRows, List.append_nil, List.nil_append]

omit [PydanticDumps] in
/-- **What the trigger lets pass**: for a role that does not own the table, `erased_at` stays as it
is. -/
theorem enforceProposalUpdate_ok {owns : Bool} {old new result : ProposalRow}
    (h : PostgresStore.enforceProposalUpdate owns old new = .ok result) :
    result = new ∧ (owns = false → new.proposalData.lookup (PyStr.ofString "erased_at") =
      old.proposalData.lookup (PyStr.ofString "erased_at")) := by
  rw [PostgresStore.enforceProposalUpdate] at h
  split_ifs at h with hprotected hidentity hrevision hstatus
  cases h
  refine ⟨rfl, fun howns ↦ ?_⟩
  by_contra herased
  exact hprotected ⟨Or.inr ⟨"erased_at", by decide, herased⟩, howns⟩

/-- **What `_update_parent` writes.** -/
theorem updateParent_ok {current updated : StoredProposal} {now : Timestamp}
    (h : tables.updateParent current updated now = .ok tables') :
    ∃ (row : ProposalRow) (revision : BigInt), tables.proposals current.key = some row ∧
      revision.val = updated.revision ∧
      (parentData updated).lookup (PyStr.ofString "erased_at") =
        row.proposalData.lookup (PyStr.ofString "erased_at") ∧
      tables' = { tables with
        proposals := Function.update tables.proposals current.key
          (some (updatedRow row updated revision now)) } := by
  rw [updateParent] at h
  cases hrow : tables.proposals current.key with
  | none =>
    rw [hrow] at h
    cases h
  | some row =>
    rw [hrow] at h
    dsimp only at h
    by_cases hrevision : updated.revision < bigintMax + 1
    · rw [dif_pos hrevision] at h
      split_ifs at h with hlocked
      cases hnew : PostgresStore.enforceProposalUpdate false row
          (updatedRow row updated ⟨updated.revision, hrevision⟩ now) with
      | error e =>
        rw [hnew] at h
        cases h
      | ok new =>
        rw [hnew] at h
        dsimp only at h
        obtain ⟨rfl, herased⟩ := enforceProposalUpdate_ok hnew
        split_ifs at h
        cases h
        exact ⟨row, ⟨updated.revision, hrevision⟩, rfl, rfl, herased rfl, rfl⟩
    · rw [dif_neg hrevision] at h
      cases h

/-- **What `create` writes**: a row under a free key, and its children. -/
theorem create_ok {proposal : StoredProposal} (h : tables.create proposal = .ok tables') :
    ∃ revision : BigInt, revision.val = proposal.revision ∧
      tables.proposals proposal.key = none ∧ proposal.erasedAt = none ∧
      PostgresTables.insertChildren { tables with
        proposals := Function.update tables.proposals proposal.key
          (some (newRow proposal revision)) } none proposal = .ok tables' := by
  obtain ⟨_, hvalid, h⟩ := Except.bind_eq_ok.mp h
  have hunerased : proposal.erasedAt = none := by
    have hok : validateProposalCreate proposal = .ok () := by
      cases hresult : validateProposalCreate proposal with
      | error e =>
        rw [hresult] at hvalid
        cases hvalid
      | ok => rfl
    simp only [validateProposalCreate, refuseIf_bind_eq_ok, Bool.or_eq_false_iff] at hok
    exact Option.isNone_iff_eq_none.mp (Option.isSome_eq_false_iff.mp hok.2.2.1.2)
  by_cases hrevision : proposal.revision < bigintMax + 1
  · rw [dif_pos hrevision] at h
    split_ifs at h with hversion htime hfound
    refine ⟨⟨proposal.revision, hrevision⟩, rfl, ?_, hunerased, ?_⟩
    · exact Option.isNone_iff_eq_none.mp (Option.isSome_eq_false_iff.mp (Bool.not_eq_true _ ▸ hfound))
    · dsimp only at h
      split at h
      · cases h
      · exact h
  · rw [dif_neg hrevision] at h
    cases h

/-! ## Records as they are stored -/

/-- The record as its documents are written. -/
def storedForm (proposal : StoredProposal) : StoredProposal :=
  { proposal with
    displayPreview := writtenEntries proposal.displayPreview
    safeResult := proposal.safeResult.map writtenEntries }

/-- Every number of the record's documents is finite. -/
def FiniteNumbers (proposal : StoredProposal) : Prop :=
  finite (.dict proposal.displayPreview) = true ∧
    ∀ result ∈ proposal.safeResult, finite (.dict result) = true

omit [PydanticDumps] in
theorem storedForm_eq_self_iff {proposal : StoredProposal} :
    storedForm proposal = proposal ↔ FiniteNumbers proposal := by
  have hresult : proposal.safeResult.map writtenEntries = proposal.safeResult ↔
      ∀ result ∈ proposal.safeResult, finite (.dict result) = true := by
    cases proposal.safeResult with
    | none => exact iff_of_true rfl nofun
    | some result =>
      rw [Option.map_some, Option.some.injEq, writtenEntries_eq_self_iff]
      exact ⟨fun h _ hmem ↦ Option.mem_some.mp hmem ▸ h, fun h ↦ h result rfl⟩
  rw [FiniteNumbers, ← writtenEntries_eq_self_iff, ← hresult]
  constructor
  · intro h
    exact ⟨congrArg StoredProposal.displayPreview h, congrArg StoredProposal.safeResult h⟩
  · rintro ⟨hpreview, hsafe⟩
    rw [storedForm, hpreview, hsafe]

/-- The values of the record are of their types: validation reads what is written of them. -/
structure Genuine (proposal : StoredProposal) : Prop where
  protectedPrivateSnapshot : ∀ payload ∈ proposal.protectedPrivateSnapshot,
    protectedPayload (.dict (protectedPayloadDump payload)) = some payload
  commitment : ∀ commitment ∈ proposal.commitment,
    keyedCommitment (.dict (keyedCommitmentDump commitment)) = some commitment
  requestingPrincipal : ∀ principal ∈ proposal.requestingPrincipal,
    PydanticValues.requestingPrincipal
      (participantDump "requesting_principal" principal.reference) = some principal
  proposingAgent : ∀ agent ∈ proposal.proposingAgent,
    PydanticValues.proposingAgent (participantDump "proposing_agent" agent.reference) = some agent
  authorityEvidence : ∀ evidence ∈ proposal.authorityEvidence,
    PydanticValues.authorityEvidence (.dict (authorityEvidenceDump evidence)) = some evidence
  receipts : ∀ value ∈ proposal.receipts, receipt (.dict (receiptDump value)) = some value
  maxVerificationAttempts : 1 ≤ proposal.maxVerificationAttempts
  executionPrecondition : ∀ reference ∈ proposal.executionPrecondition,
    safeReference (jsonText reference) = some reference
  supersededBy : ∀ reference ∈ proposal.supersededBy,
    safeReference (jsonText reference) = some reference
  erasurePendingAt : ∀ t ∈ proposal.erasurePendingAt, datetime (.str (datetimeDump t)) = some t
  erasedAt : ∀ t ∈ proposal.erasedAt, datetime (.str (datetimeDump t)) = some t

omit [PydanticDumps] in
/-- The values of a list are read from what is written of them. -/
theorem mapM_dump {α : Type} {validate : JsonValue → Option α} {dump : α → JsonValue}
    {values : List α} (h : ∀ a ∈ values, validate (dump a) = some a) :
    (values.map dump).mapM validate = some values := listOf_map h

/-- **A row with the written data says the record**, as it is stored. -/
theorem says_of_columns {proposal : StoredProposal} (hgenuine : Genuine proposal)
    {row : ProposalRow} (hdata : row.proposalData = parentData proposal)
    (hidentity : (row.actionType, row.semanticEffectReference, row.effectKind, row.createdAt) =
      (proposal.actionType, proposal.semanticEffectReference, proposal.effectKind,
        proposal.createdAt))
    (hstatus : row.lifecycleStatus = proposal.lifecycleStatus)
    (hrevision : row.revision.val = proposal.revision) (hexpires : row.expiresAt = proposal.expiresAt)
    (hnext : row.nextVerificationAt = proposal.nextVerificationAt) :
    PostgresStore.Says proposal.key row
      (proposal.authorityEvidence.map fun evidence ↦ .dict (authorityEvidenceDump evidence))
      (proposal.receipts.map fun receipt ↦ .dict (receiptDump receipt)) (storedForm proposal) := by
  simp only [Prod.mk.injEq] at hidentity
  obtain ⟨haction, heffect, hkind, hcreated⟩ := hidentity
  have hresult : orNone validateJsonObject (jsonOptional
      (fun result ↦ .dict (writtenEntries result)) proposal.safeResult) =
        some (proposal.safeResult.map writtenEntries) := by
    cases proposal.safeResult with
    | none => rfl
    | some result => rfl
  refine ⟨?_, rfl, haction.symm, heffect.symm, hkind.symm, hstatus.symm, hrevision.symm,
    hcreated.symm, hexpires.symm, hnext.symm, ?_, ?_, ?_, ?_, ?_,
    mapM_dump hgenuine.authorityEvidence, mapM_dump hgenuine.receipts, ?_, ?_, ?_, ?_, ?_, ?_, ?_⟩
  all_goals rw [hdata]
  · intro name hname
    have hsubset : (parentData proposal).map Prod.fst ⊆ storedProposalFields := by
      show ["protected_private_snapshot", "commitment", "display_preview", "requesting_principal",
        "proposing_agent", "verification_attempts", "max_verification_attempts", "safe_result",
        "execution_precondition", "superseded_by", "erasure_pending_at", "erased_at"].map
          PyStr.ofString ⊆ _
      exact List.map_subset _ (by decide)
    exact hsubset hname
  · exact (requiredField_of_lookup_eq_some rfl).trans
      (orNone_jsonOptional (fun _ ↦ nofun) hgenuine.protectedPrivateSnapshot)
  · exact (requiredField_of_lookup_eq_some rfl).trans
      (orNone_jsonOptional (fun _ ↦ nofun) hgenuine.commitment)
  · exact (optionalField_of_lookup_eq_some rfl).trans rfl
  · exact (optionalField_of_lookup_eq_some rfl).trans
      (orNone_jsonOptional (fun _ ↦ nofun) hgenuine.requestingPrincipal)
  · exact (optionalField_of_lookup_eq_some rfl).trans
      (orNone_jsonOptional (fun _ ↦ nofun) hgenuine.proposingAgent)
  · exact (optionalField_of_lookup_eq_some rfl).trans (validateNat_natCast (Nat.zero_le _))
  · exact (requiredField_of_lookup_eq_some rfl).trans
      (validateNat_natCast hgenuine.maxVerificationAttempts)
  · exact (optionalField_of_lookup_eq_some rfl).trans hresult
  · exact (optionalField_of_lookup_eq_some rfl).trans
      (orNone_jsonOptional (fun _ ↦ nofun) hgenuine.executionPrecondition)
  · exact (optionalField_of_lookup_eq_some rfl).trans
      (orNone_jsonOptional (fun _ ↦ nofun) hgenuine.supersededBy)
  · exact (optionalField_of_lookup_eq_some rfl).trans
      (orNone_jsonOptional (fun _ ↦ nofun) hgenuine.erasurePendingAt)
  · exact (optionalField_of_lookup_eq_some rfl).trans
      (orNone_jsonOptional (fun _ ↦ nofun) hgenuine.erasedAt)

/-! ## Writes -/

/-- The tables differ under one key only. -/
def SameElsewhere (tables tables' : PostgresTables) (key : ProposalKey) : Prop :=
  ∀ other ≠ key, tables'.proposals other = tables.proposals other ∧
    tables'.authorityEvidence other = tables.authorityEvidence other ∧
    tables'.receipts other = tables.receipts other

theorem SameElsewhere.load {key other : ProposalKey} (h : SameElsewhere tables tables' key)
    (hother : other ≠ key) : tables'.load other = tables.load other := by
  obtain ⟨hrow, hevidence, hreceipts⟩ := h other hother
  have hevidenceData : tables'.evidenceData other = tables.evidenceData other := by
    rw [PostgresTables.evidenceData, hevidence, PostgresTables.evidenceData]
  have hreceiptData : tables'.receiptData other = tables.receiptData other := by
    rw [PostgresTables.receiptData, hreceipts, PostgresTables.receiptData]
  have hordered : tables'.ordered.load other = tables.ordered.load other := by
    rw [PostgresStore.load, PostgresStore.load, ordered, ordered]
    dsimp only
    rw [hrow, hevidenceData, hreceiptData]
  rw [PostgresTables.load, PostgresTables.load, hrow, hevidenceData, hreceiptData, hordered]

/-- Filing a record under one key keeps the tables intact. -/
theorem Intact.file (h : tables.Intact) {key : ProposalKey} (hsame : SameElsewhere tables tables' key)
    {row : ProposalRow} {proposal : StoredProposal} (hrow : tables'.proposals key = some row)
    (hfiled : tables'.Filed key row proposal) : tables'.Intact := by
  intro other
  by_cases hother : other = key
  · rw [hother]
    refine ⟨fun hnone ↦ ?_, fun found hfound ↦ ?_⟩
    · rw [hrow] at hnone
      cases hnone
    · rw [hrow] at hfound
      cases hfound
      exact ⟨proposal, hfiled⟩
  · obtain ⟨hproposals, hevidence, hreceipts⟩ := hsame other hother
    rw [hproposals, hevidence, hreceipts]
    refine ⟨(h other).1, fun found hfound ↦ ?_⟩
    obtain ⟨filed, hrecord⟩ := (h other).2 found hfound
    exact ⟨filed, hrecord.content, by rw [hevidence, hrecord.evidence],
      by rw [hreceipts, hrecord.receipts], hrecord.erased⟩

/-- A call writes the record: a creation, an accepted `compare_and_set`, or an admitted
execution. -/
inductive Writes (tables : PostgresTables) (proposal : StoredProposal) (tables' : PostgresTables) :
    Prop
  | create (h : tables.create proposal = .ok tables')
  | compareAndSet {args : MemoryActionStore.CompareAndSet} {now : Timestamp}
    (hupdated : args.updated = proposal) (h : tables.compareAndSet args now = .ok (true, tables'))
  | admitExecution {args : MemoryActionStore.AdmitExecution} {now : Timestamp}
    {result : EffectClaimResult} (hupdated : args.updated = proposal)
    (hadmitted : result = .acquired ∨ result = .ownedByProposal)
    (h : tables.admitExecution args now = .ok (result, tables'))

/-- What the two updates have in common: the loaded record is updated, next to the claims. -/
structure Updates (tables : PostgresTables) (current updated : StoredProposal)
    (tables' : PostgresTables) : Prop where
  loaded : ∃ key, tables.load key = .ok (some current)
  accepted : AcceptedUpdate current updated
  written : ∃ claims inserted now,
    PostgresTables.insertChildren { tables with effectClaims := claims } (some current) updated =
      .ok inserted ∧
    inserted.updateParent current updated now = .ok tables'

omit [PydanticDumps] in
theorem raise_eq_ok {α : Type} {result : Except Exn α} {a : α} (h : raise result = .ok a) :
    result = .ok a := by
  cases result with
  | error e => cases h
  | ok b =>
    cases h
    rfl

theorem locked_eq_ok {key : ProposalKey} {found : Option StoredProposal}
    (h : tables.locked key = .ok found) : tables.load key = .ok found := by
  rw [locked] at h
  cases hload : tables.load key with
  | error e =>
    rw [hload] at h
    cases h
  | ok other =>
    rw [hload] at h
    cases h
    rfl

/-- **An accepted `compare_and_set`** updates the loaded record. -/
theorem compareAndSet_updates {args : MemoryActionStore.CompareAndSet} {now : Timestamp}
    (h : tables.compareAndSet args now = .ok (true, tables')) :
    ∃ current, Updates tables current args.updated tables' := by
  obtain ⟨found, hfound, h⟩ := Except.bind_eq_ok.mp h
  cases found with
  | none => cases h
  | some current =>
    dsimp only at h
    split_ifs at h with hguard howner
    · cases h
    · obtain ⟨_, -, h⟩ := Except.bind_eq_ok.mp h
      cases h
    · obtain ⟨_, hvalid, h⟩ := Except.bind_eq_ok.mp h
      obtain ⟨inserted, hinserted, h⟩ := Except.bind_eq_ok.mp h
      obtain ⟨written, hwritten, h⟩ := Except.bind_eq_ok.mp h
      cases h
      exact ⟨current, ⟨_, locked_eq_ok hfound⟩, validateProposalUpdate_ok (raise_eq_ok hvalid),
        tables.effectClaims, inserted, now, hinserted, hwritten⟩

omit [PydanticDumps] in
theorem claimEffect_tables (tables : PostgresTables) (proposal : StoredProposal) (admittedAt now : Timestamp) :
    ∃ claims, (tables.claimEffect proposal admittedAt now).2 =
      { tables with effectClaims := claims } := by
  rw [claimEffect]
  split
  · exact ⟨_, rfl⟩
  · split_ifs
    · exact ⟨_, rfl⟩
    · exact ⟨_, rfl⟩
    · exact ⟨_, rfl⟩

/-- **An admitted execution** updates the loaded record. -/
theorem admitExecution_updates {args : MemoryActionStore.AdmitExecution} {now : Timestamp}
    {result : EffectClaimResult} (hadmitted : result = .acquired ∨ result = .ownedByProposal)
    (h : tables.admitExecution args now = .ok (result, tables')) :
    ∃ current, Updates tables current args.updated tables' := by
  obtain ⟨found, hfound, h⟩ := Except.bind_eq_ok.mp h
  cases found with
  | none =>
    cases h
    rcases hadmitted with hresult | hresult <;> cases hresult
  | some current =>
    dsimp only at h
    split_ifs at h with hguard hexecuting
    · cases h
      rcases hadmitted with hresult | hresult <;> cases hresult
    · obtain ⟨_, -, h⟩ := Except.bind_eq_ok.mp h
      cases h
    · obtain ⟨_, hvalid, h⟩ := Except.bind_eq_ok.mp h
      obtain ⟨claims, hclaims⟩ := claimEffect_tables tables current args.admittedAt now
      split at h
      · cases h
        rcases hadmitted with hresult | hresult <;> cases hresult
      · rename_i answer claimed hconflict hclaim
        rw [hclaim] at hclaims
        dsimp only at hclaims
        obtain ⟨inserted, hinserted, h⟩ := Except.bind_eq_ok.mp h
        obtain ⟨written, hwritten, h⟩ := Except.bind_eq_ok.mp h
        cases h
        rw [hclaims] at hinserted
        exact ⟨current, ⟨_, locked_eq_ok hfound⟩, validateProposalUpdate_ok (raise_eq_ok hvalid),
          claims, inserted, now, hinserted, hwritten⟩

/-- A record is filed, as it is stored, under a row with its own data. -/
structure FiledAs (tables tables' : PostgresTables) (proposal : StoredProposal) : Prop where
  elsewhere : SameElsewhere tables tables' proposal.key
  row : ∃ row, tables'.proposals proposal.key = some row ∧
    row.proposalData = parentData proposal ∧
    tables'.Filed proposal.key row (storedForm proposal)

theorem create_files (h : tables.Intact) {proposal : StoredProposal}
    (hcreate : tables.create proposal = .ok tables') (hgenuine : Genuine proposal) :
    FiledAs tables tables' proposal := by
  obtain ⟨revision, hrevision, hfree, hunerased, hinserted⟩ := create_ok hcreate
  obtain ⟨evidence, receipts, rfl, hevidence, hreceipts⟩ := insertChildren_ok hinserted
  obtain ⟨hnoEvidence, hnoReceipts⟩ := (h proposal.key).1 hfree
  refine ⟨fun other hother ↦ ⟨Function.update_of_ne hother _ _, Function.update_of_ne hother _ _,
    Function.update_of_ne hother _ _⟩, newRow proposal revision, Function.update_self _ _ _, rfl,
    says_of_columns hgenuine rfl rfl rfl hrevision rfl rfl, ?_, ?_, ?_⟩
  · rw [appendRows]
    dsimp only
    rw [Function.update_self, hnoEvidence]
    exact hevidence
  · rw [appendRows]
    dsimp only
    rw [Function.update_self, hnoReceipts]
    exact hreceipts
  · intro herased
    exact absurd hunerased herased

/-- An erased record stays without children: nobody but the owner changes `erased_at`, and an erased
record is content-free. -/
theorem erased_children {current updated : StoredProposal} {row : ProposalRow}
    (haccepted : AcceptedUpdate current updated) (hfiled : tables.Filed current.key row current)
    (herased : (parentData updated).lookup (PyStr.ofString "erased_at") =
      row.proposalData.lookup (PyStr.ofString "erased_at"))
    (hupdated : updated.erasedAt ≠ none) :
    current.authorityEvidence = [] ∧ current.receipts = [] ∧
      updated.authorityEvidence = [] ∧ updated.receipts = [] := by
  obtain ⟨t, ht⟩ := Option.ne_none_iff_exists'.mp hupdated
  have hlookup : row.proposalData.lookup (PyStr.ofString "erased_at") =
      some (.str (datetimeDump t)) := by
    rw [← herased]
    show some (jsonOptional _ updated.erasedAt) = _
    rw [ht]
    rfl
  have hread := hfiled.content.erasedAt
  rw [optionalField_of_lookup_eq_some hlookup, orNone] at hread
  · obtain ⟨read, -, hcurrent⟩ := Option.map_eq_some_iff.mp hread
    obtain ⟨hevidence, hreceipts⟩ := hfiled.erased (hcurrent ▸ Option.some_ne_none read)
    have hfree := haccepted.tombstone (by rw [ht]; rfl)
    simp only [contentFree, Bool.and_eq_true, List.isEmpty_iff] at hfree
    exact ⟨hevidence, hreceipts, hfree.1.1.1.2, hfree.1.1.2⟩
  · rintro ⟨⟩

omit [PydanticDumps] in
/-- The current list and what is appended to it make up the updated one. -/
theorem append_drop {α : Type} {current updated : List α} (h : current <+: updated) :
    current ++ updated.drop current.length = updated := by
  obtain ⟨rest, rfl⟩ := h
  rw [List.drop_left]

theorem updates_files (h : tables.Intact) {current proposal : StoredProposal}
    (hupdates : Updates tables current proposal tables') (hgenuine : Genuine proposal) :
    FiledAs tables tables' proposal := by
  obtain ⟨⟨key, hload⟩, haccepted, claims, inserted, now, hinserted, hwritten⟩ := hupdates
  obtain ⟨found, hfound, hfiled⟩ := h.filed hload
  obtain rfl : current.key = key := hfiled.content.key
  have hkey := StoredProposal.key_eq_of_identity haccepted.identity
  obtain ⟨evidence, receipts, rfl, hevidence, hreceipts⟩ := insertChildren_ok hinserted
  obtain ⟨row, revision, hrow, hrevision, herased, rfl⟩ := updateParent_ok hwritten
  obtain rfl : row = found := Option.some.inj (hrow.symm.trans hfound)
  have hprefix : current.authorityEvidence <+: proposal.authorityEvidence ∧
      current.receipts <+: proposal.receipts := by
    by_cases hunerased : proposal.erasedAt = none
    · exact ⟨haccepted.evidence hunerased, haccepted.receipts hunerased⟩
    · obtain ⟨hevidence, hreceipts, -⟩ := erased_children haccepted hfiled herased hunerased
      rw [hevidence, hreceipts]
      exact ⟨List.nil_prefix, List.nil_prefix⟩
  have hidentity := haccepted.identity
  simp only [StoredProposal.identity, Prod.mk.injEq] at hidentity
  obtain ⟨-, -, haction, heffect, hkind, hcreated⟩ := hidentity
  refine ⟨fun other hother ↦ ⟨?_, Function.update_of_ne hother _ _,
    Function.update_of_ne hother _ _⟩, updatedRow row proposal revision now, ?_, rfl,
    says_of_columns hgenuine rfl ?_ rfl hrevision rfl rfl, ?_, ?_, ?_⟩
  · rw [← hkey] at hother
    exact Function.update_of_ne hother _ _
  · rw [← hkey]
    exact Function.update_self _ _ _
  · rw [← haction, ← heffect, ← hkind, ← hcreated, hfiled.content.actionType,
      hfiled.content.semanticEffectReference, hfiled.content.effectKind, hfiled.content.createdAt]
    rfl
  · rw [appendRows]
    dsimp only
    rw [Function.update_self, List.map_append, hevidence, ← hkey, hfiled.evidence, storedForm]
    dsimp only
    rw [Option.map_some, Option.getD_some, ← numbered_append, append_drop hprefix.1]
  · rw [appendRows]
    dsimp only
    rw [Function.update_self, List.map_append, hreceipts, ← hkey, hfiled.receipts, storedForm]
    dsimp only
    rw [Option.map_some, Option.getD_some, ← numbered_append, append_drop hprefix.2]
  · intro hproposal
    exact (erased_children haccepted hfiled herased hproposal).2.2

theorem Writes.files (h : tables.Intact) {proposal : StoredProposal}
    (hwrite : Writes tables proposal tables') (hgenuine : Genuine proposal) :
    FiledAs tables tables' proposal := by
  cases hwrite with
  | create hcreate => exact create_files h hcreate hgenuine
  | compareAndSet hupdated hset =>
    obtain ⟨current, hupdates⟩ := compareAndSet_updates hset
    exact updates_files h (hupdated ▸ hupdates) hgenuine
  | admitExecution hupdated hadmitted hadmit =>
    obtain ⟨current, hupdates⟩ := admitExecution_updates hadmitted hadmit
    exact updates_files h (hupdated ▸ hupdates) hgenuine

end Rows

/-! ## Retention -/

section Retention

variable [PostgresJson]

open PostgresJson (timestamptzText)

omit [PostgresJson] in
/-- An update by the retention functions fails, or writes the changed row with the next revision. -/
theorem updateProposal_cases (store : PostgresStore) (key : ProposalKey) (row : ProposalRow)
    (changed : BigInt → ProposalRow) :
    (∃ e, store.updateProposal key row changed = (.error e, store)) ∨
      ∃ revision : BigInt, revision.val = row.revision.val + 1 ∧
        store.updateProposal key row changed = (.ok true,
          { store with
            proposals := Function.update store.proposals key (some (changed revision)) }) := by
  rw [PostgresStore.updateProposal]
  by_cases hrevision : row.revision.val + 1 < bigintMax + 1
  · rw [dif_pos hrevision]
    cases hnew : PostgresStore.enforceProposalUpdate true row
        (changed ⟨row.revision.val + 1, hrevision⟩) with
    | error e => exact Or.inl ⟨e, rfl⟩
    | ok new =>
      obtain ⟨rfl, -⟩ := enforceProposalUpdate_ok hnew
      exact Or.inr ⟨⟨row.revision.val + 1, hrevision⟩, rfl, rfl⟩
  · rw [dif_neg hrevision]
    exact Or.inl ⟨_, rfl⟩

/-- **What `mark_erasure_pending` does**: nothing, or the row is marked. -/
theorem markErasurePending_cases (store : PostgresStore) (args : MemoryActionStore.ErasureStep) :
    (store.markErasurePending args).2.proposals = store.proposals ∨
      ∃ (row : ProposalRow) (revision : BigInt),
        store.proposals (args.tenantReference, args.proposalReference) = some row ∧
        revision.val = row.revision.val + 1 ∧
        (store.markErasurePending args).2.proposals =
          Function.update store.proposals (args.tenantReference, args.proposalReference)
            (some { row with
              revision
              proposalData := jsonbSet row.proposalData "erasure_pending_at"
                (.str (timestamptzText args.timestamp)) }) := by
  rw [PostgresStore.markErasurePending]
  split_ifs with hlimit
  · exact Or.inl rfl
  · cases hrow : store.proposals (args.tenantReference, args.proposalReference) with
    | none => exact Or.inl rfl
    | some row =>
      dsimp only
      split_ifs with hguard
      · rcases updateProposal_cases store (args.tenantReference, args.proposalReference) row
            (fun revision ↦ { row with
              revision
              proposalData := jsonbSet row.proposalData "erasure_pending_at"
                (.str (timestamptzText args.timestamp)) }) with ⟨e, hresult⟩ | ⟨revision, hrevision, hresult⟩
        · rw [hresult]
          exact Or.inl rfl
        · rw [hresult]
          exact Or.inr ⟨row, revision, rfl, hrevision, rfl⟩
      · exact Or.inl rfl

/-- **What `complete_erasure` does**: it fails or answers `false`, or the row is erased. -/
theorem completeErasure_cases (store : PostgresStore) (args : MemoryActionStore.ErasureStep) :
    (store.completeErasure args).1 ≠ .ok true ∨
      ∃ (row : ProposalRow) (revision : BigInt),
        store.proposals (args.tenantReference, args.proposalReference) = some row ∧
        revision.val = row.revision.val + 1 ∧
        (store.completeErasure args).1 = .ok true ∧
        (store.completeErasure args).2.proposals =
          Function.update store.proposals (args.tenantReference, args.proposalReference)
            (some { row with
              revision
              commitmentDigest := none
              nextVerificationAt := none
              proposalData := PostgresStore.erasedData row.proposalData args.timestamp }) := by
  rw [PostgresStore.completeErasure]
  dsimp only
  split_ifs with hlimit
  · exact Or.inl (by simp)
  · cases hrow : store.proposals (args.tenantReference, args.proposalReference) with
    | none => exact Or.inl (by simp)
    | some row =>
      dsimp only
      split_ifs with hguard
      · rcases updateProposal_cases { store with
            authorityEvidence := Function.update store.authorityEvidence
              (args.tenantReference, args.proposalReference) []
            receipts := Function.update store.receipts
              (args.tenantReference, args.proposalReference) [] }
            (args.tenantReference, args.proposalReference) row
            (fun revision ↦ { row with
              revision
              commitmentDigest := none
              nextVerificationAt := none
              proposalData := PostgresStore.erasedData row.proposalData args.timestamp }) with
          ⟨e, hresult⟩ | ⟨revision, hrevision, hresult⟩
        · rw [hresult]
          exact Or.inl (by simp)
        · rw [hresult]
          exact Or.inr ⟨row, revision, rfl, hrevision, rfl, rfl⟩
      · exact Or.inl (by simp)

variable [PydanticDumps] {tables : PostgresTables}

/-- PostgreSQL's text of a timestamp is read as the timestamp. -/
def ReadsTimestamptz : Prop :=
  ∀ t : Timestamp, PydanticValues.datetime (.str (timestamptzText t)) = some t

theorem Intact.markErasurePending (h : tables.Intact) (hread : ReadsTimestamptz)
    (args : MemoryActionStore.ErasureStep) : (tables.markErasurePending args).2.Intact := by
  rcases markErasurePending_cases tables.ordered args with hsame | ⟨row, revision, hrow, hrevision,
    hmarked⟩
  · have hunchanged : (tables.markErasurePending args).2 = tables := by
      show { tables with proposals := (tables.ordered.markErasurePending args).2.proposals } = tables
      rw [hsame]
      rfl
    rwa [hunchanged]
  · obtain ⟨proposal, hfiled⟩ := (h _).2 row hrow
    have hproposals : (tables.markErasurePending args).2.proposals =
        Function.update tables.proposals (args.tenantReference, args.proposalReference) _ := hmarked
    have hnew : (tables.markErasurePending args).2.Filed
        (args.tenantReference, args.proposalReference) _
        (proposalWithErasurePending proposal args.timestamp) :=
      ⟨hfiled.content.marked (hread args.timestamp) hrevision, hfiled.evidence, hfiled.receipts,
        hfiled.erased⟩
    refine h.file (fun other hother ↦ ⟨?_, rfl, rfl⟩) ?_ hnew
    · rw [hproposals, Function.update_of_ne hother]
    · rw [hproposals, Function.update_self]

theorem Intact.completeErasure (h : tables.Intact) (hread : ReadsTimestamptz)
    (args : MemoryActionStore.ErasureStep) : (tables.completeErasure args).2.Intact := by
  rw [PostgresTables.completeErasure]
  cases hresult : tables.ordered.completeErasure args with
  | mk answer store =>
    rcases completeErasure_cases tables.ordered args with hfailed | ⟨row, revision, hrow, hrevision,
      hanswer, herased⟩
    · rw [hresult] at hfailed
      split
      · rename_i hcases
        cases hcases
        exact absurd rfl hfailed
      · exact h
    · rw [hresult] at hanswer herased
      dsimp only at hanswer herased
      rw [hanswer]
      dsimp only
      obtain ⟨proposal, hfiled⟩ := (h _).2 row hrow
      have hnoEvidence : (Function.update tables.authorityEvidence
          (args.tenantReference, args.proposalReference) [])
          (args.tenantReference, args.proposalReference) = [] := Function.update_self _ _ _
      have hnoReceipts : (Function.update tables.receipts
          (args.tenantReference, args.proposalReference) [])
          (args.tenantReference, args.proposalReference) = [] := Function.update_self _ _ _
      have hnew : Filed
          { tables with
            proposals := store.proposals
            authorityEvidence := Function.update tables.authorityEvidence
              (args.tenantReference, args.proposalReference) []
            receipts := Function.update tables.receipts
              (args.tenantReference, args.proposalReference) [] }
          (args.tenantReference, args.proposalReference) _
          (erasedProposal proposal args.timestamp) :=
        ⟨hfiled.content.erased (hread args.timestamp) hrevision, congrArg (List.map _) hnoEvidence,
          congrArg (List.map _) hnoReceipts, fun _ ↦ ⟨rfl, rfl⟩⟩
      refine h.file (fun other hother ↦ ⟨?_, Function.update_of_ne hother _ _,
        Function.update_of_ne hother _ _⟩) ?_ hnew
      · exact (congrFun herased other).trans (Function.update_of_ne hother _ _)
      · exact (congrFun herased _).trans (Function.update_self _ _ _)

/-! ## Runs -/

/-- The tables of a run: records are written, and their erasure is requested and completed. -/
inductive Reachable : PostgresTables → Prop
  | empty : Reachable empty
  | write {tables tables' : PostgresTables} {proposal : StoredProposal} (h : Reachable tables)
    (hgenuine : Genuine proposal) (hwrite : Writes tables proposal tables') : Reachable tables'
  | markErasurePending {tables : PostgresTables} (h : Reachable tables)
    (args : MemoryActionStore.ErasureStep) : Reachable (tables.markErasurePending args).2
  | completeErasure {tables : PostgresTables} (h : Reachable tables)
    (args : MemoryActionStore.ErasureStep) : Reachable (tables.completeErasure args).2

theorem Reachable.intact (hread : ReadsTimestamptz) (h : Reachable tables) : tables.Intact := by
  induction h with
  | empty => exact fun key ↦ ⟨fun _ ↦ ⟨rfl, rfl⟩, fun row hrow ↦ nomatch hrow⟩
  | write _ hgenuine hwrite ih =>
    obtain ⟨hsame, row, hrow, -, hfiled⟩ := hwrite.files ih hgenuine
    exact ih.file hsame hrow hfiled
  | markErasurePending _ args ih => exact ih.markErasurePending hread args
  | completeErasure _ args ih => exact ih.completeErasure hread args

/-- The documents of a record are within the limits of the parser. -/
def WithinLimits (proposal : StoredProposal) : Prop :=
  PydanticDumps.withinLimits (.dict (parentData proposal)) = true ∧
    (∀ evidence ∈ proposal.authorityEvidence,
      PydanticDumps.withinLimits (.dict (PydanticDumps.authorityEvidenceDump evidence)) = true) ∧
    ∀ receipt ∈ proposal.receipts,
      PydanticDumps.withinLimits (.dict (PydanticDumps.receiptDump receipt)) = true

/-- **What is loaded after a write.** After every accepted write of a run, the record is loaded as it
was written exactly when all its numbers are finite and its documents are within the limits of the
parser; other records are loaded as before. -/
theorem load_written_iff (hread : ReadsTimestamptz) (h : Reachable tables) {tables' : PostgresTables}
    {proposal : StoredProposal} (hgenuine : Genuine proposal)
    (hwrite : Writes tables proposal tables') :
    (tables'.load proposal.key = .ok (some proposal) ↔
      FiniteNumbers proposal ∧ WithinLimits proposal) ∧
    ∀ other ≠ proposal.key, tables'.load other = tables.load other := by
  obtain ⟨hsame, row, hrow, hdata, hfiled⟩ := hwrite.files (h.intact hread) hgenuine
  refine ⟨?_, fun other hother ↦ hsame.load hother⟩
  have hlimits : (PydanticDumps.withinLimits (.dict row.proposalData) &&
      (tables'.evidenceData proposal.key).all PydanticDumps.withinLimits &&
      (tables'.receiptData proposal.key).all PydanticDumps.withinLimits) = true ↔
        WithinLimits proposal := by
    rw [hdata, hfiled.evidenceData, hfiled.receiptData, Bool.and_eq_true, Bool.and_eq_true,
      and_assoc, List.all_eq_true, List.all_eq_true, List.forall_mem_map, List.forall_mem_map]
    exact Iff.rfl
  rw [hfiled.load hrow, ← storedForm_eq_self_iff, ← hlimits]
  split_ifs with hwithin
  · rw [Except.ok.injEq, Option.some.injEq]
    exact ⟨fun hform ↦ ⟨hform, hwithin⟩, And.left⟩
  · exact iff_of_false nofun fun hcondition ↦ hwithin hcondition.2

end Retention

/-! ### A sample run -/

section Sample

attribute [local instance] sampleImport

/-- The text of the epoch in the time zone UTC. -/
def epochTimestamptz : PyStr := PyStr.ofString "1970-01-01T00:00:00+00:00"

theorem sampleDatetimeText_ne (t : ℤ) : sampleDatetimeText t ≠ epochTimestamptz := by
  rw [sampleDatetimeText]
  split_ifs
  · decide
  · decide
  · intro heq
    exact not_mem_dumpsInt t (heq ▸ by decide)

/-- PostgreSQL writes the epoch with its offset. -/
@[reducible] def sampleTimestamptz : PostgresJson where
  timestamptzText t := if t = 0 then epochTimestamptz else sampleDatetimeText t

def payloadDump (payload : ProtectedPayload) : JsonObject :=
  [jsonField "codec" (jsonText payload.codec), jsonField "key_handle" (jsonText payload.keyHandle),
    jsonField "key_version" (jsonText payload.keyVersion),
    jsonField "ciphertext" (jsonText payload.ciphertext)]

def commitmentDump (commitment : KeyedCommitment) : JsonObject :=
  [jsonField "algorithm" (jsonText commitment.algorithm),
    jsonField "key_handle" (jsonText commitment.keyHandle),
    jsonField "key_version" (jsonText commitment.keyVersion),
    jsonField "digest" (jsonText commitment.digest)]

/-- The text of a JSON string. -/
def stringValue : JsonValue → Option String
  | .str s => s.text?
  | _ => none

def evidenceDump (evidence : AuthorityEvidence) : JsonObject :=
  [jsonField "tenant_reference" (jsonText evidence.tenantReference),
    jsonField "action_type" evidence.actionType.dump,
    jsonField "proposal_instance_reference" (jsonText evidence.proposalInstanceReference),
    jsonField "semantic_effect_reference" (jsonText evidence.semanticEffectReference),
    jsonField "authority" (participantDump "confirming_authority" evidence.authority.reference),
    jsonField "audience" (.list (evidence.audience.map jsonText)),
    jsonField "decision" (jsonText evidence.decision.value),
    jsonField "proposal_commitment" (jsonText evidence.proposalCommitment),
    jsonField "channel_assurance" (jsonText evidence.channelAssurance),
    jsonField "issued_at" (.str (sampleDatetimeText evidence.issuedAt)),
    jsonField "expires_at" (.str (sampleDatetimeText evidence.expiresAt)),
    jsonField "external_attestation"
      (jsonOptional ExternalAuthorityAttestation.dump evidence.externalAttestation)]

/-- The sample's values as they are written, and read where the sample has them. -/
@[reducible] def sampleDumps : PydanticDumps where
  protectedPayload value := do
    let fields ← strictFields ["codec", "key_handle", "key_version", "ciphertext"] value
    return ⟨← requiredField fields "codec" stringValue,
      ← requiredField fields "key_handle" stringValue,
      ← requiredField fields "key_version" stringValue,
      ← requiredField fields "ciphertext" stringValue⟩
  keyedCommitment value := do
    let fields ← strictFields ["algorithm", "key_handle", "key_version", "digest"] value
    return ⟨← requiredField fields "algorithm" stringValue,
      ← requiredField fields "key_handle" stringValue,
      ← requiredField fields "key_version" stringValue,
      ← requiredField fields "digest" stringValue⟩
  requestingPrincipal value := (participant? "requesting_principal" value).map .mk
  proposingAgent value := (participant? "proposing_agent" value).map .mk
  safeReference := safeReference?
  authorityEvidence value :=
    if value = .dict (evidenceDump (sampleEvidence "proposal")) then
      some (sampleEvidence "proposal")
    else none
  receipt := Receipt.validate
  datetime value := match value with
    | .str s => if s = epochTimestamptz then some 0 else sampleDatetime s
    | _ => none
  protectedPayloadDump := payloadDump
  keyedCommitmentDump := commitmentDump
  authorityEvidenceDump := evidenceDump
  receiptDump receipt := receipt.base.dump receipt.schemaVersion ++ receipt.ownFields
  datetimeDump := sampleDatetimeText
  withinLimits _ := true

attribute [local instance] sampleTimestamptz sampleDumps

theorem sampleTimestamptz_read : ReadsTimestamptz := by
  intro t
  show (if (if t = 0 then epochTimestamptz else sampleDatetimeText t) = epochTimestamptz then some 0
    else sampleDatetime (if t = 0 then epochTimestamptz else sampleDatetimeText t)) = some t
  by_cases hzero : t = 0
  · rw [if_pos hzero, if_pos rfl, hzero]
  · rw [if_neg hzero, if_neg (sampleDatetimeText_ne t)]
    exact sampleDatetime_text t

/-- The prepared sample, with a receipt. -/
def sampleCreated : StoredProposal :=
  { MemoryActionStore.samplePrepared with
    displayPreview := [jsonField "amount" (jsonText "1.00")]
    requestingPrincipal := some ⟨"requester"⟩
    receipts := [.proposal ⟨⟨"receipt", "proposal", "proposal", 0, none, none, none, none, none⟩,
      .prepared, ⟨"requester"⟩, none⟩] }

/-- It is approved. -/
def sampleAuthorized : StoredProposal :=
  { sampleCreated with
    lifecycleStatus := .authorized
    revision := 1
    authorityEvidence := [sampleEvidence "proposal"]
    receipts := sampleCreated.receipts ++ [.authority ⟨⟨"approval", "proposal", "receipt", 0, none,
      none, none, none, none⟩, .recorded, ⟨"approver"⟩⟩] }

/-- The prepared sample with a number that is not finite. -/
def sampleInfinite : StoredProposal :=
  { MemoryActionStore.samplePrepared with
    displayPreview := [jsonField "ratio" (.float 0x7ff0000000000000#64)] }

theorem sampleCreated_genuine : Genuine sampleCreated where
  protectedPrivateSnapshot := by rintro _ ⟨⟩; decide
  commitment := by rintro _ ⟨⟩; decide
  requestingPrincipal := by rintro _ ⟨⟩; decide
  proposingAgent := nofun
  authorityEvidence := by
    intro evidence hevidence
    cases hevidence
  receipts := by
    intro receipt hreceipt
    rw [List.mem_singleton.mp hreceipt]
    decide
  maxVerificationAttempts := by decide
  executionPrecondition := nofun
  supersededBy := nofun
  erasurePendingAt := nofun
  erasedAt := nofun

theorem sampleAuthorized_genuine : Genuine sampleAuthorized where
  protectedPrivateSnapshot := sampleCreated_genuine.protectedPrivateSnapshot
  commitment := sampleCreated_genuine.commitment
  requestingPrincipal := sampleCreated_genuine.requestingPrincipal
  proposingAgent := nofun
  authorityEvidence := by
    intro evidence hevidence
    rw [List.mem_singleton.mp hevidence]
    decide
  receipts := by
    intro receipt hreceipt
    rcases List.mem_append.mp hreceipt with hcreated | hadded
    · exact sampleCreated_genuine.receipts receipt hcreated
    · rw [List.mem_singleton.mp hadded]
      decide
  maxVerificationAttempts := by decide
  executionPrecondition := nofun
  supersededBy := nofun
  erasurePendingAt := nofun
  erasedAt := nofun

theorem sampleInfinite_genuine : Genuine sampleInfinite where
  protectedPrivateSnapshot := sampleCreated_genuine.protectedPrivateSnapshot
  commitment := sampleCreated_genuine.commitment
  requestingPrincipal := nofun
  proposingAgent := nofun
  authorityEvidence := by
    intro evidence hevidence
    cases hevidence
  receipts := by
    intro receipt hreceipt
    cases hreceipt
  maxVerificationAttempts := by decide
  executionPrecondition := nofun
  supersededBy := nofun
  erasurePendingAt := nofun
  erasedAt := nofun

/-- The tables after the creation of a record. -/
def tablesWith (proposal : StoredProposal) : PostgresTables :=
  (empty.create proposal).toOption.getD empty

theorem create_tablesWith {proposal : StoredProposal} (h : (empty.create proposal).isOk = true) :
    empty.create proposal = .ok (tablesWith proposal) := by
  rw [tablesWith]
  cases hcreate : empty.create proposal with
  | error e =>
    rw [hcreate] at h
    cases h
  | ok tables => rfl

/-- The approval of the sample. -/
def sampleApproval : MemoryActionStore.CompareAndSet where
  tenantReference := "tenant"
  proposalReference := "proposal"
  expectedRevision := 0
  expectedStatuses := [.awaitingAuthority]
  updated := sampleAuthorized

/-- The approved sample is loaded as it was written, with its evidence and both receipts. -/
theorem load_written_sample : ∃ tables tables', empty.create sampleCreated = .ok tables ∧
    tables.compareAndSet sampleApproval 0 = .ok (true, tables') ∧
    tables'.load ("tenant", "proposal") = .ok (some sampleAuthorized) := by
  have hcreate : empty.create sampleCreated = .ok (tablesWith sampleCreated) :=
    create_tablesWith (by decide)
  have hset : ((tablesWith sampleCreated).compareAndSet sampleApproval 0).map Prod.fst =
      .ok true := by decide
  cases happroved : (tablesWith sampleCreated).compareAndSet sampleApproval 0 with
  | error e =>
    rw [happroved] at hset
    cases hset
  | ok result =>
    obtain ⟨answer, tables'⟩ := result
    rw [happroved] at hset
    cases hset
    refine ⟨_, tables', hcreate, happroved, ?_⟩
    exact (load_written_iff sampleTimestamptz_read
      (.write .empty sampleCreated_genuine (.create hcreate)) sampleAuthorized_genuine
      (.compareAndSet rfl happroved)).1.mpr ⟨⟨by decide, nofun⟩, rfl, fun _ _ ↦ rfl, fun _ _ ↦ rfl⟩

/-- A record with a number that is not finite is accepted, and loaded with `null` in its place. -/
theorem load_not_written : ¬∀ (tables tables' : PostgresTables) (proposal : StoredProposal),
    Reachable tables → Genuine proposal → Writes tables proposal tables' →
      tables'.load proposal.key = .ok (some proposal) := by
  intro h
  have hcreate : empty.create sampleInfinite = .ok (tablesWith sampleInfinite) :=
    create_tablesWith (by decide)
  have hload := h empty (tablesWith sampleInfinite) sampleInfinite .empty sampleInfinite_genuine
    (.create hcreate)
  have hother : (tablesWith sampleInfinite).load ("tenant", "proposal") ≠
      .ok (some sampleInfinite) := by decide
  exact hother hload

end Sample

end PostgresTables

end ThrevoActions
