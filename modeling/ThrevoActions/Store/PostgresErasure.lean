import ThrevoActions.Store.Postgres
import ThrevoActions.Store.Retention

/-!
# Erasure in PostgreSQL and in memory

The two PostgreSQL functions against the two calls of `MemoryActionStore`, on stores that hold the
same records. They answer and leave the same, with two exceptions. A proposal whose erasure is
pending already is marked by the memory store, which answers `True` and changes nothing; the SQL
function finds no row to update and answers `false`. And a revision is a `bigint`.
-/

namespace ThrevoActions

namespace PostgresStore

open MemoryActionStore (ErasureStep)

section Rows

variable [PydanticValues]

open PydanticValues

/-- The row and its children say this record. -/
structure Says (key : ProposalKey) (row : ProposalRow) (evidence receiptData : List JsonValue)
    (proposal : StoredProposal) : Prop where
  fields : ∀ name ∈ row.proposalData.map Prod.fst, name ∈ storedProposalFields
  key : proposal.key = key
  actionType : proposal.actionType = row.actionType
  semanticEffectReference : proposal.semanticEffectReference = row.semanticEffectReference
  effectKind : proposal.effectKind = row.effectKind
  lifecycleStatus : proposal.lifecycleStatus = row.lifecycleStatus
  revision : proposal.revision = row.revision.val
  createdAt : proposal.createdAt = row.createdAt
  expiresAt : proposal.expiresAt = row.expiresAt
  nextVerificationAt : proposal.nextVerificationAt = row.nextVerificationAt
  protectedPrivateSnapshot :
    requiredField row.proposalData "protected_private_snapshot" (orNone protectedPayload) =
      some proposal.protectedPrivateSnapshot
  commitment : requiredField row.proposalData "commitment" (orNone keyedCommitment) =
    some proposal.commitment
  displayPreview : optionalField row.proposalData "display_preview" [] validateJsonObject =
    some proposal.displayPreview
  requestingPrincipal :
    optionalField row.proposalData "requesting_principal" none
      (orNone PydanticValues.requestingPrincipal) = some proposal.requestingPrincipal
  proposingAgent :
    optionalField row.proposalData "proposing_agent" none (orNone PydanticValues.proposingAgent) =
      some proposal.proposingAgent
  authorityEvidence : evidence.mapM PydanticValues.authorityEvidence =
    some proposal.authorityEvidence
  receipts : receiptData.mapM receipt = some proposal.receipts
  verificationAttempts : optionalField row.proposalData "verification_attempts" 0 (validateNat 0) =
    some proposal.verificationAttempts
  maxVerificationAttempts :
    requiredField row.proposalData "max_verification_attempts" (validateNat 1) =
      some proposal.maxVerificationAttempts
  safeResult : optionalField row.proposalData "safe_result" none (orNone validateJsonObject) =
    some proposal.safeResult
  executionPrecondition :
    optionalField row.proposalData "execution_precondition" none (orNone safeReference) =
      some proposal.executionPrecondition
  supersededBy : optionalField row.proposalData "superseded_by" none (orNone safeReference) =
    some proposal.supersededBy
  erasurePendingAt : optionalField row.proposalData "erasure_pending_at" none (orNone datetime) =
    some proposal.erasurePendingAt
  erasedAt : optionalField row.proposalData "erased_at" none (orNone datetime) =
    some proposal.erasedAt

theorem validateRow_eq_some {key : ProposalKey} {row : ProposalRow}
    {evidence receiptData : List JsonValue} {proposal : StoredProposal} :
    validateRow key row evidence receiptData = some proposal ↔
      Says key row evidence receiptData proposal := by
  have hfields : (row.proposalData.all (·.1 ∈ storedProposalFields)) = true ↔
      ∀ name ∈ row.proposalData.map Prod.fst, name ∈ storedProposalFields := by
    simp
  rw [validateRow]
  constructor
  · intro h
    split_ifs at h with hall
    obtain ⟨_, hsnapshot, h⟩ := Option.bind_eq_some_iff.mp h
    obtain ⟨_, hcommitment, h⟩ := Option.bind_eq_some_iff.mp h
    obtain ⟨_, hpreview, h⟩ := Option.bind_eq_some_iff.mp h
    obtain ⟨_, hprincipal, h⟩ := Option.bind_eq_some_iff.mp h
    obtain ⟨_, hagent, h⟩ := Option.bind_eq_some_iff.mp h
    obtain ⟨_, hevidence, h⟩ := Option.bind_eq_some_iff.mp h
    obtain ⟨_, hreceipts, h⟩ := Option.bind_eq_some_iff.mp h
    obtain ⟨_, hattempts, h⟩ := Option.bind_eq_some_iff.mp h
    obtain ⟨_, hlimit, h⟩ := Option.bind_eq_some_iff.mp h
    obtain ⟨_, hresult, h⟩ := Option.bind_eq_some_iff.mp h
    obtain ⟨_, hprecondition, h⟩ := Option.bind_eq_some_iff.mp h
    obtain ⟨_, hsuccessor, h⟩ := Option.bind_eq_some_iff.mp h
    obtain ⟨_, hpending, h⟩ := Option.bind_eq_some_iff.mp h
    obtain ⟨_, herased, h⟩ := Option.bind_eq_some_iff.mp h
    cases h
    exact ⟨hfields.mp hall, rfl, rfl, rfl, rfl, rfl, rfl, rfl, rfl, rfl, hsnapshot, hcommitment,
      hpreview, hprincipal, hagent, hevidence, hreceipts, hattempts, hlimit, hresult, hprecondition,
      hsuccessor, hpending, herased⟩
  · rintro ⟨hall, rfl, haction, heffect, hkind, hstatus, hrevision, hcreated, hexpires, hnext,
      hsnapshot, hcommitment, hpreview, hprincipal, hagent, hevidence, hreceipts, hattempts, hlimit,
      hresult, hprecondition, hsuccessor, hpending, herased⟩
    rw [if_pos (hfields.mpr hall), hsnapshot, hcommitment, hpreview, hprincipal, hagent, hevidence,
      hreceipts, hattempts, hlimit, hresult, hprecondition, hsuccessor, hpending, herased,
      ← haction, ← heffect, ← hkind, ← hstatus, ← hrevision, ← hcreated, ← hexpires, ← hnext]
    rfl

/-! ## Rewritten rows -/

omit [PydanticValues] in
/-- A field of rewritten data. -/
theorem lookup_jsonbSet (data : JsonObject) (field name : String) (value : JsonValue) :
    (jsonbSet data field value).lookup (PyStr.ofString name) =
      if name = field then some value else data.lookup (PyStr.ofString name) := by
  rw [jsonbSet]
  split_ifs with hname
  · rw [hname, lookup_insertEntry_self]
  · exact lookup_insertEntry_of_ne _ _ fun heq ↦ hname (ofString_injective heq)

omit [PydanticValues] in
theorem fields_jsonbSet {data : JsonObject} {field : String} {value : JsonValue}
    (hfields : ∀ name ∈ data.map Prod.fst, name ∈ storedProposalFields)
    (hfield : PyStr.ofString field ∈ storedProposalFields) :
    ∀ name ∈ (jsonbSet data field value).map Prod.fst, name ∈ storedProposalFields := by
  intro name hname
  rcases keys_insertEntry_subset data _ hname with rfl | hold
  · exact hfield
  · exact hfields name hold

omit [PydanticValues] in
/-- What SQL tests as text is what the record says. -/
theorem textIsNull_eq {α : Type} {validate : JsonValue → Option α} {data : JsonObject}
    {name : String} {value : Option α}
    (h : optionalField data name none (orNone validate) = some value) :
    textIsNull data name = value.isNone := by
  rw [optionalField] at h
  rw [textIsNull]
  cases hlookup : data.lookup (PyStr.ofString name) with
  | none =>
    rw [hlookup] at h
    cases h
    rfl
  | some v =>
    rw [hlookup] at h
    cases v with
    | null =>
      cases h
      rfl
    | _ =>
      obtain ⟨decoded, -, rfl⟩ := Option.map_eq_some_iff.mp h
      rfl

variable [PostgresJson]

open PostgresJson (timestamptzText)

omit [PydanticValues] in
theorem lookup_erasedData (data : JsonObject) (erasedAt : Timestamp) (name : String) :
    (erasedData data erasedAt).lookup (PyStr.ofString name) =
      if name = "erased_at" then some (.str (timestamptzText erasedAt))
      else if name = "display_preview" then some (.dict [])
      else if name ∈ ["protected_private_snapshot", "commitment", "requesting_principal",
        "proposing_agent", "safe_result", "execution_precondition", "erasure_pending_at"] then
        some .null
      else data.lookup (PyStr.ofString name) := by
  simp only [erasedData, lookup_jsonbSet, List.mem_cons, List.not_mem_nil, or_false]
  split_ifs <;> simp_all

/-- **The row written by `mark_erasure_pending`** says the record with its erasure pending. -/
theorem Says.marked {key : ProposalKey} {row : ProposalRow} {evidence receiptData : List JsonValue}
    {proposal : StoredProposal} (h : Says key row evidence receiptData proposal)
    {pendingAt : Timestamp}
    (hread : datetime (.str (timestamptzText pendingAt)) = some pendingAt) {revision : BigInt}
    (hrevision : revision.val = row.revision.val + 1) :
    Says key
      { row with
        revision
        proposalData :=
          jsonbSet row.proposalData "erasure_pending_at" (.str (timestamptzText pendingAt)) }
      evidence receiptData (proposalWithErasurePending proposal pendingAt) := by
  have hkept : ∀ {name : String}, name ≠ "erasure_pending_at" →
      (jsonbSet row.proposalData "erasure_pending_at" (.str (timestamptzText pendingAt))).lookup
        (PyStr.ofString name) = row.proposalData.lookup (PyStr.ofString name) := fun hname ↦
    (lookup_jsonbSet _ _ _ _).trans (if_neg hname)
  have hpending : orNone datetime (.str (timestamptzText pendingAt)) = some (some pendingAt) := by
    rw [orNone, hread]
    · rfl
    · simp
  exact
    { h with
      fields := fields_jsonbSet h.fields (by decide)
      revision := by
        rw [proposalWithErasurePending, h.revision]
        exact hrevision.symm
      protectedPrivateSnapshot :=
        (requiredField_of_lookup (hkept (by decide))).trans h.protectedPrivateSnapshot
      commitment := (requiredField_of_lookup (hkept (by decide))).trans h.commitment
      displayPreview := (optionalField_of_lookup (hkept (by decide))).trans h.displayPreview
      requestingPrincipal :=
        (optionalField_of_lookup (hkept (by decide))).trans h.requestingPrincipal
      proposingAgent := (optionalField_of_lookup (hkept (by decide))).trans h.proposingAgent
      verificationAttempts :=
        (optionalField_of_lookup (hkept (by decide))).trans h.verificationAttempts
      maxVerificationAttempts :=
        (requiredField_of_lookup (hkept (by decide))).trans h.maxVerificationAttempts
      safeResult := (optionalField_of_lookup (hkept (by decide))).trans h.safeResult
      executionPrecondition :=
        (optionalField_of_lookup (hkept (by decide))).trans h.executionPrecondition
      supersededBy := (optionalField_of_lookup (hkept (by decide))).trans h.supersededBy
      erasurePendingAt := (optionalField_of_lookup_eq_some
        ((lookup_jsonbSet _ _ _ _).trans (if_pos rfl))).trans hpending
      erasedAt := (optionalField_of_lookup (hkept (by decide))).trans h.erasedAt }

/-- **The row written by `complete_erasure`**, without children, says the tombstone. -/
theorem Says.erased {key : ProposalKey} {row : ProposalRow} {evidence receiptData : List JsonValue}
    {proposal : StoredProposal} (h : Says key row evidence receiptData proposal)
    {erasedAt : Timestamp}
    (hread : datetime (.str (timestamptzText erasedAt)) = some erasedAt) {revision : BigInt}
    (hrevision : revision.val = row.revision.val + 1) :
    Says key
      { row with
        revision
        commitmentDigest := none
        nextVerificationAt := none
        proposalData := erasedData row.proposalData erasedAt }
      [] [] (erasedProposal proposal erasedAt) := by
  have hlookup := lookup_erasedData row.proposalData erasedAt
  have hnull : ∀ {name : String}, name ∈ ["protected_private_snapshot", "commitment",
      "requesting_principal", "proposing_agent", "safe_result", "execution_precondition",
      "erasure_pending_at"] → (erasedData row.proposalData erasedAt).lookup (PyStr.ofString name) =
        some .null := by
    intro name hname
    have herased : name ≠ "erased_at" := by
      rintro rfl
      exact absurd hname (by decide)
    have hpreview : name ≠ "display_preview" := by
      rintro rfl
      exact absurd hname (by decide)
    rw [hlookup, if_neg herased, if_neg hpreview, if_pos hname]
  have hrequired : ∀ {α : Type} (validate : JsonValue → Option α) (name : String), name ∈
      ["protected_private_snapshot", "commitment"] →
        requiredField (erasedData row.proposalData erasedAt) name (orNone validate) = some none := by
    intro α validate name hname
    have hmem := List.mem_append_left ["requesting_principal", "proposing_agent", "safe_result",
      "execution_precondition", "erasure_pending_at"] hname
    rw [requiredField_of_lookup_eq_some (hnull hmem), orNone]
  have hoptional : ∀ {α : Type} (validate : JsonValue → Option α) (name : String), name ∈
      ["requesting_principal", "proposing_agent", "safe_result", "execution_precondition",
        "erasure_pending_at"] →
        optionalField (erasedData row.proposalData erasedAt) name none (orNone validate) =
          some none := by
    intro α validate name hname
    have hmem := List.mem_append_right ["protected_private_snapshot", "commitment"] hname
    rw [optionalField_of_lookup_eq_some (hnull hmem), orNone]
  have hkept : ∀ {name : String}, name ∈ ["verification_attempts", "max_verification_attempts",
      "superseded_by"] → (erasedData row.proposalData erasedAt).lookup (PyStr.ofString name) =
        row.proposalData.lookup (PyStr.ofString name) := by
    intro name hname
    simp only [List.mem_cons, List.not_mem_nil, or_false] at hname
    rcases hname with rfl | rfl | rfl <;>
      rw [hlookup, if_neg (by decide), if_neg (by decide), if_neg (by decide)]
  have hpreview : optionalField (erasedData row.proposalData erasedAt) "display_preview" []
      validateJsonObject = some [] := by
    rw [optionalField, hlookup, if_neg (by decide), if_pos rfl, Option.elim_some]
    rfl
  have herased : optionalField (erasedData row.proposalData erasedAt) "erased_at" none
      (orNone datetime) = some (some erasedAt) := by
    rw [optionalField, hlookup, if_pos rfl, Option.elim_some, orNone, hread]
    · rfl
    · simp
  refine ⟨?_, h.key, h.actionType, h.semanticEffectReference, h.effectKind, h.lifecycleStatus, ?_,
    h.createdAt, h.expiresAt, rfl, ?_, ?_, ?_, ?_, ?_, rfl, rfl, ?_, ?_, ?_, ?_, ?_, ?_, ?_⟩
  · simp only [erasedData]
    iterate 9 refine fields_jsonbSet ?_ (by decide)
    exact h.fields
  · rw [erasedProposal, h.revision]
    exact hrevision.symm
  -- the goals speak of the data of the new row
  all_goals dsimp only
  · exact hrequired protectedPayload "protected_private_snapshot" (by simp)
  · exact hrequired keyedCommitment "commitment" (by simp)
  · exact hpreview
  · exact hoptional PydanticValues.requestingPrincipal "requesting_principal" (by simp)
  · exact hoptional PydanticValues.proposingAgent "proposing_agent" (by simp)
  · exact (optionalField_of_lookup (hkept (by simp))).trans h.verificationAttempts
  · exact (requiredField_of_lookup (hkept (by simp))).trans h.maxVerificationAttempts
  · exact hoptional validateJsonObject "safe_result" (by simp)
  · exact hoptional safeReference "execution_precondition" (by simp)
  · exact (optionalField_of_lookup (hkept (by simp))).trans h.supersededBy
  · exact hoptional datetime "erasure_pending_at" (by simp)
  · exact herased

end Rows

/-! ## Stores with the same records -/

section Stores

variable [PydanticValues]

/-- Every proposal is loaded as the memory store has it. -/
def Holds (postgres : PostgresStore) (memory : MemoryActionStore) : Prop :=
  ∀ key, postgres.load key = .ok (memory.proposals key)

variable {postgres : PostgresStore} {memory : MemoryActionStore} {args : ErasureStep}

theorem load_eq_ok_some {key : ProposalKey} {proposal : StoredProposal} :
    postgres.load key = .ok (some proposal) ↔ ∃ row, postgres.proposals key = some row ∧
      Says key row (postgres.authorityEvidence key) (postgres.receipts key) proposal := by
  rw [load]
  cases hrow : postgres.proposals key with
  | none => simp
  | some row =>
    simp only [Option.some.injEq, exists_eq_left', ← validateRow_eq_some]
    cases validateRow key row (postgres.authorityEvidence key) (postgres.receipts key) with
    | none => simp
    | some other => simp

theorem load_eq_ok_none {key : ProposalKey} :
    postgres.load key = .ok none ↔ postgres.proposals key = none := by
  rw [load]
  cases hrow : postgres.proposals key with
  | none => simp
  | some row =>
    dsimp only
    cases validateRow key row (postgres.authorityEvidence key) (postgres.receipts key) with
    | none => simp
    | some other => simp

/-- Filing the next version in both stores. -/
theorem Holds.put (h : Holds postgres memory) {key : ProposalKey} {new : ProposalRow}
    {evidence receiptData : ProposalKey → List JsonValue}
    (hevidence : ∀ other, other ≠ key → evidence other = postgres.authorityEvidence other)
    (hreceipts : ∀ other, other ≠ key → receiptData other = postgres.receipts other)
    {updated : StoredProposal} (hagrees : Says key new (evidence key) (receiptData key) updated) :
    Holds ⟨Function.update postgres.proposals key (some new), evidence, receiptData⟩
      (memory.put updated) := by
  intro other
  by_cases hother : other = key
  · rw [hother, ← hagrees.key, MemoryActionStore.put_proposals_self, load_eq_ok_some, hagrees.key]
    exact ⟨new, Function.update_self _ _ _, hagrees⟩
  · rw [MemoryActionStore.put_proposals_of_ne (by rwa [hagrees.key]), ← h other, load, load]
    dsimp only
    rw [Function.update_of_ne hother, hevidence other hother, hreceipts other hother]

variable [PostgresJson]

open PydanticValues (datetime)

open PostgresJson (timestamptzText)

/-- The same boolean, and the same content afterwards. -/
def AgreesOn (postgres : Except PostgresError Bool × PostgresStore)
    (memory : Bool × MemoryActionStore) : Prop :=
  postgres.1 = .ok memory.1 ∧ Holds postgres.2 memory.2

omit [PydanticValues] [PostgresJson] in
/-- A row whose identity and status stay passes the trigger. -/
theorem updateProposal_ok (postgres : PostgresStore) (key : ProposalKey) {row : ProposalRow}
    (hrevision : row.revision.val < bigintMax) (changed : BigInt → ProposalRow)
    (hchanged : ∀ revision, (changed revision).revision = revision ∧
      ((changed revision).actionType, (changed revision).semanticEffectReference,
          (changed revision).effectKind, (changed revision).createdAt) =
        (row.actionType, row.semanticEffectReference, row.effectKind, row.createdAt) ∧
      (changed revision).lifecycleStatus = row.lifecycleStatus) :
    ∃ revision : BigInt, revision.val = row.revision.val + 1 ∧
      postgres.updateProposal key row changed = (.ok true,
        { postgres with
          proposals := Function.update postgres.proposals key (some (changed revision)) }) := by
  have hfits : row.revision.val + 1 < bigintMax + 1 := Nat.succ_lt_succ hrevision
  obtain ⟨hnext, hidentity, hstatus⟩ := hchanged ⟨row.revision.val + 1, hfits⟩
  refine ⟨⟨row.revision.val + 1, hfits⟩, rfl, ?_⟩
  rw [updateProposal, dif_pos hfits, enforceProposalUpdate, if_neg (by simp),
    if_neg (by simpa using hidentity), if_neg (by rw [hnext]; simp), if_neg (by rw [hstatus]; simp)]

omit [PydanticValues] [PostgresJson] in
theorem updateProposal_overflow {key : ProposalKey} {row : ProposalRow}
    {changed : BigInt → ProposalRow} (hrevision : ¬row.revision.val < bigintMax) :
    postgres.updateProposal key row changed = (.error .numericValueOutOfRange, postgres) := by
  rw [updateProposal, dif_neg (by omega)]

omit [PydanticValues] [PostgresJson] in
/-- The statuses that SQL excludes are those that are not erasable. -/
theorem notMem_iff_erasable {status : LifecycleStatus} :
    status ∉ [LifecycleStatus.executing, .failedUnknown, .verificationPending] ↔
      status ∈ erasableLifecycleStatuses := by
  cases status <;> decide

/-- The proposal is found at the expected revision, in an erasable status and not erased. -/
def Erasable (memory : MemoryActionStore) (args : ErasureStep) (current : StoredProposal) : Prop :=
  memory.proposals (args.tenantReference, args.proposalReference) = some current ∧
    current.revision = args.expectedRevision ∧
    current.lifecycleStatus ∈ erasableLifecycleStatuses ∧ current.erasedAt = none

/-- The proposal is found at the expected revision, with its erasure pending. -/
def Pending (memory : MemoryActionStore) (args : ErasureStep) (current : StoredProposal) : Prop :=
  memory.proposals (args.tenantReference, args.proposalReference) = some current ∧
    current.revision = args.expectedRevision ∧ current.erasurePendingAt ≠ none ∧
    current.erasedAt = none

omit [PostgresJson] in
/-- The guard of `mark_erasure_pending`, as the record says it. -/
theorem Says.guard_mark {key : ProposalKey} {row : ProposalRow}
    {evidence receiptData : List JsonValue} {current : StoredProposal}
    (h : Says key row evidence receiptData current) {expectedRevision : ℕ} :
    (row.revision.val = expectedRevision ∧
        row.lifecycleStatus ∉ [.executing, .failedUnknown, .verificationPending] ∧
        textIsNull row.proposalData "erasure_pending_at" ∧
        textIsNull row.proposalData "erased_at") ↔
      (current.revision = expectedRevision ∧
        current.lifecycleStatus ∈ erasableLifecycleStatuses ∧ current.erasedAt = none) ∧
      current.erasurePendingAt = none := by
  rw [textIsNull_eq h.erasurePendingAt, textIsNull_eq h.erasedAt, notMem_iff_erasable, h.revision,
    h.lifecycleStatus, Option.isNone_iff_eq_none, Option.isNone_iff_eq_none]
  tauto

omit [PostgresJson] in
/-- The guard of `complete_erasure`, as the record says it. -/
theorem Says.guard_complete {key : ProposalKey} {row : ProposalRow}
    {evidence receiptData : List JsonValue} {current : StoredProposal}
    (h : Says key row evidence receiptData current) {expectedRevision : ℕ} :
    (row.revision.val = expectedRevision ∧
        textIsNull row.proposalData "erasure_pending_at" = false ∧
        textIsNull row.proposalData "erased_at") ↔
      current.revision = expectedRevision ∧ current.erasurePendingAt ≠ none ∧
        current.erasedAt = none := by
  rw [textIsNull_eq h.erasurePendingAt, textIsNull_eq h.erasedAt, h.revision,
    Option.isNone_eq_false_iff, Option.isSome_iff_ne_none, Option.isNone_iff_eq_none]

/-- **When marking agrees**: unless the expected revision is no `bigint` or has none after it, and
unless the erasure is pending already. -/
theorem markErasurePending_agrees_iff (h : Holds postgres memory)
    (hread : datetime (.str (timestamptzText args.timestamp)) = some args.timestamp) :
    AgreesOn (postgres.markErasurePending args) (memory.markErasurePending args) ↔
      args.expectedRevision ≤ bigintMax ∧ ∀ current, Erasable memory args current →
        current.erasurePendingAt = none ∧ args.expectedRevision < bigintMax := by
  have hkey := h (args.tenantReference, args.proposalReference)
  rw [markErasurePending, MemoryActionStore.markErasurePending]
  by_cases hfits : bigintMax < args.expectedRevision
  · rw [if_pos hfits]
    refine iff_of_false ?_ fun hcondition ↦ absurd hcondition.1 (Nat.not_le.mpr hfits)
    rintro ⟨hanswer, -⟩
    cases hanswer
  · rw [if_neg hfits]
    have hle : args.expectedRevision ≤ bigintMax := Nat.not_lt.mp hfits
    cases hfound : memory.proposals (args.tenantReference, args.proposalReference) with
    | none =>
      rw [hfound, load_eq_ok_none] at hkey
      rw [hkey]
      refine iff_of_true ⟨rfl, h⟩ ⟨hle, fun current herasable ↦ ?_⟩
      rw [Erasable, hfound] at herasable
      cases herasable.1
    | some current =>
      rw [hfound, load_eq_ok_some] at hkey
      obtain ⟨row, hrow, hagrees⟩ := hkey
      have hcurrent : ∀ other, Erasable memory args other → other = current := by
        intro other hother
        rw [Erasable, hfound] at hother
        exact (Option.some.inj hother.1).symm
      rw [hrow]
      dsimp only
      by_cases herasable : current.revision = args.expectedRevision ∧
          current.lifecycleStatus ∈ erasableLifecycleStatuses ∧ current.erasedAt = none
      · have hpass : ¬(current.revision ≠ args.expectedRevision ∨
            current.lifecycleStatus ∉ erasableLifecycleStatuses ∨ current.erasedAt ≠ none) := by
          tauto
        rw [if_neg hpass]
        by_cases hpending : current.erasurePendingAt = none
        · rw [if_pos (hagrees.guard_mark.mpr ⟨herasable, hpending⟩), if_neg (not_not.mpr hpending)]
          by_cases hnext : row.revision.val < bigintMax
          · obtain ⟨revision, hrevision, hupdate⟩ := updateProposal_ok postgres
              (args.tenantReference, args.proposalReference) hnext
              (fun revision ↦ { row with
                revision
                proposalData := jsonbSet row.proposalData "erasure_pending_at"
                  (.str (timestamptzText args.timestamp)) }) fun _ ↦ ⟨rfl, rfl, rfl⟩
            rw [hupdate]
            refine iff_of_true ⟨rfl, h.put (fun _ _ ↦ rfl) (fun _ _ ↦ rfl)
              (hagrees.marked hread hrevision)⟩ ⟨hle, fun other hother ↦ ?_⟩
            rw [hcurrent other hother, ← herasable.1, hagrees.revision]
            exact ⟨hpending, hnext⟩
          · rw [updateProposal_overflow hnext]
            refine iff_of_false ?_ fun hcondition ↦ hnext ?_
            · rintro ⟨hanswer, -⟩
              cases hanswer
            · rw [← hagrees.revision, herasable.1]
              exact (hcondition.2 current ⟨hfound, herasable⟩).2
        · rw [if_neg (fun hguard ↦ hpending (hagrees.guard_mark.mp hguard).2), if_pos hpending]
          refine iff_of_false ?_ fun hcondition ↦
            hpending (hcondition.2 current ⟨hfound, herasable⟩).1
          rintro ⟨hanswer, -⟩
          cases hanswer
      · have hfail : current.revision ≠ args.expectedRevision ∨
            current.lifecycleStatus ∉ erasableLifecycleStatuses ∨ current.erasedAt ≠ none := by
          tauto
        rw [if_neg (fun hguard ↦ herasable (hagrees.guard_mark.mp hguard).1), if_pos hfail]
        refine iff_of_true ⟨rfl, h⟩ ⟨hle, fun other hother ↦ absurd hother.2 ?_⟩
        rwa [hcurrent other hother]

/-- **When completing agrees**: unless the expected revision is no `bigint` or has none after it. -/
theorem completeErasure_agrees_iff (h : Holds postgres memory)
    (hread : datetime (.str (timestamptzText args.timestamp)) = some args.timestamp) :
    AgreesOn (postgres.completeErasure args) (memory.completeErasure args) ↔
      args.expectedRevision ≤ bigintMax ∧ ∀ current, Pending memory args current →
        args.expectedRevision < bigintMax := by
  have hkey := h (args.tenantReference, args.proposalReference)
  rw [completeErasure, MemoryActionStore.completeErasure]
  by_cases hfits : bigintMax < args.expectedRevision
  · rw [if_pos hfits]
    refine iff_of_false ?_ fun hcondition ↦ absurd hcondition.1 (Nat.not_le.mpr hfits)
    rintro ⟨hanswer, -⟩
    cases hanswer
  · rw [if_neg hfits]
    have hle : args.expectedRevision ≤ bigintMax := Nat.not_lt.mp hfits
    cases hfound : memory.proposals (args.tenantReference, args.proposalReference) with
    | none =>
      rw [hfound, load_eq_ok_none] at hkey
      rw [hkey]
      refine iff_of_true ⟨rfl, h⟩ ⟨hle, fun current hpending ↦ ?_⟩
      rw [Pending, hfound] at hpending
      cases hpending.1
    | some current =>
      rw [hfound, load_eq_ok_some] at hkey
      obtain ⟨row, hrow, hagrees⟩ := hkey
      rw [hrow]
      dsimp only
      by_cases hpending : current.revision = args.expectedRevision ∧
          current.erasurePendingAt ≠ none ∧ current.erasedAt = none
      · have hpass : ¬(current.revision ≠ args.expectedRevision ∨
            current.erasurePendingAt = none ∨ current.erasedAt ≠ none) := by
          tauto
        rw [if_neg hpass, if_pos (hagrees.guard_complete.mpr hpending)]
        by_cases hnext : row.revision.val < bigintMax
        · obtain ⟨revision, hrevision, hupdate⟩ := updateProposal_ok
            { postgres with
              authorityEvidence := Function.update postgres.authorityEvidence
                (args.tenantReference, args.proposalReference) []
              receipts := Function.update postgres.receipts
                (args.tenantReference, args.proposalReference) [] }
            (args.tenantReference, args.proposalReference) hnext
            (fun revision ↦ { row with
              revision
              commitmentDigest := none
              nextVerificationAt := none
              proposalData := erasedData row.proposalData args.timestamp })
            fun _ ↦ ⟨rfl, rfl, rfl⟩
          rw [hupdate]
          refine iff_of_true ⟨rfl, h.put (fun _ hother ↦ Function.update_of_ne hother _ _)
            (fun _ hother ↦ Function.update_of_ne hother _ _) ?_⟩ ⟨hle, fun _ _ ↦ ?_⟩
          · dsimp only
            rw [Function.update_self, Function.update_self]
            exact hagrees.erased hread hrevision
          · rw [← hpending.1, hagrees.revision]
            exact hnext
        · rw [updateProposal_overflow hnext]
          refine iff_of_false ?_ fun hcondition ↦ hnext ?_
          · rintro ⟨hanswer, -⟩
            cases hanswer
          · rw [← hagrees.revision, hpending.1]
            exact hcondition.2 current ⟨hfound, hpending⟩
      · have hfail : current.revision ≠ args.expectedRevision ∨
            current.erasurePendingAt = none ∨ current.erasedAt ≠ none := by
          tauto
        rw [if_neg (fun hguard ↦ hpending (hagrees.guard_complete.mp hguard)), if_pos hfail]
        refine iff_of_true ⟨rfl, h⟩ ⟨hle, fun other hother ↦ absurd hother.2 ?_⟩
        have hsame : other = current := by
          rw [Pending, hfound] at hother
          exact (Option.some.inj hother.1).symm
        rwa [hsame]

/-- **When the two stores agree on erasure.** On stores with the same records, marking and completing
answer and leave the same exactly under these conditions. -/
theorem erasure_agrees_iff (h : Holds postgres memory) (args : ErasureStep)
    (hread : datetime (.str (timestamptzText args.timestamp)) = some args.timestamp) :
    (AgreesOn (postgres.markErasurePending args) (memory.markErasurePending args) ↔
      args.expectedRevision ≤ bigintMax ∧ ∀ current, Erasable memory args current →
        current.erasurePendingAt = none ∧ args.expectedRevision < bigintMax) ∧
    (AgreesOn (postgres.completeErasure args) (memory.completeErasure args) ↔
      args.expectedRevision ≤ bigintMax ∧ ∀ current, Pending memory args current →
        args.expectedRevision < bigintMax) :=
  ⟨markErasurePending_agrees_iff h hread, completeErasure_agrees_iff h hread⟩

end Stores

/-! ### A pending proposal -/

section Sample

/-- The text of the epoch in the time zone UTC. -/
@[reducible] def sampleTexts : PostgresJson :=
  ⟨fun _ ↦ PyStr.ofString "1970-01-01T00:00:00+00:00"⟩

/-- The JSON forms of the sample's protected parts. -/
def samplePayloadData : JsonValue :=
  .dict [jsonField "codec" (jsonText "codec"), jsonField "key_handle" (jsonText "handle"),
    jsonField "key_version" (jsonText "version"), jsonField "ciphertext" (jsonText "ciphertext")]

def sampleCommitmentData : JsonValue :=
  .dict [jsonField "algorithm" (jsonText "algorithm"), jsonField "key_handle" (jsonText "handle"),
    jsonField "key_version" (jsonText "version"), jsonField "digest" (jsonText "digest")]

/-- The validation of the sample's own values. -/
@[reducible] def sampleValues : PydanticValues where
  protectedPayload value :=
    if value = samplePayloadData then MemoryActionStore.samplePrepared.protectedPrivateSnapshot
    else none
  keyedCommitment value :=
    if value = sampleCommitmentData then MemoryActionStore.samplePrepared.commitment else none
  requestingPrincipal _ := none
  proposingAgent _ := none
  safeReference _ := none
  authorityEvidence _ := none
  receipt _ := none
  datetime value := if value = jsonText "1970-01-01T00:00:00+00:00" then some 0 else none

attribute [local instance] sampleTexts sampleValues

/-- The prepared sample, its erasure pending. -/
def sampleRow : ProposalRow where
  actionType := MemoryActionStore.samplePrepared.actionType
  semanticEffectReference := "effect"
  effectKind := .single
  lifecycleStatus := .awaitingAuthority
  revision := 1
  commitmentDigest := some "digest"
  createdAt := 0
  expiresAt := 600000000
  statusChangedAt := 0
  nextVerificationAt := none
  proposalData := [jsonField "protected_private_snapshot" samplePayloadData,
    jsonField "commitment" sampleCommitmentData, jsonField "display_preview" (.dict []),
    jsonField "requesting_principal" .null, jsonField "proposing_agent" .null,
    jsonField "verification_attempts" (.int 0), jsonField "max_verification_attempts" (.int 3),
    jsonField "safe_result" .null, jsonField "execution_precondition" .null,
    jsonField "superseded_by" .null,
    jsonField "erasure_pending_at" (jsonText "1970-01-01T00:00:00+00:00"),
    jsonField "erased_at" .null]

def samplePostgres : PostgresStore :=
  ⟨Function.update (fun _ ↦ none) ("tenant", "proposal") (some sampleRow), fun _ ↦ [], fun _ ↦ []⟩

def sampleMemory : MemoryActionStore :=
  MemoryActionStore.empty.put (proposalWithErasurePending MemoryActionStore.samplePrepared 0)

theorem sample_holds : Holds samplePostgres sampleMemory := by
  intro key
  by_cases hkey : key = ("tenant", "proposal")
  · have hfiled : (proposalWithErasurePending MemoryActionStore.samplePrepared 0).key = key :=
      hkey.symm
    subst hkey
    rw [sampleMemory, ← hfiled, MemoryActionStore.put_proposals_self, hfiled, load_eq_ok_some]
    refine ⟨sampleRow, ?_, ?_⟩
    · rfl
    · rw [← validateRow_eq_some]
      decide
  · rw [load, samplePostgres]
    dsimp only
    rw [Function.update_of_ne hkey, sampleMemory, MemoryActionStore.put_proposals_of_ne hkey]
    rfl

/-- The sample is marked once more, at its current revision. -/
def sampleStep : ErasureStep := ⟨"tenant", "proposal", 1, 0⟩

theorem erasure_agrees_iff_sample :
    (AgreesOn (samplePostgres.markErasurePending sampleStep)
        (sampleMemory.markErasurePending sampleStep) ↔
      1 ≤ bigintMax ∧ ∀ current, Erasable sampleMemory sampleStep current →
        current.erasurePendingAt = none ∧ 1 < bigintMax) ∧
    (AgreesOn (samplePostgres.completeErasure sampleStep)
        (sampleMemory.completeErasure sampleStep) ↔
      1 ≤ bigintMax ∧ ∀ current, Pending sampleMemory sampleStep current → 1 < bigintMax) :=
  erasure_agrees_iff sample_holds sampleStep (by decide)

/-- Marking the pending sample again is answered with `True` by the memory store, which changes
nothing, and with `false` by PostgreSQL. -/
theorem marking_disagrees : Holds samplePostgres sampleMemory ∧
    PydanticValues.datetime (.str (PostgresJson.timestamptzText sampleStep.timestamp)) =
      some sampleStep.timestamp ∧
    ¬AgreesOn (samplePostgres.markErasurePending sampleStep)
      (sampleMemory.markErasurePending sampleStep) := by
  refine ⟨sample_holds, by decide, fun hagrees ↦ ?_⟩
  have hmemory : (sampleMemory.markErasurePending sampleStep).1 = true := by decide
  have hpostgres : (samplePostgres.markErasurePending sampleStep).1 = .ok false := by decide
  have hanswer := hagrees.1
  rw [hmemory, hpostgres] at hanswer
  cases hanswer

end Sample

end PostgresStore

end ThrevoActions
