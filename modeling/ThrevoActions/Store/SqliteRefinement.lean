import ThrevoActions.Store.Retention
import ThrevoActions.Store.SqliteRows

/-!
# The SQLite store refines the store in memory

After every interleaving of statements, failures and losses of connections, the calls that ended are
calls of the store in memory, one after the other in the order in which they ended: the rows show
the records and the claims of that store, and every answer is its answer. Where a call refuses what
the store in memory accepts, it has changed nothing, and `StoreRequest.Refused` lists the reasons: the host
failed, a value is not valid, a record cannot be written or read back, or the proposal has expired
by the clock of the database.

The guards that the adapter adds, the trigger and the constraints of the tables never refuse
anything else. A record is stored with `null` for a number that is not finite.
-/

namespace ThrevoActions

open JsonValue PydanticDumps SqliteHost SingleWriter
open PostgresTables (storedForm)

/-! ## The store in memory -/

namespace MemoryActionStore

/-- The answer to a request, and the store after it. Records are written in their stored form. -/
def serve (memory : MemoryActionStore) :
    StoreRequest → Except Exn StoreAnswer × MemoryActionStore
  | .create proposal =>
    ((memory.create (storedForm proposal)).1.map fun _ ↦ .created,
      (memory.create (storedForm proposal)).2)
  | .get tenantReference proposalReference =>
    (.ok (.found (memory.get tenantReference proposalReference)), memory)
  | .compareAndSet args =>
    ((memory.compareAndSet { args with updated := storedForm args.updated }).1.map .written,
      (memory.compareAndSet { args with updated := storedForm args.updated }).2)
  | .admitExecution args =>
    ((memory.admitExecution { args with updated := storedForm args.updated }).1.map .admitted,
      (memory.admitExecution { args with updated := storedForm args.updated }).2)
  | .getEffectClaimOwner tenantReference actionType semanticEffectReference =>
    (.ok (.owner (memory.getEffectClaimOwner tenantReference actionType semanticEffectReference)),
      memory)
  | .markErasurePending args =>
    (.ok (.written (memory.markErasurePending args).1), (memory.markErasurePending args).2)
  | .completeErasure args =>
    (.ok (.written (memory.completeErasure args).1), (memory.completeErasure args).2)

/-- The mutating calls of the store in memory that a request makes. -/
def callsOf : StoreRequest → List Call
  | .create proposal => [.create (storedForm proposal)]
  | .compareAndSet args => [.compareAndSet { args with updated := storedForm args.updated }]
  | .admitExecution args => [.admitExecution { args with updated := storedForm args.updated }]
  | .markErasurePending args => [.markErasurePending args]
  | .completeErasure args => [.completeErasure args]
  | .get _ _ | .getEffectClaimOwner _ _ _ => []

theorem serve_run (memory : MemoryActionStore) (request : StoreRequest) :
    (memory.serve request).2 = memory.run (callsOf request) := by
  cases request <;> rfl

end MemoryActionStore

section Refinement

variable [SqliteHost] {tables tables' : SqliteTables} {memory memory' : MemoryActionStore}
  {request : StoreRequest}

/-! ## Tables and stores -/

/-- The rows show the records and the claims of the store. -/
structure SqliteTables.Mirrors (tables : SqliteTables) (memory : MemoryActionStore) : Prop where
  vacant : ∀ {key}, tables.proposals key = none ↔ memory.proposals key = none
  filed : ∀ {key row proposal}, tables.proposals key = some row →
    memory.proposals key = some proposal → row.Filed proposal
  claims : tables.effectClaims = memory.effectClaims

/-- The rows show a store that was reached by calls. -/
structure SqliteTables.Shows (tables : SqliteTables) (memory : MemoryActionStore) : Prop extends
    tables.Mirrors memory where
  owned : memory.EffectsOwned
  bound : memory.Bound

namespace SqliteTables

theorem shows_empty : empty.Shows MemoryActionStore.empty where
  vacant := iff_of_true rfl rfl
  filed h := by cases h
  claims := rfl
  owned := .empty
  bound := .empty

namespace Mirrors

/-- The row of a record on file. -/
theorem row (h : tables.Mirrors memory) {key : ProposalKey} {proposal : StoredProposal}
    (hfound : memory.proposals key = some proposal) :
    ∃ row, tables.proposals key = some row ∧ row.Filed proposal := by
  cases hrow : tables.proposals key with
  | none =>
    rw [h.vacant.mp hrow] at hfound
    cases hfound
  | some row => exact ⟨row, rfl, h.filed hrow hfound⟩

/-- The record of a row. -/
theorem record (h : tables.Mirrors memory) {key : ProposalKey} {row : SqliteRow}
    (hrow : tables.proposals key = some row) :
    ∃ proposal, memory.proposals key = some proposal ∧ row.Filed proposal := by
  cases hfound : memory.proposals key with
  | none =>
    rw [h.vacant.mpr hfound] at hrow
    cases hrow
  | some proposal => exact ⟨proposal, rfl, h.filed hrow hfound⟩

/-- A record and its row are stored. -/
theorem put (h : tables.Mirrors memory) {row : SqliteRow} {proposal : StoredProposal}
    (hrow : row.Filed proposal) :
    Mirrors { tables with proposals := Function.update tables.proposals proposal.key (some row) }
      (memory.put proposal) := by
  refine ⟨fun {key} ↦ ?_, fun {key row' proposal'} hrow' hproposal' ↦ ?_, h.claims⟩
  · by_cases hkey : key = proposal.key
    · subst hkey
      simp
    · rw [MemoryActionStore.put_proposals_of_ne hkey, ← h.vacant]
      exact iff_of_eq (congrArg (· = none) (Function.update_of_ne hkey _ _))
  · have hrow' : Function.update tables.proposals proposal.key (some row) key = some row' := hrow'
    by_cases hkey : key = proposal.key
    · subst hkey
      rw [Function.update_self] at hrow'
      rw [MemoryActionStore.put_proposals_self] at hproposal'
      cases hrow'
      cases hproposal'
      exact hrow
    · rw [Function.update_of_ne hkey] at hrow'
      rw [MemoryActionStore.put_proposals_of_ne hkey] at hproposal'
      exact h.filed hrow' hproposal'

/-- A claim is stored. -/
theorem claim (h : tables.Mirrors memory) (key : EffectKey) (reference : SafeReference) :
    Mirrors { tables with effectClaims := Function.update tables.effectClaims key (some reference) }
      (memory.claim key reference) := by
  refine ⟨h.vacant, h.filed, ?_⟩
  show Function.update tables.effectClaims key (some reference) = _
  rw [h.claims]
  rfl

/-- The row that a claim of a proposal on file refers to. -/
theorem references (h : tables.Mirrors memory) {proposal : StoredProposal}
    (hfound : memory.proposals proposal.key = some proposal) :
    SqliteQuery.references tables proposal.effectKey proposal.proposalReference = true := by
  obtain ⟨row, hrow, hfiled⟩ := h.row hfound
  have hrow : tables.proposals (proposal.effectKey.1, proposal.proposalReference) = some row := hrow
  rw [SqliteQuery.references, hrow]
  dsimp only
  rw [hfiled.actionType, hfiled.semanticEffectReference]
  exact decide_eq_true rfl

end Mirrors

end SqliteTables

/-! ## Refusals -/

/-- The record that a request writes, if it does. -/
def StoreRequest.Writes (memory : MemoryActionStore) : StoreRequest → StoredProposal → Prop
  | .create proposal, written => written = proposal
  | .compareAndSet args, written => written = args.updated
  | .admitExecution args, written => written = args.updated
  | .markErasurePending args, written => ∃ current,
    memory.proposals (args.tenantReference, args.proposalReference) = some current ∧
      written = proposalWithErasurePending current args.timestamp
  | .completeErasure args, written => ∃ current,
    memory.proposals (args.tenantReference, args.proposalReference) = some current ∧
      written = erasedProposal current args.timestamp
  | .get _ _, _ | .getEffectClaimOwner _ _ _, _ => False

/-- Why a request may be refused, whatever the store in memory answers. -/
inductive StoreRequest.Refused (memory : MemoryActionStore) :
    StoreRequest → Except Exn StoreAnswer → Prop
  | failure {request : StoreRequest} {e : Exn} (h : sqliteFailure e = true) :
    Refused memory request (.error e)
  | invalid {request : StoreRequest} {proposal : StoredProposal}
    (hwrites : request.Writes memory proposal) (h : isValid proposal = false) :
    Refused memory request (.error .validationError)
  /-- This guard comes before the search for the proposal. -/
  | uncreatable {proposal : StoredProposal} {e : Exn}
    (h : validateProposalCreate proposal = .error e) : Refused memory (.create proposal) (.error e)
  | unreadable {request : StoreRequest} {key : ProposalKey} {proposal : StoredProposal}
    (hfound : memory.proposals key = some proposal)
    (h : withinLimits (.dict (proposalData proposal)) = false) :
    Refused memory request (.error (.host "SQLiteStoredDataCorruptionError"))
  | unwritable {request : StoreRequest} {proposal : StoredProposal} {e : Exn}
    (hwrites : request.Writes memory proposal) (h : Unwritable proposal e) :
    Refused memory request (.error e)
  | unbound {tenantReference semanticEffectReference : SafeReference} {actionType : ActionType}
    (h : bigintMax < actionType.version) :
    Refused memory (.getEffectClaimOwner tenantReference actionType semanticEffectReference)
      (.error (.host "OverflowError"))
  | expired {args : MemoryActionStore.AdmitExecution} {current : StoredProposal} {now : ℤ}
    (hfound : memory.proposals (args.tenantReference, args.proposalReference) = some current)
    (h : juliandayAfter (isoformat current.expiresAt) now = false) :
    Refused memory (.admitExecution args) (.ok (.admitted .proposalNotAuthorized))

/-- The answer is that of the store in memory, or a refusal that changes nothing. -/
inductive StoreRequest.Answered (memory : MemoryActionStore) (request : StoreRequest) :
    Except Exn StoreAnswer → MemoryActionStore → Prop
  | same : Answered memory request (memory.serve request).1 (memory.serve request).2
  | refused {r : Except Exn StoreAnswer} (h : request.Refused memory r) :
    Answered memory request r memory

/-! ## What the steps of a transaction do -/

section Steps

variable {α : Type} {Q : Except Exn α → SqliteTables → Prop}

/-- A statement that never raises. -/
theorem ensures_select_bind {q : SqliteQuery} {f : q.Ans → SqliteBody α}
    (hperform : ∀ now, ∃ a, q.perform now tables = .ok (a, tables) ∧ (f a).Ensures Q tables)
    (hfailure : ∀ e, sqliteFailure e = true → Q (.error e) tables) :
    (sqliteQuery q >>= f).Ensures Q tables := by
  refine Body.ensures_perform_bind (fun now a tables' h ↦ ?_) fun e he ↦ ?_
  · obtain ⟨a', hok, hnext⟩ := hperform now
    cases hok.symm.trans h
    exact hnext
  · rcases he with he | ⟨now, he⟩
    · exact hfailure e he
    · obtain ⟨a, hok, -⟩ := hperform now
      cases hok.symm.trans he

variable [LawfulSqliteHost]

/-- `_load` finds the record on file. -/
theorem ensures_load_bind {key : ProposalKey} {f : Option StoredProposal → SqliteBody α}
    (h : tables.Shows memory) (hfailure : ∀ e, sqliteFailure e = true → Q (.error e) tables)
    (hunreadable : ∀ proposal, memory.proposals key = some proposal →
      withinLimits (.dict (proposalData proposal)) = false →
      Q (.error (.host "SQLiteStoredDataCorruptionError")) tables)
    (hnext : (f (memory.proposals key)).Ensures Q tables) :
    (SqliteStoreBase.load key >>= f).Ensures Q tables := by
  rw [SqliteStoreBase.load, Body.ensures_bind]
  refine ensures_select_bind (fun now ↦ ⟨tables.proposals key, rfl, ?_⟩) hfailure
  apply Body.ensures_orRaise
  cases hfound : memory.proposals key with
  | none =>
    rw [h.vacant.mpr hfound]
    rwa [hfound] at hnext
  | some proposal =>
    obtain ⟨row, hrow, hfiled⟩ := h.row hfound
    have hkey := h.owned.filed key proposal hfound
    subst hkey
    rw [hrow, hfiled.loaded]
    by_cases hlimits : withinLimits (.dict (proposalData proposal)) = true
    · rw [if_pos hlimits]
      rwa [hfound] at hnext
    · rw [if_neg hlimits]
      exact hunreadable proposal hfound (Bool.not_eq_true _ ▸ hlimits)

omit [LawfulSqliteHost] in
/-- The trigger passes an accepted update of a row on file. -/
theorem enforceProposalUpdate_of_accepted {current updated : StoredProposal} {row new : SqliteRow}
    (hrow : row.Repeats current) (hnew : new.Repeats updated)
    (haccepted : AcceptedUpdate current updated) : row.enforceProposalUpdate new = .ok () := by
  have hidentity := haccepted.identity
  simp only [StoredProposal.identity, Prod.mk.injEq] at hidentity
  obtain ⟨-, -, haction, heffect, hkind, hcreated⟩ := hidentity
  rw [SqliteRow.enforceProposalUpdate, hrow.actionType, hrow.semanticEffectReference,
    hrow.effectKind, hrow.createdAt, hrow.revision, hrow.lifecycleStatus, hnew.actionType,
    hnew.semanticEffectReference, hnew.effectKind, hnew.createdAt, hnew.revision,
    hnew.lifecycleStatus, haction, heffect, hkind, hcreated, haccepted.revision]
  have htransition : ¬(updated.lifecycleStatus ≠ current.lifecycleStatus ∧
      (current.lifecycleStatus, updated.lifecycleStatus) ∉ SqliteRow.transitions) := by
    rintro ⟨hchanged, hforbidden⟩
    exact haccepted.status.elim hchanged fun hallowed ↦
      hforbidden (mem_transitions_iff.mpr hallowed)
  rw [if_neg (not_not_intro rfl), if_neg (not_not_intro rfl), if_neg htransition]

/-- The statement of `_update` changes the row of the record on file, if the update can be
written. -/
theorem perform_updateProposal {current updated : StoredProposal} (h : tables.Mirrors memory)
    (hfound : memory.proposals current.key = some current)
    (haccepted : AcceptedUpdate current updated) (hvalid : isValid updated = true) (now : ℤ) :
    (∃ e, Unwritable updated e ∧
      (SqliteQuery.updateProposal current.key current.revision current.lifecycleStatus
        ⟨updated.lifecycleStatus, updated.revision, isoformat updated.expiresAt,
          proposalData updated⟩).perform now tables = .error e) ∨
      ∃ tables' : SqliteTables, tables'.Mirrors (memory.put (storedForm updated)) ∧
        (SqliteQuery.updateProposal current.key current.revision current.lifecycleStatus
          ⟨updated.lifecycleStatus, updated.revision, isoformat updated.expiresAt,
            proposalData updated⟩).perform now tables = .ok ((1 : ℕ), tables') := by
  obtain ⟨row, hrow, hfiled⟩ := h.row hfound
  have hidentity := haccepted.identity
  simp only [StoredProposal.identity, Prod.mk.injEq] at hidentity
  obtain ⟨-, -, haction, heffect, hkind, hcreated⟩ := hidentity
  have hkey : current.key = updated.key := StoredProposal.key_eq_of_identity haccepted.identity
  have hnew : SqliteRow.Repeats { row with
      lifecycleStatus := updated.lifecycleStatus
      revision := updated.revision
      expiresAt := isoformat updated.expiresAt
      proposalData := proposalData updated } updated :=
    ⟨hfiled.actionType.trans haction, hfiled.semanticEffectReference.trans heffect,
      hfiled.effectKind.trans hkind, rfl, rfl, hfiled.createdAt.trans (congrArg _ hcreated), rfl,
      rfl⟩
  have hversion : updated.actionType.version ≤ bigintMax := haction ▸ hfiled.version_le
  -- the values are bound before the row is looked up
  by_cases hoverflow : bigintMax < updated.revision
  · refine .inl ⟨_, .overflow (.inr hoverflow), ?_⟩
    rw [SqliteQuery.perform, if_pos (.inl hoverflow)]
  · have hbound : ¬(bigintMax < updated.revision ∨ bigintMax < current.revision) := by
      rintro (hlarge | hlarge)
      · exact hoverflow hlarge
      · exact absurd hfiled.revision_le (not_le.mpr hlarge)
    have hcheck := hnew.check
    rw [← hkey] at hcheck
    -- the trigger passes, so only `json_valid` can still refuse the row
    by_cases hjson : jsonValid (proposalData updated) = true
    · rw [hjson] at hcheck
      have hstored : SqliteRow.Filed _ (storedForm updated) :=
        ⟨hnew.storedForm, LawfulSqliteHost.valid_storedForm hvalid, storedForm_idem updated,
          hversion, not_lt.mp hoverflow⟩
      refine .inr ⟨_, h.put hstored, ?_⟩
      rw [SqliteQuery.perform, if_neg hbound, hrow]
      dsimp only
      rw [if_pos ⟨hfiled.revision, hfiled.lifecycleStatus⟩,
        enforceProposalUpdate_of_accepted hfiled.toRepeats hnew haccepted]
      dsimp only
      rw [if_pos hcheck, hkey]
      rfl
    · rw [Bool.not_eq_true] at hjson
      rw [hjson] at hcheck
      refine .inl ⟨_, .invalidJson hjson, ?_⟩
      rw [SqliteQuery.perform, if_neg hbound, hrow]
      dsimp only
      rw [if_pos ⟨hfiled.revision, hfiled.lifecycleStatus⟩,
        enforceProposalUpdate_of_accepted hfiled.toRepeats hnew haccepted]
      dsimp only
      rw [if_neg (by rw [hcheck]; exact Bool.false_ne_true)]

/-- `_update` of the record on file stores the update, if it can be written. -/
theorem ensures_update_bind {current updated : StoredProposal} {f : Unit → SqliteBody α}
    (h : tables.Mirrors memory) (hfound : memory.proposals current.key = some current)
    (haccepted : AcceptedUpdate current updated) (hvalid : isValid updated = true)
    (hfailure : ∀ e, sqliteFailure e = true → Q (.error e) tables)
    (hunwritable : ∀ e, Unwritable updated e → Q (.error e) tables)
    (hnext : ∀ tables' : SqliteTables, tables'.Mirrors (memory.put (storedForm updated)) →
      (f ()).Ensures Q tables') :
    (SqliteStoreBase.update current updated >>= f).Ensures Q tables := by
  have hperform := perform_updateProposal h hfound haccepted hvalid
  rw [SqliteStoreBase.update, Body.ensures_bind]
  refine Body.ensures_orRaise_bind (fun data hdata ↦ ?_) fun e he ↦
    hunwritable e (modelDumpJson_error he)
  cases modelDumpJson_ok hdata
  refine Body.ensures_perform_bind (fun now rowcount tables' hok ↦ ?_) fun e he ↦ ?_
  · rcases hperform now with ⟨e, -, herror⟩ | ⟨_, hmirrors, hone⟩
    · cases herror.symm.trans hok
    · cases hone.symm.trans hok
      exact hnext _ hmirrors
  · rcases he with he | ⟨now, he⟩
    · exact hfailure e he
    · rcases hperform now with ⟨e', hcannot, herror⟩ | ⟨_, -, hone⟩
      · cases herror.symm.trans he
        exact hunwritable e hcannot
      · cases hone.symm.trans he

omit [LawfulSqliteHost] in
/-- `_claim_owner` of a record on file. -/
theorem ensures_claimOwner_bind {proposal : StoredProposal}
    {f : Option SafeReference → SqliteBody α} (h : tables.Mirrors memory)
    (hfound : memory.proposals proposal.key = some proposal)
    (hfailure : ∀ e, sqliteFailure e = true → Q (.error e) tables)
    (hnext : (f (memory.effectClaims proposal.effectKey)).Ensures Q tables) :
    (SqliteActionStore.claimOwner proposal >>= f).Ensures Q tables := by
  obtain ⟨row, -, hfiled⟩ := h.row hfound
  refine ensures_select_bind (fun now ↦ ⟨tables.effectClaims proposal.effectKey, ?_, ?_⟩) hfailure
  · rw [SqliteQuery.perform]
    exact if_neg (not_lt.mpr hfiled.version_le)
  · rw [h.claims]
    exact hnext

/-- The statement of `_create_sync` stores a row under a vacant key, if the record can be
written. -/
theorem perform_insertProposal {proposal : StoredProposal} (h : tables.Mirrors memory)
    (hvalid : isValid proposal = true)
    (hvacant : (memory.proposals proposal.key).isSome = false) (now : ℤ) :
    (∃ e, Unwritable proposal e ∧
      (SqliteQuery.insertProposal proposal.key
        (SqliteActionStore.newRow proposal (proposalData proposal))).perform now tables =
          .error e) ∨
      ∃ tables' : SqliteTables, tables'.Mirrors (memory.put (storedForm proposal)) ∧
        (SqliteQuery.insertProposal proposal.key
          (SqliteActionStore.newRow proposal (proposalData proposal))).perform now tables =
            .ok ((), tables') := by
  have hnew : (SqliteActionStore.newRow proposal (proposalData proposal)).Repeats proposal :=
    ⟨rfl, rfl, rfl, rfl, rfl, rfl, rfl, rfl⟩
  have hnone : tables.proposals proposal.key = none :=
    h.vacant.mpr (Option.isNone_iff_eq_none.mp (Option.isSome_eq_false_iff.mp hvacant))
  by_cases hoverflow : bigintMax < proposal.actionType.version ∨ bigintMax < proposal.revision
  · refine .inl ⟨_, .overflow hoverflow, ?_⟩
    rw [SqliteQuery.perform]
    exact if_pos hoverflow
  · have hbound := hoverflow
    simp only [not_or, not_lt] at hbound
    by_cases hjson : jsonValid (proposalData proposal) = true
    · have hstored : SqliteRow.Filed _ (storedForm proposal) :=
        ⟨hnew.storedForm, LawfulSqliteHost.valid_storedForm hvalid, storedForm_idem proposal,
          hbound.1, hbound.2⟩
      refine .inr ⟨_, h.put hstored, ?_⟩
      rw [SqliteQuery.perform, hnew.check, hjson, hnone]
      exact if_neg hoverflow
    · rw [Bool.not_eq_true] at hjson
      refine .inl ⟨_, .invalidJson hjson, ?_⟩
      rw [SqliteQuery.perform, hnew.check, hjson, hnone]
      exact if_neg hoverflow

section Claims

variable {proposal : StoredProposal} (h : tables.Mirrors memory)
  (hfound : memory.proposals proposal.key = some proposal)

include h hfound

omit [LawfulSqliteHost]

/-- A free claim is inserted. -/
theorem perform_insertClaim (hfree : memory.effectClaims proposal.effectKey = none) (now : ℤ) :
    (SqliteQuery.insertClaim proposal.effectKey proposal.proposalReference).perform now tables =
      .ok ((), { tables with
        effectClaims := Function.update tables.effectClaims proposal.effectKey
          (some proposal.proposalReference) }) := by
  obtain ⟨row, -, hfiled⟩ := h.row hfound
  have hversion : ¬bigintMax < proposal.effectKey.2.1.version := not_lt.mpr hfiled.version_le
  rw [SqliteQuery.perform, if_neg hversion, h.claims, hfree, h.references hfound]
  rfl

/-- A claim is transferred from its owner. -/
theorem perform_transferClaim {owner : SafeReference}
    (howner : memory.effectClaims proposal.effectKey = some owner) (now : ℤ) :
    (SqliteQuery.transferClaim proposal.effectKey proposal.proposalReference owner).perform now
        tables =
      .ok ((1 : ℕ), { tables with
        effectClaims := Function.update tables.effectClaims proposal.effectKey
          (some proposal.proposalReference) }) := by
  obtain ⟨row, -, hfiled⟩ := h.row hfound
  have hversion : ¬bigintMax < proposal.effectKey.2.1.version := not_lt.mpr hfiled.version_le
  rw [SqliteQuery.perform, if_neg hversion, h.claims, howner, h.references hfound,
    if_neg (not_not_intro rfl)]
  rfl

end Claims

omit [LawfulSqliteHost] in
/-- A statement that always does the same. -/
theorem ensures_statement_bind {q : SqliteQuery} {f : q.Ans → SqliteBody α} {a : q.Ans}
    (hperform : ∀ now, q.perform now tables = .ok (a, tables'))
    (hfailure : ∀ e, sqliteFailure e = true → Q (.error e) tables)
    (hnext : (f a).Ensures Q tables') : (sqliteQuery q >>= f).Ensures Q tables := by
  refine Body.ensures_perform_bind (fun now a' tables'' h ↦ ?_) fun e he ↦ ?_
  · cases (hperform now).symm.trans h
    exact hnext
  · rcases he with he | ⟨now, he⟩
    · exact hfailure e he
    · cases (hperform now).symm.trans he

/-- `_claim_effect` of a record on file does what the store in memory does. -/
theorem ensures_claimEffect_bind {proposal : StoredProposal}
    {f : EffectClaimResult → SqliteBody α} (h : tables.Shows memory)
    (hfound : memory.proposals proposal.key = some proposal)
    (hfailure : ∀ e, sqliteFailure e = true → Q (.error e) tables)
    (hunreadable : ∀ key record, memory.proposals key = some record →
      withinLimits (.dict (proposalData record)) = false →
      Q (.error (.host "SQLiteStoredDataCorruptionError")) tables)
    (hnext : ∀ tables' : SqliteTables,
      tables'.Mirrors
        (memory.claimEffectLocked proposal.effectKey proposal.proposalReference).2 →
      (f (memory.claimEffectLocked proposal.effectKey proposal.proposalReference).1).Ensures Q
        tables') :
    (SqliteActionStore.claimEffect proposal >>= f).Ensures Q tables := by
  have hclaimed := h.claim proposal.effectKey proposal.proposalReference
  rw [MemoryActionStore.claimEffectLocked] at hnext
  rw [SqliteActionStore.claimEffect, Body.ensures_bind]
  refine ensures_claimOwner_bind h.toMirrors hfound hfailure ?_
  cases howner : memory.effectClaims proposal.effectKey with
  | none =>
    rw [howner] at hnext
    exact ensures_statement_bind (perform_insertClaim h.toMirrors hfound howner) hfailure
      (hnext _ hclaimed)
  | some owner =>
    rw [howner] at hnext
    dsimp only at hnext ⊢
    by_cases hself : owner = proposal.proposalReference
    · rw [if_pos hself] at hnext ⊢
      exact hnext tables h.toMirrors
    -- the record of the owner decides whether the claim can be taken over
    · rw [if_neg hself] at hnext ⊢
      refine ensures_load_bind h hfailure (hunreadable _) ?_
      cases hrecord : memory.proposals (proposal.effectKey.1, owner) with
      | none =>
        rw [hrecord] at hnext
        rw [show memory.proposals (proposal.tenantReference, owner) = none from hrecord]
        exact hnext tables h.toMirrors
      | some record =>
        rw [hrecord] at hnext
        rw [show memory.proposals (proposal.tenantReference, owner) = some record from hrecord]
        dsimp only at hnext
        by_cases hstatus : record.lifecycleStatus ∈ [.failedKnown, .stale]
        · rw [if_pos hstatus] at hnext
          rw [Option.any_some, if_pos (decide_eq_true hstatus)]
          exact ensures_statement_bind (perform_transferClaim h.toMirrors hfound howner) hfailure
            (hnext _ hclaimed)
        · rw [if_neg hstatus] at hnext
          rw [Option.any_some, if_neg (by rwa [decide_eq_true_iff])]
          exact hnext tables h.toMirrors

end Steps

/-! ## Requests -/

/-- How the transaction of a request may end. -/
def Settled {α : Type} (memory : MemoryActionStore) (request : StoreRequest)
    (answer : α → StoreAnswer) : Except Exn (Exit α) → SqliteTables → Prop
  | .ok (.commit a), tables' =>
    ∃ memory', request.Answered memory (.ok (answer a)) memory' ∧ tables'.Shows memory'
  | .ok (.rollback a), _ => request.Answered memory (.ok (answer a)) memory
  | .error e, _ => request.Answered memory (.error e) memory

theorem StoreRequest.Answered.of_serve {r : Except Exn StoreAnswer}
    (h : memory.serve request = (r, memory')) : request.Answered memory r memory' := by
  have hsame : request.Answered memory (memory.serve request).1 (memory.serve request).2 := .same
  rwa [h] at hsame

/-- What the store in memory becomes is reached by calls. -/
theorem SqliteTables.Shows.serve (h : tables.Shows memory)
    (hmirrors : tables'.Mirrors (memory.serve request).2) :
    tables'.Shows (memory.serve request).2 := by
  refine ⟨hmirrors, ?_, ?_⟩
  · rw [MemoryActionStore.serve_run]
    exact h.owned.run _
  · rw [MemoryActionStore.serve_run]
    exact h.bound.run h.owned _

/-- A commit that does what the store in memory does. -/
theorem settled_commit {α : Type} {answer : α → StoreAnswer} {a : α} (h : tables.Shows memory)
    (hserve : memory.serve request = (.ok (answer a), memory'))
    (hmirrors : tables'.Mirrors memory') :
    Settled memory request answer (.ok (.commit a)) tables' := by
  refine ⟨memory', .of_serve hserve, ?_⟩
  have hstore : (memory.serve request).2 = memory' := congrArg Prod.snd hserve
  subst hstore
  exact h.serve hmirrors

theorem settled_failure {α : Type} {answer : α → StoreAnswer} {e : Exn}
    (he : sqliteFailure e = true) : Settled memory request answer (.error e) tables :=
  .refused (.failure he)

variable [LawfulSqliteHost]

theorem ensures_createSync {proposal : StoredProposal} (h : tables.Shows memory)
    (hvalid : isValid proposal = true) (haccepted : validateProposalCreate proposal = .ok ()) :
    (SqliteActionStore.createSync proposal).Ensures
      (Settled memory (.create proposal) fun _ ↦ .created) tables := by
  have hcreate : (memory.proposals proposal.key).isSome = false →
      memory.create (storedForm proposal) = (.ok (), memory.put (storedForm proposal)) := by
    intro hvacant
    rw [MemoryActionStore.create, validateProposalCreate_storedForm, haccepted]
    exact if_neg (by rw [show (storedForm proposal).key = proposal.key from rfl, hvacant]; decide)
  have hsome : (tables.proposals proposal.key).isSome = (memory.proposals proposal.key).isSome := by
    rw [Bool.eq_iff_iff, Option.isSome_iff_ne_none, Option.isSome_iff_ne_none]
    exact not_congr h.vacant
  refine ensures_statement_bind (fun _ ↦ rfl) (fun e he ↦ settled_failure he) ?_
  refine Body.ensures_raiseIf_bind (fun hfound ↦ ?_) fun hvacant ↦ ?_
  · refine .of_serve ?_
    rw [hsome] at hfound
    rw [MemoryActionStore.serve, MemoryActionStore.create]
    rw [if_pos (show (memory.proposals (storedForm proposal).key).isSome = true from hfound)]
    rfl
  · rw [hsome, Bool.not_eq_true] at hvacant
    refine Body.ensures_orRaise_bind (fun data hdata ↦ ?_) fun e he ↦
      .refused (.unwritable rfl (modelDumpJson_error he))
    cases modelDumpJson_ok hdata
    have hinsert := perform_insertProposal h.toMirrors hvalid hvacant
    refine Body.ensures_perform_bind (fun now a tables' hok ↦ ?_) fun e he ↦ ?_
    · rcases hinsert now with ⟨e, -, herror⟩ | ⟨_, hmirrors, hinserted⟩
      · cases herror.symm.trans hok
      · cases hinserted.symm.trans hok
        refine settled_commit h ?_ hmirrors
        rw [MemoryActionStore.serve, hcreate hvacant]
        rfl
    · rcases he with he | ⟨now, he⟩
      · exact settled_failure he
      · rcases hinsert now with ⟨e', hcannot, herror⟩ | ⟨_, -, hinserted⟩
        · cases herror.symm.trans he
          exact .refused (.unwritable rfl hcannot)
        · cases hinserted.symm.trans he

theorem ensures_compareAndSetSync {args : MemoryActionStore.CompareAndSet}
    (h : tables.Shows memory) (hvalid : isValid args.updated = true) :
    (SqliteActionStore.compareAndSetSync args).Ensures
      (Settled memory (.compareAndSet args) .written) tables := by
  have hserve : ∀ {r memory'},
      memory.compareAndSet { args with updated := storedForm args.updated } = (r, memory') →
      memory.serve (.compareAndSet args) = (r.map .written, memory') := by
    intro r memory' hresult
    rw [MemoryActionStore.serve, hresult]
  refine ensures_load_bind h (fun e he ↦ settled_failure he)
    (fun proposal hfound hlimits ↦ .refused (.unreadable hfound hlimits)) ?_
  rw [MemoryActionStore.compareAndSet] at hserve
  cases hfound : memory.proposals (args.tenantReference, args.proposalReference) with
  | none =>
    rw [hfound] at hserve
    exact .of_serve (hserve rfl)
  | some current =>
    have hkey := h.owned.filed _ current hfound
    have hcurrent : memory.proposals current.key = some current := by rw [hkey, hfound]
    rw [hfound] at hserve
    dsimp only at hserve ⊢
    rw [validateProposalUpdate_storedForm] at hserve
    by_cases hexpected : current.revision ≠ args.expectedRevision ∨
        current.lifecycleStatus ∉ args.expectedStatuses
    · rw [if_pos hexpected]
      refine .of_serve (hserve (r := .ok false) ?_)
      by_cases hrevision : current.revision ≠ args.expectedRevision
      · rw [if_pos hrevision]
      · rw [if_neg hrevision, if_pos (hexpected.resolve_left hrevision)]
    · rw [if_neg hexpected]
      rw [not_or] at hexpected
      rw [if_neg hexpected.1, if_neg hexpected.2] at hserve
      refine Body.ensures_orRaise_bind (fun _ hok ↦ ?_) fun e he ↦ ?_
      · rw [hok] at hserve
        dsimp only at hserve
        have hupdate : ¬(args.updated.lifecycleStatus = .executing ∧
            current.lifecycleStatus ≠ .executing ∧
            memory.effectClaims current.effectKey ≠ some current.proposalReference) →
            (SqliteStoreBase.update current args.updated >>= fun _ ↦ pure (.commit true)).Ensures
              (Settled memory (.compareAndSet args) .written) tables := by
          intro howns
          refine ensures_update_bind h.toMirrors hcurrent (validateProposalUpdate_ok hok) hvalid
            (fun e he ↦ settled_failure he) (fun e he ↦ .refused (.unwritable rfl he))
            fun tables' hmirrors ↦ settled_commit h (hserve (if_neg howns)) hmirrors
        -- the claim is only read when an attempt begins
        by_cases hentering : args.updated.lifecycleStatus = .executing ∧
            current.lifecycleStatus ≠ .executing
        · rw [if_pos hentering]
          refine ensures_claimOwner_bind h.toMirrors hcurrent (fun e he ↦ settled_failure he) ?_
          refine Body.ensures_raiseIf_bind (fun howner ↦ ?_) fun howner ↦ ?_
          · exact .of_serve (hserve (if_pos ⟨hentering.1, hentering.2, howner⟩))
          · exact hupdate fun hclaim ↦ howner hclaim.2.2
        · rw [if_neg hentering]
          exact hupdate fun hclaim ↦ hentering ⟨hclaim.1, hclaim.2.1⟩
      · rw [he] at hserve
        exact .of_serve (hserve rfl)

/-- The end of an admission: the claim and the record are stored together, or none of them. -/
theorem ensures_admitted {args : MemoryActionStore.AdmitExecution} {current : StoredProposal}
    (h : tables.Shows memory) (hcurrent : memory.proposals current.key = some current)
    (haccepted : AcceptedUpdate current args.updated) (hvalid : isValid args.updated = true)
    (hserve : ∀ {r : Except Exn EffectClaimResult} {memory'}, (match
        memory.claimEffectLocked current.effectKey current.proposalReference with
      | (.conflict, _) => (.ok .conflict, memory)
      | (result, store') => (.ok result, store'.put (storedForm args.updated))) = (r, memory') →
      memory.serve (.admitExecution args) = (r.map .admitted, memory')) :
    (SqliteActionStore.claimEffect current >>= fun claim ↦ match claim with
      | .conflict => pure (.rollback .conflict)
      | claim => SqliteStoreBase.update current args.updated >>= fun _ ↦ pure (.commit claim) :
        SqliteBody (Exit EffectClaimResult)).Ensures
      (Settled memory (.admitExecution args) .admitted) tables := by
  refine ensures_claimEffect_bind h hcurrent (fun e he ↦ settled_failure he)
    (fun _ record hfound hlimits ↦ .refused (.unreadable hfound hlimits)) fun tables' hmirrors ↦ ?_
  have hstore : ∀ {store' : MemoryActionStore} {result},
      tables'.Mirrors store' → store'.proposals = memory.proposals →
      (∀ {r : Except Exn EffectClaimResult} {memory'},
        (.ok result, store'.put (storedForm args.updated)) = (r, memory') →
        memory.serve (.admitExecution args) = (r.map .admitted, memory')) →
      (SqliteStoreBase.update current args.updated >>= fun _ ↦ pure (.commit result) :
        SqliteBody (Exit EffectClaimResult)).Ensures
          (Settled memory (.admitExecution args) .admitted) tables' := by
    intro store' result hmirrors' hproposals hsame
    rw [← hproposals] at hcurrent
    exact ensures_update_bind hmirrors' hcurrent haccepted hvalid (fun e he ↦ settled_failure he)
      (fun e he ↦ .refused (.unwritable rfl he))
      fun tables'' hmirrors'' ↦ settled_commit h (hsame rfl) hmirrors''
  rcases memory.claimEffectLocked_cases current.effectKey current.proposalReference with
    hclaim | ⟨hclaim, -⟩ | ⟨hclaim, -⟩
  · rw [hclaim] at hserve ⊢
    exact .of_serve (hserve rfl)
  · rw [hclaim] at hserve hmirrors ⊢
    exact hstore hmirrors rfl hserve
  · rw [hclaim] at hserve hmirrors ⊢
    exact hstore hmirrors rfl hserve

theorem ensures_admitExecutionSync {args : MemoryActionStore.AdmitExecution}
    (h : tables.Shows memory) (hvalid : isValid args.updated = true) :
    (SqliteActionStore.admitExecutionSync args).Ensures
      (Settled memory (.admitExecution args) .admitted) tables := by
  have hserve : ∀ {r memory'},
      memory.admitExecution { args with updated := storedForm args.updated } = (r, memory') →
      memory.serve (.admitExecution args) = (r.map .admitted, memory') := by
    intro r memory' hresult
    rw [MemoryActionStore.serve, hresult]
  refine ensures_load_bind h (fun e he ↦ settled_failure he)
    (fun proposal hfound hlimits ↦ .refused (.unreadable hfound hlimits)) ?_
  rw [MemoryActionStore.admitExecution] at hserve
  cases hfound : memory.proposals (args.tenantReference, args.proposalReference) with
  | none =>
    rw [hfound] at hserve
    exact .of_serve (hserve rfl)
  | some current =>
    have hkey := h.owned.filed _ current hfound
    have hcurrent : memory.proposals current.key = some current := by rw [hkey, hfound]
    have hreference : current.proposalReference = args.proposalReference := congrArg Prod.snd hkey
    rw [hfound] at hserve
    dsimp only at hserve ⊢
    rw [validateProposalUpdate_storedForm] at hserve
    refine Body.ensures_perform_bind (fun now databaseUnexpired tables' hok ↦ ?_) fun e he ↦ ?_
    · cases hok
      by_cases hrefused : current.revision ≠ args.expectedRevision ∨
          current.lifecycleStatus ≠ .authorized ∨ current.erasurePendingAt ≠ none ∨
          current.erasedAt ≠ none ∨ current.expiresAt ≤ args.admittedAt
      · rw [if_pos hrefused] at hserve
        rw [if_pos (by tauto)]
        exact .of_serve (hserve rfl)
      · rw [if_neg hrefused] at hserve
        -- the caller's time admits the proposal, the clock of the database may not
        by_cases hexpired : juliandayAfter (isoformat current.expiresAt) now = false
        · rw [if_pos (by tauto)]
          exact .refused (.expired hfound hexpired)
        · rw [if_neg (by tauto)]
          refine Body.ensures_orRaise_bind (fun _ hok ↦ ?_) fun e he ↦ ?_
          · rw [hok, ← hreference] at hserve
            dsimp only at hserve
            refine Body.ensures_raiseIf_bind (fun hstatus ↦ ?_) fun hstatus ↦ ?_
            · exact .of_serve (hserve (if_pos hstatus))
            · exact ensures_admitted h hcurrent (validateProposalUpdate_ok hok) hvalid
                fun hresult ↦ hserve ((if_neg hstatus).trans hresult)
          · rw [he] at hserve
            exact .of_serve (hserve rfl)
    · rcases he with he | ⟨now, he⟩
      · exact settled_failure he
      · cases he

omit [SqliteHost] [LawfulSqliteHost] in
/-- Marking a record that is not erased is an accepted update. -/
theorem acceptedUpdate_pending {current : StoredProposal} (t : Timestamp)
    (hbound : validateProposalBindings current = .ok ()) (herased : current.erasedAt = none) :
    AcceptedUpdate current (proposalWithErasurePending current t) where
  identity := rfl
  revision := rfl
  pending _ hnone := by cases hnone
  tombstone hsome := by
    rw [show (proposalWithErasurePending current t).erasedAt = none from herased] at hsome
    cases hsome
  evidence _ := List.prefix_rfl
  receipts _ := List.prefix_rfl
  status := .inl rfl
  bindings := hbound

omit [SqliteHost] [LawfulSqliteHost] in
/-- Erasing a record is an accepted update. -/
theorem acceptedUpdate_erased (current : StoredProposal) (t : Timestamp) :
    AcceptedUpdate current (erasedProposal current t) where
  identity := rfl
  revision := rfl
  pending _ _ := rfl
  tombstone _ := contentFree_erasedProposal current t
  evidence h := by cases h
  receipts h := by cases h
  status := .inl rfl
  bindings := validateProposalBindings_eq_ok.mpr
    ⟨List.forall_mem_nil _, List.forall_mem_nil _⟩

/-- The adapter's own guards pass an accepted update of a record on file. -/
theorem ensures_guarded_update {current updated : StoredProposal} (h : tables.Shows memory)
    (hcurrent : memory.proposals current.key = some current)
    (haccepted : AcceptedUpdate current updated) (hvalid : isValid updated = true)
    (hstored : storedForm updated = updated) (hwrites : request.Writes memory updated)
    (hserve : memory.serve request = (.ok (.written true), memory.put updated)) :
    (Body.orRaise (validatedProposal updated) >>= fun updated ↦
      Body.orRaise (validateProposalUpdate current updated) >>= fun _ ↦
        SqliteStoreBase.update current updated >>= fun _ ↦ pure (.commit true) :
      SqliteBody (Exit Bool)).Ensures (Settled memory request .written) tables := by
  rw [validatedProposal, if_pos hvalid]
  show Body.Ensures (Body.orRaise (validateProposalUpdate current updated) >>= _) _ _
  rw [validateProposalUpdate_eq_ok.mpr haccepted]
  refine ensures_update_bind h.toMirrors hcurrent haccepted hvalid (fun e he ↦ settled_failure he)
    (fun e he ↦ .refused (.unwritable hwrites he)) fun tables' hmirrors ↦ ?_
  rw [hstored] at hmirrors
  exact settled_commit h hserve hmirrors

theorem ensures_markErasurePendingSync (args : MemoryActionStore.ErasureStep)
    (h : tables.Shows memory) :
    (SqliteRetentionStore.markErasurePendingSync args).Ensures
      (Settled memory (.markErasurePending args) .written) tables := by
  have hserve : ∀ {r memory'}, memory.markErasurePending args = (r, memory') →
      memory.serve (.markErasurePending args) = (.ok (.written r), memory') := by
    intro r memory' hresult
    rw [MemoryActionStore.serve, hresult]
  refine ensures_load_bind h (fun e he ↦ settled_failure he)
    (fun proposal hfound hlimits ↦ .refused (.unreadable hfound hlimits)) ?_
  rw [MemoryActionStore.markErasurePending] at hserve
  cases hfound : memory.proposals (args.tenantReference, args.proposalReference) with
  | none =>
    rw [hfound] at hserve
    exact .of_serve (hserve rfl)
  | some current =>
    have hkey := h.owned.filed _ current hfound
    have hcurrent : memory.proposals current.key = some current := by rw [hkey, hfound]
    obtain ⟨row, -, hfiled⟩ := h.row hcurrent
    rw [hfound] at hserve
    dsimp only at hserve ⊢
    by_cases hrefused : current.revision ≠ args.expectedRevision ∨
        current.lifecycleStatus ∉ erasableLifecycleStatuses ∨ current.erasedAt ≠ none
    · rw [if_pos hrefused] at hserve ⊢
      exact .of_serve (hserve rfl)
    · rw [if_neg hrefused] at hserve ⊢
      by_cases hpending : current.erasurePendingAt ≠ none
      -- it is marked already, and the mark is acknowledged again
      · rw [if_pos hpending] at hserve ⊢
        exact .of_serve (hserve rfl)
      · rw [if_neg hpending] at hserve ⊢
        have herased : current.erasedAt = none := by tauto
        refine ensures_guarded_update h hcurrent
          (acceptedUpdate_pending _ (h.bound _ _ hfound) herased)
          (LawfulSqliteHost.valid_pending _ hfiled.valid) ?_ ⟨current, hfound, rfl⟩ (hserve rfl)
        exact congrArg (proposalWithErasurePending · args.timestamp) hfiled.stored

theorem ensures_completeErasureSync (args : MemoryActionStore.ErasureStep)
    (h : tables.Shows memory) :
    (SqliteRetentionStore.completeErasureSync args).Ensures
      (Settled memory (.completeErasure args) .written) tables := by
  have hserve : ∀ {r memory'}, memory.completeErasure args = (r, memory') →
      memory.serve (.completeErasure args) = (.ok (.written r), memory') := by
    intro r memory' hresult
    rw [MemoryActionStore.serve, hresult]
  refine ensures_load_bind h (fun e he ↦ settled_failure he)
    (fun proposal hfound hlimits ↦ .refused (.unreadable hfound hlimits)) ?_
  rw [MemoryActionStore.completeErasure] at hserve
  cases hfound : memory.proposals (args.tenantReference, args.proposalReference) with
  | none =>
    rw [hfound] at hserve
    exact .of_serve (hserve rfl)
  | some current =>
    have hkey := h.owned.filed _ current hfound
    have hcurrent : memory.proposals current.key = some current := by rw [hkey, hfound]
    obtain ⟨row, -, hfiled⟩ := h.row hcurrent
    rw [hfound] at hserve
    dsimp only at hserve ⊢
    by_cases hrefused : current.revision ≠ args.expectedRevision ∨
        current.erasurePendingAt = none ∨ current.erasedAt ≠ none
    · rw [if_pos hrefused] at hserve ⊢
      exact .of_serve (hserve rfl)
    · rw [if_neg hrefused] at hserve ⊢
      exact ensures_guarded_update h hcurrent (acceptedUpdate_erased current _)
        (LawfulSqliteHost.valid_erased _ hfiled.valid) rfl ⟨current, hfound, rfl⟩ (hserve rfl)

/-! ## The adapter -/

omit [LawfulSqliteHost] in
/-- The end of a transaction, where its body settles the request. -/
theorem answered_of_settled {α : Type} {answer : α → StoreAnswer} {body : SqliteBody (Exit α)}
    {r : Except Exn StoreAnswer} (h : tables.Shows memory)
    (hbody : body.Ensures (Settled memory request answer) tables)
    (hserves : Serves (.immediate (answering answer body)) tables r tables') :
    ∃ memory', request.Answered memory r memory' ∧ tables'.Shows memory' := by
  have hsettled : (answering answer body).Ensures (Settled memory request id) tables := by
    rw [answering, Body.ensures_bind]
    apply hbody.imp
    rintro (e | exit) d' hend
    · exact hend
    · cases exit <;> exact hend
  cases hserves with
  | committed hruns => exact hsettled.of_runs hruns
  | rolledBack hruns => exact ⟨memory, hsettled.of_runs hruns, h⟩
  | raised hruns => exact ⟨memory, hsettled.of_runs hruns, h⟩
  | failed he => exact ⟨memory, .refused (.failure he), h⟩

omit [LawfulSqliteHost] in
/-- A call that ends without a statement. -/
theorem serves_done {e : Exn} {r : Except Exn StoreAnswer}
    (h : Serves (.done (.error e) : Call sqlite StoreAnswer) tables r tables') :
    tables' = tables ∧ ∃ e', (e' = e ∨ sqliteFailure e' = true) ∧ r = .error e' := by
  cases h with
  | done => exact ⟨rfl, e, .inl rfl, rfl⟩
  | failed he => exact ⟨rfl, _, .inr he, rfl⟩

omit [LawfulSqliteHost] in
/-- A call that validation lets in, or that ends at once. -/
theorem serves_withValidated {α : Type} {argument : Except Exn α}
    {f : α → Call sqlite StoreAnswer} {r : Except Exn StoreAnswer} (h : tables.Shows memory)
    (hserves : Serves (withValidated argument f) tables r tables')
    (hrefused : ∀ e, argument = .error e → request.Refused memory (.error e))
    (hgo : ∀ a, argument = .ok a → Serves (f a) tables r tables' →
      ∃ memory', request.Answered memory r memory' ∧ tables'.Shows memory') :
    ∃ memory', request.Answered memory r memory' ∧ tables'.Shows memory' := by
  cases argument with
  | ok a => exact hgo a rfl hserves
  | error e =>
    obtain ⟨rfl, e', he', rfl⟩ := serves_done hserves
    rcases he' with rfl | hfailure
    · exact ⟨memory, .refused (hrefused _ rfl), h⟩
    · exact ⟨memory, .refused (.failure hfailure), h⟩

omit [LawfulSqliteHost] in
theorem validatedProposal_ok {proposal validated : StoredProposal}
    (h : validatedProposal proposal = .ok validated) :
    validated = proposal ∧ isValid proposal = true := by
  rw [validatedProposal] at h
  split_ifs at h with hvalid
  cases h
  exact ⟨rfl, hvalid⟩

omit [LawfulSqliteHost] in
theorem validatedProposal_error {proposal : StoredProposal} {e : Exn}
    (h : validatedProposal proposal = .error e) :
    e = .validationError ∧ isValid proposal = false := by
  rw [validatedProposal] at h
  split_ifs at h with hvalid
  cases h
  exact ⟨rfl, Bool.not_eq_true _ ▸ hvalid⟩

/-- **The calls of the adapter.** Each of them, alone, answers what the store in memory answers or
refuses for one of the reasons, and leaves the tables to show that store. -/
theorem serves_answered {r : Except Exn StoreAnswer} (h : tables.Shows memory)
    (hserves : Serves (sqliteCall request) tables r tables') :
    ∃ memory', request.Answered memory r memory' ∧ tables'.Shows memory' := by
  have hinvalid : ∀ {proposal e}, request.Writes memory proposal →
      validatedProposal proposal = .error e → request.Refused memory (.error e) := by
    intro proposal e hwrites he
    obtain ⟨rfl, hvalid⟩ := validatedProposal_error he
    exact .invalid hwrites hvalid
  cases request with
  | create proposal =>
    refine serves_withValidated h hserves (fun e ↦ hinvalid rfl) fun _ hok hvalidated ↦ ?_
    obtain ⟨rfl, hvalid⟩ := validatedProposal_ok hok
    refine serves_withValidated h hvalidated (fun e ↦ .uncreatable) fun _ hcreate hserves ↦ ?_
    exact answered_of_settled h (ensures_createSync h hvalid hcreate) hserves
  | compareAndSet args =>
    refine serves_withValidated h hserves (fun e ↦ hinvalid rfl) fun _ hok hvalidated ↦ ?_
    obtain ⟨rfl, hvalid⟩ := validatedProposal_ok hok
    exact answered_of_settled h (ensures_compareAndSetSync h hvalid) hvalidated
  | admitExecution args =>
    refine serves_withValidated h hserves (fun e ↦ hinvalid rfl) fun _ hok hvalidated ↦ ?_
    obtain ⟨rfl, hvalid⟩ := validatedProposal_ok hok
    exact answered_of_settled h (ensures_admitExecutionSync h hvalid) hvalidated
  | markErasurePending args =>
    exact answered_of_settled h (ensures_markErasurePendingSync args h) hserves
  | completeErasure args =>
    exact answered_of_settled h (ensures_completeErasureSync args h) hserves
  | get tenantReference proposalReference =>
    cases hserves with
    | failed he => exact ⟨memory, .refused (.failure he), h⟩
    | refused hperform => cases hperform
    | selected hperform =>
      cases hperform
      refine ⟨memory, ?_, h⟩
      cases hfound : memory.proposals (tenantReference, proposalReference) with
      | none =>
        rw [h.vacant.mpr hfound]
        apply StoreRequest.Answered.of_serve
        rw [MemoryActionStore.serve, MemoryActionStore.get, hfound]
        rfl
      | some proposal =>
        obtain ⟨row, hrow, hfiled⟩ := h.row hfound
        dsimp only
        rw [hrow, ← h.owned.filed _ proposal hfound, hfiled.loaded]
        by_cases hlimits : withinLimits (.dict (proposalData proposal)) = true
        · rw [if_pos hlimits]
          apply StoreRequest.Answered.of_serve
          rw [MemoryActionStore.serve, MemoryActionStore.get, hfound]
          rfl
        · rw [if_neg hlimits]
          exact .refused (.unreadable hfound (Bool.not_eq_true _ ▸ hlimits))
  | getEffectClaimOwner tenantReference actionType semanticEffectReference =>
    cases hserves with
    | failed he => exact ⟨memory, .refused (.failure he), h⟩
    | refused hperform =>
      refine ⟨memory, ?_, h⟩
      by_cases hoverflow : bigintMax < actionType.version
      · cases (if_pos hoverflow).symm.trans hperform
        exact .refused (.unbound hoverflow)
      · cases (if_neg hoverflow).symm.trans hperform
    | selected hperform =>
      refine ⟨memory, ?_, h⟩
      by_cases hoverflow : bigintMax < actionType.version
      · cases (if_pos hoverflow).symm.trans hperform
      · cases (if_neg hoverflow).symm.trans hperform
        apply StoreRequest.Answered.of_serve
        rw [MemoryActionStore.serve, MemoryActionStore.getEffectClaimOwner, h.claims]

end Refinement

end ThrevoActions
