import Mathlib.Logic.Function.Basic
import ThrevoActions.Approvals.Models

/-!
# The PostgreSQL store of approval requests

`PostgresApprovalRequestStore.create` and `record_decision`, run by any number of workers over one
table. A worker advances by one statement at a time, and statements of different workers interleave
arbitrarily. `create` runs outside of a transaction, each of its statements committing by itself;
`record_decision` runs in a transaction that locks its row with `FOR UPDATE`. What a transaction has
written is seen by the others when it commits, and the lock is held until then.

A call may be cancelled between its statements; an open transaction is rolled back. The JSON forms
of the records enter as the class `ApprovalJson`.
-/

namespace ThrevoActions

namespace Approvals

/-- `model_dump_json` into a `jsonb` column, and `model_validate_json` of what comes back. -/
class ApprovalJson where
  dumpBinding : ApprovalRequestBinding → JsonValue
  parseBinding : JsonValue → Option ApprovalRequestBinding
  dumpDecision : ApprovalDecisionRecord → JsonValue
  parseDecision : JsonValue → Option ApprovalDecisionRecord

open ApprovalJson

inductive ApprovalFailure
  /-- `ApprovalRequestError`. -/
  | request (message : String)
  /-- An error raised by PostgreSQL. -/
  | database (message : String)
  /-- `asyncio.CancelledError`. -/
  | cancelled
  deriving DecidableEq, Repr

/-- How a call ends. -/
abbrev Answer := Except ApprovalFailure ApprovalRequestRecord

/-! ## The table -/

structure RequestRow where
  requestReference : SafeReference
  tenantReference : SafeReference
  proposalReference : SafeReference
  bindingData : JsonValue
  decisionData : Option JsonValue := none

/-- The proposal of a row. -/
def RequestRow.proposal (row : RequestRow) : ProposalIdentity :=
  ⟨row.tenantReference, row.proposalReference⟩

/-- `approval_requests`, with its primary key and its unique constraint. -/
structure ApprovalRequests where
  rows : List RequestRow
  primaryKey : (rows.map RequestRow.requestReference).Nodup
  unique : (rows.map RequestRow.proposal).Nodup

namespace ApprovalRequests

def empty : ApprovalRequests := ⟨[], List.nodup_nil, List.nodup_nil⟩

/-- `WHERE request_reference = …`. -/
def byReference (table : ApprovalRequests) (reference : SafeReference) : Option RequestRow :=
  table.rows.find? (·.requestReference = reference)

/-- `WHERE tenant_reference = … AND proposal_reference = …`. -/
def byProposal (table : ApprovalRequests) (proposal : ProposalIdentity) : Option RequestRow :=
  table.rows.find? (·.proposal = proposal)

/-- `INSERT … ON CONFLICT (tenant_reference, proposal_reference) DO NOTHING`: the table with the
row, or `none` for `INSERT 0 0`. The conflict is looked for before the primary key is checked. -/
def insert (table : ApprovalRequests) (row : RequestRow) :
    Except ApprovalFailure (Option ApprovalRequests) :=
  if hproposal : row.proposal ∈ table.rows.map RequestRow.proposal then .ok none
  else if hreference : row.requestReference ∈ table.rows.map RequestRow.requestReference then
    .error (.database "duplicate key value violates unique constraint")
  else
    .ok (some ⟨row :: table.rows, List.nodup_cons.mpr ⟨hreference, table.primaryKey⟩,
      List.nodup_cons.mpr ⟨hproposal, table.unique⟩⟩)

/-- The row with a decision. -/
def decideRow (reference : SafeReference) (decisionData : JsonValue) (row : RequestRow) :
    RequestRow :=
  if row.requestReference = reference then { row with decisionData := some decisionData } else row

theorem decideRow_requestReference (reference : SafeReference) (decisionData : JsonValue) :
    RequestRow.requestReference ∘ decideRow reference decisionData = RequestRow.requestReference := by
  funext row
  rw [Function.comp_apply, decideRow]
  split_ifs <;> rfl

theorem decideRow_proposal (reference : SafeReference) (decisionData : JsonValue) :
    RequestRow.proposal ∘ decideRow reference decisionData = RequestRow.proposal := by
  funext row
  rw [Function.comp_apply, decideRow]
  split_ifs <;> rfl

/-- The new version of one row becomes visible. -/
def decide (table : ApprovalRequests) (reference : SafeReference) (decisionData : JsonValue) :
    ApprovalRequests where
  rows := table.rows.map (decideRow reference decisionData)
  primaryKey := by
    rw [List.map_map, decideRow_requestReference]
    exact table.primaryKey
  unique := by
    rw [List.map_map, decideRow_proposal]
    exact table.unique

end ApprovalRequests

/-- The trigger `enforce_approval_request_update`. -/
def enforceApprovalRequestUpdate (old new : RequestRow) : Except ApprovalFailure RequestRow :=
  if (new.requestReference, new.tenantReference, new.proposalReference, new.bindingData) ≠
      (old.requestReference, old.tenantReference, old.proposalReference, old.bindingData) then
    .error (.database "approval request binding cannot change")
  else if old.decisionData ≠ none ∧ new.decisionData ≠ old.decisionData then
    .error (.database "approval decision cannot change")
  else .ok new

/-! ## The statements -/

section Statements

variable [ApprovalJson]

/-- `_record`. -/
def recordOf (row : RequestRow) : Answer :=
  let corrupt : Answer := .error (.request "stored approval request data is corrupt")
  match parseBinding row.bindingData with
  | none => corrupt
  | some binding =>
    match row.decisionData with
    | none =>
      match ApprovalRequestRecord.validate binding none with
      | none => corrupt
      | some record => .ok record
    | some decisionData =>
      match parseDecision decisionData with
      | none => corrupt
      | some decision =>
        match ApprovalRequestRecord.validate binding (some decision) with
        | none => corrupt
        | some record => .ok record

/-- The row that `create` inserts. -/
def newRow (binding : ApprovalRequestBinding) : RequestRow where
  requestReference := binding.requestReference
  tenantReference := binding.tenantReference
  proposalReference := binding.proposalReference
  bindingData := dumpBinding binding

/-- The end of `create`, after its `SELECT`. -/
def createAnswer (table : ApprovalRequests) (binding : ApprovalRequestBinding) : Answer :=
  match table.byProposal binding.proposal with
  | none => .error (.request "approval request is unavailable")
  | some row =>
    match recordOf row with
    | .error e => .error e
    | .ok existing =>
      if existing.binding.terms ≠ binding.terms then
        .error (.request "approval request is already bound differently")
      else .ok existing

inductive Call
  | create (binding : ApprovalRequestBinding)
  | recordDecision (requestReference : SafeReference) (decision : ApprovalDecisionRecord)

/-- Where a worker stands: before the `INSERT` and before the `SELECT` of `create`; before the
`SELECT … FOR UPDATE`, before the `UPDATE` and before the end of the transaction of
`record_decision`. `pending` is what the transaction has written. -/
inductive Progress
  | idle
  | inserting (binding : ApprovalRequestBinding)
  | reading (binding : ApprovalRequestBinding)
  | locking (requestReference : SafeReference) (decision : ApprovalDecisionRecord)
  | updating (requestReference : SafeReference) (decision : ApprovalDecisionRecord)
      (decided : ApprovalRequestRecord)
  | ending (requestReference : SafeReference) (decision : ApprovalDecisionRecord)
      (pending : Option JsonValue) (answer : Answer)
  | done (call : Call) (answer : Answer)

/-- What `record_decision` does with the row it has locked. -/
def afterLock (requestReference : SafeReference) (decision : ApprovalDecisionRecord)
    (row : RequestRow) : Progress :=
  match recordOf row with
  | .error e => .ending requestReference decision none (.error e)
  | .ok current =>
    match ApprovalRequestRecord.validate current.binding (some decision) with
    | none =>
      .ending requestReference decision none
        (.error (.request "approval decision does not match the request binding"))
    | some decided =>
      match current.decision with
      | some stored =>
        if stored.decision ≠ decision.decision then
          .ending requestReference decision none
            (.error (.request "approval request already has a decision"))
        else .ending requestReference decision none (.ok current)
      | none => .updating requestReference decision decided

/-- The `UPDATE … WHERE request_reference = … AND decision_data IS NULL`. -/
def afterUpdate (table : ApprovalRequests) (requestReference : SafeReference)
    (decision : ApprovalDecisionRecord) (decided : ApprovalRequestRecord) : Progress :=
  match table.byReference requestReference with
  | some row =>
    if row.decisionData = none then
      match enforceApprovalRequestUpdate row
        { row with decisionData := some (dumpDecision decision) } with
      | .error e => .ending requestReference decision none (.error e)
      | .ok new => .ending requestReference decision new.decisionData (.ok decided)
    else
      .ending requestReference decision none
        (.error (.request "approval decision result is uncertain"))
  | none =>
    .ending requestReference decision none
      (.error (.request "approval decision result is uncertain"))

end Statements

/-! ## Workers -/

abbrev Worker := ℕ

/-- What is committed, who holds which row lock, and where each worker stands. `wrote` tells whether
a row was written by the call a worker runs or ran last. -/
structure System where
  table : ApprovalRequests
  locks : SafeReference → Option Worker
  progress : Worker → Progress
  wrote : Worker → Bool

/-- A worker receives a call, performs its next statement, or is cancelled. -/
inductive Event
  | start (call : Call)
  | advance
  | cancel

namespace System

def empty : System := ⟨.empty, fun _ ↦ none, fun _ ↦ .idle, fun _ ↦ false⟩

def move (s : System) (w : Worker) (progress : Progress) : System :=
  { s with progress := Function.update s.progress w progress }

def lock (s : System) (requestReference : SafeReference) (holder : Option Worker) : System :=
  { s with locks := Function.update s.locks requestReference holder }

/-- The table after a committed write of `w`. -/
def commit (s : System) (w : Worker) (table : ApprovalRequests) : System :=
  { s with table, wrote := Function.update s.wrote w true }

section Fields

variable (s : System) (w : Worker) (progress : Progress) (reference : SafeReference)
  (holder : Option Worker) (table' : ApprovalRequests)

@[simp] theorem move_table : (s.move w progress).table = s.table := rfl

@[simp] theorem move_locks : (s.move w progress).locks = s.locks := rfl

@[simp] theorem move_wrote : (s.move w progress).wrote = s.wrote := rfl

@[simp] theorem move_progress_self : (s.move w progress).progress w = progress :=
  Function.update_self _ _ _

@[simp] theorem lock_table : (s.lock reference holder).table = s.table := rfl

@[simp] theorem lock_progress : (s.lock reference holder).progress = s.progress := rfl

@[simp] theorem lock_wrote : (s.lock reference holder).wrote = s.wrote := rfl

@[simp] theorem lock_locks_self : (s.lock reference holder).locks reference = holder :=
  Function.update_self _ _ _

@[simp] theorem commit_table : (s.commit w table').table = table' := rfl

@[simp] theorem commit_locks : (s.commit w table').locks = s.locks := rfl

@[simp] theorem commit_progress : (s.commit w table').progress = s.progress := rfl

@[simp] theorem commit_wrote_self : (s.commit w table').wrote w = true :=
  Function.update_self _ _ _

variable {s w progress reference holder table'}

theorem move_progress_of_ne {v : Worker} (h : v ≠ w) :
    (s.move w progress).progress v = s.progress v := Function.update_of_ne h _ _

theorem lock_locks_of_ne {other : SafeReference} (h : other ≠ reference) :
    (s.lock reference holder).locks other = s.locks other := Function.update_of_ne h _ _

theorem commit_wrote_of_ne {v : Worker} (h : v ≠ w) :
    (s.commit w table').wrote v = s.wrote v := Function.update_of_ne h _ _

end Fields

/-- A worker that runs no call receives one. -/
def start (s : System) (w : Worker) (call : Call) : System :=
  match s.progress w with
  | .idle | .done _ _ =>
    let s := { s with wrote := Function.update s.wrote w false }
    match call with
    | .create binding => s.move w (.inserting binding)
    | .recordDecision requestReference decision => s.move w (.locking requestReference decision)
  | _ => s

variable [ApprovalJson]

/-- The next statement of a worker. A worker that waits for a lock stays where it is. -/
def advance (s : System) (w : Worker) : System :=
  match s.progress w with
  | .idle | .done _ _ => s
  | .inserting binding =>
    match s.table.insert (newRow binding) with
    | .error e => s.move w (.done (.create binding) (.error e))
    | .ok none => s.move w (.reading binding)
    | .ok (some table) => (s.commit w table).move w (.reading binding)
  | .reading binding => s.move w (.done (.create binding) (createAnswer s.table binding))
  | .locking requestReference decision =>
    match s.table.byReference requestReference with
    | none =>
      s.move w (.done (.recordDecision requestReference decision)
        (.error (.request "approval request is unavailable")))
    | some row =>
      match s.locks requestReference with
      | some _ => s
      | none =>
        (s.lock requestReference (some w)).move w (afterLock requestReference decision row)
  | .updating requestReference decision decided =>
    s.move w (afterUpdate s.table requestReference decision decided)
  | .ending requestReference decision pending answer =>
    let released := (s.lock requestReference none).move w
      (.done (.recordDecision requestReference decision) answer)
    match pending with
    | none => released
    | some decisionData => released.commit w (s.table.decide requestReference decisionData)

omit [ApprovalJson] in
/-- The call of a worker is cancelled; its transaction is rolled back. -/
def cancel (s : System) (w : Worker) : System :=
  match s.progress w with
  | .idle | .done _ _ => s
  | .inserting binding | .reading binding =>
    s.move w (.done (.create binding) (.error .cancelled))
  | .locking requestReference decision =>
    s.move w (.done (.recordDecision requestReference decision) (.error .cancelled))
  | .updating requestReference decision _ | .ending requestReference decision _ _ =>
    (s.lock requestReference none).move w
      (.done (.recordDecision requestReference decision) (.error .cancelled))

def step (s : System) (w : Worker) : Event → System
  | .start call => s.start w call
  | .advance => s.advance w
  | .cancel => s.cancel w

/-- The system after an interleaving. -/
def run (s : System) (events : List (Worker × Event)) : System :=
  events.foldl (fun s event ↦ s.step event.1 event.2) s

end System

end Approvals

end ThrevoActions
