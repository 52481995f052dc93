import ThrevoActions.Json.Ascii
import ThrevoActions.Json.Fields
import ThrevoActions.Sha256
import ThrevoActions.Stripe.Host
import ThrevoActions.Transactions.Sessions

/-!
# The PostgreSQL ledger of Stripe intents

`PostgresStripeLedger` (`postgres.py`) with the table, the constraints and the trigger of
`001_host_ledger.sql`, statement by statement. `remember` and `load` own their transactions; the
methods that end in `_in` run in a transaction of their caller. Beside the intents stand the
resources of a host. The adapter of the exercise (`postgres_conformance.py`) reserves an intent only
while its resource has revision 0, and its ordinary writes to a resource share the advisory lock of
the ledger.

`hashtextextended`, the text of a `jsonb` value and the validation of JSON objects enter as the class
`LedgerHost`. Two resources may have the same hash.
-/

namespace ThrevoActions.Stripe

open Interleaving Interleaving.Program Transactions

/-! ## The tables -/

inductive StripeLedgerPhase
  | ready
  | reserved
  | closed
  deriving DecidableEq, Repr

inductive StripeCloseKind
  | noSubmission
  | outcome
  deriving DecidableEq, Repr

/-- The primary key of `intents`. -/
structure IntentKey where
  tenantReference : SafeReference
  actionGroup : StripeHostActionGroup
  effectReference : SafeReference
  deriving DecidableEq, Repr

/-- The other columns; a `jsonb` column holds the text of its value. -/
structure IntentRow where
  resourceReference : SafeReference
  requesterReference : SafeReference
  snapshotDigest : String
  snapshotData : Bytes
  phase : StripeLedgerPhase := .ready
  reservedAt : Option Timestamp := none
  closedAt : Option Timestamp := none
  closeKind : Option StripeCloseKind := none
  outcomeData : Option Bytes := none
  createdAt : Timestamp
  deriving DecidableEq

/-- A row of `intents`, or of the resources of the host. -/
inductive HostKey
  | intent (key : IntentKey)
  | resource (tenantReference resourceReference : SafeReference)
  deriving DecidableEq, Repr

/-- Of a resource, its revision. -/
@[reducible] def HostKey.Row : HostKey → Type
  | .intent _ => IntentRow
  | .resource _ _ => ℤ

/-- What PostgreSQL and pydantic compute. -/
class LedgerHost extends Json.PythonFloatText, ReferenceCharacters where
  /-- `hashtextextended(…, 0)`. -/
  hashtextextended : PyStr → ℤ
  /-- `convert_from(…, 'UTF8')::jsonb`, as the text of the value. -/
  jsonb : Bytes → Except Exn Bytes
  /-- `jsonb_typeof(…) = 'object'`. -/
  isObject : Bytes → Bool
  /-- `TypeAdapter(dict[str, JsonValue]).validate_json`. -/
  validateObject : Bytes → Option JsonObject

section Tables

variable [LedgerHost]

open LedgerHost

/-- The constraints of `intents`. A constraint that is null holds. -/
def checkIntent (row : IntentRow) : Bool :=
  row.snapshotDigest.length == 64 && isObject row.snapshotData &&
    row.outcomeData.all isObject &&
    (row.phase == .ready) == (row.reservedAt.isNone && row.closedAt.isNone) &&
    (row.phase == .reserved) == (row.reservedAt.isSome && row.closedAt.isNone) &&
    (row.phase == .closed) == row.closedAt.isSome &&
    (row.phase == .closed) == row.closeKind.isSome &&
    row.closeKind.all fun kind ↦ (kind == .outcome) == row.outcomeData.isSome

/-- The columns that the trigger protects. -/
def IntentRow.binding (row : IntentRow) : SafeReference × SafeReference × String × Bytes × Timestamp :=
  (row.resourceReference, row.requesterReference, row.snapshotDigest, row.snapshotData,
    row.createdAt)

/-- The transitions that the trigger allows. -/
def allowedTransition (old new : StripeLedgerPhase) : Bool :=
  match old, new with
  | .ready, .reserved | .ready, .closed | .reserved, .closed => true
  | _, _ => false

omit [LedgerHost] in
/-- The trigger `enforce_intent_update`. -/
def enforceIntentUpdate (old new : IntentRow) : Except Exn IntentRow :=
  if new.binding ≠ old.binding then .error (.host "CheckViolationError")
  else if old.phase = .closed ∧ new ≠ old then .error (.host "CheckViolationError")
  else if old.phase ≠ new.phase ∧ allowedTransition old.phase new.phase = false then
    .error (.host "CheckViolationError")
  else .ok new

def checkedIntent (row : IntentRow) : Except Exn IntentRow :=
  if checkIntent row then .ok row else .error (.host "CheckViolationError")

def hostGuard : (k : HostKey) → Option k.Row → k.Row → Except Exn k.Row
  | .intent _, none, row => checkedIntent row
  | .intent _, some old, row => enforceIntentUpdate old row >>= checkedIntent
  | .resource _ _, _, revision => .ok revision

def hostRules : Rules HostKey.Row Exn where
  guard := hostGuard
  inFailedTransaction := .host "InFailedSQLTransactionError"
  interrupted := .cancelled

end Tables

/-! ## What is read -/

structure StripeLedgerEntry where
  key : IntentKey
  resourceReference : SafeReference
  requesterReference : SafeReference
  snapshotDigest : String
  snapshotData : JsonObject
  phase : StripeLedgerPhase
  reservedAt : Option Timestamp
  closedAt : Option Timestamp
  closeKind : Option StripeCloseKind
  outcomeData : Option JsonObject

inductive StripeHostRememberStatus
  | created
  | matched
  | conflict
  | notExercised
  deriving DecidableEq, Repr

inductive StripeHostReserveStatus
  | acquired
  | alreadySubmitted
  | resourceBusy
  | unavailable
  | stale
  | acknowledgementLost
  | notExercised
  deriving DecidableEq, Repr

inductive StripeHostCloseStatus
  | recorded
  | matched
  | conflict
  | notExercised
  deriving DecidableEq, Repr

inductive StripeHostNormalWriteStatus
  | applied
  | refused
  | notExercised
  deriving DecidableEq, Repr

section Reading

variable [LedgerHost]

open LedgerHost

/-- `_json_bytes`. -/
def jsonBytes (value : JsonObject) : Except Exn Bytes := Json.asciiBytes (.dict value)

/-- `_snapshot_digest`. -/
def snapshotDigest (value : JsonObject) : Except Exn String := do
  return Sha256.hexdigest (← jsonBytes value)

/-- `stripe_resource_lock_reference`. -/
def stripeResourceLockReference (tenantReference resourceReference : SafeReference) : PyStr :=
  Json.asciiDumps (.list [jsonText tenantReference, jsonText resourceReference])

/-- The advisory lock of a resource. -/
def resourceLock (tenantReference resourceReference : SafeReference) : ℤ :=
  hashtextextended (stripeResourceLockReference tenantReference resourceReference)

/-- `_object`. -/
def objectOf (value : Bytes) : Except Exn JsonObject :=
  match validateObject value with
  | none => .error (.stripePostgresHost "stored Stripe host data is corrupt")
  | some object => .ok object

/-- `_optional_object`. -/
def optionalObject : Option Bytes → Except Exn (Option JsonObject)
  | none => .ok none
  | some value => do return some (← objectOf value)

/-- `^[a-f0-9]{64}$`. -/
def isDigest (text : String) : Bool :=
  text.length == 64 && text.toList.all fun c ↦ c.isDigit || ('a' ≤ c && c ≤ 'f')

/-- `_entry`. -/
def entryOf (key : IntentKey) (row : IntentRow) : Except Exn StripeLedgerEntry := do
  let snapshotData ← objectOf row.snapshotData
  let outcomeData ← optionalObject row.outcomeData
  if IsReference key.tenantReference ∧ IsReference key.effectReference ∧
      IsReference row.resourceReference ∧ IsReference row.requesterReference ∧
      isDigest row.snapshotDigest = true then
    .ok ⟨key, row.resourceReference, row.requesterReference, row.snapshotDigest, snapshotData,
      row.phase, row.reservedAt, row.closedAt, row.closeKind, outcomeData⟩
  else .error .validationError

/-- `==` of two optional objects. -/
def optionalEquals : Option JsonObject → Option JsonObject → Bool
  | none, none => true
  | some a, some b => Json.equals (.dict a) (.dict b)
  | _, _ => false

end Reading

/-! ## The ledger -/

abbrev HostProgram (α : Type) := Routine HostKey.Row ℤ Exn α

/-- A query on the tables of the host. -/
abbrev hostQuery (q : Query HostKey.Row ℤ Exn) : HostProgram q.Ans := query q

/-- Whether a row is an intent that holds the resource reserved. -/
def reservesResource (tenantReference resourceReference : SafeReference) :
    (k : HostKey) → k.Row → Bool
  | .intent key, row => key.tenantReference == tenantReference &&
    row.resourceReference == resourceReference && row.phase == .reserved
  | .resource _ _, _ => false

namespace PostgresStripeLedger

/-- `_load_row`. -/
def loadRow (key : IntentKey) (lock : Option LockMode) : HostProgram (Option IntentRow) :=
  hostQuery (.select (.intent key) lock)

/-- `_require_transaction`. -/
def requireTransaction : HostProgram Unit := do
  let inside ← statement .inTransaction
  raiseIf (inside = false)
    (.stripePostgresHost "Stripe ledger operation requires a caller-owned transaction")

variable [LedgerHost]

open LedgerHost

/-- The row that `remember` inserts. -/
def newIntent (resourceReference requesterReference : SafeReference) (digest : String)
    (encoded : Bytes) (now : Timestamp) : Except Exn IntentRow := do
  let snapshotData ← jsonb encoded
  return { resourceReference, requesterReference, snapshotDigest := digest, snapshotData,
           createdAt := now }

/-- How `remember` answers when the stored intent has been read. -/
def rememberStatus (resourceReference requesterReference : SafeReference)
    (snapshotData : JsonObject) (digest : String) (inserted : ℕ) (entry : StripeLedgerEntry) :
    StripeHostRememberStatus :=
  if entry.resourceReference ≠ resourceReference ∨
      entry.requesterReference ≠ requesterReference ∨ entry.snapshotDigest ≠ digest ∨
      Json.equals (.dict entry.snapshotData) (.dict snapshotData) = false then .conflict
  else if inserted = 1 then .created
  else .matched

/-- `remember`. -/
def remember (key : IntentKey) (resourceReference requesterReference : SafeReference)
    (snapshotData : JsonObject) : HostProgram StripeHostRememberStatus := do
  let digest ← orRaise (snapshotDigest snapshotData)
  inTransaction do
    let encoded ← orRaise (jsonBytes snapshotData)
    let inserted ← hostQuery (.insert (.intent key)
      (newIntent resourceReference requesterReference digest encoded))
    raiseIf (inserted ≠ 0 ∧ inserted ≠ 1)
      (.stripePostgresHost "Stripe intent persistence result is uncertain")
    match ← loadRow key (some .share) with
    | none => throw (.stripePostgresHost "Stripe intent could not be remembered")
    | some row => do
      let entry ← orRaise (entryOf key row)
      return rememberStatus resourceReference requesterReference snapshotData digest inserted entry

/-- `None if row is None else self._entry(row)`. -/
def entryOrNone (key : IntentKey) : Option IntentRow → Except Exn (Option StripeLedgerEntry)
  | none => .ok none
  | some row => do return some (← entryOf key row)

/-- `load`. -/
def load (key : IntentKey) : HostProgram (Option StripeLedgerEntry) := do
  let row ← inTransaction (loadRow key (some .share))
  orRaise (entryOrNone key row)

/-- `load_in`. -/
def loadIn (key : IntentKey) : HostProgram (Option StripeLedgerEntry) := do
  requireTransaction
  let row ← loadRow key none
  orRaise (entryOrNone key row)

omit [LedgerHost] in
/-- `SET phase = 'reserved', reserved_at = clock_timestamp() WHERE … AND phase = 'ready'`. -/
def reservation (now : Timestamp) (row : IntentRow) : Option (Except Exn IntentRow) :=
  if row.phase = .ready then some (.ok { row with phase := .reserved, reservedAt := some now })
  else none

omit [LedgerHost] in
/-- The end of `reserve_in`: the row is ready and has the snapshot. -/
def reserveReady (key : IntentKey) (resourceReference : SafeReference) (notAfter : Timestamp) :
    HostProgram StripeHostReserveStatus := do
  let now ← hostQuery .clock
  if ¬now < notAfter then return .stale
  else do
    let conflict ← hostQuery (.any fun k row ↦ k ≠ .intent key &&
      reservesResource key.tenantReference resourceReference k row)
    if conflict = true then return .unavailable
    else do
      let updated ← hostQuery (.update (.intent key) reservation)
      raiseIf (updated ≠ 1) (.stripePostgresHost "Stripe reservation result is uncertain")
      return .acquired

/-- `reserve_in`. -/
def reserveIn (key : IntentKey) (resourceReference : SafeReference) (snapshotData : JsonObject)
    (notAfter : Timestamp) : HostProgram StripeHostReserveStatus := do
  requireTransaction
  hostQuery (.takeLock (resourceLock key.tenantReference resourceReference))
  match ← loadRow key (some .update) with
  | none => return .stale
  | some row => do
    let entry ← orRaise (entryOf key row)
    if entry.resourceReference ≠ resourceReference then return .stale
    else do
      let digest ← orRaise (snapshotDigest snapshotData)
      if entry.snapshotDigest ≠ digest ∨
          Json.equals (.dict entry.snapshotData) (.dict snapshotData) = false then
        return .stale
      else if entry.phase ≠ .ready then return .alreadySubmitted
      else reserveReady key resourceReference notAfter

omit [LedgerHost] in
/-- The kind with which an intent is closed. -/
def closeKindOf (outcomeData : Option JsonObject) : StripeCloseKind :=
  if outcomeData.isSome then .outcome else .noSubmission

/-- `outcome_data = CASE WHEN $5::bytea IS NULL THEN NULL ELSE … END`. -/
def storedOutcome : Option Bytes → Except Exn (Option Bytes)
  | none => .ok none
  | some encoded => do return some (← jsonb encoded)

/-- `SET phase = 'closed', … WHERE … AND phase IN ('ready', 'reserved')`. -/
def closing (kind : StripeCloseKind) (encoded : Option Bytes) (now : Timestamp) (row : IntentRow) :
    Option (Except Exn IntentRow) :=
  if row.phase = .closed then none
  else some do
    let outcomeData ← storedOutcome encoded
    return { row with phase := .closed, closedAt := some now, closeKind := some kind, outcomeData }

/-- The bytes of the outcome, if there is one. -/
def encodedOutcome : Option JsonObject → Except Exn (Option Bytes)
  | none => .ok none
  | some outcomeData => do return some (← jsonBytes outcomeData)

/-- `_close_in`. -/
def closeIn (key : IntentKey) (outcomeData : Option JsonObject) :
    HostProgram StripeHostCloseStatus := do
  requireTransaction
  match ← loadRow key (some .update) with
  | none => throw (.stripePostgresHost "Stripe intent is unavailable")
  | some row => do
    let entry ← orRaise (entryOf key row)
    if entry.phase = .closed then
      if entry.closeKind = some (closeKindOf outcomeData) ∧
          optionalEquals entry.outcomeData outcomeData = true then
        return .matched
      else return .conflict
    else do
      raiseIf (entry.phase = .ready ∧ outcomeData.isSome = true)
        (.stripePostgresHost "Stripe outcome requires a prior reservation")
      let encoded ← orRaise (encodedOutcome outcomeData)
      let updated ← hostQuery (.update (.intent key) (closing (closeKindOf outcomeData) encoded))
      raiseIf (updated ≠ 1) (.stripePostgresHost "Stripe terminal record is uncertain")
      return .recorded

/-- `record_no_submission_in`. -/
def recordNoSubmissionIn (key : IntentKey) : HostProgram StripeHostCloseStatus := closeIn key none

/-- `record_outcome_in`. -/
def recordOutcomeIn (key : IntentKey) (outcomeData : JsonObject) :
    HostProgram StripeHostCloseStatus := closeIn key (some outcomeData)

end PostgresStripeLedger

/-! ## The adapter of the exercise -/

/-- An intent of the exercise; `snapshotMapping` is what `snapshot_mapping` returns. -/
structure StripeHostExerciseIntent where
  key : IntentKey
  resourceReference : SafeReference
  requesterReference : SafeReference
  snapshotMapping : JsonObject

structure StripeHostIntentObservation where
  key : IntentKey
  resourceReference : SafeReference
  requesterReference : SafeReference
  snapshotDigest : String
  phase : StripeLedgerPhase
  closeKind : Option StripeCloseKind
  outcomeDigest : Option String

namespace PostgresStripeHostExerciseAdapter

variable [LedgerHost]

/-- `remember`. The first statement creates the resource, with revision 0. -/
def remember (intent : StripeHostExerciseIntent) : HostProgram StripeHostRememberStatus := do
  let _ ← hostQuery (.insert (.resource intent.key.tenantReference intent.resourceReference)
    fun _ ↦ .ok (0 : ℤ))
  PostgresStripeLedger.remember intent.key intent.resourceReference intent.requesterReference
    intent.snapshotMapping

/-- The digest of an outcome, if there is one. -/
def outcomeDigest : Option JsonObject → Except Exn (Option String)
  | none => .ok none
  | some outcomeData => do return some (← snapshotDigest outcomeData)

/-- What `load` makes of an entry. -/
def observation : Option StripeLedgerEntry → Except Exn (Option StripeHostIntentObservation)
  | none => .ok none
  | some entry => do
    let digest ← outcomeDigest entry.outcomeData
    return some ⟨entry.key, entry.resourceReference, entry.requesterReference,
      entry.snapshotDigest, entry.phase, entry.closeKind, digest⟩

/-- `load`. -/
def load (key : IntentKey) : HostProgram (Option StripeHostIntentObservation) := do
  let entry ← PostgresStripeLedger.load key
  orRaise (observation entry)

/-- Whether the advisory lock of a resource could be taken; without `failIfResourceBusy` it is
waited for. -/
def lockResource (tenantReference resourceReference : SafeReference) (failIfResourceBusy : Bool) :
    HostProgram Bool :=
  if failIfResourceBusy then hostQuery (.tryLock (resourceLock tenantReference resourceReference))
  else do
    hostQuery (.takeLock (resourceLock tenantReference resourceReference))
    return true

/-- `reserve`. -/
def reserve (intent : StripeHostExerciseIntent) (notAfter : Timestamp)
    (simulateLostAcknowledgement failIfResourceBusy : Bool) :
    HostProgram StripeHostReserveStatus := do
  let result ← inTransaction do
    let acquired ← lockResource intent.key.tenantReference intent.resourceReference
      failIfResourceBusy
    if acquired = false then return .resourceBusy
    else do
      let revision ← hostQuery
        (.select (.resource intent.key.tenantReference intent.resourceReference) none)
      if revision ≠ some (0 : ℤ) then return .stale
      else
        PostgresStripeLedger.reserveIn intent.key intent.resourceReference intent.snapshotMapping
          notAfter
  return if simulateLostAcknowledgement = true ∧ result = .acquired then .acknowledgementLost
    else result

/-- `_close`. -/
def close (intent : StripeHostExerciseIntent) (outcomeData : Option JsonObject) :
    HostProgram StripeHostCloseStatus :=
  inTransaction (match outcomeData with
    | none => PostgresStripeLedger.recordNoSubmissionIn intent.key
    | some outcomeData => PostgresStripeLedger.recordOutcomeIn intent.key outcomeData)

/-- `record_no_submission`. -/
def recordNoSubmission (intent : StripeHostExerciseIntent) : HostProgram StripeHostCloseStatus :=
  close intent none

/-- `record_outcome`. -/
def recordOutcome (intent : StripeHostExerciseIntent) (outcomeData : JsonObject) :
    HostProgram StripeHostCloseStatus := close intent (some outcomeData)

/-- `normal_write`: an ordinary write to a resource, refused while an intent reserves it. -/
def normalWrite (tenantReference resourceReference : SafeReference) :
    HostProgram StripeHostNormalWriteStatus :=
  inTransaction do
    hostQuery (.takeLock (resourceLock tenantReference resourceReference))
    let reserved ← hostQuery (.any (reservesResource tenantReference resourceReference))
    if reserved = true then return .refused
    else do
      let _ ← hostQuery (.update (.resource tenantReference resourceReference)
        fun _ (revision : ℤ) ↦ some (.ok (revision + 1)))
      return .applied

end PostgresStripeHostExerciseAdapter

/-! ## Calls -/

inductive LedgerCall
  | remember (key : IntentKey) (resourceReference requesterReference : SafeReference)
      (snapshotData : JsonObject)
  | load (key : IntentKey)
  | loadIn (key : IntentKey)
  | reserveIn (key : IntentKey) (resourceReference : SafeReference) (snapshotData : JsonObject)
      (notAfter : Timestamp)
  | recordNoSubmissionIn (key : IntentKey)
  | recordOutcomeIn (key : IntentKey) (outcomeData : JsonObject)
  | exerciseRemember (intent : StripeHostExerciseIntent)
  | exerciseLoad (key : IntentKey)
  | exerciseReserve (intent : StripeHostExerciseIntent) (notAfter : Timestamp)
      (simulateLostAcknowledgement failIfResourceBusy : Bool)
  | exerciseRecordNoSubmission (intent : StripeHostExerciseIntent)
  | exerciseRecordOutcome (intent : StripeHostExerciseIntent) (outcomeData : JsonObject)
  | normalWrite (tenantReference resourceReference : SafeReference)

inductive LedgerAnswer
  | remembered (status : StripeHostRememberStatus)
  | loaded (entry : Option StripeLedgerEntry)
  | observed (observation : Option StripeHostIntentObservation)
  | reservation (status : StripeHostReserveStatus)
  | closed (status : StripeHostCloseStatus)
  | written (status : StripeHostNormalWriteStatus)

section Calls

variable [LedgerHost]

open PostgresStripeLedger in
/-- The calls of a host on its ledger. -/
def ledgerProgram : LedgerCall → HostProgram LedgerAnswer
  | .remember key resourceReference requesterReference snapshotData => do
    return .remembered (← remember key resourceReference requesterReference snapshotData)
  | .load key => do return .loaded (← load key)
  | .loadIn key => do return .loaded (← loadIn key)
  | .reserveIn key resourceReference snapshotData notAfter => do
    return .reservation (← reserveIn key resourceReference snapshotData notAfter)
  | .recordNoSubmissionIn key => do return .closed (← recordNoSubmissionIn key)
  | .recordOutcomeIn key outcomeData => do return .closed (← recordOutcomeIn key outcomeData)
  | .exerciseRemember intent => do
    return .remembered (← PostgresStripeHostExerciseAdapter.remember intent)
  | .exerciseLoad key => do return .observed (← PostgresStripeHostExerciseAdapter.load key)
  | .exerciseReserve intent notAfter simulateLostAcknowledgement failIfResourceBusy => do
    return .reservation (← PostgresStripeHostExerciseAdapter.reserve intent notAfter
      simulateLostAcknowledgement failIfResourceBusy)
  | .exerciseRecordNoSubmission intent => do
    return .closed (← PostgresStripeHostExerciseAdapter.recordNoSubmission intent)
  | .exerciseRecordOutcome intent outcomeData => do
    return .closed (← PostgresStripeHostExerciseAdapter.recordOutcome intent outcomeData)
  | .normalWrite tenantReference resourceReference => do
    return .written (← PostgresStripeHostExerciseAdapter.normalWrite tenantReference
      resourceReference)

def ledgerCalls : Calls HostKey.Row ℤ Exn LedgerCall LedgerAnswer where
  program := ledgerProgram
  ownsTransaction
    | .loadIn _ | .reserveIn _ _ _ _ | .recordNoSubmissionIn _ | .recordOutcomeIn _ _ => false
    | _ => true

abbrev LedgerSystem (W : Type) := System W HostKey.Row ℤ Exn LedgerCall LedgerAnswer

/-- The state of the ledger after an interleaving. -/
def runLedger {W : Type} [DecidableEq W] (events : List (W × Event LedgerCall)) :
    LedgerSystem W :=
  System.initial.run hostRules ledgerCalls events

end Calls

end ThrevoActions.Stripe
