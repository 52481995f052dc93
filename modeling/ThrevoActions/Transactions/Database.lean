import Mathlib.Data.List.AList
import Mathlib.Data.Int.Basic
import Mathlib.Logic.Function.Basic
import Mathlib.Logic.Relation
import ThrevoActions.Interleaving.Program

/-!
# A database with row locks and advisory locks

Sessions share tables of keyed rows at the isolation level `READ COMMITTED`. What a session writes
is seen by itself at once and by the others when it commits. A row is locked for writing, or for
sharing, until the transaction of the session ends, and so is an advisory lock. Every statement is
atomic; one that has to wait for a lock is not executed until the lock is free. A constraint or a
trigger of a table (`Rules.guard`) sees the old version of a row and the submitted one, and answers
with the version to be stored or with an error; an error aborts the transaction.

`Move` lists everything that a statement can do, and `exec_moves` is the only theorem that looks at
the statements one by one. What every move keeps, every statement keeps.
-/

namespace Transactions

inductive LockMode
  /-- `FOR SHARE`. -/
  | share
  /-- `FOR UPDATE`. -/
  | update
  deriving DecidableEq, Repr

inductive TransactionStatus
  | idle
  | active
  /-- A statement has failed; only a rollback is possible. -/
  | aborted
  deriving DecidableEq, Repr

variable {W K L ε : Type} {R : K → Type}

/-- The committed rows, what the open transactions have written, and who holds which lock. -/
structure Database (W : Type) {K : Type} (R : K → Type) (L : Type) where
  rows : AList R
  writes : W → AList R
  status : W → TransactionStatus
  writer : K → Option W
  readers : K → List W
  advisory : L → Option W
  now : ℤ

/-- The rules of the tables, and the errors that are not theirs. -/
structure Rules {K : Type} (R : K → Type) (ε : Type) where
  guard : (k : K) → Option (R k) → R k → Except ε (R k)
  /-- "current transaction is aborted". -/
  inFailedTransaction : ε
  /-- An operation was cancelled, or its answer lost. -/
  interrupted : ε

/-- The statements on rows and advisory locks. The values of an insertion and of an update may
depend on the time, and computing them may fail. -/
inductive Query (R : K → Type) (L ε : Type)
  /-- `SELECT pg_advisory_xact_lock(…)`. -/
  | takeLock (l : L)
  /-- `SELECT pg_try_advisory_xact_lock(…)`. -/
  | tryLock (l : L)
  /-- `SELECT … WHERE key = … [FOR SHARE | FOR UPDATE]`. -/
  | select (k : K) (mode : Option LockMode)
  /-- `INSERT … ON CONFLICT DO NOTHING`. -/
  | insert (k : K) (row : ℤ → Except ε (R k))
  /-- `UPDATE … SET … WHERE key = … AND …`; `none` is a row that the condition excludes. -/
  | update (k : K) (change : ℤ → R k → Option (Except ε (R k)))
  /-- `SELECT EXISTS (…)`. -/
  | any (p : (k : K) → R k → Bool)
  /-- `SELECT clock_timestamp()`. -/
  | clock

@[reducible] def Query.Ans : Query R L ε → Type
  | .takeLock _ => Unit
  | .tryLock _ => Bool
  | .select k _ => Option (R k)
  | .insert _ _ | .update _ _ => ℕ
  | .any _ => Bool
  | .clock => ℤ

/-- What a session can send. -/
inductive Statement (R : K → Type) (L ε : Type)
  | begin
  | commit
  | rollback
  | inTransaction
  | query (q : Query R L ε)

@[reducible] def Statement.Ans : Statement R L ε → Type
  | .begin | .commit | .rollback => Unit
  | .inTransaction => Bool
  | .query q => q.Ans

@[reducible] def statements (R : K → Type) (L ε : Type) : Interleaving.Signature :=
  ⟨Statement R L ε, Statement.Ans⟩

namespace Database

variable [DecidableEq W] [DecidableEq K] [DecidableEq L]

def empty : Database W R L :=
  ⟨∅, fun _ ↦ ∅, fun _ ↦ .idle, fun _ ↦ none, fun _ ↦ [], fun _ ↦ none, 0⟩

/-- The rows as a session sees them. -/
def view (db : Database W R L) (w : W) : AList R := db.writes w ∪ db.rows

def mayRead (db : Database W R L) (w : W) (k : K) : Bool :=
  decide (db.writer k = none ∨ db.writer k = some w)

def mayWrite (db : Database W R L) (w : W) (k : K) : Bool :=
  db.mayRead w k && (db.readers k).all (· = w)

def mayTake (db : Database W R L) (w : W) (l : L) : Bool :=
  decide (db.advisory l = none ∨ db.advisory l = some w)

def begin (db : Database W R L) (w : W) : Database W R L :=
  { db with status := Function.update db.status w .active }

def take (db : Database W R L) (w : W) (l : L) : Database W R L :=
  { db with advisory := Function.update db.advisory l (some w) }

def share (db : Database W R L) (w : W) (k : K) : Database W R L :=
  { db with readers := Function.update db.readers k (w :: db.readers k) }

def lock (db : Database W R L) (w : W) (k : K) : Database W R L :=
  { db with writer := Function.update db.writer k (some w) }

def write (db : Database W R L) (w : W) (k : K) (r : R k) : Database W R L :=
  { db.lock w k with writes := Function.update db.writes w ((db.writes w).insert k r) }

def abort (db : Database W R L) (w : W) : Database W R L :=
  { db with status := Function.update db.status w .aborted }

/-- The locks of the session are released and what it has written is dropped. -/
def rollback (db : Database W R L) (w : W) : Database W R L where
  rows := db.rows
  writes := Function.update db.writes w ∅
  status := Function.update db.status w .idle
  writer k := if db.writer k = some w then none else db.writer k
  readers k := (db.readers k).filter (· ≠ w)
  advisory l := if db.advisory l = some w then none else db.advisory l
  now := db.now

/-- What the session has written becomes visible. -/
def commit (db : Database W R L) (w : W) : Database W R L :=
  { db with rows := db.view w }.rollback w

def tick (db : Database W R L) (d : ℕ) : Database W R L := { db with now := db.now + d }

end Database

/-! ## Statements -/

namespace Rules

variable [DecidableEq W] [DecidableEq K] [DecidableEq L] (rules : Rules R ε)

/-- A statement inside of a transaction; `none` while it waits for a lock. -/
def run (db : Database W R L) (w : W) :
    (q : Query R L ε) → Option (Except ε q.Ans × Database W R L)
  | .takeLock l => if db.mayTake w l then some (.ok (), db.take w l) else none
  | .tryLock l =>
    if db.mayTake w l then some (.ok true, db.take w l) else some (.ok false, db)
  | .select k mode =>
    match (db.view w).lookup k with
    | none => some (.ok none, db)
    | some r =>
      match mode with
      | none => some (.ok (some r), db)
      | some .share => if db.mayRead w k then some (.ok (some r), db.share w k) else none
      | some .update => if db.mayWrite w k then some (.ok (some r), db.lock w k) else none
  | .insert k row =>
    match row db.now >>= rules.guard k none with
    | .error e => some (.error e, db)
    | .ok r =>
      match (db.view w).lookup k with
      | some _ => some (.ok 0, db)
      | none => if db.mayWrite w k then some (.ok 1, db.write w k r) else none
  | .update k change =>
    match (db.view w).lookup k with
    | none => some (.ok 0, db)
    | some old =>
      match change db.now old with
      | none => some (.ok 0, db)
      | some submitted =>
        if db.mayWrite w k then
          match submitted >>= rules.guard k (some old) with
          | .error e => some (.error e, db)
          | .ok r => some (.ok 1, db.write w k r)
        else none
  | .any p => some (.ok ((db.view w).entries.any fun entry ↦ p entry.1 entry.2), db)
  | .clock => some (.ok db.now, db)

/-- A statement of a session. Outside of a transaction it commits by itself. -/
def exec (db : Database W R L) (w : W) :
    (o : Statement R L ε) → Option (Except ε o.Ans × Database W R L)
  | .begin => some (.ok (), if db.status w = .idle then db.begin w else db)
  | .commit => some (.ok (), if db.status w = .active then db.commit w else db.rollback w)
  | .rollback => some (.ok (), db.rollback w)
  | .inTransaction => some (.ok (decide (db.status w ≠ .idle)), db)
  | .query q =>
    match db.status w with
    | .aborted => some (.error rules.inFailedTransaction, db)
    | .active =>
      (rules.run db w q).map fun result ↦
        match result.1 with
        | .ok _ => result
        | .error _ => (result.1, result.2.abort w)
    | .idle =>
      (rules.run (db.begin w) w q).map fun result ↦
        match result.1 with
        | .ok _ => (result.1, result.2.commit w)
        | .error _ => (result.1, result.2.rollback w)

/-- What a session can experience of a statement: its answer, or an interruption before or after
the statement took effect. -/
def Experiences (db : Database W R L) (w : W) (o : Statement R L ε) (r : Except ε o.Ans)
    (db' : Database W R L) : Prop :=
  rules.exec db w o = some (r, db') ∨
    r = .error rules.interrupted ∧ (db' = db ∨ ∃ r', rules.exec db w o = some (r', db'))

/-- The row that a statement writes, if it writes one. -/
def written (db : Database W R L) (w : W) : Query R L ε → Option (Sigma R)
  | .insert k row =>
    match row db.now >>= rules.guard k none, (db.view w).lookup k with
    | .ok r, none => some ⟨k, r⟩
    | _, _ => none
  | .update k change => do
    let old ← (db.view w).lookup k
    let submitted ← change db.now old
    match submitted >>= rules.guard k (some old) with
    | .ok r => return ⟨k, r⟩
    | .error _ => none
  | _ => none

/-! ## Moves -/

/-- What session `w` can do inside of a transaction, rows being written only if they are `good`. -/
inductive Work (w : W) (good : Database W R L → Sigma R → Prop) :
    Database W R L → Database W R L → Prop
  | take {db l} (hmay : db.mayTake w l = true) : Work w good db (db.take w l)
  | share {db k} : Work w good db (db.share w k)
  | lock {db k} (hmay : db.mayWrite w k = true) : Work w good db (db.lock w k)
  | write {db k r submitted} (hmay : db.mayWrite w k = true)
      (hguard : rules.guard k ((db.view w).lookup k) submitted = .ok r) (hgood : good db ⟨k, r⟩) :
      Work w good db (db.write w k r)

/-- What session `w` can do to the database. -/
inductive Move (w : W) (good : Database W R L → Sigma R → Prop) :
    Database W R L → Database W R L → Prop
  | begin {db} (h : db.status w = .idle) : Move w good db (db.begin w)
  | work {db db' : Database W R L} (hopen : db.status w ≠ .idle) (hwork : rules.Work w good db db') :
      Move w good db db'
  | abort {db} (hopen : db.status w ≠ .idle) : Move w good db (db.abort w)
  | commit {db} (hactive : db.status w = .active) : Move w good db (db.commit w)
  | rollback {db} : Move w good db (db.rollback w)

/-- Any number of moves of one session. -/
abbrev Moves (w : W) (good : Database W R L → Sigma R → Prop) :
    Database W R L → Database W R L → Prop := Relation.ReflTransGen (rules.Move w good)

variable {rules} {db db' : Database W R L} {w : W}

theorem exists_eq_ok_of_bind {α β : Type} {x : Except ε α} {f : α → Except ε β} {b : β}
    (h : x >>= f = .ok b) : ∃ a, f a = .ok b := by
  cases x with
  | error e => cases h
  | ok a => exact ⟨a, h⟩

/-- A query in a transaction does at most one thing. -/
theorem run_work {q : Query R L ε} {r : Except ε q.Ans} (h : rules.run db w q = some (r, db')) :
    db' = db ∨ rules.Work w (fun db'' row ↦ db'' = db ∧ rules.written db w q = some row) db db' := by
  cases q with
  | takeLock l =>
    rw [run] at h
    split_ifs at h with hmay
    cases h
    exact Or.inr (.take hmay)
  | tryLock l =>
    rw [run] at h
    split_ifs at h with hmay
    · cases h
      exact Or.inr (.take hmay)
    · cases h
      exact Or.inl rfl
  | select k mode =>
    rw [run] at h
    cases hrow : (db.view w).lookup k with
    | none =>
      rw [hrow] at h
      cases h
      exact Or.inl rfl
    | some old =>
      rw [hrow] at h
      rcases mode with _ | _ | _
      · cases h
        exact Or.inl rfl
      · dsimp only at h
        split_ifs at h with hmay
        cases h
        exact Or.inr .share
      · dsimp only at h
        split_ifs at h with hmay
        cases h
        exact Or.inr (.lock hmay)
  | insert k row =>
    rw [run] at h
    cases hr : row db.now >>= rules.guard k none with
    | error e =>
      rw [hr] at h
      cases h
      exact Or.inl rfl
    | ok new =>
      rw [hr] at h
      cases hrow : (db.view w).lookup k with
      | some old =>
        rw [hrow] at h
        cases h
        exact Or.inl rfl
      | none =>
        rw [hrow] at h
        dsimp only at h
        split_ifs at h with hmay
        cases h
        obtain ⟨submitted, hguard⟩ := exists_eq_ok_of_bind hr
        have hview : rules.guard k ((db.view w).lookup k) submitted = .ok new := by
          rwa [hrow]
        refine Or.inr (.write hmay hview ⟨rfl, ?_⟩)
        rw [written, hr, hrow]
  | update k change =>
    rw [run] at h
    cases hrow : (db.view w).lookup k with
    | none =>
      rw [hrow] at h
      cases h
      exact Or.inl rfl
    | some old =>
      rw [hrow] at h
      dsimp only at h
      cases hchange : change db.now old with
      | none =>
        rw [hchange] at h
        cases h
        exact Or.inl rfl
      | some value =>
        rw [hchange] at h
        dsimp only at h
        split_ifs at h with hmay
        cases hr : value >>= rules.guard k (some old) with
        | error e =>
          rw [hr] at h
          cases h
          exact Or.inl rfl
        | ok new =>
          rw [hr] at h
          cases h
          obtain ⟨submitted, hguard⟩ := exists_eq_ok_of_bind hr
          have hview : rules.guard k ((db.view w).lookup k) submitted = .ok new := by
            rwa [hrow]
          refine Or.inr (.write hmay hview ⟨rfl, ?_⟩)
          simp only [written, hrow, Option.bind_eq_bind, Option.bind_some, hchange, hr]
          rfl
  | any p =>
    cases h
    exact Or.inl rfl
  | clock =>
    cases h
    exact Or.inl rfl

theorem Work.status {good : Database W R L → Sigma R → Prop} (h : rules.Work w good db db') :
    db'.status = db.status := by
  cases h <;> rfl

theorem Work.imp {good good' : Database W R L → Sigma R → Prop}
    (hgood : ∀ row, good db row → good' db row) (h : rules.Work w good db db') :
    rules.Work w good' db db' := by
  cases h with
  | take hmay => exact .take hmay
  | share => exact .share
  | lock hmay => exact .lock hmay
  | write hmay hguard hrow => exact .write hmay hguard (hgood _ hrow)

theorem run_moves {q : Query R L ε} {r : Except ε q.Ans} {good : Database W R L → Sigma R → Prop}
    (hactive : db.status w = .active) (h : rules.run db w q = some (r, db'))
    (hgood : ∀ row, rules.written db w q = some row → good db row) :
    rules.Moves w good db db' ∧ db'.status w = .active := by
  rcases run_work h with rfl | hwork
  · exact ⟨.refl, hactive⟩
  · have hopen : db.status w ≠ .idle := by
      rw [hactive]
      decide
    refine ⟨.single (.work hopen (hwork.imp fun row hrow ↦ hgood row hrow.2)), ?_⟩
    rw [hwork.status]
    exact hactive

/-- A statement that is answered leaves its transaction open. -/
theorem run_status {q : Query R L ε} {r : Except ε q.Ans} (hactive : db.status w = .active)
    (h : rules.run db w q = some (r, db')) : db'.status w = .active := by
  have hmoves : rules.Moves w (fun _ _ ↦ True) db db' ∧ db'.status w = .active :=
    run_moves hactive h fun _ _ ↦ trivial
  exact hmoves.2

/-- Where the query of a statement is run: in the transaction at hand, or in one of its own. -/
def RunsIn (db : Database W R L) (w : W) (db'' : Database W R L) : Prop :=
  db.status w = .active ∧ db'' = db ∨ db.status w = .idle ∧ db'' = db.begin w

/-- A statement does nothing but moves, and writes nothing but its row. -/
theorem exec_moves {o : Statement R L ε} {r : Except ε o.Ans}
    {good : Database W R L → Sigma R → Prop} (h : rules.exec db w o = some (r, db'))
    (hgood : ∀ q db'' row, o = .query q → RunsIn db w db'' →
      rules.written db'' w q = some row → good db'' row) : rules.Moves w good db db' := by
  cases o with
  | begin =>
    cases h
    split_ifs with hidle
    · exact .single (.begin hidle)
    · exact .refl
  | commit =>
    cases h
    split_ifs with hactive
    · exact .single (.commit hactive)
    · exact .single .rollback
  | rollback =>
    cases h
    exact .single .rollback
  | inTransaction =>
    cases h
    exact .refl
  | query q =>
    rw [exec] at h
    cases hstatus : db.status w with
    | aborted =>
      rw [hstatus] at h
      cases h
      exact .refl
    | active =>
      rw [hstatus] at h
      obtain ⟨⟨r', db''⟩, hrun, hresult⟩ := Option.map_eq_some_iff.mp h
      obtain ⟨hmoves, hactive⟩ := run_moves hstatus hrun fun row ↦
        hgood q db row rfl (.inl ⟨hstatus, rfl⟩)
      cases r' with
      | ok a =>
        cases hresult
        exact hmoves
      | error e =>
        cases hresult
        refine hmoves.tail (.abort ?_)
        rw [hactive]
        decide
    | idle =>
      rw [hstatus] at h
      obtain ⟨⟨r', db''⟩, hrun, hresult⟩ := Option.map_eq_some_iff.mp h
      obtain ⟨hmoves, hactive⟩ := run_moves (Function.update_self _ _ _) hrun
        fun row ↦ hgood q (db.begin w) row rfl (.inr ⟨hstatus, rfl⟩)
      have hmoves := Relation.ReflTransGen.head (.begin hstatus) hmoves
      cases r' with
      | ok a =>
        cases hresult
        exact hmoves.tail (.commit hactive)
      | error e =>
        cases hresult
        exact hmoves.tail .rollback

/-- A statement that was interrupted either took effect or did not. -/
theorem Experiences.moves {o : Statement R L ε} {r : Except ε o.Ans}
    {good : Database W R L → Sigma R → Prop} (h : rules.Experiences db w o r db')
    (hgood : ∀ q db'' row, o = .query q → RunsIn db w db'' →
      rules.written db'' w q = some row → good db'' row) : rules.Moves w good db db' := by
  rcases h with h | ⟨-, rfl | ⟨r', h⟩⟩
  · exact exec_moves h hgood
  · exact .refl
  · exact exec_moves h hgood

end Rules

end Transactions
