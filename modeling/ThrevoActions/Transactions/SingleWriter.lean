import Mathlib.Data.Int.Notation
import Mathlib.Logic.Function.Basic
import ThrevoActions.Interleaving.Program

/-!
# Transactions of a single writer

Connections share the contents of a file. A transaction that writes takes the lock of the file when
it begins, and waits while another connection has it. It works on its own version of the contents,
which become the contents of the file when it commits. Outside of a transaction, a statement reads
what is committed.

A call opens a connection, runs one transaction or one statement that reads, and closes the
connection. Statements of different calls interleave in any order. The host may raise in place of
any statement, which may also end the transaction, and any connection may be lost.

The calls that ended did so one after the other (`serial_run`): in the order in which they ended,
each of them took the contents of the file from what the calls before it had left to what it makes
of them alone.
-/

namespace SingleWriter

open Interleaving

variable {D ε α β A C W : Type}

/-- The statements of a database: what each of them does to the contents at a time, and what the
host may raise in place of one. A statement that raises changes nothing. -/
structure Dialect (D ε : Type) where
  Query : Type
  Ans : Query → Type
  perform : (q : Query) → ℤ → D → Except ε (Ans q × D)
  failure : ε → Bool

/-! ## Bodies of transactions -/

/-- The statements of a transaction between its beginning and its end. An error is not handled
before the end of the transaction. -/
inductive Body (X : Dialect D ε) (α : Type) where
  | ret (a : α)
  | raise (e : ε)
  | query (q : X.Query) (next : X.Ans q → Body X α)

namespace Body

variable {X : Dialect D ε}

def bind : Body X α → (α → Body X β) → Body X β
  | .ret a, f => f a
  | .raise e, _ => .raise e
  | .query q next, f => .query q fun a ↦ (next a).bind f

instance : Monad (Body X) where
  pure := .ret
  bind := bind

def perform (q : X.Query) : Body X (X.Ans q) := .query q .ret

def orRaise : Except ε α → Body X α
  | .ok a => .ret a
  | .error e => .raise e

/-- Raise `e` if the condition holds, and go on otherwise. -/
def raiseIf (condition : Prop) [Decidable condition] (e : ε) : Body X Unit :=
  if condition then .raise e else .ret ()

/-- Alone on the contents `d`, the body can end as `r` with `d'`. -/
def Runs : Body X α → D → Except ε α → D → Prop
  | .ret a, d, r, d' => r = .ok a ∧ d' = d
  | .raise e, d, r, d' => r = .error e ∧ d' = d
  | .query q next, d, r, d' =>
    (∃ now a d₁, X.perform q now d = .ok (a, d₁) ∧ (next a).Runs d₁ r d') ∨
      ∃ e, (X.failure e = true ∨ ∃ now, X.perform q now d = .error e) ∧ r = .error e ∧ d' = d

/-- However the body ends alone on the contents, it ends as `Q` says. -/
def Ensures : Body X α → (Except ε α → D → Prop) → D → Prop
  | .ret a, Q, d => Q (.ok a) d
  | .raise e, Q, d => Q (.error e) d
  | .query q next, Q, d =>
    (∀ now a d', X.perform q now d = .ok (a, d') → (next a).Ensures Q d') ∧
      ∀ e, (X.failure e = true ∨ ∃ now, X.perform q now d = .error e) → Q (.error e) d

theorem Ensures.of_runs {body : Body X α} {Q : Except ε α → D → Prop} {d d' : D} {r : Except ε α}
    (h : body.Ensures Q d) (hruns : body.Runs d r d') : Q r d' := by
  induction body generalizing d with
  | ret a =>
    obtain ⟨rfl, rfl⟩ := hruns
    exact h
  | raise e =>
    obtain ⟨rfl, rfl⟩ := hruns
    exact h
  | query q next ih =>
    rcases hruns with ⟨now, a, d₁, hperform, hnext⟩ | ⟨e, he, rfl, rfl⟩
    · exact ih a (h.1 now a d₁ hperform) hnext
    · exact h.2 e he

theorem ensures_bind {body : Body X α} {f : α → Body X β} {Q : Except ε β → D → Prop} {d : D} :
    (body >>= f).Ensures Q d ↔ body.Ensures (fun r d' ↦
      match r with
      | .ok a => (f a).Ensures Q d'
      | .error e => Q (.error e) d') d := by
  show (body.bind f).Ensures Q d ↔ _
  induction body generalizing d with
  | ret a => exact Iff.rfl
  | raise e => exact Iff.rfl
  | query q next ih =>
    refine and_congr (forall_congr' fun now ↦ forall_congr' fun a ↦ forall_congr' fun d' ↦
      imp_congr_right fun _ ↦ ih a) Iff.rfl

theorem Ensures.imp {body : Body X α} {Q Q' : Except ε α → D → Prop} {d : D}
    (h : body.Ensures Q d) (himp : ∀ r d', Q r d' → Q' r d') : body.Ensures Q' d := by
  induction body generalizing d with
  | ret a => exact himp _ _ h
  | raise e => exact himp _ _ h
  | query q next ih =>
    exact ⟨fun now a d' hperform ↦ ih a (h.1 now a d' hperform), fun e he ↦ himp _ _ (h.2 e he)⟩

/-- The rule of a statement. -/
theorem ensures_perform_bind {q : X.Query} {f : X.Ans q → Body X β} {Q : Except ε β → D → Prop}
    {d : D} (hok : ∀ now a d', X.perform q now d = .ok (a, d') → (f a).Ensures Q d')
    (herror : ∀ e, X.failure e = true ∨ (∃ now, X.perform q now d = .error e) → Q (.error e) d) :
    (perform q >>= f).Ensures Q d :=
  ⟨hok, herror⟩

theorem ensures_orRaise {r : Except ε α} {Q : Except ε α → D → Prop} {d : D} (h : Q r d) :
    (orRaise r : Body X α).Ensures Q d := by
  cases r <;> exact h

theorem ensures_orRaise_bind {r : Except ε α} {f : α → Body X β} {Q : Except ε β → D → Prop}
    {d : D} (hok : ∀ a, r = .ok a → (f a).Ensures Q d) (herror : ∀ e, r = .error e → Q (.error e) d) :
    (orRaise r >>= f).Ensures Q d := by
  cases r with
  | ok a => exact hok a rfl
  | error e => exact herror e rfl

theorem ensures_raiseIf_bind {condition : Prop} [Decidable condition] {e : ε} {f : Unit → Body X β}
    {Q : Except ε β → D → Prop} {d : D} (hraise : condition → Q (.error e) d)
    (hgo : ¬condition → (f ()).Ensures Q d) : (raiseIf condition e >>= f).Ensures Q d := by
  rw [raiseIf]
  by_cases h : condition
  · rw [if_pos h]
    exact hraise h
  · rw [if_neg h]
    exact hgo h

end Body

/-! ## Calls -/

inductive Dialect.Statement (X : Dialect D ε) where
  | begin
  | query (q : X.Query)
  | commit
  | rollback

namespace Dialect

variable (X : Dialect D ε)

def StatementAns : X.Statement → Type
  | .query q => X.Ans q
  | .begin | .commit | .rollback => Unit

abbrev statements : Signature := ⟨X.Statement, X.StatementAns⟩

end Dialect

/-- How the body of a transaction leaves it. -/
inductive Exit (α : Type) where
  | commit (a : α)
  | rollback (a : α)

/-- A transaction that takes the lock, one statement that reads and what is made of its answer, or
an end without any statement. -/
inductive Call (X : Dialect D ε) (A : Type) where
  | immediate (body : Body X (Exit A))
  | select (q : X.Query) (answer : X.Ans q → Except ε A)
  | done (r : Except ε A)

section Programs

variable {X : Dialect D ε}

abbrev Connected (X : Dialect D ε) (α : Type) := Program X.statements ε α

def statement (o : X.Statement) : Connected X (X.StatementAns o) :=
  Program.perform (S := X.statements) o

def Body.program : Body X α → Connected X α
  | .ret a => .ret a
  | .raise e => .raise e
  | .query q next => .call (.query q) fun
    | .ok a => (next a).program
    | .error e => .raise e

def leave : Exit α → Connected X α
  | .commit a => do
    let _ ← statement .commit
    return a
  | .rollback a => do
    let _ ← statement .rollback
    return a

/-- A block whose errors roll the transaction back before they are raised again. -/
def orRollback (p : Connected X α) : Connected X α :=
  p.attempt.bind fun
    | .ok a => .ret a
    | .error e => do
      let _ ← statement .rollback
      throw e

def Call.program : Call X A → Connected X A
  | .immediate body => orRollback do
    let _ ← statement .begin
    leave (← body.program)
  | .select q answer => do
    Program.orRaise (answer (← statement (.query q)))
  | .done r => Program.orRaise r

end Programs

/-! ## The system -/

structure System (X : Dialect D ε) (W C A : Type) where
  contents : D
  /-- The connection that has the lock, and its version of the contents. -/
  writer : Option (W × D)
  now : ℤ
  running : W → Option (C × Connected X A)
  /-- The calls that ended, newest first. -/
  ended : List (C × Except ε A)

inductive Event (ε C : Type) where
  | start (c : C)
  | advance
  /-- The host raises in place of the next statement, and may have ended the transaction. -/
  | fail (e : ε) (endsTransaction : Bool)
  | disconnect
  | tick (d : ℕ)

namespace System

variable {X : Dialect D ε} [DecidableEq W]

/-- Nobody is connected. -/
def initial (d : D) : System X W C A := ⟨d, none, 0, fun _ ↦ none, []⟩

variable (s : System X W C A) (w : W)

/-- The version of the contents that a connection works on. -/
def working : Option D :=
  match s.writer with
  | some (v, d) => if v = w then some d else none
  | none => none

/-- A connection has no transaction any more. -/
def release : System X W C A :=
  if (s.working w).isSome then { s with writer := none } else s

/-- A statement is answered, or waits for the lock. -/
def exec : (o : X.Statement) → Option (Except ε (X.StatementAns o) × System X W C A)
  | .begin =>
    if s.writer.isNone then some (.ok (), { s with writer := some (w, s.contents) }) else none
  | .query q =>
    match s.working w with
    | some d =>
      match X.perform q s.now d with
      | .ok (a, d') => some (.ok a, { s with writer := some (w, d') })
      | .error e => some (.error e, s)
    | none => some ((X.perform q s.now s.contents).map Prod.fst, s)
  | .commit =>
    match s.working w with
    | some d => some (.ok (), { s with contents := d, writer := none })
    | none => some (.ok (), s)
  | .rollback => some (.ok (), s.release w)

/-- A call goes on with `p`. When it has ended, its connection is closed. -/
def goOn (c : C) (p : Connected X A) : System X W C A :=
  match p.ending with
  | some r =>
    { s.release w with
      running := Function.update s.running w none
      ended := (c, r) :: s.ended }
  | none => { s with running := Function.update s.running w (some (c, p)) }

/-- The next statement of a call, unless it has to wait. -/
def advance (c : C) : Connected X A → System X W C A
  | .call o next =>
    match s.exec w o with
    | some (r, s') => s'.goOn w c (next r)
    | none => s
  | .ret _ | .raise _ => s

/-- The next statement of a call fails. -/
def fail (c : C) (e : ε) (endsTransaction : Bool) : Connected X A → System X W C A
  | .call _ next => (if endsTransaction then s.release w else s).goOn w c (next (.error e))
  | .ret _ | .raise _ => s

def step (calls : C → Call X A) : Event ε C → System X W C A
  | .start c =>
    if (s.running w).isNone then s.goOn w c (calls c).program else s
  | .advance =>
    match s.running w with
    | some (c, p) => s.advance w c p
    | none => s
  | .fail e endsTransaction =>
    match s.running w with
    | some (c, p) => if X.failure e = true then s.fail w c e endsTransaction p else s
    | none => s
  | .disconnect => { s.release w with running := Function.update s.running w none }
  | .tick d => { s with now := s.now + d }

/-- The system after an interleaving. -/
def run (calls : C → Call X A) (events : List (W × Event ε C)) : System X W C A :=
  events.foldl (fun s event ↦ s.step event.1 calls event.2) s

section Lemmas

variable {s} {w} {v : W} {d : D}

theorem working_eq_some : s.working w = some d ↔ s.writer = some (w, d) := by
  rw [working]
  cases hwriter : s.writer with
  | none => simp
  | some writer =>
    obtain ⟨u, d'⟩ := writer
    by_cases hu : u = w
    · subst hu
      simp
    · simp [hu]

/-- One connection has the lock at most. -/
theorem working_of_ne (hw : s.working w = some d) (hvw : v ≠ w) : s.working v = none := by
  rw [working, working_eq_some.mp hw]
  exact if_neg (Ne.symm hvw)

@[simp] theorem release_contents : (s.release w).contents = s.contents := by
  rw [release]
  split_ifs <;> rfl

@[simp] theorem release_running : (s.release w).running = s.running := by
  rw [release]
  split_ifs <;> rfl

@[simp] theorem release_ended : (s.release w).ended = s.ended := by
  rw [release]
  split_ifs <;> rfl

@[simp] theorem working_release_self : (s.release w).working w = none := by
  rw [release]
  split_ifs with h
  · rfl
  · exact Option.not_isSome_iff_eq_none.mp h

theorem working_release_of_ne (hvw : v ≠ w) : (s.release w).working v = s.working v := by
  rw [release]
  split_ifs with h
  · obtain ⟨d, hd⟩ := Option.isSome_iff_exists.mp h
    exact (working_of_ne hd hvw).symm
  · rfl

end Lemmas

end System

/-! ## Serial executions -/

section Serial

variable {X : Dialect D ε}

/-- Alone on the contents `d`, a call can end as `r` and leave `d'`. -/
inductive Serves : Call X A → D → Except ε A → D → Prop
  | committed {body : Body X (Exit A)} {d d' : D} {a : A} (h : body.Runs d (.ok (.commit a)) d') :
    Serves (.immediate body) d (.ok a) d'
  | rolledBack {body : Body X (Exit A)} {d d' : D} {a : A}
    (h : body.Runs d (.ok (.rollback a)) d') : Serves (.immediate body) d (.ok a) d
  | raised {body : Body X (Exit A)} {d d' : D} {e : ε} (h : body.Runs d (.error e) d') :
    Serves (.immediate body) d (.error e) d
  | done {r : Except ε A} {d : D} : Serves (.done r) d r d
  | failed {call : Call X A} {d : D} {e : ε} (h : X.failure e = true) : Serves call d (.error e) d
  | selected {q : X.Query} {answer : X.Ans q → Except ε A} {d d' : D} {now : ℤ} {a : X.Ans q}
    (h : X.perform q now d = .ok (a, d')) : Serves (.select q answer) d (answer a) d
  | refused {q : X.Query} {answer : X.Ans q → Except ε A} {d : D} {now : ℤ} {e : ε}
    (h : X.perform q now d = .error e) : Serves (.select q answer) d (.error e) d

/-- One after the other, the calls take `s₀` to `s`. The newest call is the first of the list. -/
inductive Serial {S : Type} (serves : S → C → Except ε A → S → Prop) (s₀ : S) :
    List (C × Except ε A) → S → Prop
  | nil : Serial serves s₀ [] s₀
  | cons {ended : List (C × Except ε A)} {s s' : S} {c : C} {r : Except ε A}
    (h : Serial serves s₀ ended s) (hserves : serves s c r s') :
    Serial serves s₀ ((c, r) :: ended) s'

/-- What the calls do to the contents, each of them alone. -/
abbrev Alone (calls : C → Call X A) (d : D) (c : C) (r : Except ε A) (d' : D) : Prop :=
  Serves (calls c) d r d'

/-- **Simulation.** If each call does to `t` what it does to `s`, so do the calls of a serial
execution. -/
theorem Serial.simulate {S T : Type} {serves : S → C → Except ε A → S → Prop}
    {answers : T → C → Except ε A → T → Prop} {simulates : S → T → Prop} {s₀ s : S} {t₀ : T}
    {ended : List (C × Except ε A)} (h : Serial serves s₀ ended s) (h₀ : simulates s₀ t₀)
    (hstep : ∀ {s s' t c r}, simulates s t → serves s c r s' →
      ∃ t', answers t c r t' ∧ simulates s' t') :
    ∃ t, Serial answers t₀ ended t ∧ simulates s t := by
  induction h with
  | nil => exact ⟨t₀, .nil, h₀⟩
  | cons _ hserves ih =>
    obtain ⟨t, hserial, hsimulates⟩ := ih
    obtain ⟨t', hanswers, hsimulates'⟩ := hstep hsimulates hserves
    exact ⟨t', hserial.cons hanswers, hsimulates'⟩

theorem orRollback_query (q : X.Query) (next : X.Ans q → Body X (Exit A)) :
    orRollback ((Body.query q next).program >>= leave) = .call (.query q) fun r ↦
      orRollback ((match r with
        | .ok a => (next a).program
        | .error e => .raise e) >>= leave) := by
  rw [Body.program]
  rfl

/-- What a call still has to do, and what it has done to its version of the contents. -/
inductive Position (contents : D) (working : Option D) : Call X A → Connected X A → Prop
  | opening {body : Body X (Exit A)} (hworking : working = none) :
    Position contents working (.immediate body) (Call.immediate body).program
  | within {body rest : Body X (Exit A)} {d : D} (hworking : working = some d)
    (hruns : ∀ r d', rest.Runs d r d' → body.Runs contents r d') :
    Position contents working (.immediate body) (orRollback (rest.program >>= leave))
  | failing {body : Body X (Exit A)} {e : ε} (h : X.failure e = true) :
    Position contents working (.immediate body) (orRollback (throw e))
  | reading {q : X.Query} {answer : X.Ans q → Except ε A} (hworking : working = none) :
    Position contents working (.select q answer) (Call.select q answer).program

/-- A call at a position has not ended. -/
theorem Position.ending {contents : D} {working : Option D} {call : Call X A} {p : Connected X A}
    (h : Position contents working call p) : p.ending = none := by
  cases h with
  | opening | failing | reading => rfl
  | within hworking hruns =>
    rename_i rest d
    cases rest with
    | ret exit => cases exit <;> rfl
    | raise e => rfl
    | query q next =>
      rw [orRollback_query]
      rfl

/-- A connection without a transaction does not depend on the contents. -/
theorem Position.of_contents {contents contents' : D} {call : Call X A} {p : Connected X A}
    (h : Position contents none call p) : Position contents' none call p := by
  cases h with
  | opening h => exact .opening rfl
  | within h hruns => cases h
  | failing h => exact .failing h
  | reading h => exact .reading rfl

variable [DecidableEq W] {calls : C → Call X A} {d₀ : D} {s : System X W C A} {w : W}

/-- What holds of the other connections, whatever connection `w` is about to do. -/
structure OthersSound (calls : C → Call X A) (w : W) (s : System X W C A) : Prop where
  running : ∀ v c p, v ≠ w → s.running v = some (c, p) →
    Position s.contents (s.working v) (calls c) p
  idle : ∀ v, v ≠ w → s.running v = none → s.working v = none

/-- What holds after every run. -/
structure Sound (calls : C → Call X A) (d₀ : D) (s : System X W C A) : Prop where
  serial : Serial (Alone calls) d₀ s.ended s.contents
  running : ∀ v c p, s.running v = some (c, p) → Position s.contents (s.working v) (calls c) p
  idle : ∀ v, s.running v = none → s.working v = none

theorem sound_initial : Sound calls d₀ (System.initial d₀ : System X W C A) where
  serial := .nil
  running v c p h := by cases h
  idle v _ := rfl

theorem Sound.others (h : Sound calls d₀ s) (w : W) : OthersSound calls w s :=
  ⟨fun v c p _ hp ↦ h.running v c p hp, fun v _ hv ↦ h.idle v hv⟩

namespace OthersSound

variable {c : C} {p : Connected X A} {r : Except ε A}

/-- The other connections are as they were if their versions and the contents are. -/
theorem of_eq {s' : System X W C A} (h : OthersSound calls w s)
    (hrunning : s'.running = s.running) (hworking : ∀ v, v ≠ w → s'.working v = s.working v)
    (hcontents : s'.contents = s.contents) : OthersSound calls w s' := by
  constructor
  · intro v c p hv hp
    rw [hcontents, hworking v hv]
    exact h.running v c p hv (hrunning ▸ hp)
  · intro v hv hnone
    rw [hworking v hv]
    exact h.idle v hv (hrunning ▸ hnone)

theorem release (h : OthersSound calls w s) : OthersSound calls w (s.release w) :=
  h.of_eq System.release_running (fun _ hv ↦ System.working_release_of_ne hv)
    System.release_contents

/-- Connection `w` has the lock, and its version changes. -/
theorem write (h : OthersSound calls w s) (hworking : ∀ v, v ≠ w → s.working v = none) (d : D) :
    OthersSound calls w { s with writer := some (w, d) } := by
  apply h.of_eq
  · rfl
  · intro v hv
    rw [hworking v hv]
    exact if_neg hv.symm
  · rfl

/-- A commit does not concern the other connections: they have no transaction. -/
theorem commit (h : OthersSound calls w s) {d : D} (hworking : s.working w = some d) :
    OthersSound calls w { s with contents := d, writer := none } := by
  constructor
  · intro v c p hv hp
    have hposition := h.running v c p hv hp
    rw [System.working_of_ne hworking hv] at hposition
    exact hposition.of_contents
  · intro v _ _
    rfl

/-- The call of connection `w` goes on. -/
theorem goOn (h : OthersSound calls w s) (hserial : Serial (Alone calls) d₀ s.ended s.contents)
    (hposition : Position s.contents (s.working w) (calls c) p) :
    Sound calls d₀ (s.goOn w c p) := by
  rw [System.goOn, hposition.ending]
  refine ⟨hserial, fun v c' p' hp ↦ ?_, fun v hnone ↦ ?_⟩
  · have hp : Function.update s.running w (some (c, p)) v = some (c', p') := hp
    by_cases hv : v = w
    · subst hv
      rw [Function.update_self] at hp
      cases hp
      exact hposition
    · rw [Function.update_of_ne hv] at hp
      exact h.running v c' p' hv hp
  · have hnone : Function.update s.running w (some (c, p)) v = none := hnone
    by_cases hv : v = w
    · subst hv
      rw [Function.update_self] at hnone
      cases hnone
    · rw [Function.update_of_ne hv] at hnone
      exact h.idle v hv hnone

/-- Connection `w` is closed. -/
theorem close (h : OthersSound calls w s) {ended : List (C × Except ε A)}
    (hserial : Serial (Alone calls) d₀ ended s.contents) :
    Sound calls d₀ { s.release w with
      running := Function.update s.running w none
      ended := ended } := by
  have hrunning : ∀ {v}, v ≠ w → Function.update s.running w none v = s.running v :=
    fun hv ↦ Function.update_of_ne hv _ _
  refine ⟨?_, fun v c' p' hp ↦ ?_, fun v hnone ↦ ?_⟩
  · show Serial (Alone calls) d₀ ended (s.release w).contents
    rw [System.release_contents]
    exact hserial
  · have hp : Function.update s.running w none v = some (c', p') := hp
    by_cases hv : v = w
    · subst hv
      rw [Function.update_self] at hp
      cases hp
    · rw [hrunning hv] at hp
      exact h.release.running v c' p' hv (System.release_running (s := s) (w := w) ▸ hp)
  · have hnone : Function.update s.running w none v = none := hnone
    show (s.release w).working v = none
    by_cases hv : v = w
    · subst hv
      exact System.working_release_self
    · rw [hrunning hv] at hnone
      exact h.release.idle v hv (System.release_running (s := s) (w := w) ▸ hnone)

/-- The call of connection `w` ends. -/
theorem ends (h : OthersSound calls w s) (hserial : Serial (Alone calls) d₀ ((c, r) :: s.ended) s.contents)
    (hending : p.ending = some r) : Sound calls d₀ (s.goOn w c p) := by
  rw [System.goOn, hending]
  exact h.close hserial

end OthersSound

namespace Sound

variable {c : C} {p : Connected X A}

theorem start (h : Sound calls d₀ s) (hrunning : s.running w = none) (c : C) :
    Sound calls d₀ (s.goOn w c (calls c).program) := by
  have hworking := h.idle w hrunning
  cases hcall : calls c with
  | immediate body =>
    apply (h.others w).goOn h.serial
    rw [hcall]
    exact .opening hworking
  | select q answer =>
    apply (h.others w).goOn h.serial
    rw [hcall]
    exact .reading hworking
  | done r =>
    have hserves : Serves (calls c) s.contents r s.contents := by
      rw [hcall]
      exact .done
    apply (h.others w).ends (h.serial.cons hserves)
    show Program.ending (Program.orRaise r) = _
    cases r <;> rfl

/-- A statement of the body of a transaction. -/
theorem advance_query (h : Sound calls d₀ s) {body : Body X (Exit A)}
    (hcall : calls c = .immediate body) {d : D} (hworking : s.working w = some d) {q : X.Query}
    {next : X.Ans q → Body X (Exit A)}
    (hruns : ∀ r d', (Body.query q next).Runs d r d' → body.Runs s.contents r d') :
    Sound calls d₀ (s.advance w c (orRollback ((Body.query q next).program >>= leave))) := by
  rw [orRollback_query, System.advance, System.exec, hworking]
  dsimp only
  cases hperform : X.perform q s.now d with
  | error e =>
    -- the version is as it was, and the rest of the body only raises
    apply (h.others w).goOn h.serial
    rw [hcall]
    refine Position.within hworking fun r d' (hraise : (Body.raise e).Runs d r d') ↦ hruns r d' ?_
    exact .inr ⟨e, .inr ⟨s.now, hperform⟩, hraise⟩
  | ok answered =>
    obtain ⟨a, d₁⟩ := answered
    dsimp only
    have hothers := (h.others w).write (fun v hv ↦ System.working_of_ne hworking hv) d₁
    apply hothers.goOn h.serial
    rw [hcall]
    refine .within (System.working_eq_some.mpr rfl) fun r d' hnext ↦ hruns r d' ?_
    exact .inl ⟨s.now, a, d₁, hperform, hnext⟩

/-- The end of a transaction. -/
theorem advance_leave (h : Sound calls d₀ s) {body : Body X (Exit A)}
    (hcall : calls c = .immediate body) {d : D} (hworking : s.working w = some d) {exit : Exit A}
    (hruns : body.Runs s.contents (.ok exit) d) :
    Sound calls d₀ (s.advance w c (orRollback (leave exit))) := by
  cases exit with
  | commit a =>
    show Sound calls d₀ (System.advance s w c (.call .commit _))
    rw [System.advance, System.exec, hworking]
    apply ((h.others w).commit hworking).ends _ rfl
    apply h.serial.cons
    rw [Alone, hcall]
    exact .committed hruns
  | rollback a =>
    show Sound calls d₀ (System.advance s w c (.call .rollback _))
    rw [System.advance, System.exec]
    apply (h.others w).release.ends _ rfl
    rw [System.release_ended, System.release_contents]
    apply h.serial.cons
    rw [Alone, hcall]
    exact .rolledBack hruns

/-- The transaction is rolled back before the error is raised. -/
theorem advance_raise (h : Sound calls d₀ s) {e : ε}
    (hserves : Serves (calls c) s.contents (.error e) s.contents) :
    Sound calls d₀ (s.advance w c (orRollback (throw e))) := by
  show Sound calls d₀ (System.advance s w c (.call .rollback _))
  rw [System.advance, System.exec]
  apply (h.others w).release.ends _ rfl
  rw [System.release_ended, System.release_contents]
  exact h.serial.cons hserves

theorem advance_select (h : Sound calls d₀ s) {q : X.Query} {answer : X.Ans q → Except ε A}
    (hcall : calls c = .select q answer) (hworking : s.working w = none) :
    Sound calls d₀ (s.advance w c (Call.select q answer).program) := by
  show Sound calls d₀ (System.advance s w c (.call (.query q) _))
  rw [System.advance, System.exec, hworking]
  dsimp only
  cases hperform : X.perform q s.now s.contents with
  | error e =>
    apply (h.others w).ends _ rfl
    apply h.serial.cons
    rw [Alone, hcall]
    exact .refused hperform
  | ok answered =>
    obtain ⟨a, d'⟩ := answered
    have hserves : Serves (calls c) s.contents (answer a) s.contents := by
      rw [hcall]
      exact .selected hperform
    apply (h.others w).ends (h.serial.cons hserves)
    show Program.ending (Program.orRaise (answer a)) = _
    cases answer a <;> rfl

theorem advance_opening (h : Sound calls d₀ s) {body : Body X (Exit A)}
    (hcall : calls c = .immediate body) :
    Sound calls d₀ (s.advance w c (Call.immediate body).program) := by
  show Sound calls d₀ (System.advance s w c (.call .begin _))
  rw [System.advance, System.exec]
  cases hwriter : s.writer with
  -- another connection has the lock, and the statement waits
  | some writer => exact h
  | none =>
    have hnone : ∀ v, s.working v = none := by
      intro v
      rw [System.working, hwriter]
    have hothers := (h.others w).write (fun v _ ↦ hnone v) s.contents
    apply hothers.goOn h.serial
    rw [hcall]
    exact .within (System.working_eq_some.mpr rfl) fun _ _ ↦ id

theorem advance (h : Sound calls d₀ s) (hrunning : s.running w = some (c, p)) :
    Sound calls d₀ (s.advance w c p) := by
  have hposition := h.running w c p hrunning
  generalize hcall : calls c = call at hposition
  cases hposition with
  | opening hworking => exact h.advance_opening hcall
  | within hworking hruns =>
    rename_i body rest d
    cases rest with
    | ret exit => exact h.advance_leave hcall hworking (hruns _ _ ⟨rfl, rfl⟩)
    | raise e =>
      apply h.advance_raise
      rw [hcall]
      exact .raised (hruns _ _ ⟨rfl, rfl⟩)
    | query q next => exact h.advance_query hcall hworking hruns
  | failing hfailure => exact h.advance_raise (.failed hfailure)
  | reading hworking => exact h.advance_select hcall hworking

/-- A statement fails. The transaction, if it is still open, is rolled back next. -/
theorem fail (h : Sound calls d₀ s) (hrunning : s.running w = some (c, p)) {e : ε}
    (hfailure : X.failure e = true) (endsTransaction : Bool) :
    Sound calls d₀ (s.fail w c e endsTransaction p) := by
  have hserves : Serves (calls c) s.contents (.error e) s.contents := .failed hfailure
  have hothers : OthersSound calls w (if endsTransaction then s.release w else s) := by
    cases endsTransaction with
    | true => exact (h.others w).release
    | false => exact h.others w
  have hended : (if endsTransaction then s.release w else s).ended = s.ended := by
    cases endsTransaction <;> simp
  have hcontents : (if endsTransaction then s.release w else s).contents = s.contents := by
    cases endsTransaction <;> simp
  have hserial : Serial (Alone calls) d₀ (if endsTransaction then s.release w else s).ended
      (if endsTransaction then s.release w else s).contents := by
    rw [hended, hcontents]
    exact h.serial
  -- whatever statement of the transaction it was, its handler is what is left
  have hfailing : ∀ {body}, calls c = .immediate body →
      Sound calls d₀ ((if endsTransaction then s.release w else s).goOn w c
        (orRollback (throw e))) := by
    intro body hcall
    apply hothers.goOn hserial
    rw [hcall]
    exact .failing hfailure
  have hends : Sound calls d₀ ((if endsTransaction then s.release w else s).goOn w c (throw e)) := by
    apply hothers.ends _ rfl
    rw [hcontents] at hserial ⊢
    exact hserial.cons hserves
  have hposition := h.running w c p hrunning
  generalize hcall : calls c = call at hposition
  cases hposition with
  | opening hworking => exact hfailing hcall
  | within hworking hruns =>
    rename_i body rest d
    cases rest with
    | ret exit => cases exit <;> exact hfailing hcall
    | raise e' => exact hends
    | query q next =>
      rw [orRollback_query]
      exact hfailing hcall
  | failing _ => exact hends
  | reading hworking => exact hends

theorem step (h : Sound calls d₀ s) (event : Event ε C) : Sound calls d₀ (s.step w calls event) := by
  cases event with
  | start c =>
    rw [System.step]
    split_ifs with hidle
    · exact h.start (Option.isNone_iff_eq_none.mp hidle) c
    · exact h
  | advance =>
    rw [System.step]
    cases hrunning : s.running w with
    | none => exact h
    | some call => exact h.advance hrunning
  | fail e endsTransaction =>
    rw [System.step]
    cases hrunning : s.running w with
    | none => exact h
    | some call =>
      dsimp only
      split_ifs with hfailure
      · exact h.fail hrunning hfailure endsTransaction
      · exact h
  | disconnect =>
    have hclosed := (h.others w).close h.serial
    rw [← System.release_ended (s := s) (w := w)] at hclosed
    exact hclosed
  | tick d => exact ⟨h.serial, h.running, h.idle⟩

theorem run (h : Sound calls d₀ s) (events : List (W × Event ε C)) :
    Sound calls d₀ (s.run calls events) := by
  induction events generalizing s with
  | nil => exact h
  | cons event events ih => exact ih (h.step event.2)

end Sound

/-- **Serial executions.** After every interleaving, the calls that ended, in this order, take the
first contents to the present ones, each of them alone. -/
theorem serial_run (calls : C → Call X A) (d₀ : D) (events : List (W × Event ε C)) :
    Serial (Alone calls) d₀ ((System.initial d₀ : System X W C A).run calls events).ended
      ((System.initial d₀ : System X W C A).run calls events).contents :=
  (sound_initial.run events).serial

end Serial

end SingleWriter
