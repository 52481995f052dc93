import ThrevoActions.Interleaving.Company
import ThrevoActions.Transactions.Occupancy

/-!
# Sessions that run calls

Every session runs one call at a time, and the statements of different sessions interleave in any
order. A call may own its transaction or run in one that its caller began; the caller commits or
rolls back when no call is running. Any call can be interrupted, with or without its statement
taking effect, any connection can be lost, and time passes.

`committed` lists the answers that callers hold for good, in the order of the commits: those given
in a transaction count when it commits, and are forgotten when it is rolled back. An `Outline` says
what holds of the database, of the answers of an open transaction and of the committed ones, and
that every call upholds its part whatever the others do. Then it holds after every run
(`Outline.sound_run`).
-/

namespace Transactions

open Interleaving

variable {W K L ε C A : Type} {R : K → Type} [DecidableEq W] [DecidableEq K] [DecidableEq L]

/-! ## Programs -/

/-- Programs of statements. -/
abbrev Routine {K : Type} (R : K → Type) (L ε α : Type) := Program (statements R L ε) ε α

abbrev statement (o : Statement R L ε) : Routine R L ε o.Ans :=
  Program.perform (S := statements R L ε) o

abbrev query (q : Query R L ε) : Routine R L ε q.Ans := statement (.query q)

/-- A body in a transaction of its own, which is committed unless the body raises. -/
def inTransaction {α : Type} (body : Routine R L ε α) : Routine R L ε α := do
  statement .begin
  match ← body.attempt with
  | .ok a => do
    statement .commit
    return a
  | .error e => do
    statement .rollback
    throw e

/-- The calls of sessions, as programs. -/
structure Calls {K : Type} (R : K → Type) (L ε C A : Type) where
  program : C → Routine R L ε A
  /-- The call begins and ends its own transaction. -/
  ownsTransaction : C → Bool

abbrev Answers (ε C A : Type) := List (C × Except ε A)

structure System (W : Type) {K : Type} (R : K → Type) (L ε C A : Type) where
  database : Database W R L
  running : W → Option (C × Routine R L ε A)
  answered : W → Answers ε C A
  committed : Answers ε C A

/-- What the caller of a session does between calls. -/
inductive Control
  | begin
  | commit
  | rollback
  deriving DecidableEq, Repr

inductive Event (C : Type)
  | start (c : C)
  | advance
  /-- The call is cancelled, before or after its next statement takes effect. -/
  | interrupt (afterwards : Bool)
  | control (o : Control)
  | disconnect
  | tick (d : ℕ)

namespace System

/-- Nobody is connected. -/
def initial : System W R L ε C A := ⟨.empty, fun _ ↦ none, fun _ ↦ [], []⟩

/-- A call has ended. Without a transaction its answer is final. -/
def answer (s : System W R L ε C A) (w : W) (c : C) (r : Except ε A) : System W R L ε C A :=
  if s.database.status w = .idle then
    { s with running := Function.update s.running w none, committed := (c, r) :: s.committed }
  else
    { s with
      running := Function.update s.running w none
      answered := Function.update s.answered w ((c, r) :: s.answered w) }

/-- A call goes on with `p`. -/
def goOn (s : System W R L ε C A) (w : W) (c : C) (p : Routine R L ε A) :
    System W R L ε C A :=
  match p.ending with
  | some r => s.answer w c r
  | none => { s with running := Function.update s.running w (some (c, p)) }

/-- The transaction of a session has ended. -/
def forget (s : System W R L ε C A) (w : W) : System W R L ε C A :=
  { s with answered := Function.update s.answered w [] }

variable (rules : Rules R ε) (calls : Calls R L ε C A)

/-- The database after an interruption. -/
def interrupted (db : Database W R L) (w : W) (o : Statement R L ε) (afterwards : Bool) :
    Database W R L :=
  if afterwards then ((rules.exec db w o).map Prod.snd).getD db else db

def step (s : System W R L ε C A) (w : W) : Event C → System W R L ε C A
  | .start c =>
    if (s.running w).isNone = true ∧
        (calls.ownsTransaction c = true → s.database.status w = .idle) then
      s.goOn w c (calls.program c)
    else s
  | .advance =>
    match s.running w with
    | some (c, .call o next) =>
      match rules.exec s.database w o with
      | some (r, db) => { s with database := db }.goOn w c (next r)
      | none => s
    | _ => s
  | .interrupt afterwards =>
    match s.running w with
    | some (c, .call o next) =>
      { s with database := interrupted rules s.database w o afterwards }.goOn w c
        (next (.error rules.interrupted))
    | _ => s
  | .control o =>
    if (s.running w).isNone = true then
      match o with
      | .begin => if s.database.status w = .idle then
          { s with database := s.database.begin w } else s
      | .commit =>
        if s.database.status w = .active then
          { s with
            database := s.database.commit w
            committed := s.answered w ++ s.committed }.forget w
        else { s with database := s.database.rollback w }.forget w
      | .rollback => { s with database := s.database.rollback w }.forget w
    else s
  | .disconnect =>
    { s with
      database := s.database.rollback w
      running := Function.update s.running w none }.forget w
  | .tick d => { s with database := s.database.tick d }

/-- The system after an interleaving. -/
def run (s : System W R L ε C A) (events : List (W × Event C)) : System W R L ε C A :=
  events.foldl (fun s event ↦ s.step rules calls event.1 event.2) s

end System

/-! ## Outlines -/

/-- What calls keep, and what their answers say. -/
structure Outline (W : Type) {K : Type} (R : K → Type) (L ε C A : Type) where
  inv : Database W R L → Prop
  /-- What a session may write. -/
  good : W → Database W R L → Sigma R → Prop
  /-- What the others leave alone. -/
  rely : W → Database W R L → Database W R L → Prop
  /-- What the answers of an open transaction say. -/
  kept : W → Answers ε C A → Database W R L → Prop
  /-- What the committed answers say. -/
  logged : Answers ε C A → Database W R L → Prop

namespace Outline

variable (T : Outline W R L ε C A) (rules : Rules R ε) (calls : Calls R L ε C A)

/-- The company of a call of session `w`, in a transaction that has given the answers `h`. What
the call sees is the database and the committed answers. -/
def company (w : W) (h : Answers ε C A) :
    Company (statements R L ε) ε (Database W R L × Answers ε C A) where
  rely s s' := T.rely w s.1 s'.1 ∧ T.inv s'.1 ∧ T.logged s'.2 s'.1
  exec s o r s' := rules.Experiences s.1 w o r s'.1 ∧ s'.2 = s.2
  guarantee s s' := rules.Moves w (T.good w) s.1 s'.1 ∧ (T.kept w h s.1 → T.kept w h s'.1) ∧
    (s'.1.status w = .idle → h = [])

/-- How a call may end. -/
def Ends (w : W) (h : Answers ε C A) (c : C) (r : Except ε A)
    (s : Database W R L × Answers ε C A) : Prop :=
  if s.1.status w = .idle then T.logged ((c, r) :: s.2) s.1 else T.kept w ((c, r) :: h) s.1

/-- The parts of an outline fit together. -/
structure Valid : Prop where
  inv_empty : T.inv .empty
  inv_moves : ∀ {w db db'}, T.inv db → rules.Moves w (T.good w) db db' → T.inv db'
  inv_tick : ∀ {db} d, T.inv db → T.inv (db.tick d)
  rely_refl : ∀ w db, T.rely w db db
  rely_trans : ∀ {w db db' db''}, T.rely w db db' → T.rely w db' db'' → T.rely w db db''
  rely_moves : ∀ {v w db db'}, T.inv db → w ≠ v → rules.Moves v (T.good v) db db' → T.rely w db db'
  rely_tick : ∀ w db d, T.inv db → T.rely w db (db.tick d)
  rely_status : ∀ {w db db'}, T.rely w db db' → db'.status w = db.status w
  kept_nil : ∀ w db, T.kept w [] db
  kept_rely : ∀ {w h db db'}, T.kept w h db → T.rely w db db' → T.kept w h db'
  logged_nil : T.logged [] .empty
  logged_moves : ∀ {w l db db'}, T.inv db → T.logged l db → rules.Moves w (T.good w) db db' →
    T.logged l db'
  logged_tick : ∀ {l db} d, T.logged l db → T.logged l (db.tick d)
  /-- A commit makes the answers of its transaction final. -/
  commit : ∀ {w h l db}, T.inv db → T.logged l db → T.kept w h db → db.status w = .active →
    T.logged (h ++ l) (db.commit w)
  upholds : ∀ {w h db l} c, T.inv db → T.logged l db → T.kept w h db →
    (db.status w = .idle → h = []) → (calls.ownsTransaction c = true → db.status w = .idle) →
    (calls.program c).Upholds (T.company rules w h) (T.Ends w h c) (db, l)

/-- What holds after every run. -/
structure Sound (s : System W R L ε C A) : Prop where
  inv : T.inv s.database
  logged : T.logged s.committed s.database
  kept : ∀ w, T.kept w (s.answered w) s.database
  idle : ∀ w, s.database.status w = .idle → s.answered w = []
  running : ∀ w c p, s.running w = some (c, p) → p.ending = none ∧
    p.Upholds (T.company rules w (s.answered w)) (T.Ends w (s.answered w) c)
      (s.database, s.committed)

variable {T rules calls} {s : System W R L ε C A} {w : W}

theorem Valid.sound_initial (hT : T.Valid rules calls) : T.Sound rules System.initial where
  inv := hT.inv_empty
  logged := hT.logged_nil
  kept w := hT.kept_nil w _
  idle _ _ := rfl
  running w c p h := by cases h

/-- What holds whatever session `w` is about to do. -/
structure SoundBut (T : Outline W R L ε C A) (rules : Rules R ε) (w : W)
    (s : System W R L ε C A) : Prop where
  inv : T.inv s.database
  logged : T.logged s.committed s.database
  kept : ∀ v, T.kept v (s.answered v) s.database
  idle : ∀ v, s.database.status v = .idle → s.answered v = []
  running : ∀ v c p, v ≠ w → s.running v = some (c, p) → p.ending = none ∧
    p.Upholds (T.company rules v (s.answered v)) (T.Ends v (s.answered v) c)
      (s.database, s.committed)

theorem Sound.but (h : T.Sound rules s) (w : W) : T.SoundBut rules w s :=
  ⟨h.inv, h.logged, h.kept, h.idle, fun v c p _ hv ↦ h.running v c p hv⟩

/-- A running call waits while others act. -/
theorem Valid.wait (hT : T.Valid rules calls) {h l l' : Answers ε C A} {c : C}
    {p : Routine R L ε A} {db db' : Database W R L}
    (hp : p.ending = none ∧ p.Upholds (T.company rules w h) (T.Ends w h c) (db, l))
    (hrely : T.rely w db db') (hinv : T.inv db') (hlogged : T.logged l' db') :
    p.ending = none ∧ p.Upholds (T.company rules w h) (T.Ends w h c) (db', l') := by
  have htrans : ∀ {s s' s''}, (T.company rules w h).rely s s' →
      (T.company rules w h).rely s' s'' → (T.company rules w h).rely s s'' :=
    fun h h' ↦ ⟨hT.rely_trans h.1 h'.1, h'.2⟩
  cases p with
  | ret a => cases hp.1
  | raise e => cases hp.1
  | call o next => exact ⟨rfl, hp.2.wait htrans ⟨hrely, hinv, hlogged⟩⟩

namespace SoundBut

/-- A session that runs nothing is sound. -/
theorem stopped (h : T.SoundBut rules w s) :
    T.Sound rules { s with running := Function.update s.running w none } := by
  refine ⟨h.inv, h.logged, h.kept, h.idle, fun v c p hv ↦ ?_⟩
  have hv : Function.update s.running w none v = some (c, p) := hv
  by_cases hvw : v = w
  · subst hvw
    rw [Function.update_self] at hv
    cases hv
  · rw [Function.update_of_ne hvw] at hv
    exact h.running v c p hvw hv

theorem answer (hT : T.Valid rules calls) {c : C} {r : Except ε A} (h : T.SoundBut rules w s)
    (hends : T.Ends w (s.answered w) c r (s.database, s.committed)) :
    T.Sound rules (s.answer w c r) := by
  rw [System.answer]
  rw [Ends] at hends
  split_ifs at hends ⊢ with hidle
  · exact stopped (s := { s with committed := (c, r) :: s.committed })
      ⟨h.inv, hends, h.kept, h.idle, fun v c' p hvw hv ↦
        hT.wait (h.running v c' p hvw hv) (hT.rely_refl v _) h.inv hends⟩
  · have hanswered : ∀ v, v ≠ w →
        Function.update s.answered w ((c, r) :: s.answered w) v = s.answered v :=
      fun v hv ↦ Function.update_of_ne hv _ _
    refine stopped (s := { s with
      answered := Function.update s.answered w ((c, r) :: s.answered w) })
      ⟨h.inv, h.logged, fun v ↦ ?_, fun v hv ↦ ?_, fun v c' p hvw hv ↦ ?_⟩
    · by_cases hvw : v = w
      · subst hvw
        dsimp only
        rw [Function.update_self]
        exact hends
      · dsimp only
        rw [hanswered v hvw]
        exact h.kept v
    · by_cases hvw : v = w
      · exact absurd (hvw ▸ hv) hidle
      · exact (hanswered v hvw).trans (h.idle v hv)
    · dsimp only
      rw [hanswered v hvw]
      exact h.running v c' p hvw hv

theorem goOn (hT : T.Valid rules calls) {c : C} {p : Routine R L ε A}
    (h : T.SoundBut rules w s)
    (hp : p.Upholds (T.company rules w (s.answered w)) (T.Ends w (s.answered w) c)
      (s.database, s.committed)) : T.Sound rules (s.goOn w c p) := by
  cases p with
  | ret a => exact h.answer hT hp
  | raise e => exact h.answer hT hp
  | call o next =>
    refine ⟨h.inv, h.logged, h.kept, h.idle, fun v c' q hv ↦ ?_⟩
    have hv : Function.update s.running w (some (c, .call o next)) v = some (c', q) := hv
    by_cases hvw : v = w
    · subst hvw
      rw [Function.update_self] at hv
      cases hv
      exact ⟨rfl, hp⟩
    · rw [Function.update_of_ne hvw] at hv
      exact h.running v c' q hvw hv

end SoundBut

/-- What a session does to the database leaves the others sound. -/
theorem Sound.moves (hT : T.Valid rules calls) (h : T.SoundBut rules w s) {db : Database W R L}
    (hmoves : rules.Moves w (T.good w) s.database db) (hkept : T.kept w (s.answered w) db)
    (hidle : db.status w = .idle → s.answered w = []) :
    T.SoundBut rules w { s with database := db } := by
  have hrely : ∀ v, v ≠ w → T.rely v s.database db :=
    fun v hv ↦ hT.rely_moves h.inv hv hmoves
  refine ⟨hT.inv_moves h.inv hmoves, hT.logged_moves h.inv h.logged hmoves, fun v ↦ ?_,
    fun v hv ↦ ?_, fun v c p hv hp ↦ ?_⟩
  · by_cases hvw : v = w
    · rw [hvw]
      exact hkept
    · exact hT.kept_rely (h.kept v) (hrely v hvw)
  · by_cases hvw : v = w
    · rw [hvw] at hv ⊢
      exact hidle hv
    · exact h.idle v ((hT.rely_status (hrely v hvw)).symm.trans hv)
  · exact hT.wait (h.running v c p hv hp) (hrely v hv) (hT.inv_moves h.inv hmoves)
      (hT.logged_moves h.inv h.logged hmoves)

/-- The end of a transaction without a commit leaves nothing of its answers. -/
theorem SoundBut.rollback (hT : T.Valid rules calls) (h : T.SoundBut rules w s) :
    T.SoundBut rules w ({ s with database := s.database.rollback w }.forget w) := by
  have hforgotten : T.SoundBut rules w (s.forget w) := by
    have hanswered : ∀ v, v ≠ w → Function.update s.answered w [] v = s.answered v :=
      fun v hv ↦ Function.update_of_ne hv _ _
    refine ⟨h.inv, h.logged, fun v ↦ ?_, fun v hv ↦ ?_, fun v c p hvw hv ↦ ?_⟩
    · show T.kept v (Function.update s.answered w [] v) s.database
      by_cases hvw : v = w
      · subst hvw
        rw [Function.update_self]
        exact hT.kept_nil v _
      · rw [hanswered v hvw]
        exact h.kept v
    · show Function.update s.answered w [] v = []
      by_cases hvw : v = w
      · subst hvw
        exact Function.update_self _ _ _
      · rw [hanswered v hvw]
        exact h.idle v hv
    · show p.ending = none ∧ p.Upholds (T.company rules v (Function.update s.answered w [] v))
        (T.Ends v (Function.update s.answered w [] v) c) (s.database, s.committed)
      rw [hanswered v hvw]
      exact h.running v c p hvw hv
  have hempty : (s.forget w).answered w = [] := Function.update_self _ _ _
  refine Sound.moves hT hforgotten (.single .rollback) ?_ fun _ ↦ hempty
  rw [hempty]
  exact hT.kept_nil w _

/-- The next operation of a running call, experienced in any way. -/
theorem Sound.experience (hT : T.Valid rules calls) (h : T.Sound rules s) {c : C}
    {o : Statement R L ε} {next : Except ε o.Ans → Routine R L ε A}
    (hrunning : s.running w = some (c, .call o next)) {r : Except ε o.Ans} {db : Database W R L}
    (hexec : rules.Experiences s.database w o r db) :
    T.Sound rules ({ s with database := db }.goOn w c (next r)) := by
  obtain ⟨-, hupholds⟩ := h.running w c _ hrunning
  obtain ⟨⟨hmoves, hkept, hidle⟩, hnext⟩ :=
    hupholds (s.database, s.committed) ⟨hT.rely_refl w _, h.inv, h.logged⟩ r (db, s.committed)
      ⟨hexec, rfl⟩
  have hbut := Sound.moves hT (h.but w) hmoves (hkept (h.kept w)) hidle
  exact hbut.goOn hT hnext

theorem experiences_interrupted {db : Database W R L} {o : Statement R L ε} {afterwards : Bool} :
    rules.Experiences db w o (.error rules.interrupted)
      (System.interrupted rules db w o afterwards) := by
  refine Or.inr ⟨rfl, ?_⟩
  cases afterwards with
  | false => exact Or.inl rfl
  | true =>
    cases hexec : rules.exec db w o with
    | none =>
      refine Or.inl ?_
      rw [System.interrupted, hexec]
      rfl
    | some result =>
      refine Or.inr ⟨result.1, ?_⟩
      rw [System.interrupted, hexec]
      rfl

/-- A session that runs nothing stays sound. -/
theorem SoundBut.sound (h : T.SoundBut rules w s) (hnone : s.running w = none) :
    T.Sound rules s := by
  refine ⟨h.inv, h.logged, h.kept, h.idle, fun v c p hv ↦ ?_⟩
  by_cases hvw : v = w
  · rw [hvw, hnone] at hv
    cases hv
  · exact h.running v c p hvw hv

theorem Sound.commit (hT : T.Valid rules calls) (h : T.Sound rules s)
    (hactive : s.database.status w = .active) :
    T.SoundBut rules w ({ s with
      database := s.database.commit w
      committed := s.answered w ++ s.committed }.forget w) := by
  have hrolled := SoundBut.rollback hT (h.but w)
  have hrely : ∀ v, v ≠ w → T.rely v s.database (s.database.commit w) :=
    fun v hv ↦ hT.rely_moves h.inv hv (.single (.commit hactive))
  have hinv := hT.inv_moves h.inv (w := w) (.single (.commit hactive))
  have hlogged := hT.commit h.inv h.logged (h.kept w) hactive
  have hanswered : ∀ v, v ≠ w → Function.update s.answered w [] v = s.answered v :=
    fun v hv ↦ Function.update_of_ne hv _ _
  refine ⟨hinv, hlogged, fun v ↦ ?_, fun v hv ↦ ?_, fun v c p hvw hv ↦ ?_⟩
  · show T.kept v (Function.update s.answered w [] v) _
    by_cases hvw : v = w
    · subst hvw
      rw [Function.update_self]
      exact hT.kept_nil v _
    · rw [hanswered v hvw]
      exact hT.kept_rely (h.kept v) (hrely v hvw)
  · exact hrolled.idle v hv
  · show p.ending = none ∧ p.Upholds (T.company rules v (Function.update s.answered w [] v))
      (T.Ends v (Function.update s.answered w [] v) c)
      (s.database.commit w, s.answered w ++ s.committed)
    rw [hanswered v hvw]
    exact hT.wait (h.running v c p hv) (hrely v hvw) hinv hlogged

theorem Sound.tick (hT : T.Valid rules calls) (h : T.Sound rules s) (d : ℕ) :
    T.Sound rules { s with database := s.database.tick d } := by
  refine ⟨hT.inv_tick d h.inv, hT.logged_tick d h.logged,
    fun v ↦ hT.kept_rely (h.kept v) (hT.rely_tick v _ d h.inv), h.idle, fun v c p hv ↦ ?_⟩
  exact hT.wait (h.running v c p hv) (hT.rely_tick v _ d h.inv) (hT.inv_tick d h.inv)
    (hT.logged_tick d h.logged)

theorem Sound.step (hT : T.Valid rules calls) (h : T.Sound rules s) (w : W) (event : Event C) :
    T.Sound rules (s.step rules calls w event) := by
  cases event with
  | start c =>
    rw [System.step]
    split_ifs with hstart
    · exact (h.but w).goOn hT (hT.upholds c h.inv h.logged (h.kept w) (h.idle w) hstart.2)
    · exact h
  | advance =>
    unfold System.step
    rcases hrunning : s.running w with _ | ⟨c, p⟩
    · exact h
    · cases p with
      | ret a => exact h
      | raise e => exact h
      | call o next =>
        dsimp only
        rcases hexec : rules.exec s.database w o with _ | ⟨r, db⟩
        · exact h
        · exact h.experience hT hrunning (Or.inl hexec)
  | interrupt afterwards =>
    unfold System.step
    rcases hrunning : s.running w with _ | ⟨c, p⟩
    · exact h
    · cases p with
      | ret a => exact h
      | raise e => exact h
      | call o next => exact h.experience hT hrunning experiences_interrupted
  | control o =>
    cases o with
    | begin =>
      simp only [System.step]
      split_ifs with hnone hidle
      · have hempty := h.idle w hidle
        have hkept : T.kept w (s.answered w) (s.database.begin w) := by
          rw [hempty]
          exact hT.kept_nil w _
        exact (Sound.moves hT (h.but w) (.single (.begin hidle)) hkept fun _ ↦ hempty).sound
          (Option.isNone_iff_eq_none.mp hnone)
      · exact h
      · exact h
    | commit =>
      simp only [System.step]
      split_ifs with hnone hactive
      · exact (h.commit hT hactive).sound (Option.isNone_iff_eq_none.mp hnone)
      · exact (SoundBut.rollback hT (h.but w)).sound (Option.isNone_iff_eq_none.mp hnone)
      · exact h
    | rollback =>
      simp only [System.step]
      split_ifs with hnone
      · exact (SoundBut.rollback hT (h.but w)).sound (Option.isNone_iff_eq_none.mp hnone)
      · exact h
  | disconnect => exact (SoundBut.rollback hT (h.but w)).stopped
  | tick d => exact h.tick hT d

/-- An outline holds after every run. -/
theorem sound_run (hT : T.Valid rules calls) (events : List (W × Event C)) {s : System W R L ε C A}
    (h : T.Sound rules s) : T.Sound rules (s.run rules calls events) := by
  induction events generalizing s with
  | nil => exact h
  | cons event events ih => exact ih (h.step hT event.1 event.2)

/-! ## From one state to a later one -/

omit [DecidableEq K] [DecidableEq L] in
theorem database_answer {c : C} {r : Except ε A} : (s.answer w c r).database = s.database := by
  rw [System.answer]
  split_ifs <;> rfl

omit [DecidableEq K] [DecidableEq L] in
theorem database_goOn {c : C} {p : Routine R L ε A} : (s.goOn w c p).database = s.database := by
  cases p with
  | ret a => exact database_answer
  | raise e => exact database_answer
  | call o next => rfl

/-- A running call does what its session may do. -/
theorem Sound.experience_moves (hT : T.Valid rules calls) (h : T.Sound rules s) {c : C}
    {o : Statement R L ε} {next : Except ε o.Ans → Routine R L ε A}
    (hrunning : s.running w = some (c, .call o next)) {r : Except ε o.Ans} {db : Database W R L}
    (hexec : rules.Experiences s.database w o r db) : rules.Moves w (T.good w) s.database db := by
  obtain ⟨-, hupholds⟩ := h.running w c _ hrunning
  obtain ⟨⟨hmoves, -⟩, -⟩ :=
    hupholds (s.database, s.committed) ⟨hT.rely_refl w _, h.inv, h.logged⟩ r (db, s.committed)
      ⟨hexec, rfl⟩
  exact hmoves

/-- With an event, a session does what it may do, or time passes. -/
theorem Sound.step_database (hT : T.Valid rules calls) (h : T.Sound rules s) (w : W)
    (event : Event C) :
    rules.Moves w (T.good w) s.database (s.step rules calls w event).database ∨
      ∃ d, (s.step rules calls w event).database = s.database.tick d := by
  cases event with
  | start c =>
    left
    rw [System.step]
    split_ifs
    · rw [database_goOn]
    · exact .refl
  | advance =>
    left
    unfold System.step
    rcases hrunning : s.running w with _ | ⟨c, p⟩
    · exact .refl
    · cases p with
      | ret a => exact .refl
      | raise e => exact .refl
      | call o next =>
        dsimp only
        rcases hexec : rules.exec s.database w o with _ | ⟨r, db⟩
        · exact .refl
        · dsimp only
          rw [database_goOn]
          exact h.experience_moves hT hrunning (Or.inl hexec)
  | interrupt afterwards =>
    left
    unfold System.step
    rcases hrunning : s.running w with _ | ⟨c, p⟩
    · exact .refl
    · cases p with
      | ret a => exact .refl
      | raise e => exact .refl
      | call o next =>
        dsimp only
        rw [database_goOn]
        exact h.experience_moves hT hrunning experiences_interrupted
  | control o =>
    left
    cases o with
    | begin =>
      simp only [System.step]
      split_ifs with hnone hidle
      · exact .single (.begin hidle)
      · exact .refl
      · exact .refl
    | commit =>
      simp only [System.step]
      split_ifs with hnone hactive
      · exact .single (.commit hactive)
      · exact .single .rollback
      · exact .refl
    | rollback =>
      simp only [System.step]
      split_ifs with hnone
      · exact .single .rollback
      · exact .refl
  | disconnect => exact .inl (.single .rollback)
  | tick d => exact .inr ⟨d, rfl⟩

/-- What relates the databases before and after everything that sessions may do, relates those of
any state and of a later one. -/
theorem run_database (hT : T.Valid rules calls) (Rel : Database W R L → Database W R L → Prop)
    (hrefl : ∀ db, Rel db db) (htrans : ∀ {db db' db''}, Rel db db' → Rel db' db'' → Rel db db'')
    (hmoves : ∀ {w db db'}, T.inv db → rules.Moves w (T.good w) db db' → Rel db db')
    (htick : ∀ db d, Rel db (db.tick d)) (events : List (W × Event C))
    {s : System W R L ε C A} (h : T.Sound rules s) :
    Rel s.database (s.run rules calls events).database := by
  induction events generalizing s with
  | nil => exact hrefl _
  | cons event events ih =>
    refine htrans ?_ (ih (h.step hT event.1 event.2))
    rcases h.step_database hT event.1 event.2 with hstep | ⟨d, hstep⟩
    · exact hmoves h.inv hstep
    · rw [hstep]
      exact htick _ d

end Outline

end Transactions
