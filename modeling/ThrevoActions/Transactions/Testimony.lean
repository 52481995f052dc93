import ThrevoActions.Transactions.Progress
import ThrevoActions.Transactions.Sessions

/-!
# What answers tell

An answer tells something of the rows, and what it tells stays true however the rows advance. In
its transaction it is told of the rows that the session sees, and with the commit it becomes true of
the committed ones. Some answers mark a fact of one row: they are the first to tell it. The row of a
marked fact is locked by the session, and its committed version does not have the fact; hence, in
the order of the commits, no earlier answer tells what a later one marks (`Testimony.Novel`).

`Testimony.outline_valid` makes an outline of this, in which only the calls remain to be verified,
and the rules at the end of this module are the steps of such a verification.
-/

namespace Transactions

open Interleaving

variable {W K L P ε C A β : Type} {R : K → Type}

/-- A fact of one row. -/
abbrev Fact {K : Type} (R : K → Type) := Σ k, R k → Prop

def Fact.Holds [DecidableEq K] (fact : Fact R) (rows : AList R) : Prop :=
  ∃ r, rows.lookup fact.1 = some r ∧ fact.2 r

/-- What answers tell and mark, and what is true of every row that is written. -/
structure Testimony {K : Type} (R : K → Type) (L P C A : Type) where
  places : Places K R L P
  vets : (k : K) → R k → Prop
  tells : C → A → AList R → Prop
  marks : C → A → Option (Fact R)

section Moves

variable [DecidableEq W] [DecidableEq K] [DecidableEq L] {rules : Rules R ε}
  {good good' : Database W R L → Sigma R → Prop} {db db' : Database W R L} {w : W}

theorem Rules.Move.imp (hgood : ∀ db row, good db row → good' db row)
    (h : rules.Move w good db db') : rules.Move w good' db db' := by
  cases h with
  | begin hidle => exact .begin hidle
  | work hopen hwork => exact .work hopen (hwork.imp fun row ↦ hgood _ row)
  | abort hopen => exact .abort hopen
  | commit hactive => exact .commit hactive
  | rollback => exact .rollback

theorem Rules.Moves.imp (hgood : ∀ db row, good db row → good' db row)
    (h : rules.Moves w good db db') : rules.Moves w good' db db' :=
  Relation.ReflTransGen.mono (fun _ _ ↦ Rules.Move.imp hgood) _ _ h

namespace Database

/-- Every row, committed or not, has been vetted. -/
structure Vetted (vets : (k : K) → R k → Prop) (db : Database W R L) : Prop where
  rows : ∀ {k r}, db.rows.lookup k = some r → vets k r
  writes : ∀ {w k r}, (db.writes w).lookup k = some r → vets k r

namespace Vetted

variable {vets : (k : K) → R k → Prop}

omit [DecidableEq W] [DecidableEq L] in
theorem view (h : db.Vetted vets) {k : K} {r : R k} (hr : (db.view w).lookup k = some r) :
    vets k r := by
  cases hwritten : (db.writes w).lookup k with
  | none =>
    rw [lookup_view_of_not_written hwritten] at hr
    exact h.rows hr
  | some r' =>
    rw [lookup_view_of_written hwritten, Option.some_inj] at hr
    exact hr ▸ h.writes hwritten

omit [DecidableEq L] in
theorem rollback (h : db.Vetted vets) (w : W) : (db.rollback w).Vetted vets := by
  refine ⟨h.rows, fun {v k r} hr ↦ ?_⟩
  by_cases hv : v = w
  · rw [hv, writes_rollback_self] at hr
    cases hr
  · rw [writes_rollback_of_ne hv] at hr
    exact h.writes hr

theorem move (h : db.Vetted vets) (hmove : rules.Move w (fun _ row ↦ vets row.1 row.2) db db') :
    db'.Vetted vets := by
  cases hmove with
  | begin | abort => exact ⟨h.rows, h.writes⟩
  | commit => exact ⟨fun hr ↦ h.view hr, (h.rollback w).writes⟩
  | rollback => exact h.rollback w
  | work _ hwork =>
    cases hwork with
    | take | share | lock => exact ⟨h.rows, h.writes⟩
    | @write k r _ _ _ hvets =>
      refine ⟨h.rows, fun {v k' r'} hr' ↦ ?_⟩
      by_cases hk : k' = k
      · subst hk
        by_cases hv : v = w
        · rw [hv, writes_write_self, AList.lookup_insert, Option.some_inj] at hr'
          exact hr' ▸ hvets
        · rw [writes_write_of_ne hv] at hr'
          exact h.writes hr'
      · rw [lookup_writes_write_of_ne hk] at hr'
        exact h.writes hr'

theorem moves (h : db.Vetted vets)
    (hmoves : rules.Moves w (fun _ row ↦ vets row.1 row.2) db db') : db'.Vetted vets := by
  induction hmoves with
  | refl => exact h
  | tail _ hmove ih => exact ih.move hmove

end Vetted

end Database

end Moves

namespace Testimony

open Database

variable [DecidableEq K] (τ : Testimony R L P C A) (rules : Rules R ε)

/-! ## The outline -/

structure Inv (db : Database W R L) : Prop where
  consistent : db.Consistent rules
  exclusive : db.Exclusive τ.places
  vetted : db.Vetted τ.vets

/-- What a session may write. -/
def Good (w : W) (db : Database W R L) (row : Sigma R) : Prop :=
  Entitled τ.places w db row ∧ τ.vets row.1 row.2

/-- An answer is told of what the session sees; what it marks is new. -/
def Attests (w : W) (c : C) (a : A) (db : Database W R L) : Prop :=
  τ.tells c a (db.view w) ∧
    ∀ fact, τ.marks c a = some fact → db.writer fact.1 = some w ∧ ¬fact.Holds db.rows

/-- What the newer answer marks, the older one does not tell. -/
def Novel (newer older : C × Except ε A) : Prop :=
  ∀ a b fact, newer.2 = .ok a → τ.marks newer.1 a = some fact → older.2 = .ok b →
    ¬∀ rows, τ.tells older.1 b rows → fact.Holds rows

structure Kept (w : W) (h : Answers ε C A) (db : Database W R L) : Prop where
  attested : ∀ c a, (c, .ok a) ∈ h → τ.Attests w c a db
  novel : h.Pairwise τ.Novel

structure Logged (l : Answers ε C A) (db : Database W R L) : Prop where
  told : ∀ c a, (c, .ok a) ∈ l → τ.tells c a db.rows
  novel : l.Pairwise τ.Novel

def outline : Outline W R L ε C A where
  inv := τ.Inv rules
  good := τ.Good
  rely := Meanwhile rules τ.places
  kept := τ.Kept
  logged := τ.Logged

/-- What is told stays true, and a row that leaves a place does not return. -/
structure Lawful : Prop where
  leaves : NoReturn rules τ.places
  tells_advances : ∀ {c a rows rows'}, τ.tells c a rows → Advances rules τ.places rows rows' →
    τ.tells c a rows'

variable {τ rules} {w v : W} {h l : Answers ε C A} {db db' : Database W R L}

theorem Attests.meanwhile (hτ : τ.Lawful rules) {c : C} {a : A} (ha : τ.Attests w c a db)
    (hmeanwhile : Meanwhile rules τ.places w db db') : τ.Attests w c a db' := by
  refine ⟨hτ.tells_advances ha.1 hmeanwhile.advances, fun fact hfact ↦ ?_⟩
  obtain ⟨hwriter, hnew⟩ := ha.2 fact hfact
  refine ⟨(hmeanwhile.writer _).mpr hwriter, ?_⟩
  rwa [Fact.Holds, hmeanwhile.rows _ hwriter]

theorem Attests.onward (hτ : τ.Lawful rules) {c : C} {a : A} (ha : τ.Attests w c a db)
    (honward : Onward rules τ.places w db db') : τ.Attests w c a db' := by
  refine ⟨hτ.tells_advances ha.1 honward.advances, fun fact hfact ↦ ?_⟩
  obtain ⟨hwriter, hnew⟩ := ha.2 fact hfact
  refine ⟨honward.writer _ hwriter, ?_⟩
  rwa [honward.rows]

theorem Kept.nil : τ.Kept w ([] : Answers ε C A) db :=
  ⟨fun _ _ hmem ↦ absurd hmem List.not_mem_nil, .nil⟩

theorem Kept.meanwhile (hτ : τ.Lawful rules) (hkept : τ.Kept w h db)
    (hmeanwhile : Meanwhile rules τ.places w db db') : τ.Kept w h db' :=
  ⟨fun c a hmem ↦ (hkept.attested c a hmem).meanwhile hτ hmeanwhile, hkept.novel⟩

theorem Kept.onward (hτ : τ.Lawful rules) (hkept : τ.Kept w h db)
    (honward : Onward rules τ.places w db db') : τ.Kept w h db' :=
  ⟨fun c a hmem ↦ (hkept.attested c a hmem).onward hτ honward, hkept.novel⟩

/-- An answer that failed tells nothing. -/
theorem Kept.cons_error {c : C} {e : ε} (hkept : τ.Kept w h db) :
    τ.Kept w ((c, .error e) :: h) db := by
  refine ⟨fun c' a hmem ↦ ?_, .cons (fun older _ a b fact ha ↦ by cases ha) hkept.novel⟩
  rcases List.mem_cons.mp hmem with heq | hmem
  · cases heq
  · exact hkept.attested c' a hmem

theorem Kept.cons_ok {c : C} {a : A} (hkept : τ.Kept w h db) (ha : τ.Attests w c a db)
    (hnovel : ∀ older ∈ h, τ.Novel (c, .ok a) older) : τ.Kept w ((c, .ok a) :: h) db := by
  refine ⟨fun c' a' hmem ↦ ?_, .cons hnovel hkept.novel⟩
  rcases List.mem_cons.mp hmem with heq | hmem
  · cases heq
    exact ha
  · exact hkept.attested c' a' hmem

/-- What a row that is seen does not have, no answer of the transaction has told. -/
theorem Kept.novel_of_not_holds {c : C} {a : A} (hkept : τ.Kept w h db)
    (hnew : ∀ fact, τ.marks c a = some fact → ¬fact.Holds (db.view w)) :
    ∀ older ∈ h, τ.Novel (c, .ok a) older := by
  rintro ⟨c', r⟩ hmem a' b fact ha hfact hb htells
  cases ha
  obtain rfl : r = .ok b := hb
  exact hnew fact hfact (htells _ (hkept.attested c' b hmem).1)

theorem Logged.cons_error {c : C} {e : ε} (hlogged : τ.Logged l db) :
    τ.Logged ((c, .error e) :: l) db := by
  refine ⟨fun c' a hmem ↦ ?_, .cons (fun older _ a b fact ha ↦ by cases ha) hlogged.novel⟩
  rcases List.mem_cons.mp hmem with heq | hmem
  · cases heq
  · exact hlogged.told c' a hmem

theorem Logged.advances (hτ : τ.Lawful rules) (hlogged : τ.Logged l db)
    (hadvances : Advances rules τ.places db.rows db'.rows) : τ.Logged l db' :=
  ⟨fun c a hmem ↦ hτ.tells_advances (hlogged.told c a hmem) hadvances, hlogged.novel⟩

theorem inv_empty : τ.Inv rules (.empty : Database W R L) := by
  refine ⟨consistent_empty, exclusive_empty, fun {k r} hr ↦ ?_, fun {w k r} hr ↦ ?_⟩
  · cases hr
  · cases hr

variable [DecidableEq W]

/-- A commit brings answers that mark only what no committed answer tells. -/
theorem Logged.commit (hτ : τ.Lawful rules) (hinv : τ.Inv rules db) (hlogged : τ.Logged l db)
    (hkept : τ.Kept w h db) : τ.Logged (h ++ l) (db.commit w) := by
  have hadvances := advances_view hinv.consistent hinv.exclusive w
  constructor
  · intro c a hmem
    rcases List.mem_append.mp hmem with hmem | hmem
    · exact (hkept.attested c a hmem).1
    · exact hτ.tells_advances (hlogged.told c a hmem) hadvances
  · refine List.pairwise_append.mpr ⟨hkept.novel, hlogged.novel, ?_⟩
    rintro ⟨c, r⟩ hmem ⟨c', r'⟩ hmem' a b fact ha hfact hb htells
    obtain rfl : r = .ok a := ha
    obtain rfl : r' = .ok b := hb
    exact ((hkept.attested c a hmem).2 fact hfact).2 (htells _ (hlogged.told c' b hmem'))

variable [DecidableEq L]

theorem Inv.moves (hτ : τ.Lawful rules) (hinv : τ.Inv rules db)
    (hmoves : rules.Moves w (τ.Good w) db db') : τ.Inv rules db' := by
  refine ⟨hinv.consistent.moves hmoves, ?_, ?_⟩
  · exact hinv.exclusive.moves hinv.consistent hτ.leaves (hmoves.imp fun _ _ ↦ And.left)
  · exact hinv.vetted.moves (hmoves.imp fun _ _ ↦ And.right)

theorem Inv.advances_rows (hτ : τ.Lawful rules) (hinv : τ.Inv rules db)
    (hmoves : rules.Moves w (τ.Good w) db db') : Advances rules τ.places db.rows db'.rows := by
  induction hmoves with
  | refl => exact .refl _
  | tail hmoves hmove ih =>
    have hinv' := hinv.moves hτ hmoves
    exact ih.trans hτ.leaves (advances_rows_move hinv'.consistent hinv'.exclusive hmove)

theorem Logged.moves (hτ : τ.Lawful rules) (hinv : τ.Inv rules db) (hlogged : τ.Logged l db)
    (hmoves : rules.Moves w (τ.Good w) db db') : τ.Logged l db' :=
  hlogged.advances hτ (hinv.advances_rows hτ hmoves)

/-- Only the calls remain to be verified. -/
theorem outline_valid {calls : Calls R L ε C A} (hτ : τ.Lawful rules)
    (hupholds : ∀ {w h} {db : Database W R L} {l} c, τ.Inv rules db → τ.Logged l db →
      τ.Kept w h db → (db.status w = .idle → h = []) →
      (calls.ownsTransaction c = true → db.status w = .idle) →
      (calls.program c).Upholds ((τ.outline rules).company rules w h)
        ((τ.outline rules).Ends w h c) (db, l)) :
    (τ.outline rules : Outline W R L ε C A).Valid rules calls where
  inv_empty := inv_empty
  inv_moves := Inv.moves hτ
  inv_tick _ hinv :=
    ⟨⟨hinv.consistent.locked, hinv.consistent.evolved, hinv.consistent.writer_open,
      hinv.consistent.advisory_open⟩,
      ⟨hinv.exclusive.claimed, hinv.exclusive.rows, hinv.exclusive.views,
        hinv.exclusive.guarded⟩, ⟨hinv.vetted.rows, hinv.vetted.writes⟩⟩
  rely_refl := Meanwhile.refl
  rely_trans h h' := h.trans hτ.leaves h'
  rely_moves hinv hne hmoves :=
    meanwhile_moves hinv.consistent hinv.exclusive hτ.leaves hne (hmoves.imp fun _ _ ↦ And.left)
  rely_tick _ _ _ _ :=
    ⟨⟨⟨rfl, rfl, fun _ ↦ Iff.rfl, fun _ ↦ Iff.rfl, fun _ _ ↦ rfl⟩, fun _ hk ↦ hk⟩, .refl _,
      fun _ _ _ ↦ rfl⟩
  rely_status h := h.status
  kept_nil _ _ := .nil
  kept_rely hkept hrely := hkept.meanwhile hτ hrely
  logged_nil := ⟨fun _ _ hmem ↦ absurd hmem List.not_mem_nil, .nil⟩
  logged_moves := Logged.moves hτ
  logged_tick _ hlogged := ⟨hlogged.told, hlogged.novel⟩
  commit hinv hlogged hkept _ := hlogged.commit hτ hinv hkept
  upholds := hupholds

/-- The committed rows advance from any state to a later one. -/
theorem advances_run {calls : Calls R L ε C A} (hτ : τ.Lawful rules)
    (hvalid : (τ.outline rules : Outline W R L ε C A).Valid rules calls)
    (events : List (W × Event C)) {s : System W R L ε C A} (h : (τ.outline rules).Sound rules s) :
    Advances rules τ.places s.database.rows (s.run rules calls events).database.rows :=
  Outline.run_database hvalid (fun db db' ↦ Advances rules τ.places db.rows db'.rows)
    (fun _ ↦ .refl _) (fun h h' ↦ h.trans hτ.leaves h') (fun hinv hmoves ↦
      Inv.advances_rows hτ hinv hmoves) (fun _ _ ↦ .refl _) events h

/-! ## The rules -/

section Ends

omit [DecidableEq W] [DecidableEq L]

/-- The postcondition admits every error. -/
def AdmitsErrors (τ : Testimony R L P C A) (w : W) (h : Answers ε C A)
    (Q : Except ε β → Database W R L × Answers ε C A → Prop) : Prop :=
  ∀ e s, τ.Kept w h s.1 → (s.1.status w = .idle → τ.Logged s.2 s.1) → Q (.error e) s

theorem admitsErrors_ends {c : C} : τ.AdmitsErrors w h ((τ.outline rules).Ends w h c) := by
  intro e s hkept hlogged
  rw [Outline.Ends]
  split_ifs with hidle
  · exact (hlogged hidle).cons_error
  · exact hkept.cons_error

theorem ends_ok {c : C} {a : A} {s : Database W R L × Answers ε C A}
    (hopen : s.1.status w ≠ .idle) (hkept : τ.Kept w h s.1) (ha : τ.Attests w c a s.1)
    (hnovel : ∀ older ∈ h, τ.Novel (c, .ok a) older) :
    (τ.outline rules).Ends w h c (.ok a) s := by
  rw [Outline.Ends, if_neg hopen]
  exact hkept.cons_ok ha hnovel

/-- An answer that marks nothing. -/
theorem attests_of_silent {c : C} {a : A} (hmarks : τ.marks c a = none)
    (htells : τ.tells c a (db.view w)) : τ.Attests w c a db :=
  ⟨htells, fun fact hfact ↦ by
    rw [hmarks] at hfact
    cases hfact⟩

theorem novel_of_silent {c : C} {a : A} {older : C × Except ε A} (hmarks : τ.marks c a = none) :
    τ.Novel (c, .ok a) older := by
  intro a' b fact ha hfact
  cases ha
  rw [hmarks] at hfact
  cases hfact

end Ends

variable {c : C} {Q : Except ε β → Database W R L × Answers ε C A → Prop}
  {s : Database W R L × Answers ε C A}

/-- A query in a transaction: it has to write what may be written, and if it is answered, it was
executed. -/
theorem upholds_query (hτ : τ.Lawful rules) {q : Query R L ε} {f : q.Ans → Routine R L ε β}
    (hkept : τ.Kept w h s.1) (hopen : s.1.status w ≠ .idle)
    (hadmits : τ.AdmitsErrors w h Q)
    (hquery : ∀ s' : Database W R L × Answers ε C A, Meanwhile rules τ.places w s.1 s'.1 →
      τ.Inv rules s'.1 → τ.Kept w h s'.1 →
      (∀ row, rules.written s'.1 w q = some row → τ.Good w s'.1 row) ∧
      ∀ a db, rules.run s'.1 w q = some (.ok a, db) → db.status w = .active → τ.Kept w h db →
        (f a).Upholds ((τ.outline rules).company rules w h) Q (db, s'.2)) :
    (query q >>= f).Upholds ((τ.outline rules).company rules w h) Q s := by
  refine Program.Upholds.perform_bind fun s' ⟨hmeanwhile, hinv, _⟩ r s'' ⟨hexec, hsame⟩ ↦ ?_
  obtain ⟨db, l⟩ := s''
  obtain rfl : l = s'.2 := hsame
  have hkept' := hkept.meanwhile hτ hmeanwhile
  have hopen' : s'.1.status w ≠ .idle := by
    rw [hmeanwhile.status]
    exact hopen
  obtain ⟨hgood, hnext⟩ := hquery s' hmeanwhile hinv hkept'
  have honward := onward_query hopen' hexec fun row hrow ↦ (hgood row hrow).1
  have hmoves : rules.Moves w (τ.Good w) s'.1 db := by
    refine hexec.moves fun q' db'' row hq hruns hrow ↦ ?_
    cases hq
    rcases hruns with ⟨-, rfl⟩ | ⟨hidle, -⟩
    · exact hgood row hrow
    · exact absurd hidle hopen'
  refine ⟨⟨hmoves, fun hkept ↦ hkept.onward hτ honward, fun hidle ↦
    absurd hidle honward.opened⟩, fun e _ ↦ ?_, fun a ha ↦ ?_⟩
  · exact hadmits e _ (hkept'.onward hτ honward) fun hidle ↦ absurd hidle honward.opened
  · subst ha
    obtain ⟨-, hrun, hactive⟩ := run_of_answer hopen' hexec
    exact hnext a db hrun hactive (hkept'.onward hτ honward)

/-- A query that commits by itself. -/
theorem upholds_single (hτ : τ.Lawful rules) {q : Query R L ε} {f : q.Ans → Routine R L ε β}
    (hidle : s.1.status w = .idle)
    (hgood : ∀ (db : Database W R L) row, rules.written db w q = some row → τ.Good w db row)
    (hadmits : τ.AdmitsErrors w [] Q)
    (hnext : ∀ a s', s'.1.status w = .idle → τ.Logged s'.2 s'.1 → (f a).Upholds
      ((τ.outline rules).company rules w []) Q s') :
    (query q >>= f).Upholds ((τ.outline rules).company rules w []) Q s := by
  refine Program.Upholds.perform_bind fun s' ⟨hmeanwhile, hinv, hlogged⟩ r s'' ⟨hexec, hsame⟩ ↦ ?_
  obtain ⟨db, l⟩ := s''
  obtain rfl : l = s'.2 := hsame
  have hidle' : s'.1.status w = .idle := hmeanwhile.status.trans hidle
  have hidle'' := status_of_idle hidle' hexec
  have hmoves : rules.Moves w (τ.Good w) s'.1 db := by
    refine hexec.moves fun q' db'' row hq _ hrow ↦ ?_
    cases hq
    exact hgood db'' row hrow
  have hlogged' := hlogged.moves hτ hinv hmoves
  exact ⟨⟨hmoves, fun _ ↦ .nil, fun _ ↦ rfl⟩, fun e _ ↦ hadmits e _ .nil fun _ ↦ hlogged',
    fun a _ ↦ hnext a _ hidle'' hlogged'⟩

theorem run_begin {r : Except ε Unit} (hidle : db.status w = .idle)
    (h : rules.Experiences db w .begin r db') :
    rules.Moves w (τ.Good w) db db' ∧ (r = .ok () → db'.status w = .active) := by
  have hbegin : rules.exec db w .begin = some (.ok (), db.begin w) := by
    rw [Rules.exec, if_pos hidle]
  have hmoves : rules.Moves w (τ.Good w) db (db.begin w) := .single (.begin hidle)
  rcases h with h | ⟨rfl, rfl | ⟨r', h⟩⟩
  · rw [hbegin] at h
    cases h
    exact ⟨hmoves, fun _ ↦ Function.update_self _ _ _⟩
  · exact ⟨.refl, fun h ↦ by cases h⟩
  · rw [hbegin] at h
    cases h
    exact ⟨hmoves, fun h ↦ by cases h⟩

/-- A transaction of a call: what its body attests, holds when it is committed. -/
theorem upholds_inTransaction (hτ : τ.Lawful rules) {body : Routine R L ε β}
    (answer : β → Except ε A) (hidle : s.1.status w = .idle)
    (hbody : ∀ s' : Database W R L × Answers ε C A, τ.Inv rules s'.1 →
      s'.1.status w ≠ .idle →
      body.Upholds ((τ.outline rules).company rules w ([] : Answers ε C A))
        (fun r s'' ↦ ∀ b, r = .ok b → s''.1.status w = .active ∧
          ∀ a, answer b = .ok a → τ.Attests w c a s''.1) s') :
    (inTransaction body >>= fun b ↦ (Program.orRaise (answer b) : Routine R L ε A)).Upholds
      ((τ.outline rules).company rules w []) ((τ.outline rules).Ends w [] c) s := by
  rw [inTransaction, bind_assoc]
  refine Program.Upholds.perform_bind fun s' ⟨hmeanwhile, hinv, hlogged⟩ r s'' ⟨hexec, hsame⟩ ↦ ?_
  obtain ⟨db, l⟩ := s''
  obtain rfl : l = s'.2 := hsame
  obtain ⟨hmoves, hactive⟩ := run_begin (hmeanwhile.status.trans hidle) hexec
  have hlogged' := hlogged.moves hτ hinv hmoves
  refine ⟨⟨hmoves, fun _ ↦ .nil, fun _ ↦ rfl⟩, fun e _ ↦ admitsErrors_ends _ _ .nil fun _ ↦ hlogged',
    fun a ha ↦ ?_⟩
  have hopen : db.status w ≠ .idle := by
    rw [hactive ha]
    decide
  rw [bind_assoc, Program.upholds_bind, Program.upholds_attempt]
  refine (hbody _ (hinv.moves hτ hmoves) hopen).imp ?_
  rintro (e | b) s'' hb
  · -- The body has raised, and its transaction is rolled back.
    show Program.Upholds _ ((statement .rollback >>= fun _ ↦ throw e) >>= _) _ s''
    rw [bind_assoc]
    refine Program.Upholds.perform_bind fun s₁ ⟨_, hinv, hlogged⟩ r s₂ ⟨hexec, hsame⟩ ↦ ?_
    obtain ⟨db₂, l⟩ := s₂
    obtain rfl : l = s₁.2 := hsame
    have hmoves : rules.Moves w (τ.Good w) s₁.1 db₂ := hexec.moves fun _ _ _ hq ↦ by cases hq
    have hlogged' := hlogged.moves hτ hinv hmoves
    exact ⟨⟨hmoves, fun _ ↦ .nil, fun _ ↦ rfl⟩, fun _ _ ↦ admitsErrors_ends _ _ .nil fun _ ↦ hlogged',
      fun _ _ ↦ admitsErrors_ends _ _ .nil fun _ ↦ hlogged'⟩
  · obtain ⟨hactive, hattests⟩ := hb b rfl
    show Program.Upholds _ ((statement .commit >>= fun _ ↦ pure b) >>= _) _ s''
    rw [bind_assoc]
    refine Program.Upholds.perform_bind
      fun s₁ ⟨hmeanwhile, hinv, hlogged⟩ r s₂ ⟨hexec, hsame⟩ ↦ ?_
    obtain ⟨db₂, l⟩ := s₂
    obtain rfl : l = s₁.2 := hsame
    have hmoves : rules.Moves w (τ.Good w) s₁.1 db₂ := hexec.moves fun _ _ _ hq ↦ by cases hq
    refine ⟨⟨hmoves, fun _ ↦ .nil, fun _ ↦ rfl⟩,
      fun _ _ ↦ admitsErrors_ends _ _ .nil fun _ ↦ hlogged.moves hτ hinv hmoves, fun a ha ↦ ?_⟩
    subst ha
    rcases hexec with hexec | ⟨hexec, -⟩
    · rw [Rules.exec, if_pos (hmeanwhile.status.trans hactive)] at hexec
      cases hexec
      have hidle : (s₁.1.commit w).status w = .idle := Function.update_self _ _ _
      show Program.Upholds _ (Program.orRaise (answer b)) _ (s₁.1.commit w, s₁.2)
      cases ha : answer b with
      | error e => exact admitsErrors_ends _ _ .nil fun _ ↦ hlogged.moves hτ hinv hmoves
      | ok a =>
        have hkept : τ.Kept w ([(c, .ok a)] : Answers ε C A) s₁.1 :=
          Kept.nil.cons_ok ((hattests a ha).meanwhile hτ hmeanwhile)
            fun _ hmem ↦ absurd hmem List.not_mem_nil
        show (τ.outline rules).Ends w [] c (.ok a) (s₁.1.commit w, s₁.2)
        rw [Outline.Ends, if_pos hidle]
        exact hlogged.commit hτ hinv hkept
    · cases hexec

end Testimony

end Transactions
