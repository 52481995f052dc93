import ThrevoActions.Approvals.Postgres

/-!
# The first decision wins

What holds of the table of approval requests however its workers interleave. A proposal has one
binding, which never changes, and a request one decision, which never changes either and matches
the binding. A call of `record_decision` takes effect when its transaction commits, as if it had run
there alone: it stores the first decision, returns the stored one to a decision of the same kind,
and refuses every other.

The invariant says where each worker stands (`Standing`). What carries it is the row lock: from the
`SELECT … FOR UPDATE` to the commit, nobody else writes the row.
-/

namespace ThrevoActions

namespace Approvals

/-! ## The table -/

namespace ApprovalRequests

variable {table : ApprovalRequests}

theorem mem_of_byReference {reference : SafeReference} {row : RequestRow}
    (h : table.byReference reference = some row) :
    row ∈ table.rows ∧ row.requestReference = reference :=
  ⟨List.mem_of_find?_eq_some h, by simpa using List.find?_some h⟩

theorem byReference_of_mem {row : RequestRow} (h : row ∈ table.rows) :
    table.byReference row.requestReference = some row := by
  cases hfound : table.byReference row.requestReference with
  | none =>
    have hnone := List.find?_eq_none.mp hfound row h
    simp at hnone
  | some other =>
    obtain ⟨hother, hreference⟩ := mem_of_byReference hfound
    rw [List.inj_on_of_nodup_map table.primaryKey hother h hreference]

theorem mem_of_byProposal {proposal : ProposalIdentity} {row : RequestRow}
    (h : table.byProposal proposal = some row) : row ∈ table.rows ∧ row.proposal = proposal :=
  ⟨List.mem_of_find?_eq_some h, by simpa using List.find?_some h⟩

/-- A proposal has one row. -/
theorem eq_of_proposal {row other : RequestRow} (h : row ∈ table.rows) (h' : other ∈ table.rows)
    (hproposal : row.proposal = other.proposal) : row = other :=
  List.inj_on_of_nodup_map table.unique h h' hproposal

theorem byProposal_of_mem {row : RequestRow} (h : row ∈ table.rows) :
    table.byProposal row.proposal = some row := by
  cases hfound : table.byProposal row.proposal with
  | none =>
    have hnone := List.find?_eq_none.mp hfound row h
    simp at hnone
  | some other =>
    obtain ⟨hother, hproposal⟩ := mem_of_byProposal hfound
    rw [eq_of_proposal hother h hproposal]

/-- An insertion adds the row, finds one for its proposal, or is refused by the primary key. -/
theorem insert_cases (table : ApprovalRequests) (row : RequestRow) :
    (∃ table', table.insert row = .ok (some table') ∧ table'.rows = row :: table.rows) ∨
      (table.insert row = .ok none ∧ ∃ other ∈ table.rows, other.proposal = row.proposal) ∨
      ∃ message, table.insert row = .error (.database message) := by
  rw [insert]
  split_ifs with hproposal hreference
  · exact Or.inr (Or.inl ⟨rfl, List.mem_map.mp hproposal⟩)
  · exact Or.inr (Or.inr ⟨_, rfl⟩)
  · exact Or.inl ⟨_, rfl, rfl⟩

/-- The rows of a decided table are those before, but for the one that was decided. -/
theorem mem_decide {reference : SafeReference} {data : JsonValue} {row : RequestRow} :
    row ∈ (table.decide reference data).rows ↔
      ∃ old ∈ table.rows, decideRow reference data old = row := List.mem_map

end ApprovalRequests

section Records

variable [ApprovalJson]

open ApprovalJson

/-- What is stored is read back. -/
structure Faithful : Prop where
  binding : ∀ b, parseBinding (dumpBinding b) = some b
  decision : ∀ d, parseDecision (dumpDecision d) = some d

theorem recordOf_eq_ok {row : RequestRow} {record : ApprovalRequestRecord} :
    recordOf row = .ok record ↔ parseBinding row.bindingData = some record.binding ∧
      (row.decisionData = none ∧ record.decision = none ∨
        ∃ data d, row.decisionData = some data ∧ parseDecision data = some d ∧
          record.decision = some d) := by
  have hvalidate : ∀ {binding decision}, record.binding = binding → record.decision = decision →
      ApprovalRequestRecord.validate binding decision = some record := by
    rintro binding decision rfl rfl
    obtain ⟨other, hother⟩ :=
      ApprovalRequestRecord.exists_validate.mpr record.decision_matches_binding
    obtain ⟨hbinding, hdecision⟩ := ApprovalRequestRecord.validate_eq_some hother
    rw [hother, ApprovalRequestRecord.ext' hbinding hdecision]
  rw [recordOf]
  constructor
  · intro h
    cases hbinding : parseBinding row.bindingData with
    | none =>
      rw [hbinding] at h
      cases h
    | some binding =>
      rw [hbinding] at h
      cases hdata : row.decisionData with
      | none =>
        rw [hdata] at h
        dsimp only at h
        cases hrecord : ApprovalRequestRecord.validate binding none with
        | none =>
          rw [hrecord] at h
          cases h
        | some other =>
          rw [hrecord] at h
          cases h
          obtain ⟨hb, hd⟩ := ApprovalRequestRecord.validate_eq_some hrecord
          exact ⟨congrArg some hb.symm, Or.inl ⟨rfl, hd⟩⟩
      | some data =>
        rw [hdata] at h
        dsimp only at h
        cases hdecision : parseDecision data with
        | none =>
          rw [hdecision] at h
          cases h
        | some d =>
          rw [hdecision] at h
          dsimp only at h
          cases hrecord : ApprovalRequestRecord.validate binding (some d) with
          | none =>
            rw [hrecord] at h
            cases h
          | some other =>
            rw [hrecord] at h
            cases h
            obtain ⟨hb, hd⟩ := ApprovalRequestRecord.validate_eq_some hrecord
            exact ⟨congrArg some hb.symm, Or.inr ⟨data, d, rfl, hdecision, hd⟩⟩
  · rintro ⟨hbinding, ⟨hdata, hdecision⟩ | ⟨data, d, hdata, hparse, hdecision⟩⟩
    · rw [hbinding, hdata]
      dsimp only
      rw [hvalidate rfl hdecision]
    · rw [hbinding, hdata]
      dsimp only
      rw [hparse]
      dsimp only
      rw [hvalidate rfl hdecision]

/-- The undecided row of a record is decided. -/
theorem recordOf_decideRow (hfaithful : Faithful) {row : RequestRow}
    {record decided : ApprovalRequestRecord} {d : ApprovalDecisionRecord}
    (hrecord : recordOf row = .ok record) (hbinding : decided.binding = record.binding)
    (hdecision : decided.decision = some d) :
    recordOf { row with decisionData := some (dumpDecision d) } = .ok decided := by
  rw [recordOf_eq_ok] at hrecord ⊢
  rw [hbinding]
  exact ⟨hrecord.1, Or.inr ⟨_, d, rfl, hfaithful.decision d, hdecision⟩⟩

/-! ## The invariant -/

/-- How a decision fares with the row it has locked: what is written, and what is answered. -/
inductive Settles (row : RequestRow) (d : ApprovalDecisionRecord) :
    Option JsonValue → Answer → Prop
  | mismatched {record : ApprovalRequestRecord} (hrecord : recordOf row = .ok record)
      (hmismatch : ¬MatchesBinding d.evidence record.binding) :
      Settles row d none
        (.error (.request "approval decision does not match the request binding"))
  | opposite {record : ApprovalRequestRecord} {stored : ApprovalDecisionRecord}
      (hrecord : recordOf row = .ok record) (hstored : record.decision = some stored)
      (hmatches : MatchesBinding d.evidence record.binding)
      (hopposite : stored.decision ≠ d.decision) :
      Settles row d none (.error (.request "approval request already has a decision"))
  | replayed {record : ApprovalRequestRecord} {stored : ApprovalDecisionRecord}
      (hrecord : recordOf row = .ok record) (hstored : record.decision = some stored)
      (hmatches : MatchesBinding d.evidence record.binding)
      (hsame : stored.decision = d.decision) : Settles row d none (.ok record)
  | accepted {record decided : ApprovalRequestRecord} (hrecord : recordOf row = .ok record)
      (hundecided : record.decision = none) (hbinding : decided.binding = record.binding)
      (hdecision : decided.decision = some d) :
      Settles row d (some (dumpDecision d)) (.ok decided)

/-- What is known of a worker from where it stands. -/
def Standing (s : System) (w : Worker) : Progress → Prop
  | .idle | .inserting _ | .locking _ _ => s.wrote w = false
  | .reading binding => ∃ row ∈ s.table.rows, row.proposal = binding.proposal ∧
      (s.wrote w = true → parseBinding row.bindingData = some binding)
  | .updating reference d decided => s.wrote w = false ∧ s.locks reference = some w ∧
      ∃ row ∈ s.table.rows, row.requestReference = reference ∧ ∃ record,
        recordOf row = .ok record ∧ record.decision = none ∧ decided.binding = record.binding ∧
          decided.decision = some d
  | .ending reference d pending answer => s.wrote w = false ∧ s.locks reference = some w ∧
      ∃ row ∈ s.table.rows, row.requestReference = reference ∧ Settles row d pending answer
  | .done _ _ => True

/-- Every row says a record of its own keys. -/
def Readable (table : ApprovalRequests) : Prop :=
  ∀ row ∈ table.rows, ∃ record, recordOf row = .ok record ∧
    record.binding.requestReference = row.requestReference ∧ record.binding.proposal = row.proposal

structure Invariant (s : System) : Prop where
  readable : Readable s.table
  standing : ∀ w, Standing s w (s.progress w)

/-- A later version of a row: the same keys, the same binding, and the same decision if it has one. -/
structure Keeps (row later : RequestRow) : Prop where
  requestReference : later.requestReference = row.requestReference
  proposal : later.proposal = row.proposal
  bindingData : later.bindingData = row.bindingData
  decisionData : row.decisionData.isSome → later.decisionData = row.decisionData

omit [ApprovalJson] in
theorem Keeps.refl (row : RequestRow) : Keeps row row := ⟨rfl, rfl, rfl, fun _ ↦ rfl⟩

/-- A step of `w` leaves the rows as they are, but for new versions of those `w` has locked. -/
def Frames (s s' : System) (w : Worker) : Prop :=
  (∀ v, v ≠ w → s'.progress v = s.progress v ∧ s'.wrote v = s.wrote v) ∧
    (∀ reference v, v ≠ w → s.locks reference = some v → s'.locks reference = some v) ∧
    ∀ row ∈ s.table.rows, row ∈ s'.table.rows ∨
      s.locks row.requestReference = some w ∧ ∃ later ∈ s'.table.rows, Keeps row later

/-- What is known of the other workers stays so. -/
theorem Frames.standing {s s' : System} {w v : Worker} (h : Frames s s' w) (hv : v ≠ w)
    (hstanding : Standing s v (s.progress v)) : Standing s' v (s'.progress v) := by
  obtain ⟨hothers, hlocks, hrows⟩ := h
  obtain ⟨hprogress, hwrote⟩ := hothers v hv
  have hlocked : ∀ {row : RequestRow}, row ∈ s.table.rows →
      s.locks row.requestReference = some v → row ∈ s'.table.rows := by
    intro row hrow hlock
    refine (hrows row hrow).resolve_right ?_
    rintro ⟨hlock', -⟩
    rw [hlock] at hlock'
    exact hv (Option.some.inj hlock')
  rw [hprogress]
  revert hstanding
  cases s.progress v with
  | idle | inserting | locking => exact fun hunwritten ↦ hwrote.trans hunwritten
  | done => exact id
  | reading binding =>
    rintro ⟨row, hrow, hproposal, hbinding⟩
    rcases hrows row hrow with hrow' | ⟨-, later, hlater, hkeeps⟩
    · exact ⟨row, hrow', hproposal, fun hw ↦ hbinding (hwrote ▸ hw)⟩
    · refine ⟨later, hlater, hkeeps.proposal.trans hproposal, fun hw ↦ ?_⟩
      rw [hkeeps.bindingData]
      exact hbinding (hwrote ▸ hw)
  | updating reference d decided =>
    rintro ⟨hunwritten, hlock, row, hrow, rfl, hrest⟩
    exact ⟨hwrote.trans hunwritten, hlocks _ v hv hlock, row, hlocked hrow hlock, rfl, hrest⟩
  | ending reference d pending answer =>
    rintro ⟨hunwritten, hlock, row, hrow, rfl, hrest⟩
    exact ⟨hwrote.trans hunwritten, hlocks _ v hv hlock, row, hlocked hrow hlock, rfl, hrest⟩

/-! ## One step -/

variable {s : System} {w : Worker}

omit [ApprovalJson] in
theorem Frames.move (s : System) (w : Worker) (progress : Progress) :
    Frames s (s.move w progress) w :=
  ⟨fun _ hv ↦ ⟨System.move_progress_of_ne hv, rfl⟩, fun _ _ _ hlock ↦ hlock,
    fun _ hrow ↦ Or.inl hrow⟩

omit [ApprovalJson] in
theorem Frames.refl (s : System) (w : Worker) : Frames s s w :=
  ⟨fun _ _ ↦ ⟨rfl, rfl⟩, fun _ _ _ hlock ↦ hlock, fun _ hrow ↦ Or.inl hrow⟩

omit [ApprovalJson] in
/-- Moving on does not matter for the others. -/
theorem Frames.and_move {s' : System} (h : Frames s s' w) (progress : Progress) :
    Frames s (s'.move w progress) w :=
  ⟨fun v hv ↦ ⟨(System.move_progress_of_ne hv).trans (h.1 v hv).1, (h.1 v hv).2⟩, h.2.1, h.2.2⟩

omit [ApprovalJson] in
/-- A lock that nobody else holds is taken or released. -/
theorem Frames.lock {reference : SafeReference} {holder : Option Worker}
    (h : ∀ v, v ≠ w → s.locks reference ≠ some v) : Frames s (s.lock reference holder) w := by
  refine ⟨fun _ _ ↦ ⟨rfl, rfl⟩, fun other v hv hlock ↦ ?_, fun _ hrow ↦ Or.inl hrow⟩
  by_cases hother : other = reference
  · exact absurd (hother ▸ hlock) (h v hv)
  · rwa [System.lock_locks_of_ne hother]

/-- Where a worker is stays known when another field changes. -/
theorem Invariant.of_frames {s' : System} (h : Invariant s) (hframes : Frames s s' w)
    (hreadable : Readable s'.table) (hstanding : Standing s' w (s'.progress w)) : Invariant s' := by
  refine ⟨hreadable, fun v ↦ ?_⟩
  by_cases hv : v = w
  · rw [hv]
    exact hstanding
  · exact hframes.standing hv (h.standing v)

omit [ApprovalJson] in
theorem Frames.start (s : System) (w : Worker) (call : Call) : Frames s (s.start w call) w := by
  have hreset : Frames s { s with wrote := Function.update s.wrote w false } w :=
    ⟨fun v hv ↦ ⟨rfl, Function.update_of_ne hv _ _⟩, fun _ _ _ hlock ↦ hlock,
      fun _ hrow ↦ Or.inl hrow⟩
  rw [System.start]
  split
  · cases call with
    | create binding => exact hreset.and_move _
    | recordDecision reference d => exact hreset.and_move _
  · cases call with
    | create binding => exact hreset.and_move _
    | recordDecision reference d => exact hreset.and_move _
  · exact .refl s w

omit [ApprovalJson] in
theorem System.start_table (s : System) (w : Worker) (call : Call) :
    (s.start w call).table = s.table := by
  rw [System.start]
  split
  · cases call <;> rfl
  · cases call <;> rfl
  · rfl

theorem Invariant.start (h : Invariant s) (w : Worker) (call : Call) :
    Invariant (s.start w call) := by
  refine h.of_frames (.start s w call) ?_ ?_
  · rw [System.start_table]
    exact h.readable
  · have hstanding := h.standing w
    rw [System.start]
    split
    · cases call <;> rw [System.move_progress_self] <;> exact Function.update_self _ _ _
    · cases call <;> rw [System.move_progress_self] <;> exact Function.update_self _ _ _
    · exact hstanding

omit [ApprovalJson] in
/-- The lock of an open transaction is nobody else's. -/
theorem not_locked_by {reference : SafeReference} (h : s.locks reference = some w) :
    ∀ v, v ≠ w → s.locks reference ≠ some v := by
  intro v hv hlock
  rw [h] at hlock
  exact hv (Option.some.inj hlock).symm

omit [ApprovalJson] in
theorem System.cancel_table (s : System) (w : Worker) : (s.cancel w).table = s.table := by
  rw [System.cancel]
  split <;> rfl

/-- A cancelled worker lets go of its lock and answers. -/
theorem Invariant.cancel_spec (h : Invariant s) (w : Worker) :
    Frames s (s.cancel w) w ∧ Standing (s.cancel w) w ((s.cancel w).progress w) := by
  have hstanding := h.standing w
  rw [System.cancel]
  cases hprogress : s.progress w with
  | idle => exact ⟨.refl s w, hstanding⟩
  | done => exact ⟨.refl s w, hstanding⟩
  | inserting | reading | locking =>
    refine ⟨.move s w _, ?_⟩
    rw [System.move_progress_self]
    trivial
  | updating | ending =>
    rw [hprogress] at hstanding
    refine ⟨(Frames.lock (not_locked_by hstanding.2.1)).and_move _, ?_⟩
    rw [System.move_progress_self]
    trivial

theorem Invariant.cancel (h : Invariant s) (w : Worker) : Invariant (s.cancel w) := by
  obtain ⟨hframes, hstanding⟩ := h.cancel_spec w
  refine h.of_frames hframes ?_ hstanding
  rw [System.cancel_table]
  exact h.readable

/-- **What a transaction finds in the row it has locked.** -/
theorem afterLock_standing {row : RequestRow} {record : ApprovalRequestRecord}
    (reference : SafeReference) (hrecord : recordOf row = .ok record)
    (d : ApprovalDecisionRecord) :
    (∃ pending answer, afterLock reference d row = .ending reference d pending answer ∧
        Settles row d pending answer) ∨
      ∃ decided, afterLock reference d row = .updating reference d decided ∧
        record.decision = none ∧ decided.binding = record.binding ∧ decided.decision = some d := by
  have hmatches_iff : (∃ decided, ApprovalRequestRecord.validate record.binding (some d) =
      some decided) ↔ MatchesBinding d.evidence record.binding := by
    rw [ApprovalRequestRecord.exists_validate]
    exact ⟨fun hall ↦ hall d rfl, fun hmatches other hother ↦ Option.mem_some.mp hother ▸ hmatches⟩
  rw [afterLock, hrecord]
  dsimp only
  cases hvalidate : ApprovalRequestRecord.validate record.binding (some d) with
  | none =>
    refine Or.inl ⟨_, _, rfl, .mismatched hrecord fun hmatches ↦ ?_⟩
    obtain ⟨decided, hdecided⟩ := hmatches_iff.mpr hmatches
    rw [hvalidate] at hdecided
    cases hdecided
  | some decided =>
    have hmatches := hmatches_iff.mp ⟨decided, hvalidate⟩
    cases hstored : record.decision with
    | none =>
      obtain ⟨hbinding, hdecision⟩ := ApprovalRequestRecord.validate_eq_some hvalidate
      exact Or.inr ⟨decided, rfl, rfl, hbinding, hdecision⟩
    | some stored =>
      by_cases hsame : stored.decision = d.decision
      · refine Or.inl ⟨none, .ok record, ?_, .replayed hrecord hstored hmatches hsame⟩
        exact if_neg (not_not.mpr hsame)
      · refine Or.inl ⟨none, _, ?_, .opposite hrecord hstored hmatches hsame⟩
        exact if_pos hsame

/-- The `UPDATE` of an undecided row writes the decision. -/
theorem afterUpdate_accepted {row : RequestRow} (hrow : row ∈ s.table.rows)
    (hundecided : row.decisionData = none) (d : ApprovalDecisionRecord)
    (decided : ApprovalRequestRecord) :
    afterUpdate s.table row.requestReference d decided =
      .ending row.requestReference d (some (dumpDecision d)) (.ok decided) := by
  rw [afterUpdate, ApprovalRequests.byReference_of_mem hrow]
  dsimp only
  rw [if_pos hundecided, enforceApprovalRequestUpdate, if_neg (by simp), if_neg (by simp [hundecided])]

theorem decisionData_eq_none {row : RequestRow} {record : ApprovalRequestRecord}
    (hrecord : recordOf row = .ok record) (hundecided : record.decision = none) :
    row.decisionData = none := by
  rcases (recordOf_eq_ok.mp hrecord).2 with ⟨hnone, -⟩ | ⟨data, d, -, -, hsome⟩
  · exact hnone
  · rw [hundecided] at hsome
    cases hsome

theorem recordOf_newRow (hfaithful : Faithful) (binding : ApprovalRequestBinding) :
    ∃ record, recordOf (newRow binding) = .ok record ∧ record.binding = binding := by
  obtain ⟨record, hrecord⟩ : ∃ record, ApprovalRequestRecord.validate binding none = some record :=
    ApprovalRequestRecord.exists_validate.mpr fun d hd ↦ absurd hd (Option.not_mem_none _)
  obtain ⟨hbinding, hdecision⟩ := ApprovalRequestRecord.validate_eq_some hrecord
  refine ⟨record, recordOf_eq_ok.mpr ⟨?_, Or.inl ⟨rfl, hdecision⟩⟩, hbinding⟩
  rw [hbinding]
  exact hfaithful.binding binding

/-- The commit of a first decision. -/
theorem decided_row (hfaithful : Faithful) {row : RequestRow} (hrow : row ∈ s.table.rows)
    {record decided : ApprovalRequestRecord} {d : ApprovalDecisionRecord}
    (hrecord : recordOf row = .ok record) (hbinding : decided.binding = record.binding)
    (hdecision : decided.decision = some d) :
    ∃ later ∈ (s.table.decide row.requestReference (dumpDecision d)).rows,
      later.requestReference = row.requestReference ∧ later.proposal = row.proposal ∧
        recordOf later = .ok decided :=
  ⟨_, ApprovalRequests.mem_decide.mpr ⟨row, hrow, if_pos rfl⟩, rfl, rfl,
    recordOf_decideRow hfaithful hrecord hbinding hdecision⟩

omit [ApprovalJson] in
/-- The other rows, and the keys and the binding of the decided one, stay as they are. -/
theorem decide_keeps {row : RequestRow} (hrow : row ∈ s.table.rows)
    (hundecided : row.decisionData = none) (data : JsonValue) {other : RequestRow}
    (hother : other ∈ s.table.rows) :
    other ∈ (s.table.decide row.requestReference data).rows ∨
      other = row ∧ ∃ later ∈ (s.table.decide row.requestReference data).rows, Keeps other later := by
  by_cases hreference : other.requestReference = row.requestReference
  · have hsame : other = row :=
      List.inj_on_of_nodup_map s.table.primaryKey hother hrow hreference
    refine Or.inr ⟨hsame, _, ApprovalRequests.mem_decide.mpr ⟨other, hother, if_pos hreference⟩,
      rfl, rfl, rfl, fun hsome ↦ ?_⟩
    rw [hsame, hundecided] at hsome
    cases hsome
  · exact Or.inl (ApprovalRequests.mem_decide.mpr ⟨other, hother, if_neg hreference⟩)

theorem Readable.decide (hreadable : Readable s.table) (hfaithful : Faithful) {row : RequestRow}
    (hrow : row ∈ s.table.rows) {record decided : ApprovalRequestRecord}
    {d : ApprovalDecisionRecord} (hrecord : recordOf row = .ok record)
    (hbinding : decided.binding = record.binding) (hdecision : decided.decision = some d) :
    Readable (s.table.decide row.requestReference (dumpDecision d)) := by
  intro later hlater
  obtain ⟨old, hold, rfl⟩ := ApprovalRequests.mem_decide.mp hlater
  obtain ⟨oldRecord, holdRecord, hreference, hproposal⟩ := hreadable old hold
  rw [ApprovalRequests.decideRow]
  split_ifs with hkey
  · have hsame : old = row := List.inj_on_of_nodup_map s.table.primaryKey hold hrow hkey
    subst hsame
    rw [holdRecord] at hrecord
    cases hrecord
    refine ⟨decided, recordOf_decideRow hfaithful holdRecord hbinding hdecision, ?_, ?_⟩
    · rw [hbinding]
      exact hreference
    · rw [hbinding]
      exact hproposal
  · exact ⟨oldRecord, holdRecord, hreference, hproposal⟩

/-- The statements a worker may perform next, with what they do. -/
inductive Advance (s : System) (w : Worker) : System → Prop
  /-- It runs no call, or waits for a lock. -/
  | stays : Advance s w s
  | refused {binding : ApprovalRequestBinding} (hprogress : s.progress w = .inserting binding)
      (message : String) :
      Advance s w (s.move w (.done (.create binding) (.error (.database message))))
  | present {binding : ApprovalRequestBinding} (hprogress : s.progress w = .inserting binding)
      {row : RequestRow} (hrow : row ∈ s.table.rows) (hproposal : row.proposal = binding.proposal) :
      Advance s w (s.move w (.reading binding))
  | inserted {binding : ApprovalRequestBinding} (hprogress : s.progress w = .inserting binding)
      {table : ApprovalRequests} (hrows : table.rows = newRow binding :: s.table.rows) :
      Advance s w ((s.commit w table).move w (.reading binding))
  | read {binding : ApprovalRequestBinding} (hprogress : s.progress w = .reading binding) :
      Advance s w (s.move w (.done (.create binding) (createAnswer s.table binding)))
  | missing {reference : SafeReference} {d : ApprovalDecisionRecord}
      (hprogress : s.progress w = .locking reference d)
      (hmissing : s.table.byReference reference = none) :
      Advance s w (s.move w (.done (.recordDecision reference d)
        (.error (.request "approval request is unavailable"))))
  | locked {reference : SafeReference} {d : ApprovalDecisionRecord}
      (hprogress : s.progress w = .locking reference d) {row : RequestRow}
      (hfound : s.table.byReference reference = some row) (hfree : s.locks reference = none) :
      Advance s w ((s.lock reference (some w)).move w (afterLock reference d row))
  | updated {reference : SafeReference} {d : ApprovalDecisionRecord}
      {decided : ApprovalRequestRecord} (hprogress : s.progress w = .updating reference d decided) :
      Advance s w (s.move w (afterUpdate s.table reference d decided))
  | released {reference : SafeReference} {d : ApprovalDecisionRecord} {answer : Answer}
      (hprogress : s.progress w = .ending reference d none answer) :
      Advance s w ((s.lock reference none).move w (.done (.recordDecision reference d) answer))
  | decided {reference : SafeReference} {d : ApprovalDecisionRecord} {data : JsonValue}
      {answer : Answer} (hprogress : s.progress w = .ending reference d (some data) answer) :
      Advance s w (((s.lock reference none).move w (.done (.recordDecision reference d) answer)).commit
        w (s.table.decide reference data))

theorem System.advance_spec (s : System) (w : Worker) : Advance s w (s.advance w) := by
  rw [System.advance]
  cases hprogress : s.progress w with
  | idle => exact .stays
  | done => exact .stays
  | inserting binding =>
    dsimp only
    rcases ApprovalRequests.insert_cases s.table (newRow binding) with
      ⟨table, hinsert, hrows⟩ | ⟨hinsert, row, hrow, hproposal⟩ | ⟨message, hinsert⟩
    · rw [hinsert]
      exact .inserted hprogress hrows
    · rw [hinsert]
      exact .present hprogress hrow hproposal
    · rw [hinsert]
      exact .refused hprogress message
  | reading binding => exact .read hprogress
  | locking reference d =>
    dsimp only
    cases hfound : s.table.byReference reference with
    | none => exact .missing hprogress hfound
    | some row =>
      dsimp only
      cases hlock : s.locks reference with
      | some _ => exact .stays
      | none => exact .locked hprogress hfound hlock
  | updating reference d decided => exact .updated hprogress
  | ending reference d pending answer =>
    cases pending with
    | none => exact .released hprogress
    | some data => exact .decided hprogress

/-- **What a statement does to the others, to the table and to its worker.** -/
theorem Advance.spec (hfaithful : Faithful) (h : Invariant s) {s' : System}
    (hadvance : Advance s w s') :
    Frames s s' w ∧ Readable s'.table ∧ Standing s' w (s'.progress w) := by
  have hstanding := h.standing w
  cases hadvance with
  | stays => exact ⟨.refl s w, h.readable, hstanding⟩
  | refused | read | missing =>
    refine ⟨.move s w _, h.readable, ?_⟩
    rw [System.move_progress_self]
    trivial
  | present hprogress hrow hproposal =>
    rw [hprogress] at hstanding
    refine ⟨.move s w _, h.readable, ?_⟩
    rw [System.move_progress_self]
    refine ⟨_, hrow, hproposal, fun hwrote ↦ ?_⟩
    rw [System.move_wrote, hstanding] at hwrote
    cases hwrote
  | @inserted binding hprogress table hrows =>
    obtain ⟨record, hrecord, hbinding⟩ := recordOf_newRow hfaithful binding
    have hframes : Frames s (s.commit w table) w :=
      ⟨fun v hv ↦ ⟨rfl, System.commit_wrote_of_ne hv⟩, fun _ _ _ hlock ↦ hlock,
        fun row hrow ↦ Or.inl (by
          rw [System.commit_table, hrows]
          exact List.mem_cons_of_mem _ hrow)⟩
    refine ⟨hframes.and_move _, ?_, ?_⟩
    · intro row hrow
      rw [System.move_table, System.commit_table, hrows] at hrow
      rcases List.mem_cons.mp hrow with rfl | hrow
      · refine ⟨record, hrecord, ?_, ?_⟩ <;> rw [hbinding] <;> rfl
      · exact h.readable row hrow
    · rw [System.move_progress_self]
      refine ⟨newRow binding, ?_, rfl, fun _ ↦ hfaithful.binding binding⟩
      rw [System.move_table, System.commit_table, hrows]
      exact List.mem_cons_self
  | @locked reference d hprogress row hfound hfree =>
    rw [hprogress] at hstanding
    obtain ⟨hrow, hreference⟩ := ApprovalRequests.mem_of_byReference hfound
    obtain ⟨record, hrecord, -, -⟩ := h.readable row hrow
    have hunheld : ∀ v, v ≠ w → s.locks reference ≠ some v := by
      intro v _ hheld
      rw [hfree] at hheld
      cases hheld
    refine ⟨(Frames.lock hunheld).and_move _, h.readable, ?_⟩
    rw [System.move_progress_self]
    rcases afterLock_standing reference hrecord d with
      ⟨pending, answer, hafter, hsettles⟩ | ⟨decided, hafter, hundecided, hbinding, hdecision⟩
    · rw [hafter]
      exact ⟨hstanding, System.lock_locks_self _ _ _, row, hrow, hreference, hsettles⟩
    · rw [hafter]
      exact ⟨hstanding, System.lock_locks_self _ _ _, row, hrow, hreference, record, hrecord,
        hundecided, hbinding, hdecision⟩
  | updated hprogress =>
    rw [hprogress] at hstanding
    obtain ⟨hunwritten, hlock, row, hrow, rfl, record, hrecord, hundecided, hbinding, hdecision⟩ :=
      hstanding
    refine ⟨.move s w _, h.readable, ?_⟩
    rw [System.move_progress_self,
      afterUpdate_accepted hrow (decisionData_eq_none hrecord hundecided)]
    exact ⟨hunwritten, hlock, row, hrow, rfl, .accepted hrecord hundecided hbinding hdecision⟩
  | released hprogress =>
    rw [hprogress] at hstanding
    refine ⟨(Frames.lock (not_locked_by hstanding.2.1)).and_move _, h.readable, ?_⟩
    rw [System.move_progress_self]
    trivial
  | decided hprogress =>
    rw [hprogress] at hstanding
    obtain ⟨-, hlock, row, hrow, rfl, hsettles⟩ := hstanding
    cases hsettles with
    | @accepted record decided hrecord hundecided hbinding hdecision =>
      have hreleased : Frames s (s.lock row.requestReference none) w :=
        Frames.lock (not_locked_by hlock)
      refine ⟨⟨fun v hv ↦ ⟨System.move_progress_of_ne hv, System.commit_wrote_of_ne hv⟩,
        hreleased.2.1, fun other hother ↦ ?_⟩,
        h.readable.decide hfaithful hrow hrecord hbinding hdecision, ?_⟩
      · refine (decide_keeps hrow (decisionData_eq_none hrecord hundecided) _ hother).imp_right ?_
        rintro ⟨rfl, hlater⟩
        exact ⟨hlock, hlater⟩
      · rw [System.commit_progress, System.move_progress_self]
        trivial

theorem Invariant.advance (hfaithful : Faithful) (h : Invariant s) (w : Worker) :
    Invariant (s.advance w) := by
  obtain ⟨hframes, hreadable, hstanding⟩ := (s.advance_spec w).spec hfaithful h
  exact h.of_frames hframes hreadable hstanding

theorem Invariant.empty : Invariant System.empty :=
  ⟨fun _ hrow ↦ absurd hrow List.not_mem_nil, fun _ ↦ rfl⟩

theorem Invariant.step (hfaithful : Faithful) (h : Invariant s) (w : Worker) (event : Event) :
    Invariant (s.step w event) := by
  cases event with
  | start call => exact h.start w call
  | advance => exact h.advance hfaithful w
  | cancel => exact h.cancel w

/-- **The invariant holds after every interleaving.** -/
theorem Invariant.run (hfaithful : Faithful) (h : Invariant s) (events : List (Worker × Event)) :
    Invariant (s.run events) := by
  induction events generalizing s with
  | nil => exact h
  | cons event events ih => exact ih (h.step hfaithful event.1 event.2)

end Records

end Approvals

end ThrevoActions
