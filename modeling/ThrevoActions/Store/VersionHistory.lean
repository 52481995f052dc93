import ThrevoActions.Store.Retention

/-!
# The versions of a proposal

Whatever calls a store receives, the records it files under one key are a history of versions: each
has the next revision and the identity of the one before, follows it by an allowed status change,
and extends its evidence and its receipts unless it is a tombstone (`NextVersion`). A call that is
not accepted changes nothing at all (`Refused`).

A revision therefore names one version of a proposal. A write accepted at an expected revision
replaces the very version that was read there, and nothing was written in between.
-/

namespace ThrevoActions

/-! ## Successive versions -/

/-- `updated` is the version after `current`. -/
structure NextVersion (current updated : StoredProposal) : Prop where
  revision : updated.revision = current.revision + 1
  identity : updated.identity = current.identity
  evidence : updated.erasedAt = none → current.authorityEvidence <+: updated.authorityEvidence
  receipts : updated.erasedAt = none → current.receipts <+: updated.receipts
  status : updated.lifecycleStatus = current.lifecycleStatus ∨
    updated.lifecycleStatus ∈ allowedLifecycleTransitions current.lifecycleStatus

theorem AcceptedUpdate.nextVersion {current updated : StoredProposal}
    (h : AcceptedUpdate current updated) : NextVersion current updated :=
  ⟨h.revision, h.identity.symm, h.evidence, h.receipts, h.status⟩

namespace MemoryActionStore

variable {store : MemoryActionStore}

theorem Succeeds.nextVersion {call : Call} {current updated : StoredProposal}
    (h : Succeeds call current updated) : NextVersion current updated := by
  cases h with
  | written _ haccepted => exact haccepted.nextVersion
  | admitted _ haccepted => exact haccepted.nextVersion
  | marked =>
    exact ⟨rfl, rfl, fun _ ↦ List.prefix_rfl, fun _ ↦ List.prefix_rfl, Or.inl rfl⟩
  | @erased args _ _ _ =>
    -- a tombstone owes its predecessor nothing
    have htombstone : (erasedProposal current args.timestamp).erasedAt ≠ none :=
      Option.some_ne_none _
    exact ⟨rfl, rfl, fun hnone ↦ absurd hnone htombstone, fun hnone ↦ absurd hnone htombstone,
      Or.inl rfl⟩

/-- **One call keeps a version or files the next one.** -/
theorem after_nextVersion (h : EffectsOwned store) (call : Call) {key : ProposalKey}
    {current : StoredProposal} (hcurrent : store.proposals key = some current) :
    ∃ updated, (store.after call).proposals key = some updated ∧
      (updated = current ∨ NextVersion current updated) := by
  rcases after_cases h call key with hsame | ⟨hnone, -⟩ |
    ⟨current', updated, hcurrent', hupdated, hsucceeds⟩
  · exact ⟨current, hsame.trans hcurrent, Or.inl rfl⟩
  · rw [hcurrent] at hnone
    cases hnone
  · rw [hcurrent] at hcurrent'
    cases hcurrent'
    exact ⟨updated, hupdated, Or.inr hsucceeds.nextVersion⟩

/-! ## Calls that are not accepted -/

/-- The call raises, returns `False` or refuses the admission. -/
def Refused (store : MemoryActionStore) : Call → Prop
  | .create proposal => ∃ e, (store.create proposal).1 = .error e
  | .compareAndSet args =>
    (∃ e, (store.compareAndSet args).1 = .error e) ∨ (store.compareAndSet args).1 = .ok false
  | .admitExecution args =>
    (∃ e, (store.admitExecution args).1 = .error e) ∨
      ∃ result, (store.admitExecution args).1 = .ok result ∧ result.admits = false
  | .markErasurePending args => (store.markErasurePending args).1 = false
  | .completeErasure args => (store.completeErasure args).1 = false

/-- **A call that is not accepted leaves all proposals and all effect claims as they were.** -/
theorem Refused.after {call : Call} (h : store.Refused call) : store.after call = store := by
  cases call with
  | create proposal =>
    rcases create_cases store proposal with ⟨hsame, -⟩ | ⟨hresult, -, -⟩
    · exact hsame
    · obtain ⟨e, he⟩ := h
      rw [hresult] at he
      cases he
  | compareAndSet args =>
    rcases compareAndSet_cases store args with ⟨hsame, -⟩ | ⟨current, happlied⟩
    · exact hsame
    · rw [Refused, happlied.result] at h
      rcases h with ⟨e, he⟩ | hfalse
      · cases he
      · cases hfalse
  | admitExecution args =>
    rcases admitExecution_cases store args with ⟨hsame, -⟩ | ⟨current, result, hok, hadmits, -⟩
    · exact hsame
    · rw [Refused, hok] at h
      rcases h with ⟨e, he⟩ | ⟨result', hok', hrefuses⟩
      · cases he
      · cases hok'
        rw [hadmits] at hrefuses
        cases hrefuses
  | markErasurePending args =>
    rcases markErasurePending_cases store args with hsame | ⟨current, -, -, -, -, -, hresult⟩
    · exact hsame
    · rw [Refused, hresult] at h
      cases h
  | completeErasure args =>
    rcases completeErasure_cases store args with hsame | ⟨current, -, -, -, -, hresult⟩
    · exact hsame
    · rw [Refused, hresult] at h
      cases h

/-! ## Expected revisions -/

/-- The key and the revision at which a call expects to find the record it replaces. -/
def Call.expected : Call → Option (ProposalKey × ℕ)
  | .create _ => none
  | .compareAndSet args => some ((args.tenantReference, args.proposalReference), args.expectedRevision)
  | .admitExecution args =>
    some ((args.tenantReference, args.proposalReference), args.expectedRevision)
  | .markErasurePending args | .completeErasure args =>
    some ((args.tenantReference, args.proposalReference), args.expectedRevision)

/-- An accepted call finds the revision it expects. -/
theorem found_of_accepted {call : Call} (haccepted : ¬store.Refused call) {key : ProposalKey}
    {revision : ℕ} (hexpected : call.expected = some (key, revision)) :
    ∃ current, store.proposals key = some current ∧ current.revision = revision := by
  cases call with
  | create proposal => cases hexpected
  | compareAndSet args =>
    cases hexpected
    rcases compareAndSet_cases store args with ⟨-, hresult⟩ | ⟨current, happlied⟩
    · refine absurd ?_ haccepted
      rw [Refused]
      cases hanswer : (store.compareAndSet args).1 with
      | error e => exact Or.inl ⟨e, rfl⟩
      | ok b =>
        cases b with
        | false => exact Or.inr rfl
        | true => exact absurd hanswer hresult
    · exact ⟨current, happlied.found, happlied.revision⟩
  | admitExecution args =>
    cases hexpected
    rcases admitExecution_cases store args with ⟨-, hresult⟩ | ⟨current, result, -, -, happlied⟩
    · refine absurd ?_ haccepted
      rw [Refused]
      cases hanswer : (store.admitExecution args).1 with
      | error e => exact Or.inl ⟨e, rfl⟩
      | ok result => exact Or.inr ⟨result, rfl, hresult result hanswer⟩
    · exact ⟨current, happlied.found, happlied.revision⟩
  | markErasurePending args =>
    cases hexpected
    rw [Refused, markErasurePending] at haccepted
    cases hfound : store.proposals (args.tenantReference, args.proposalReference) with
    | none => simp [hfound] at haccepted
    | some current =>
      refine ⟨current, rfl, ?_⟩
      by_contra hne
      simp [hfound, hne] at haccepted
  | completeErasure args =>
    cases hexpected
    rw [Refused, completeErasure] at haccepted
    cases hfound : store.proposals (args.tenantReference, args.proposalReference) with
    | none => simp [hfound] at haccepted
    | some current =>
      refine ⟨current, rfl, ?_⟩
      by_contra hne
      simp [hfound, hne] at haccepted

/-! ## Runs -/

/-- Revisions never decrease, and where the revision is the same nothing was written. -/
theorem run_nextVersion (h : EffectsOwned store) (calls : List Call) {key : ProposalKey}
    {record : StoredProposal} (hrecord : store.proposals key = some record) :
    ∃ later, (store.run calls).proposals key = some later ∧ record.revision ≤ later.revision ∧
      (later.revision = record.revision →
        ∀ front, front <+: calls → (store.run front).proposals key = some record) := by
  induction calls generalizing store record with
  | nil =>
    refine ⟨record, hrecord, le_rfl, fun _ front hfront ↦ ?_⟩
    rw [List.prefix_nil.mp hfront]
    exact hrecord
  | cons call calls ih =>
    obtain ⟨next, hnext, hversion⟩ := after_nextVersion h call hrecord
    obtain ⟨later, hlater, hle, hunwritten⟩ := ih (h.after call) hnext
    rcases hversion with rfl | hversion
    · refine ⟨later, hlater, hle, fun heq front hfront ↦ ?_⟩
      rcases List.prefix_cons_iff.mp hfront with rfl | ⟨front', rfl, hfront'⟩
      · exact hrecord
      · exact hunwritten heq front' hfront'
    · have hrevision := hversion.revision
      exact ⟨later, hlater, by omega, fun heq ↦ by omega⟩

/-- **The store keeps version histories.** After any calls on a fresh store, the next call keeps
every proposal or files its next version; it changes nothing if it is not accepted; and if it is
accepted at an expected revision, the version read with that revision stood unchanged ever since. -/
theorem run_versionHistory (calls : List Call) (call : Call) :
    (∀ key current, (empty.run calls).proposals key = some current →
      ∃ updated, ((empty.run calls).after call).proposals key = some updated ∧
        (updated = current ∨ NextVersion current updated)) ∧
    ((empty.run calls).Refused call → (empty.run calls).after call = empty.run calls) ∧
    ∀ key revision, call.expected = some (key, revision) → ¬(empty.run calls).Refused call →
      ∀ before since, calls = before ++ since → ∀ read, (empty.run before).proposals key = some read →
        read.revision = revision → ∀ front, front <+: since →
          (empty.run (before ++ front)).proposals key = some read := by
  refine ⟨fun key current hcurrent ↦ after_nextVersion (EffectsOwned.empty.run calls) call hcurrent,
    Refused.after, ?_⟩
  rintro key revision hexpected haccepted before since rfl read hread rfl front hfront
  obtain ⟨current, hcurrent, hrevision⟩ := found_of_accepted haccepted hexpected
  obtain ⟨later, hlater, -, hunwritten⟩ :=
    run_nextVersion (EffectsOwned.empty.run before) since hread
  have hruns : ∀ rest, (empty.run before).run rest = empty.run (before ++ rest) := fun rest ↦ by
    rw [run, run, run, List.foldl_append]
  rw [hruns, hcurrent] at hlater
  cases hlater
  rw [← hruns]
  exact hunwritten hrevision front hfront

end MemoryActionStore

end ThrevoActions
