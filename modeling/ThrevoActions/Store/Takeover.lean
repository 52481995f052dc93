import ThrevoActions.Store.Retention

/-!
# Taking over an effect

Who may take over an effect is decided from the status of its recorded owner alone. An owner in
`failed_known` or `stale` gives way. An owner that has moved on from such a status to one without
exits keeps the effect, whatever is called on the store afterwards (`run_locked`).
-/

namespace ThrevoActions

namespace MemoryActionStore

variable {store : MemoryActionStore}

/-! ## Claiming -/

/-- The effect of `record` is claimed by another proposal, and that is on file as having failed or
gone stale. -/
def Transferable (store : MemoryActionStore) (record : StoredProposal) : Prop :=
  ∃ owner ownerRecord, store.effectClaims record.effectKey = some owner ∧
    owner ≠ record.proposalReference ∧
    store.proposals (record.tenantReference, owner) = some ownerRecord ∧
    ownerRecord.lifecycleStatus ∈ [.failedKnown, .stale]

/-- The effect of `record` is claimed by another proposal. -/
def OwnedElsewhere (store : MemoryActionStore) (record : StoredProposal) : Prop :=
  ∃ owner, store.effectClaims record.effectKey = some owner ∧ owner ≠ record.proposalReference

theorem Transferable.ownedElsewhere {record : StoredProposal} (h : store.Transferable record) :
    store.OwnedElsewhere record := by
  obtain ⟨owner, _, howner, hother, -, -⟩ := h
  exact ⟨owner, howner, hother⟩

/-- Whether the owner on file gives way is read off its status. -/
theorem transferable_iff {record ownerRecord : StoredProposal} {owner : SafeReference}
    (howner : store.effectClaims record.effectKey = some owner)
    (hother : owner ≠ record.proposalReference)
    (hownerRecord : store.proposals (record.tenantReference, owner) = some ownerRecord) :
    store.Transferable record ↔ ownerRecord.lifecycleStatus ∈ [.failedKnown, .stale] := by
  constructor
  · rintro ⟨owner', ownerRecord', howner', -, hownerRecord', hstatus⟩
    rw [howner] at howner'
    cases howner'
    rw [hownerRecord] at hownerRecord'
    cases hownerRecord'
    exact hstatus
  · intro hstatus
    exact ⟨owner, ownerRecord, howner, hother, hownerRecord, hstatus⟩

/-- A claim is acquired from an owner that gives way, and from nobody else. -/
theorem claimEffectLocked_fst {record : StoredProposal} (helsewhere : store.OwnedElsewhere record) :
    (store.claimEffectLocked record.effectKey record.proposalReference).1 = .acquired ∧
        store.Transferable record ∨
      (store.claimEffectLocked record.effectKey record.proposalReference).1 = .conflict ∧
        ¬store.Transferable record := by
  obtain ⟨owner, howner, hother⟩ := helsewhere
  have htenant : record.effectKey.1 = record.tenantReference := rfl
  rw [claimEffectLocked, howner]
  simp only [hother, if_false, htenant]
  cases hrecord : store.proposals (record.tenantReference, owner) with
  | none =>
    refine Or.inr ⟨rfl, ?_⟩
    rintro ⟨owner', ownerRecord, howner', -, hrecord', -⟩
    rw [howner] at howner'
    cases howner'
    rw [hrecord] at hrecord'
    cases hrecord'
  | some ownerRecord =>
    rw [transferable_iff howner hother hrecord]
    by_cases hstatus : ownerRecord.lifecycleStatus ∈ [.failedKnown, .stale]
    · simp only [hstatus, if_true]
      exact Or.inl ⟨trivial, trivial⟩
    · simp only [hstatus, if_false]
      exact Or.inr ⟨trivial, id⟩

/-- An effect that is nobody else's is granted. -/
theorem claimEffectLocked_admits {record : StoredProposal}
    (hfree : ¬store.OwnedElsewhere record) :
    (store.claimEffectLocked record.effectKey record.proposalReference).1.admits = true := by
  rcases claimEffectLocked_cases store record.effectKey record.proposalReference with
    hconflict | ⟨hown, -⟩ | ⟨hacquired, -⟩
  · rw [claimEffectLocked] at hconflict
    cases howner : store.effectClaims record.effectKey with
    | none => simp [howner] at hconflict
    | some owner =>
      have hself : owner = record.proposalReference := by
        by_contra hother
        exact hfree ⟨owner, howner, hother⟩
      simp [howner, hself] at hconflict
  · rw [hown]
    rfl
  · rw [hacquired]
    rfl

/-! ## Admission -/

/-- The record may be admitted at `t`, if its effect can be claimed. -/
structure Admissible (record : StoredProposal) (t : Timestamp) : Prop where
  authorized : record.lifecycleStatus = .authorized
  unmarked : record.erasureMarked = false
  unexpired : t < record.expiresAt

/-- **Admission of an admissible record is a matter of the claim.** -/
theorem admitExecution_admissible {args : AdmitExecution} {record : StoredProposal}
    (hfound : store.proposals (args.tenantReference, args.proposalReference) = some record)
    (hrevision : record.revision = args.expectedRevision)
    (hadmissible : Admissible record args.admittedAt)
    (haccepted : AcceptedUpdate record args.updated)
    (hexecuting : args.updated.lifecycleStatus = .executing) :
    (store.admitExecution args).1 =
      .ok (store.claimEffectLocked record.effectKey args.proposalReference).1 := by
  have hmarks := hadmissible.unmarked
  rw [StoredProposal.erasureMarked, Bool.or_eq_false_iff, Option.isSome_eq_false_iff,
    Option.isSome_eq_false_iff, Option.isNone_iff_eq_none, Option.isNone_iff_eq_none] at hmarks
  have hvalid := validateProposalUpdate_eq_ok.mpr haccepted
  have hguard : ¬(record.revision ≠ args.expectedRevision ∨ record.lifecycleStatus ≠ .authorized ∨
      record.erasurePendingAt ≠ none ∨ record.erasedAt ≠ none ∨
      record.expiresAt ≤ args.admittedAt) := by
    simp [hrevision, hadmissible.authorized, hmarks.1, hmarks.2, hadmissible.unexpired]
  rw [admitExecution, hfound]
  simp only [hguard, if_false, hvalid, hexecuting, ne_eq, not_true]
  split
  · rename_i hclaim
    rw [hclaim]
  · rename_i result _ _ hclaim
    rw [hclaim]

/-! ## Locked effects -/

/-- Nothing ever changes a status without exits. -/
theorem Succeeds.final_status {call : Call} {current updated : StoredProposal}
    (hsucceeds : Succeeds call current updated)
    (hfinal : allowedLifecycleTransitions current.lifecycleStatus = []) :
    updated.lifecycleStatus = current.lifecycleStatus := by
  have hstays : ∀ {updated : StoredProposal}, AcceptedUpdate current updated →
      updated.lifecycleStatus = current.lifecycleStatus := by
    intro updated haccepted
    rcases haccepted.status with hsame | hmem
    · exact hsame
    · rw [hfinal] at hmem
      cases hmem
  cases hsucceeds with
  | written _ haccepted => exact hstays haccepted
  | admitted _ haccepted => exact hstays haccepted
  | marked => rfl
  | erased => rfl

/-- **A lock that is never released.** An owner in a status without exits, other than
`failed_known`, owns its effect after every further sequence of calls. -/
theorem run_locked (h : EffectsOwned store) {key : EffectKey} {owner : SafeReference}
    {record : StoredProposal} (howner : store.effectClaims key = some owner)
    (hrecord : store.proposals (key.1, owner) = some record)
    (hfinal : allowedLifecycleTransitions record.lifecycleStatus = [])
    (hfailed : record.lifecycleStatus ≠ .failedKnown) (calls : List Call) :
    (store.run calls).effectClaims key = some owner ∧
      ∃ record', (store.run calls).proposals (key.1, owner) = some record' ∧
        record'.lifecycleStatus = record.lifecycleStatus := by
  induction calls generalizing store record with
  | nil => exact ⟨howner, record, hrecord, rfl⟩
  | cons call calls ih =>
    have howner' : (store.after call).effectClaims key = some owner := by
      rcases after_keeps_claim store call howner with hkept | ⟨other, hother, hstatus⟩
      · exact hkept
      · -- the owner would have to have given way
        rw [hrecord] at hother
        cases hother
        simp only [List.mem_cons, List.not_mem_nil, or_false] at hstatus
        rcases hstatus with hstatus | hstatus
        · exact absurd hstatus hfailed
        · rw [hstatus] at hfinal
          cases hfinal
    have hrecord' : ∃ record', (store.after call).proposals (key.1, owner) = some record' ∧
        record'.lifecycleStatus = record.lifecycleStatus := by
      rcases after_cases h call (key.1, owner) with hsame | ⟨hnone, -⟩ |
        ⟨current, updated, hcurrent, hupdated, hsucceeds⟩
      · exact ⟨record, by rw [hsame, hrecord], rfl⟩
      · rw [hrecord] at hnone
        cases hnone
      · rw [hrecord] at hcurrent
        cases hcurrent
        exact ⟨updated, hupdated, hsucceeds.final_status hfinal⟩
    obtain ⟨record', hrecord', hstatus⟩ := hrecord'
    rw [← hstatus] at hfinal hfailed ⊢
    exact ih (h.after call) howner' hrecord' hfinal hfailed

end MemoryActionStore

end ThrevoActions
