import Mathlib.Logic.Function.Basic
import ThrevoActions.Store.Base

/-!
# The in-memory action store

`MemoryActionStore`: every call runs under the store's lock, so it is one function from the store
before to an answer and the store after. A call that raises leaves the store unchanged.

Each mutating operation comes with one inversion lemma saying everything it can do to the store;
later modules use these lemmas and never unfold the operations again.
-/

namespace ThrevoActions

/-- The two dictionaries of `MemoryActionStore`. -/
structure MemoryActionStore where
  proposals : ProposalKey → Option StoredProposal
  effectClaims : EffectKey → Option SafeReference

namespace MemoryActionStore

def empty : MemoryActionStore := ⟨fun _ ↦ none, fun _ ↦ none⟩

/-- `self._proposals[proposal.key] = proposal`. -/
def put (store : MemoryActionStore) (proposal : StoredProposal) : MemoryActionStore :=
  { store with proposals := Function.update store.proposals proposal.key (some proposal) }

/-- `self._effect_claims[claim_key] = proposal_reference`. -/
def claim (store : MemoryActionStore) (claimKey : EffectKey) (proposalReference : SafeReference) :
    MemoryActionStore :=
  { store with effectClaims := Function.update store.effectClaims claimKey proposalReference }

section Lookup

variable (store : MemoryActionStore) (proposal : StoredProposal) (claimKey : EffectKey)
  (reference : SafeReference)

@[simp] theorem put_effectClaims : (store.put proposal).effectClaims = store.effectClaims := rfl

@[simp] theorem claim_proposals : (store.claim claimKey reference).proposals = store.proposals :=
  rfl

@[simp] theorem put_proposals_self :
    (store.put proposal).proposals proposal.key = some proposal :=
  Function.update_self _ _ _

variable {store proposal claimKey reference}

theorem put_proposals_of_ne {key : ProposalKey} (h : key ≠ proposal.key) :
    (store.put proposal).proposals key = store.proposals key :=
  Function.update_of_ne h _ _

@[simp] theorem claim_effectClaims_self :
    (store.claim claimKey reference).effectClaims claimKey = some reference :=
  Function.update_self _ _ _

theorem claim_effectClaims_of_ne {key : EffectKey} (h : key ≠ claimKey) :
    (store.claim claimKey reference).effectClaims key = store.effectClaims key :=
  Function.update_of_ne h _ _

end Lookup

/-! ## Operations -/

def create (store : MemoryActionStore) (proposal : StoredProposal) :
    Except Exn Unit × MemoryActionStore :=
  if (store.proposals proposal.key).isSome then (.error .proposalAlreadyExists, store)
  else
    match validateProposalCreate proposal with
    | .error e => (.error e, store)
    | .ok () => (.ok (), store.put proposal)

def get (store : MemoryActionStore) (tenantReference proposalReference : SafeReference) :
    Option StoredProposal :=
  store.proposals (tenantReference, proposalReference)

/-- The arguments of `compare_and_set`. -/
structure CompareAndSet where
  tenantReference : SafeReference
  proposalReference : SafeReference
  expectedRevision : ℕ
  expectedStatuses : List LifecycleStatus
  updated : StoredProposal

def compareAndSet (store : MemoryActionStore) (args : CompareAndSet) :
    Except Exn Bool × MemoryActionStore :=
  match store.proposals (args.tenantReference, args.proposalReference) with
  | none => (.ok false, store)
  | some current =>
    if current.revision ≠ args.expectedRevision then (.ok false, store)
    else if current.lifecycleStatus ∉ args.expectedStatuses then (.ok false, store)
    else
      match validateProposalUpdate current args.updated with
      | .error e => (.error e, store)
      | .ok () =>
        if args.updated.lifecycleStatus = .executing ∧ current.lifecycleStatus ≠ .executing ∧
            store.effectClaims current.effectKey ≠ some current.proposalReference then
          (.error (.storeInvariant
            "execution requires this proposal to own the semantic effect claim"), store)
        else (.ok true, store.put args.updated)

/-- `_claim_effect_locked`. -/
def claimEffectLocked (store : MemoryActionStore) (claimKey : EffectKey)
    (proposalReference : SafeReference) : EffectClaimResult × MemoryActionStore :=
  match store.effectClaims claimKey with
  | none => (.acquired, store.claim claimKey proposalReference)
  | some owner =>
    if owner = proposalReference then (.ownedByProposal, store)
    else
      match store.proposals (claimKey.1, owner) with
      | none => (.conflict, store)
      | some ownerRecord =>
        if ownerRecord.lifecycleStatus ∈ [.failedKnown, .stale] then
          (.acquired, store.claim claimKey proposalReference)
        else (.conflict, store)

/-- The arguments of `admit_execution`. -/
structure AdmitExecution where
  tenantReference : SafeReference
  proposalReference : SafeReference
  expectedRevision : ℕ
  admittedAt : Timestamp
  updated : StoredProposal

def admitExecution (store : MemoryActionStore) (args : AdmitExecution) :
    Except Exn EffectClaimResult × MemoryActionStore :=
  match store.proposals (args.tenantReference, args.proposalReference) with
  | none => (.ok .proposalNotFound, store)
  | some current =>
    if current.revision ≠ args.expectedRevision ∨ current.lifecycleStatus ≠ .authorized ∨
        current.erasurePendingAt ≠ none ∨ current.erasedAt ≠ none ∨
        current.expiresAt ≤ args.admittedAt then
      (.ok .proposalNotAuthorized, store)
    else
      match validateProposalUpdate current args.updated with
      | .error e => (.error e, store)
      | .ok () =>
        if args.updated.lifecycleStatus ≠ .executing then
          (.error (.storeInvariant "execution admission must enter executing"), store)
        else
          match store.claimEffectLocked current.effectKey args.proposalReference with
          | (.conflict, _) => (.ok .conflict, store)
          | (result, store') => (.ok result, store'.put args.updated)

def getEffectClaimOwner (store : MemoryActionStore) (tenantReference : SafeReference)
    (actionType : ActionType) (semanticEffectReference : SafeReference) : Option SafeReference :=
  store.effectClaims (tenantReference, actionType, semanticEffectReference)

/-- The arguments of `mark_erasure_pending` and of `complete_erasure`, with the time each
records. -/
structure ErasureStep where
  tenantReference : SafeReference
  proposalReference : SafeReference
  expectedRevision : ℕ
  timestamp : Timestamp
  deriving DecidableEq

def markErasurePending (store : MemoryActionStore) (args : ErasureStep) :
    Bool × MemoryActionStore :=
  match store.proposals (args.tenantReference, args.proposalReference) with
  | none => (false, store)
  | some current =>
    if current.revision ≠ args.expectedRevision ∨
        current.lifecycleStatus ∉ erasableLifecycleStatuses ∨ current.erasedAt ≠ none then
      (false, store)
    else if current.erasurePendingAt ≠ none then (true, store)
    else (true, store.put (proposalWithErasurePending current args.timestamp))

def completeErasure (store : MemoryActionStore) (args : ErasureStep) : Bool × MemoryActionStore :=
  match store.proposals (args.tenantReference, args.proposalReference) with
  | none => (false, store)
  | some current =>
    if current.revision ≠ args.expectedRevision ∨ current.erasurePendingAt = none ∨
        current.erasedAt ≠ none then
      (false, store)
    else (true, store.put (erasedProposal current args.timestamp))

/-! ## What each operation can do -/

variable {store : MemoryActionStore}

theorem create_cases (store : MemoryActionStore) (proposal : StoredProposal) :
    (store.create proposal).2 = store ∧ (∃ e, (store.create proposal).1 = .error e) ∨
      store.create proposal = (.ok (), store.put proposal) ∧
        store.proposals proposal.key = none ∧ validateProposalCreate proposal = .ok () := by
  rw [create]
  cases hkey : store.proposals proposal.key with
  | some other => exact Or.inl ⟨rfl, _, rfl⟩
  | none =>
    cases hvalid : validateProposalCreate proposal with
    | error e => exact Or.inl ⟨rfl, e, rfl⟩
    | ok u => exact Or.inr ⟨rfl, rfl, rfl⟩

/-- A compare-and-set that changed the store replaced the record with the expected revision and
one of the expected statuses by an accepted update. -/
structure CompareAndSet.Applied (store : MemoryActionStore) (args : CompareAndSet)
    (current : StoredProposal) : Prop where
  found : store.proposals (args.tenantReference, args.proposalReference) = some current
  revision : current.revision = args.expectedRevision
  status : current.lifecycleStatus ∈ args.expectedStatuses
  accepted : AcceptedUpdate current args.updated
  owns : args.updated.lifecycleStatus = .executing → current.lifecycleStatus ≠ .executing →
    store.effectClaims current.effectKey = some current.proposalReference
  result : store.compareAndSet args = (.ok true, store.put args.updated)

theorem compareAndSet_cases (store : MemoryActionStore) (args : CompareAndSet) :
    (store.compareAndSet args).2 = store ∧ (store.compareAndSet args).1 ≠ .ok true ∨
      ∃ current, args.Applied store current := by
  rw [compareAndSet]
  cases hfound : store.proposals (args.tenantReference, args.proposalReference) with
  | none => exact Or.inl ⟨rfl, nofun⟩
  | some current =>
    by_cases hrevision : current.revision = args.expectedRevision
    · by_cases hstatus : current.lifecycleStatus ∈ args.expectedStatuses
      · cases hvalid : validateProposalUpdate current args.updated with
        | error e => simp [hrevision, hstatus, hvalid]
        | ok u =>
          by_cases howns : args.updated.lifecycleStatus = .executing ∧
              current.lifecycleStatus ≠ .executing ∧
              store.effectClaims current.effectKey ≠ some current.proposalReference
          · simp [hrevision, hstatus, hvalid, howns]
          · refine Or.inr ⟨current, ⟨hfound, hrevision, hstatus, validateProposalUpdate_ok hvalid,
              fun hto hfrom ↦ ?_, ?_⟩⟩
            · by_contra hne
              exact howns ⟨hto, hfrom, hne⟩
            · rw [compareAndSet, hfound]
              simp only [hrevision, hstatus, hvalid, howns, ne_eq, not_true, if_false]
      · simp [hrevision, hstatus]
    · simp [hrevision]

/-- An accepted update of the record on file that starts no attempt is applied. -/
theorem compareAndSet_accepted {args : CompareAndSet} {current : StoredProposal}
    (hfound : store.proposals (args.tenantReference, args.proposalReference) = some current)
    (hrevision : current.revision = args.expectedRevision)
    (hstatus : current.lifecycleStatus ∈ args.expectedStatuses)
    (haccepted : AcceptedUpdate current args.updated)
    (hunstarted : args.updated.lifecycleStatus ≠ .executing) :
    store.compareAndSet args = (.ok true, store.put args.updated) := by
  have hvalid := validateProposalUpdate_eq_ok.mpr haccepted
  rw [compareAndSet, hfound]
  simp only [hrevision, hstatus, hvalid, hunstarted, ne_eq, not_true, if_false, false_and]

/-- Claiming an effect is refused, or makes the proposal the recorded owner. The claim was free,
already its own, or held by a proposal whose attempt had no effect. -/
theorem claimEffectLocked_cases (store : MemoryActionStore) (claimKey : EffectKey)
    (reference : SafeReference) :
    store.claimEffectLocked claimKey reference = (.conflict, store) ∨
      store.claimEffectLocked claimKey reference = (.ownedByProposal, store) ∧
        store.effectClaims claimKey = some reference ∨
      store.claimEffectLocked claimKey reference = (.acquired, store.claim claimKey reference) ∧
        ∀ owner, store.effectClaims claimKey = some owner → owner ≠ reference ∧
          ∃ record, store.proposals (claimKey.1, owner) = some record ∧
            record.lifecycleStatus ∈ [.failedKnown, .stale] := by
  rw [claimEffectLocked]
  cases howner : store.effectClaims claimKey with
  | none => exact Or.inr (Or.inr ⟨rfl, nofun⟩)
  | some owner =>
    by_cases hself : owner = reference
    · exact Or.inr (Or.inl ⟨if_pos hself, by rw [hself]⟩)
    · cases hrecord : store.proposals (claimKey.1, owner) with
      | none => exact Or.inl (by simp [hself, hrecord])
      | some record =>
        by_cases hstatus : record.lifecycleStatus ∈ [.failedKnown, .stale]
        · refine Or.inr (Or.inr ⟨?_, fun owner' howner' ↦ ?_⟩)
          · simp only [hself, hrecord, hstatus, if_true, if_false]
          · cases howner'
            exact ⟨hself, record, hrecord, hstatus⟩
        · refine Or.inl ?_
          simp only [hself, hrecord, hstatus, if_false]

/-- An admission that changed the store replaced an authorized, unexpired and unerased record at
the expected revision by an accepted update in `executing`, which owns its effect claim in the
store after. -/
structure AdmitExecution.Applied (store : MemoryActionStore) (args : AdmitExecution)
    (current : StoredProposal) (store' : MemoryActionStore) : Prop where
  found : store.proposals (args.tenantReference, args.proposalReference) = some current
  revision : current.revision = args.expectedRevision
  authorized : current.lifecycleStatus = .authorized
  notPending : current.erasurePendingAt = none
  notErased : current.erasedAt = none
  unexpired : args.admittedAt < current.expiresAt
  accepted : AcceptedUpdate current args.updated
  executing : args.updated.lifecycleStatus = .executing
  transferable : ∀ owner, store.effectClaims current.effectKey = some owner →
    owner = args.proposalReference ∨
      ∃ record, store.proposals (current.tenantReference, owner) = some record ∧
        record.lifecycleStatus ∈ [.failedKnown, .stale]
  proposals : store'.proposals = (store.put args.updated).proposals
  effectClaims : store'.effectClaims = Function.update store.effectClaims current.effectKey
    (some args.proposalReference)

theorem admitExecution_cases (store : MemoryActionStore) (args : AdmitExecution) :
    (store.admitExecution args).2 = store ∧
        (∀ result, (store.admitExecution args).1 = .ok result → result.admits = false) ∨
      ∃ current result, (store.admitExecution args).1 = .ok result ∧ result.admits = true ∧
        args.Applied store current (store.admitExecution args).2 := by
  cases hfound : store.proposals (args.tenantReference, args.proposalReference) with
  | none =>
    rw [admitExecution, hfound]
    exact Or.inl ⟨rfl, by rintro _ ⟨⟩; rfl⟩
  | some current =>
    by_cases hguard : current.revision ≠ args.expectedRevision ∨
        current.lifecycleStatus ≠ .authorized ∨ current.erasurePendingAt ≠ none ∨
        current.erasedAt ≠ none ∨ current.expiresAt ≤ args.admittedAt
    · left
      simp only [admitExecution, hfound, hguard, if_true]
      exact ⟨trivial, by rintro _ ⟨⟩; rfl⟩
    · have hpass := hguard
      simp only [not_or, ne_eq, not_not, Int.not_le] at hpass
      obtain ⟨hrevision, hauthorized, hpending, herased, hexpiry⟩ := hpass
      cases hvalid : validateProposalUpdate current args.updated with
      | error e =>
        left
        simp only [admitExecution, hfound, hguard, hvalid, if_false]
        exact ⟨trivial, nofun⟩
      | ok u =>
        by_cases hexecuting : args.updated.lifecycleStatus = .executing
        · have happlied : ∀ store' : MemoryActionStore,
              store'.proposals = (store.put args.updated).proposals →
              store'.effectClaims = Function.update store.effectClaims current.effectKey
                (some args.proposalReference) →
              (∀ owner, store.effectClaims current.effectKey = some owner →
                owner = args.proposalReference ∨
                  ∃ record, store.proposals (current.tenantReference, owner) = some record ∧
                    record.lifecycleStatus ∈ [.failedKnown, .stale]) →
              args.Applied store current store' := fun store' hproposals hclaims htransfer ↦
            ⟨hfound, hrevision, hauthorized, hpending, herased, hexpiry,
              validateProposalUpdate_ok hvalid, hexecuting, htransfer, hproposals, hclaims⟩
          rcases claimEffectLocked_cases store current.effectKey args.proposalReference with
            hclaim | ⟨hclaim, howner⟩ | ⟨hclaim, howner⟩
          · left
            simp only [admitExecution, hfound, hguard, hvalid, hexecuting, hclaim, ne_eq,
              not_true, if_false]
            exact ⟨trivial, by rintro _ ⟨⟩; rfl⟩
          · right
            refine ⟨current, .ownedByProposal, ?_⟩
            simp only [admitExecution, hfound, hguard, hvalid, hexecuting, hclaim, ne_eq,
              not_true, if_false]
            refine ⟨trivial, rfl, happlied _ rfl ?_ ?_⟩
            · exact (Function.update_eq_self_iff.mpr howner.symm).symm
            · intro owner howner'
              rw [howner] at howner'
              exact Or.inl (Option.some.inj howner').symm
          · right
            refine ⟨current, .acquired, ?_⟩
            simp only [admitExecution, hfound, hguard, hvalid, hexecuting, hclaim, ne_eq,
              not_true, if_false]
            exact ⟨trivial, rfl, happlied _ rfl rfl fun owner hold ↦ Or.inr (howner owner hold).2⟩
        · left
          simp only [admitExecution, hfound, hguard, hvalid, hexecuting, ne_eq, not_false_eq_true,
            if_true, if_false]
          exact ⟨trivial, nofun⟩

theorem markErasurePending_cases (store : MemoryActionStore) (args : ErasureStep) :
    (store.markErasurePending args).2 = store ∨
      ∃ current, store.proposals (args.tenantReference, args.proposalReference) = some current ∧
        current.revision = args.expectedRevision ∧
        current.lifecycleStatus ∈ erasableLifecycleStatuses ∧ current.erasedAt = none ∧
        current.erasurePendingAt = none ∧ store.markErasurePending args =
          (true, store.put (proposalWithErasurePending current args.timestamp)) := by
  cases hfound : store.proposals (args.tenantReference, args.proposalReference) with
  | none => exact Or.inl (by rw [markErasurePending, hfound])
  | some current =>
    by_cases hguard : current.revision ≠ args.expectedRevision ∨
        current.lifecycleStatus ∉ erasableLifecycleStatuses ∨ current.erasedAt ≠ none
    · exact Or.inl (by simp only [markErasurePending, hfound, hguard, if_true])
    · by_cases hpending : current.erasurePendingAt = none
      · have hpass := hguard
        simp only [not_or, ne_eq, not_not] at hpass
        obtain ⟨hrevision, hstatus, herased⟩ := hpass
        refine Or.inr ⟨current, rfl, hrevision, hstatus, herased, hpending, ?_⟩
        simp only [markErasurePending, hfound, hguard, hpending, ne_eq, not_true, if_false]
      · left
        simp only [markErasurePending, hfound, hguard, hpending, ne_eq, not_false_eq_true,
          if_true, if_false]

theorem completeErasure_cases (store : MemoryActionStore) (args : ErasureStep) :
    (store.completeErasure args).2 = store ∨
      ∃ current, store.proposals (args.tenantReference, args.proposalReference) = some current ∧
        current.revision = args.expectedRevision ∧ current.erasurePendingAt ≠ none ∧
        current.erasedAt = none ∧ store.completeErasure args =
          (true, store.put (erasedProposal current args.timestamp)) := by
  cases hfound : store.proposals (args.tenantReference, args.proposalReference) with
  | none => exact Or.inl (by rw [completeErasure, hfound])
  | some current =>
    by_cases hguard : current.revision ≠ args.expectedRevision ∨
        current.erasurePendingAt = none ∨ current.erasedAt ≠ none
    · exact Or.inl (by simp only [completeErasure, hfound, hguard, if_true])
    · have hpass := hguard
      simp only [not_or, ne_eq, not_not] at hpass
      obtain ⟨hrevision, hpending, herased⟩ := hpass
      refine Or.inr ⟨current, rfl, hrevision, hpending, herased, ?_⟩
      simp only [completeErasure, hfound, hguard, if_false]

end MemoryActionStore

end ThrevoActions
