import ThrevoActions.Store.Memory

/-!
# Exclusive ownership of effects

The claim map of a store says which proposal may act on an effect. It is written by
`admit_execution` alone, while a proposal's status is written by every operation, and ownership
may pass on from a proposal that failed without an effect. What keeps the two apart is an
invariant of the whole store: a proposal whose attempt is under way, unresolved or successful is
the recorded owner of its effect.

The invariant is stated on one store (`EffectsOwned`), shown to survive filing one record and
passing on one claim, and from there to survive every operation and every sequence of calls.
-/

namespace ThrevoActions

/-- An attempt of the proposal may have had, or may still have, its effect. -/
def LifecycleStatus.holdsEffect : LifecycleStatus → Bool
  | .executing | .failedUnknown | .verificationPending | .verificationUnresolved
  | .partiallySucceeded | .verified => true
  | .awaitingAuthority | .denied | .expired | .authorized | .blocked | .stale | .superseded
  | .failedKnown => false

/-- A proposal starts holding its effect only by entering `executing`. -/
theorem holdsEffect_of_transition {status target : LifecycleStatus}
    (htransition : target = status ∨ target ∈ allowedLifecycleTransitions status)
    (htarget : target.holdsEffect = true) :
    status.holdsEffect = true ∨ target = .executing := by
  rcases htransition with rfl | hmem
  · exact Or.inl htarget
  · cases status with
    | executing | failedUnknown | verificationPending | verificationUnresolved => exact Or.inl rfl
    | authorized =>
      simp only [allowedLifecycleTransitions, List.mem_cons, List.not_mem_nil, or_false] at hmem
      rcases hmem with rfl | rfl | rfl | rfl
      · cases htarget
      · cases htarget
      · exact Or.inr rfl
      · cases htarget
    | awaitingAuthority =>
      simp only [allowedLifecycleTransitions, List.mem_cons, List.not_mem_nil, or_false] at hmem
      rcases hmem with rfl | rfl | rfl <;> cases htarget
    | stale =>
      rw [List.mem_singleton.mp hmem] at htarget
      cases htarget
    | denied | expired | blocked | superseded | failedKnown | partiallySucceeded | verified =>
      cases hmem

theorem not_holdsEffect_of_transferable {status : LifecycleStatus}
    (h : status ∈ [.failedKnown, .stale]) : status.holdsEffect = false := by
  simp only [List.mem_cons, List.not_mem_nil, or_false] at h
  rcases h with rfl | rfl <;> rfl

namespace MemoryActionStore

/-- Every record is filed under its own key, and every proposal that holds its effect is the
recorded owner of it. -/
structure EffectsOwned (store : MemoryActionStore) : Prop where
  filed : ∀ key record, store.proposals key = some record → record.key = key
  owned : ∀ key record, store.proposals key = some record →
    record.lifecycleStatus.holdsEffect = true →
    store.effectClaims record.effectKey = some record.proposalReference

namespace EffectsOwned

variable {store : MemoryActionStore}

theorem empty : EffectsOwned empty where
  filed _ record h := absurd h (Option.some_ne_none record).symm
  owned _ record h := absurd h (Option.some_ne_none record).symm

/-- Filing a record that owns its effect if it holds it. -/
theorem put (h : EffectsOwned store) {record : StoredProposal}
    (howns : record.lifecycleStatus.holdsEffect = true →
      store.effectClaims record.effectKey = some record.proposalReference) :
    EffectsOwned (store.put record) where
  filed key other hother := by
    by_cases hkey : key = record.key
    · subst hkey
      rw [put_proposals_self] at hother
      cases hother
      rfl
    · exact h.filed key other (by rwa [put_proposals_of_ne hkey] at hother)
  owned key other hother hholds := by
    by_cases hkey : key = record.key
    · subst hkey
      rw [put_proposals_self] at hother
      cases hother
      exact howns hholds
    · exact h.owned key other (by rwa [put_proposals_of_ne hkey] at hother) hholds

/-- Passing on a claim that no other proposal needs. -/
theorem passOn (h : EffectsOwned store) {store' : MemoryActionStore} {key : EffectKey}
    {reference : SafeReference} (hproposals : store'.proposals = store.proposals)
    (hclaims : store'.effectClaims = Function.update store.effectClaims key (some reference))
    (htransferable : ∀ owner, store.effectClaims key = some owner → owner = reference ∨
      ∃ record, store.proposals (key.1, owner) = some record ∧
        record.lifecycleStatus ∈ [.failedKnown, .stale]) :
    EffectsOwned store' where
  filed := by
    rw [hproposals]
    exact h.filed
  owned key' record hrecord hholds := by
    rw [hproposals] at hrecord
    have howner := h.owned key' record hrecord hholds
    rw [hclaims]
    by_cases hkey : record.effectKey = key
    · subst hkey
      rw [Function.update_self]
      rcases htransferable _ howner with href | ⟨other, hother, hstatus⟩
      · rw [href]
      · -- the owner on file would be `record` itself, whose attempt is not over
        have hself : store.proposals (record.effectKey.1, record.proposalReference) = some record := by
          rw [← hrecord, ← h.filed key' record hrecord]
          rfl
        rw [hself] at hother
        cases hother
        rw [not_holdsEffect_of_transferable hstatus] at hholds
        cases hholds
    · rwa [Function.update_of_ne hkey]

/-! ## One operation -/

theorem create (h : EffectsOwned store) (proposal : StoredProposal) :
    EffectsOwned (store.create proposal).2 := by
  rcases create_cases store proposal with ⟨hsame, -⟩ | ⟨hcreated, -, hvalid⟩
  · rwa [hsame]
  · rw [hcreated]
    refine h.put fun hholds ↦ ?_
    rw [(validateProposalCreate_ok hvalid).2.1] at hholds
    cases hholds

theorem compareAndSet (h : EffectsOwned store) (args : CompareAndSet) :
    EffectsOwned (store.compareAndSet args).2 := by
  rcases compareAndSet_cases store args with ⟨hsame, -⟩ | ⟨current, happlied⟩
  · rwa [hsame]
  · rw [happlied.result]
    refine h.put fun hholds ↦ ?_
    have hkey := StoredProposal.effectKey_eq_of_identity happlied.accepted.identity
    have href : current.proposalReference = args.updated.proposalReference :=
      congrArg Prod.snd (StoredProposal.key_eq_of_identity happlied.accepted.identity)
    rw [← hkey, ← href]
    by_cases hcurrent : current.lifecycleStatus.holdsEffect = true
    · exact h.owned _ _ happlied.found hcurrent
    · rcases holdsEffect_of_transition happlied.accepted.status hholds with hcurrent' | hexecuting
      · exact absurd hcurrent' hcurrent
      · refine happlied.owns hexecuting fun hfrom ↦ hcurrent ?_
        rw [hfrom]
        rfl

theorem admitExecution (h : EffectsOwned store) (args : AdmitExecution) :
    EffectsOwned (store.admitExecution args).2 := by
  rcases admitExecution_cases store args with ⟨hsame, -⟩ | ⟨current, result, -, -, happlied⟩
  · rwa [hsame]
  · have hkey := StoredProposal.effectKey_eq_of_identity happlied.accepted.identity
    have href : args.proposalReference = args.updated.proposalReference := by
      have hfiled := h.filed _ _ happlied.found
      rw [StoredProposal.key_eq_of_identity happlied.accepted.identity] at hfiled
      exact (congrArg Prod.snd hfiled).symm
    have hpassed : EffectsOwned ⟨store.proposals, (store.admitExecution args).2.effectClaims⟩ :=
      h.passOn rfl happlied.effectClaims happlied.transferable
    have howns : (store.admitExecution args).2.effectClaims args.updated.effectKey =
        some args.updated.proposalReference := by
      rw [happlied.effectClaims, ← hkey, Function.update_self, href]
    have hput := hpassed.put fun _ ↦ howns
    exact ⟨by rw [happlied.proposals]; exact hput.filed,
      by rw [happlied.proposals]; exact hput.owned⟩

theorem markErasurePending (h : EffectsOwned store) (args : ErasureStep) :
    EffectsOwned (store.markErasurePending args).2 := by
  rcases markErasurePending_cases store args with hsame | ⟨current, hfound, -, -, -, -, hresult⟩
  · rwa [hsame]
  · rw [hresult]
    exact h.put fun hholds ↦ h.owned _ current hfound hholds

theorem completeErasure (h : EffectsOwned store) (args : ErasureStep) :
    EffectsOwned (store.completeErasure args).2 := by
  rcases completeErasure_cases store args with hsame | ⟨current, hfound, -, -, -, hresult⟩
  · rwa [hsame]
  · rw [hresult]
    exact h.put fun hholds ↦ h.owned _ current hfound hholds

/-- Two proposals that hold the same effect are one proposal. -/
theorem unique (h : EffectsOwned store) {key key' : ProposalKey} {record record' : StoredProposal}
    (hrecord : store.proposals key = some record) (hrecord' : store.proposals key' = some record')
    (hholds : record.lifecycleStatus.holdsEffect = true)
    (hholds' : record'.lifecycleStatus.holdsEffect = true)
    (heffect : record.effectKey = record'.effectKey) : key = key' := by
  have howner := h.owned key record hrecord hholds
  rw [heffect, h.owned key' record' hrecord' hholds'] at howner
  rw [← h.filed key record hrecord, ← h.filed key' record' hrecord']
  have htenant : record.tenantReference = record'.tenantReference := congrArg Prod.fst heffect
  exact Prod.ext htenant (Option.some.inj howner).symm

end EffectsOwned

/-! ## Sequences of calls -/

/-- A mutating call on the store with its arguments. -/
inductive Call
  | create (proposal : StoredProposal)
  | compareAndSet (args : CompareAndSet)
  | admitExecution (args : AdmitExecution)
  | markErasurePending (args : ErasureStep)
  | completeErasure (args : ErasureStep)

/-- The store after one call. -/
def after (store : MemoryActionStore) : Call → MemoryActionStore
  | .create proposal => (store.create proposal).2
  | .compareAndSet args => (store.compareAndSet args).2
  | .admitExecution args => (store.admitExecution args).2
  | .markErasurePending args => (store.markErasurePending args).2
  | .completeErasure args => (store.completeErasure args).2

/-- The store after a sequence of calls. -/
def run (store : MemoryActionStore) (calls : List Call) : MemoryActionStore :=
  calls.foldl after store

theorem EffectsOwned.after {store : MemoryActionStore} (h : EffectsOwned store) (call : Call) :
    EffectsOwned (store.after call) := by
  cases call with
  | create proposal => exact h.create proposal
  | compareAndSet args => exact h.compareAndSet args
  | admitExecution args => exact h.admitExecution args
  | markErasurePending args => exact h.markErasurePending args
  | completeErasure args => exact h.completeErasure args

theorem EffectsOwned.run {store : MemoryActionStore} (h : EffectsOwned store)
    (calls : List Call) : EffectsOwned (store.run calls) := by
  induction calls generalizing store with
  | nil => exact h
  | cons call calls ih => exact ih (h.after call)

/-- A claim stays with its owner, or the owner on file failed without an effect. -/
theorem after_keeps_claim (store : MemoryActionStore) (call : Call) {key : EffectKey}
    {owner : SafeReference} (howner : store.effectClaims key = some owner) :
    (store.after call).effectClaims key = some owner ∨
      ∃ record, store.proposals (key.1, owner) = some record ∧
        record.lifecycleStatus ∈ [.failedKnown, .stale] := by
  have hsame : ∀ store' : MemoryActionStore, store'.effectClaims = store.effectClaims →
      store'.effectClaims key = some owner := by
    intro store' hclaims
    rw [hclaims, howner]
  cases call with
  | create proposal =>
    rcases create_cases store proposal with ⟨hresult, -⟩ | ⟨hresult, -⟩ <;>
      exact Or.inl (hsame _ (by simp [after, hresult]))
  | compareAndSet args =>
    rcases compareAndSet_cases store args with ⟨hresult, -⟩ | ⟨current, happlied⟩
    · exact Or.inl (hsame _ (by rw [after, hresult]))
    · exact Or.inl (hsame _ (by rw [after, happlied.result]; rfl))
  | admitExecution args =>
    rcases admitExecution_cases store args with ⟨hresult, -⟩ | ⟨current, result, -, -, happlied⟩
    · exact Or.inl (hsame _ (by rw [after, hresult]))
    · by_cases hkey : key = current.effectKey
      · subst hkey
        rcases happlied.transferable owner howner with rfl | hfree
        · exact Or.inl (by rw [after, happlied.effectClaims, Function.update_self])
        · exact Or.inr hfree
      · exact Or.inl (by rw [after, happlied.effectClaims, Function.update_of_ne hkey, howner])
  | markErasurePending args =>
    rcases markErasurePending_cases store args with hresult | ⟨_, -, -, -, -, -, hresult⟩ <;>
      exact Or.inl (hsame _ (by simp [after, hresult]))
  | completeErasure args =>
    rcases completeErasure_cases store args with hresult | ⟨_, -, -, -, -, hresult⟩ <;>
      exact Or.inl (hsame _ (by simp [after, hresult]))

/-- **Effect ownership.** Whatever sequence of calls a fresh store receives, a proposal that is
executing, unresolved or successful is the recorded owner of its effect, and no second such
proposal exists for that effect. -/
theorem run_holdsEffect_owned (calls : List Call) :
    (∀ key record, (MemoryActionStore.empty.run calls).proposals key = some record →
      record.lifecycleStatus.holdsEffect = true →
      (MemoryActionStore.empty.run calls).effectClaims record.effectKey =
        some record.proposalReference) ∧
    ∀ key key' record record',
      (MemoryActionStore.empty.run calls).proposals key = some record →
      (MemoryActionStore.empty.run calls).proposals key' = some record' →
      record.lifecycleStatus.holdsEffect = true → record'.lifecycleStatus.holdsEffect = true →
      record.effectKey = record'.effectKey → key = key' :=
  have h := EffectsOwned.empty.run calls
  ⟨h.owned, fun _ _ _ _ hrecord hrecord' ↦ h.unique hrecord hrecord'⟩

end MemoryActionStore

end ThrevoActions
