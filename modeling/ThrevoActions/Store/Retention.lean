import ThrevoActions.Store.EffectClaims

/-!
# Erasure in the store

What a mutating call does to one record (`after_cases`), and what is left of a record once its
erasure was requested. `admit_execution` refuses a record marked for erasure and the two retention
calls keep its status, but `compare_and_set` accepts whatever `validate_proposal_update` does, and
that guard says nothing about an erased record whose replacement is not erased, nor about the status
of a marked one. Erasure is absorbing exactly as far as the callers of `compare_and_set` keep it so
(`Retaining`).
-/

namespace ThrevoActions

namespace MemoryActionStore

variable {store : MemoryActionStore}

/-! ## One call -/

/-- How a call succeeds a record on file. -/
inductive Succeeds : Call → StoredProposal → StoredProposal → Prop
  | written {args : CompareAndSet} {current : StoredProposal}
      (hkey : current.key = (args.tenantReference, args.proposalReference))
      (haccepted : AcceptedUpdate current args.updated) :
      Succeeds (.compareAndSet args) current args.updated
  | admitted {args : AdmitExecution} {current : StoredProposal}
      (hunmarked : current.erasureMarked = false)
      (haccepted : AcceptedUpdate current args.updated) :
      Succeeds (.admitExecution args) current args.updated
  | marked {args : ErasureStep} {current : StoredProposal}
      (hstatus : current.lifecycleStatus ∈ erasableLifecycleStatuses)
      (hunmarked : current.erasureMarked = false) :
      Succeeds (.markErasurePending args) current
        (proposalWithErasurePending current args.timestamp)
  | erased {args : ErasureStep} {current : StoredProposal}
      (hpending : current.erasurePendingAt ≠ none) (hunerased : current.erasedAt = none) :
      Succeeds (.completeErasure args) current (erasedProposal current args.timestamp)

theorem Succeeds.identity {call : Call} {current updated : StoredProposal}
    (h : Succeeds call current updated) : current.identity = updated.identity := by
  cases h with
  | written _ haccepted => exact haccepted.identity
  | admitted _ haccepted => exact haccepted.identity
  | marked => rfl
  | erased => rfl

theorem Succeeds.revision {call : Call} {current updated : StoredProposal}
    (h : Succeeds call current updated) : updated.revision = current.revision + 1 := by
  cases h with
  | written _ haccepted => exact haccepted.revision
  | admitted _ haccepted => exact haccepted.revision
  | marked => rfl
  | erased => rfl

/-- A tombstone carries nothing, however it came about. -/
theorem Succeeds.tombstone {call : Call} {current updated : StoredProposal}
    (h : Succeeds call current updated) (hcurrent : current.erasedAt.isSome → contentFree current)
    (hupdated : updated.erasedAt.isSome) : contentFree updated = true := by
  cases h with
  | written _ haccepted => exact haccepted.tombstone hupdated
  | admitted _ haccepted => exact haccepted.tombstone hupdated
  | marked => exact hcurrent hupdated
  | erased => exact contentFree_erasedProposal _ _

/-- **What a call does to the record under `key`**: nothing, it creates it, or it succeeds it. -/
theorem after_cases (h : EffectsOwned store) (call : Call) (key : ProposalKey) :
    (store.after call).proposals key = store.proposals key ∨
      store.proposals key = none ∧ (∃ record, (store.after call).proposals key = some record ∧
        validateProposalCreate record = .ok ()) ∨
      ∃ current updated, store.proposals key = some current ∧
        (store.after call).proposals key = some updated ∧ Succeeds call current updated := by
  -- a mutating call files at most one record, under the key of the record it succeeds
  have hput : ∀ (store' : MemoryActionStore) (key' : ProposalKey)
      (current updated : StoredProposal), store.proposals key' = some current →
      store'.proposals = (store.put updated).proposals → Succeeds call current updated →
      store'.proposals key = store.proposals key ∨
        ∃ current updated, store.proposals key = some current ∧
          store'.proposals key = some updated ∧ Succeeds call current updated := by
    intro store' key' current updated hfound hstore' hsucceeds
    have hkey' : updated.key = key' := by
      rw [← StoredProposal.key_eq_of_identity hsucceeds.identity]
      exact h.filed key' current hfound
    rw [hstore']
    by_cases hkey : key = updated.key
    · subst hkey
      rw [hkey']
      refine Or.inr ⟨current, updated, hfound, ?_, hsucceeds⟩
      rw [← hkey', put_proposals_self]
    · exact Or.inl (put_proposals_of_ne hkey)
  cases call with
  | create proposal =>
    rcases create_cases store proposal with ⟨hsame, -⟩ | ⟨hcreated, hnone, hvalid⟩
    · exact Or.inl (by rw [after, hsame])
    · rw [after, hcreated]
      by_cases hkey : key = proposal.key
      · subst hkey
        exact Or.inr (Or.inl ⟨hnone, proposal, put_proposals_self _ _, hvalid⟩)
      · exact Or.inl (put_proposals_of_ne hkey)
  | compareAndSet args =>
    rcases compareAndSet_cases store args with ⟨hsame, -⟩ | ⟨current, happlied⟩
    · exact Or.inl (by rw [after, hsame])
    · refine (hput _ _ current args.updated happlied.found (by rw [after, happlied.result]) ?_).imp_right
        Or.inr
      exact .written (h.filed _ _ happlied.found) happlied.accepted
  | admitExecution args =>
    rcases admitExecution_cases store args with ⟨hsame, -⟩ | ⟨current, result, -, -, happlied⟩
    · exact Or.inl (by rw [after, hsame])
    · refine (hput _ _ current args.updated happlied.found happlied.proposals ?_).imp_right Or.inr
      refine .admitted ?_ happlied.accepted
      rw [StoredProposal.erasureMarked, happlied.notPending, happlied.notErased]
      rfl
  | markErasurePending args =>
    rcases markErasurePending_cases store args with hsame |
      ⟨current, hfound, -, hstatus, herased, hpending, hresult⟩
    · exact Or.inl (by rw [after, hsame])
    · refine (hput _ _ current _ hfound (by rw [after, hresult]) ?_).imp_right Or.inr
      refine .marked hstatus ?_
      rw [StoredProposal.erasureMarked, hpending, herased]
      rfl
  | completeErasure args =>
    rcases completeErasure_cases store args with hsame |
      ⟨current, hfound, -, hpending, herased, hresult⟩
    · exact Or.inl (by rw [after, hsame])
    · exact (hput _ _ current _ hfound (by rw [after, hresult])
        (.erased hpending herased)).imp_right Or.inr

/-! ## Stored bindings -/

/-- The binding guard passes on every record on file. -/
def Bound (store : MemoryActionStore) : Prop :=
  ∀ key record, store.proposals key = some record → validateProposalBindings record = .ok ()

theorem Bound.after (hbound : store.Bound) (h : EffectsOwned store) (call : Call) :
    (store.after call).Bound := by
  intro key record hrecord
  rcases after_cases h call key with hsame | ⟨-, created, hcreated, hvalid⟩ |
    ⟨current, updated, hcurrent, hupdated, hsucceeds⟩
  · exact hbound key record (hsame ▸ hrecord)
  · rw [hcreated] at hrecord
    cases hrecord
    exact (validateProposalCreate_ok hvalid).2.2.2.2
  · rw [hupdated] at hrecord
    cases hrecord
    cases hsucceeds with
    | written _ haccepted => exact haccepted.bindings
    | admitted _ haccepted => exact haccepted.bindings
    | marked => exact hbound key current hcurrent
    | erased =>
      -- nothing is left to be bound
      exact validateProposalBindings_eq_ok.mpr ⟨List.forall_mem_nil _, List.forall_mem_nil _⟩

theorem Bound.run (hbound : store.Bound) (h : EffectsOwned store) (calls : List Call) :
    (store.run calls).Bound := by
  induction calls generalizing store with
  | nil => exact hbound
  | cons call calls ih => exact ih (hbound.after h call) (h.after call)

theorem Bound.empty : empty.Bound := by
  intro key record hrecord
  cases hrecord

/-! ## Absorption -/

/-- The call replaces no record marked for erasure by one of another status, and no erased record
by one that is not erased. -/
def Retaining (store : MemoryActionStore) : Call → Prop
  | .compareAndSet args => ∀ current,
    store.proposals (args.tenantReference, args.proposalReference) = some current →
    current.erasureMarked = true → args.updated.lifecycleStatus = current.lifecycleStatus ∧
      (current.erasedAt.isSome → args.updated.erasedAt.isSome)
  | _ => True

/-- Every call of the sequence is `Retaining` in the state it finds. -/
def RetainingCalls (store : MemoryActionStore) : List Call → Prop
  | [] => True
  | call :: calls => store.Retaining call ∧ (store.after call).RetainingCalls calls

/-- `record` succeeds `current`, keeping its mark and its status, and its tombstone if it is one. -/
structure Absorbs (current record : StoredProposal) : Prop where
  marked : record.erasureMarked = true
  status : record.lifecycleStatus = current.lifecycleStatus
  erased : current.erasedAt.isSome → record.erasedAt.isSome

theorem Absorbs.refl {record : StoredProposal} (h : record.erasureMarked = true) :
    Absorbs record record := ⟨h, rfl, id⟩

theorem Absorbs.trans {first second third : StoredProposal} (h : Absorbs first second)
    (h' : Absorbs second third) : Absorbs first third :=
  ⟨h'.marked, h'.status.trans h.status, h'.erased ∘ h.erased⟩

/-- One call, over a marked record. -/
theorem Succeeds.absorbs {call : Call} {current updated : StoredProposal}
    (hsucceeds : Succeeds call current updated) (hretaining : store.Retaining call)
    (hfound : store.proposals current.key = some current)
    (hmarked : current.erasureMarked = true) : Absorbs current updated := by
  cases hsucceeds with
  | @written args _ hkey haccepted =>
    rw [hkey] at hfound
    obtain ⟨hstatus, herased⟩ := hretaining current hfound hmarked
    refine ⟨?_, hstatus, herased⟩
    -- a pending record may only become erased, an erased one stays erased by assumption
    rw [StoredProposal.erasureMarked, Bool.or_eq_true] at hmarked ⊢
    rcases hmarked with hpending | herased'
    · by_cases hnone : args.updated.erasurePendingAt.isNone
      · exact Or.inr (haccepted.pending hpending hnone)
      · exact Or.inl (by simpa [Option.isSome_iff_ne_none] using hnone)
    · exact Or.inr (herased herased')
  | admitted hunmarked =>
    rw [hunmarked] at hmarked
    cases hmarked
  | marked _ hunmarked =>
    rw [hunmarked] at hmarked
    cases hmarked
  | erased => exact ⟨by simp [StoredProposal.erasureMarked, erasedProposal], rfl, fun _ ↦ rfl⟩

/-- Erased records carry nothing. -/
def Tombstones (store : MemoryActionStore) : Prop :=
  ∀ key record, store.proposals key = some record → record.erasedAt.isSome →
    contentFree record = true

theorem Tombstones.after (htombstones : store.Tombstones) (h : EffectsOwned store) (call : Call) :
    (store.after call).Tombstones := by
  intro key record hrecord herased
  rcases after_cases h call key with hsame | ⟨-, created, hcreated, hvalid⟩ |
    ⟨current, updated, hcurrent, hupdated, hsucceeds⟩
  · exact htombstones key record (hsame ▸ hrecord) herased
  · rw [hcreated] at hrecord
    cases hrecord
    rw [(validateProposalCreate_ok hvalid).2.2.2.1] at herased
    cases herased
  · rw [hupdated] at hrecord
    cases hrecord
    exact hsucceeds.tombstone (htombstones key current hcurrent) herased

theorem Tombstones.run (htombstones : store.Tombstones) (h : EffectsOwned store)
    (calls : List Call) : (store.run calls).Tombstones := by
  induction calls generalizing store with
  | nil => exact htombstones
  | cons call calls ih => exact ih (htombstones.after h call) (h.after call)

/-- A marked record stays on file, in a version that absorbs it. -/
theorem run_absorbs (h : EffectsOwned store) {calls : List Call}
    (hcalls : store.RetainingCalls calls) {key : ProposalKey} {record : StoredProposal}
    (hrecord : store.proposals key = some record) (hmarked : record.erasureMarked = true) :
    ∃ later, (store.run calls).proposals key = some later ∧ Absorbs record later := by
  induction calls generalizing store record with
  | nil => exact ⟨record, hrecord, .refl hmarked⟩
  | cons call calls ih =>
    obtain ⟨hretaining, hcalls⟩ := hcalls
    have hnext : ∃ next, (store.after call).proposals key = some next ∧ Absorbs record next := by
      rcases after_cases h call key with hsame | ⟨hnone, -⟩ |
        ⟨current, updated, hcurrent, hupdated, hsucceeds⟩
      · exact ⟨record, hsame ▸ hrecord, .refl hmarked⟩
      · rw [hrecord] at hnone
        cases hnone
      · rw [hrecord] at hcurrent
        cases hcurrent
        refine ⟨updated, hupdated, hsucceeds.absorbs hretaining ?_ hmarked⟩
        rw [h.filed key record hrecord, hrecord]
    obtain ⟨next, hnext, habsorbs⟩ := hnext
    obtain ⟨later, hlater, habsorbs'⟩ := ih (h.after call) hcalls hnext habsorbs.marked
    exact ⟨later, hlater, habsorbs.trans habsorbs'⟩

/-- **Erasure is absorbing** in every run of a fresh store whose calls are retaining: a record
marked for erasure keeps its status in every later state, and an erased one stays erased and
content-free. -/
theorem erasure_absorbing {calls calls' : List Call}
    (hcalls : MemoryActionStore.empty.RetainingCalls (calls ++ calls')) {key : ProposalKey}
    {record : StoredProposal} (hrecord : (empty.run calls).proposals key = some record)
    (hmarked : record.erasureMarked = true) :
    ∃ later, (empty.run (calls ++ calls')).proposals key = some later ∧
      later.lifecycleStatus = record.lifecycleStatus ∧
      (record.erasedAt.isSome → later.erasedAt.isSome ∧ contentFree later = true) := by
  have hsplit : ∀ store : MemoryActionStore, store.RetainingCalls (calls ++ calls') →
      (store.run calls).RetainingCalls calls' := by
    clear hcalls hrecord
    induction calls with
    | nil => exact fun _ ↦ id
    | cons call calls ih => exact fun store hcalls ↦ ih _ hcalls.2
  have howned : EffectsOwned (empty.run calls) := EffectsOwned.empty.run calls
  have htombstones : (empty.run calls).Tombstones :=
    Tombstones.run (fun key record hrecord ↦ by cases hrecord) EffectsOwned.empty calls
  obtain ⟨later, hlater, habsorbs⟩ := run_absorbs howned (hsplit _ hcalls) hrecord hmarked
  rw [run, List.foldl_append]
  refine ⟨later, hlater, habsorbs.status, fun herased ↦ ⟨habsorbs.erased herased, ?_⟩⟩
  exact (htombstones.run howned calls') key later hlater (habsorbs.erased herased)

/-! ### A sample record -/

/-- A proposal that has just been prepared. -/
def samplePrepared : StoredProposal where
  tenantReference := "tenant"
  proposalReference := "proposal"
  actionType := ⟨"sample.actions", "act", 1, Nat.one_pos⟩
  semanticEffectReference := "effect"
  effectKind := .single
  lifecycleStatus := .awaitingAuthority
  revision := 0
  protectedPrivateSnapshot := some ⟨"codec", "handle", "version", "ciphertext"⟩
  commitment := some ⟨"algorithm", "handle", "version", "digest"⟩
  createdAt := 0
  expiresAt := 600000000
  maxVerificationAttempts := 3

/-- It is created and its erasure is requested. -/
def sampleMarking : List Call :=
  [.create samplePrepared, .markErasurePending ⟨"tenant", "proposal", 0, 0⟩]

/-- Its erasure is completed. -/
def sampleErasure : List Call := [.completeErasure ⟨"tenant", "proposal", 1, 0⟩]

/-- The erased sample is still erased after the prepared version was offered to `admit_execution`. -/
theorem erasure_absorbing_sample :
    ∃ later, (empty.run ((sampleMarking ++ sampleErasure) ++ [.admitExecution
        ⟨"tenant", "proposal", 2, 0, { samplePrepared with revision := 3 }⟩])).proposals
        ("tenant", "proposal") = some later ∧
      later.lifecycleStatus = .awaitingAuthority ∧ later.erasedAt.isSome ∧
      contentFree later = true := by
  have hrecord : (empty.run (sampleMarking ++ sampleErasure)).proposals ("tenant", "proposal") =
      some (erasedProposal (proposalWithErasurePending samplePrepared 0) 0) := by
    decide
  have hcalls : empty.RetainingCalls ((sampleMarking ++ sampleErasure) ++ [.admitExecution
      ⟨"tenant", "proposal", 2, 0, { samplePrepared with revision := 3 }⟩]) :=
    ⟨trivial, trivial, trivial, trivial, trivial⟩
  obtain ⟨later, hlater, hstatus, herased⟩ := erasure_absorbing hcalls hrecord rfl
  exact ⟨later, hlater, hstatus, herased rfl⟩

/-- `compare_and_set` accepts the prepared version as a successor of the erased one. -/
theorem erasure_undone :
    ∃ erased restored,
      (empty.run (sampleMarking ++ sampleErasure)).proposals ("tenant", "proposal") = some erased ∧
      erased.erasedAt.isSome ∧
      (empty.run ((sampleMarking ++ sampleErasure) ++ [.compareAndSet ⟨"tenant", "proposal", 2,
        [.awaitingAuthority], { samplePrepared with revision := 3 }⟩])).proposals
        ("tenant", "proposal") = some restored ∧
      restored.erasedAt = none ∧ restored.protectedPrivateSnapshot.isSome :=
  ⟨erasedProposal (proposalWithErasurePending samplePrepared 0) 0,
    { samplePrepared with revision := 3 }, by decide, rfl, by decide, rfl, rfl⟩

end MemoryActionStore

end ThrevoActions
