import ThrevoActions.Store.Memory

/-!
# Tenants of a store

What the store holds for one tenant, and that a call for one tenant depends on nothing else and
changes nothing else (`LocalTo`).
-/

namespace ThrevoActions

namespace MemoryActionStore

/-- What the store holds for `tenant`. -/
def ofTenant (store : MemoryActionStore) (tenant : SafeReference) : MemoryActionStore where
  proposals key := if key.1 = tenant then store.proposals key else none
  effectClaims key := if key.1 = tenant then store.effectClaims key else none

variable {store : MemoryActionStore} {tenant : SafeReference} {α : Type}

theorem ofTenant_proposals {key : ProposalKey} (hkey : key.1 = tenant) :
    (store.ofTenant tenant).proposals key = store.proposals key := if_pos hkey

theorem ofTenant_effectClaims {key : EffectKey} (hkey : key.1 = tenant) :
    (store.ofTenant tenant).effectClaims key = store.effectClaims key := if_pos hkey

theorem ofTenant_put {proposal : StoredProposal} (htenant : proposal.tenantReference = tenant) :
    (store.put proposal).ofTenant tenant = (store.ofTenant tenant).put proposal := by
  have hproposals : ((store.put proposal).ofTenant tenant).proposals =
      ((store.ofTenant tenant).put proposal).proposals := by
    funext key
    by_cases hkey : key = proposal.key
    · subst hkey
      rw [ofTenant_proposals htenant, put_proposals_self, put_proposals_self]
    · rw [put_proposals_of_ne hkey, ofTenant, ofTenant]
      dsimp only
      rw [put_proposals_of_ne hkey]
  exact congrArg (MemoryActionStore.mk · _) hproposals

theorem ofTenant_put_of_ne {proposal : StoredProposal}
    (htenant : proposal.tenantReference ≠ tenant) :
    (store.put proposal).ofTenant tenant = store.ofTenant tenant := by
  have hproposals : ((store.put proposal).ofTenant tenant).proposals =
      (store.ofTenant tenant).proposals := by
    funext key
    rw [ofTenant, ofTenant]
    dsimp only
    by_cases hkey : key.1 = tenant
    · have hne : key ≠ proposal.key := by
        rintro rfl
        exact htenant hkey
      rw [put_proposals_of_ne hne]
    · rw [if_neg hkey, if_neg hkey]
  exact congrArg (MemoryActionStore.mk · _) hproposals

theorem ofTenant_claim {claimKey : EffectKey} {reference : SafeReference}
    (htenant : claimKey.1 = tenant) :
    (store.claim claimKey reference).ofTenant tenant =
      (store.ofTenant tenant).claim claimKey reference := by
  have hclaims : ((store.claim claimKey reference).ofTenant tenant).effectClaims =
      ((store.ofTenant tenant).claim claimKey reference).effectClaims := by
    funext key
    by_cases hkey : key = claimKey
    · subst hkey
      rw [ofTenant_effectClaims htenant, claim_effectClaims_self, claim_effectClaims_self]
    · rw [claim_effectClaims_of_ne hkey, ofTenant, ofTenant]
      dsimp only
      rw [claim_effectClaims_of_ne hkey]
  exact congrArg (MemoryActionStore.mk _ ·) hclaims

theorem ofTenant_claim_of_ne {claimKey : EffectKey} {reference : SafeReference}
    (htenant : claimKey.1 ≠ tenant) :
    (store.claim claimKey reference).ofTenant tenant = store.ofTenant tenant := by
  have hclaims : ((store.claim claimKey reference).ofTenant tenant).effectClaims =
      (store.ofTenant tenant).effectClaims := by
    funext key
    rw [ofTenant, ofTenant]
    dsimp only
    by_cases hkey : key.1 = tenant
    · have hne : key ≠ claimKey := by
        rintro rfl
        exact htenant hkey
      rw [claim_effectClaims_of_ne hne]
    · rw [if_neg hkey, if_neg hkey]
  exact congrArg (MemoryActionStore.mk _ ·) hclaims

/-- The call answers from what the store holds for `tenant`, and leaves all else as it was. -/
structure LocalTo (tenant : SafeReference)
    (call : MemoryActionStore → α × MemoryActionStore) : Prop where
  within : ∀ store, call (store.ofTenant tenant) =
    ((call store).1, (call store).2.ofTenant tenant)
  others : ∀ store other, other ≠ tenant → (call store).2.ofTenant other = store.ofTenant other

/-- A call that changes nothing is local if its answer is. -/
theorem LocalTo.of_answer {answer : MemoryActionStore → α}
    (hanswer : ∀ store, answer (store.ofTenant tenant) = answer store) :
    LocalTo tenant fun store ↦ (answer store, store) where
  within store := by rw [hanswer]
  others _ _ _ := rfl

theorem localTo_get {tenantReference : SafeReference} (proposalReference : SafeReference)
    (htenant : tenantReference = tenant) :
    LocalTo tenant fun store ↦
      ((.ok (store.get tenantReference proposalReference) : Except Exn (Option StoredProposal)),
        store) :=
  .of_answer fun store ↦ by rw [get, get, ofTenant_proposals htenant]

theorem localTo_getEffectClaimOwner {tenantReference : SafeReference} (actionType : ActionType)
    (semanticEffectReference : SafeReference) (htenant : tenantReference = tenant) :
    LocalTo tenant fun store ↦ ((.ok (store.getEffectClaimOwner tenantReference actionType
      semanticEffectReference) : Except Exn (Option SafeReference)), store) :=
  .of_answer fun store ↦ by
    rw [getEffectClaimOwner, getEffectClaimOwner, ofTenant_effectClaims htenant]

theorem localTo_create {proposal : StoredProposal} (htenant : proposal.tenantReference = tenant) :
    LocalTo tenant fun store ↦ store.create proposal where
  within store := by
    rw [create, create, ofTenant_proposals (show proposal.key.1 = tenant from htenant)]
    split
    · rfl
    · split
      · rfl
      · rw [ofTenant_put htenant]
  others store other hother := by
    rcases create_cases store proposal with ⟨hsame, -⟩ | ⟨hcreated, -⟩
    · rw [hsame]
    · rw [hcreated, ofTenant_put_of_ne (htenant.trans_ne hother.symm)]

/-- An accepted update is of the tenant of the record it replaces. -/
theorem tenant_of_accepted {current updated : StoredProposal}
    (hvalid : validateProposalUpdate current updated = .ok ())
    (htenant : updated.tenantReference = tenant) : current.tenantReference = tenant :=
  (congrArg Prod.fst (StoredProposal.key_eq_of_identity
    (validateProposalUpdate_ok hvalid).identity)).trans htenant

theorem localTo_compareAndSet {args : CompareAndSet} (htenant : args.tenantReference = tenant)
    (hupdated : args.updated.tenantReference = tenant) :
    LocalTo tenant fun store ↦ store.compareAndSet args where
  within store := by
    rw [compareAndSet, compareAndSet,
      ofTenant_proposals (show (args.tenantReference, args.proposalReference).1 = tenant from htenant)]
    cases store.proposals (args.tenantReference, args.proposalReference) with
    | none => rfl
    | some current =>
      dsimp only
      cases hvalid : validateProposalUpdate current args.updated with
      | error e => split_ifs <;> rfl
      | ok u =>
        have hcurrent : current.effectKey.1 = tenant := tenant_of_accepted hvalid hupdated
        dsimp only
        rw [ofTenant_effectClaims hcurrent, ← ofTenant_put hupdated]
        split_ifs <;> rfl
  others store other hother := by
    rcases compareAndSet_cases store args with ⟨hsame, -⟩ | ⟨current, happlied⟩
    · rw [hsame]
    · rw [happlied.result, ofTenant_put_of_ne (hupdated.trans_ne hother.symm)]

theorem localTo_claimEffectLocked {claimKey : EffectKey} {reference : SafeReference}
    (htenant : claimKey.1 = tenant) :
    LocalTo tenant fun store ↦ store.claimEffectLocked claimKey reference where
  within store := by
    rw [claimEffectLocked, claimEffectLocked, ofTenant_effectClaims htenant]
    cases store.effectClaims claimKey with
    | none =>
      dsimp only
      rw [ofTenant_claim htenant]
    | some owner =>
      dsimp only
      rw [ofTenant_proposals (show (claimKey.1, owner).1 = tenant from htenant),
        ← ofTenant_claim htenant]
      cases store.proposals (claimKey.1, owner) with
      | none =>
        dsimp only
        split_ifs <;> rfl
      | some ownerRecord =>
        dsimp only
        split_ifs <;> rfl
  others store other hother := by
    rcases claimEffectLocked_cases store claimKey reference with hresult | ⟨hresult, -⟩ | ⟨hresult, -⟩
    · rw [hresult]
    · rw [hresult]
    · rw [hresult, ofTenant_claim_of_ne (htenant.trans_ne hother.symm)]

theorem localTo_admitExecution {args : AdmitExecution} (htenant : args.tenantReference = tenant)
    (hupdated : args.updated.tenantReference = tenant) :
    LocalTo tenant fun store ↦ store.admitExecution args where
  within store := by
    rw [admitExecution, admitExecution,
      ofTenant_proposals (show (args.tenantReference, args.proposalReference).1 = tenant from htenant)]
    cases store.proposals (args.tenantReference, args.proposalReference) with
    | none => rfl
    | some current =>
      dsimp only
      cases hvalid : validateProposalUpdate current args.updated with
      | error e => split_ifs <;> rfl
      | ok u =>
        have hcurrent : current.effectKey.1 = tenant := tenant_of_accepted hvalid hupdated
        dsimp only
        have hclaim : (store.ofTenant tenant).claimEffectLocked current.effectKey
            args.proposalReference = _ := (localTo_claimEffectLocked hcurrent).within store
        rw [hclaim]
        cases store.claimEffectLocked current.effectKey args.proposalReference with
        | mk result store' =>
          cases result with
          | conflict => split_ifs <;> rfl
          | proposalNotFound | proposalNotAuthorized | acquired | ownedByProposal =>
            dsimp only
            rw [← ofTenant_put hupdated]
            split_ifs <;> rfl
  others store other hother := by
    rcases admitExecution_cases store args with ⟨hsame, -⟩ | ⟨current, result, -, -, happlied⟩
    · rw [hsame]
    · have hcurrent : current.tenantReference = tenant :=
        (congrArg Prod.fst (StoredProposal.key_eq_of_identity happlied.accepted.identity)).trans
          hupdated
      have hclaimed : (store.admitExecution args).2 =
          (store.claim current.effectKey args.proposalReference).put args.updated := by
        have hproposals := happlied.proposals
        have hclaims := happlied.effectClaims
        generalize (store.admitExecution args).2 = store' at hproposals hclaims
        cases store' with
        | mk proposals effectClaims =>
          dsimp only at hproposals hclaims
          rw [hproposals, hclaims]
          rfl
      rw [hclaimed, ofTenant_put_of_ne (hupdated.trans_ne hother.symm)]
      exact ofTenant_claim_of_ne (hcurrent.trans_ne hother.symm)

end MemoryActionStore

end ThrevoActions
