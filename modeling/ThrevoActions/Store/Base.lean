import ThrevoActions.Authority
import ThrevoActions.Canonical
import ThrevoActions.Receipts

/-!
# The tenant-scoped persistence contract

The persisted lifecycle record, the lifecycle transitions a store accepts, and the guards every
official store runs before it writes: `validate_proposal_create` and `validate_proposal_update`.
-/

namespace ThrevoActions

/-! ## Lifecycle transitions -/

/-- `ALLOWED_LIFECYCLE_TRANSITIONS`. -/
def allowedLifecycleTransitions : LifecycleStatus → List LifecycleStatus
  | .awaitingAuthority => [.authorized, .denied, .expired]
  | .authorized => [.blocked, .expired, .executing, .stale]
  | .executing => [.stale, .failedKnown, .failedUnknown, .verificationPending]
  | .failedUnknown => [.verificationPending]
  | .verificationPending =>
    [.authorized, .executing, .failedKnown, .failedUnknown, .partiallySucceeded,
      .verificationUnresolved, .verified]
  | .stale => [.superseded]
  | .verified => []
  | .blocked => []
  | .denied => []
  | .expired => []
  | .failedKnown => []
  | .partiallySucceeded => []
  | .superseded => []
  | .verificationUnresolved => [.verificationPending]

/-- `ERASABLE_LIFECYCLE_STATUSES`: every status but those of an attempt in flight. -/
def erasableLifecycleStatuses : List LifecycleStatus :=
  [.awaitingAuthority, .denied, .expired, .authorized, .blocked, .stale, .superseded, .executing,
    .failedKnown, .failedUnknown, .verificationPending, .verificationUnresolved,
    .partiallySucceeded, .verified].filter
    fun status ↦ status ∉ [.executing, .failedUnknown, .verificationPending]

theorem executing_not_erasable : LifecycleStatus.executing ∉ erasableLifecycleStatuses := by
  decide

inductive EffectClaimResult
  | acquired
  | ownedByProposal
  | conflict
  | proposalNotFound
  | proposalNotAuthorized
  deriving DecidableEq, Repr

/-- The two answers with which a store admits an execution. -/
def EffectClaimResult.admits : EffectClaimResult → Bool
  | .acquired | .ownedByProposal => true
  | .conflict | .proposalNotFound | .proposalNotAuthorized => false

/-! ## The lifecycle record -/

/-- Persistence-neutral lifecycle record; private state is always protected. -/
structure StoredProposal where
  tenantReference : SafeReference
  proposalReference : SafeReference
  actionType : ActionType
  semanticEffectReference : SafeReference
  effectKind : EffectKind
  lifecycleStatus : LifecycleStatus
  revision : ℕ
  protectedPrivateSnapshot : Option ProtectedPayload
  commitment : Option KeyedCommitment
  displayPreview : JsonObject := []
  requestingPrincipal : Option RequestingPrincipal := none
  proposingAgent : Option ProposingAgent := none
  createdAt : Timestamp
  expiresAt : Timestamp
  authorityEvidence : List AuthorityEvidence := []
  receipts : List Receipt := []
  verificationAttempts : ℕ := 0
  maxVerificationAttempts : ℕ
  nextVerificationAt : Option Timestamp := none
  safeResult : Option JsonObject := none
  executionPrecondition : Option SafeReference := none
  supersededBy : Option SafeReference := none
  erasurePendingAt : Option Timestamp := none
  erasedAt : Option Timestamp := none
  deriving DecidableEq

/-- Where a proposal is filed. -/
abbrev ProposalKey := SafeReference × SafeReference

/-- What an effect claim is about: tenant, action type and semantic effect. -/
abbrev EffectKey := SafeReference × ActionType × SafeReference

namespace StoredProposal

/-- The key a store files the proposal under. -/
def key (proposal : StoredProposal) : ProposalKey :=
  (proposal.tenantReference, proposal.proposalReference)

/-- The identity of the proposal's effect. -/
def effectKey (proposal : StoredProposal) : EffectKey :=
  (proposal.tenantReference, proposal.actionType, proposal.semanticEffectReference)

/-- The fields no update may change. -/
def identity (proposal : StoredProposal) :
    SafeReference × SafeReference × ActionType × SafeReference × EffectKind × Timestamp :=
  (proposal.tenantReference, proposal.proposalReference, proposal.actionType,
    proposal.semanticEffectReference, proposal.effectKind, proposal.createdAt)

/-- Erasure has been requested or completed. -/
def erasureMarked (proposal : StoredProposal) : Bool :=
  proposal.erasurePendingAt.isSome || proposal.erasedAt.isSome

theorem key_eq_of_identity {a b : StoredProposal} (h : a.identity = b.identity) :
    a.key = b.key := by
  simp only [identity, Prod.mk.injEq] at h
  simp [key, h]

theorem actionType_eq_of_identity {a b : StoredProposal} (h : a.identity = b.identity) :
    a.actionType = b.actionType := by
  simp only [identity, Prod.mk.injEq] at h
  simp [h]

theorem effectKey_eq_of_identity {a b : StoredProposal} (h : a.identity = b.identity) :
    a.effectKey = b.effectKey := by
  simp only [identity, Prod.mk.injEq] at h
  simp [effectKey, h]

end StoredProposal

theorem erasedAt_of_unmarked {record : StoredProposal} (h : record.erasureMarked = false) :
    record.erasedAt = none := by
  rw [StoredProposal.erasureMarked, Bool.or_eq_false_iff] at h
  exact Option.isSome_eq_false_iff.mp h.2 |> Option.isNone_iff_eq_none.mp

/-! ## Guards -/

/-- `if refused: raise StoreInvariantError(message)`. -/
def refuseIf (refused : Bool) (message : String) : Except Exn Unit :=
  if refused then .error (.storeInvariant message) else .ok ()

/-- A guard passes exactly when its own check passes and the rest does. -/
theorem refuseIf_bind_eq_ok {refused : Bool} {message : String} {rest : Except Exn Unit} :
    (refuseIf refused message >>= fun _ ↦ rest) = .ok () ↔ refused = false ∧ rest = .ok () := by
  cases refused with
  | false => simp only [true_and]; exact Iff.rfl
  | true => simp [refuseIf, bind, Except.bind]

theorem refuseIf_eq_ok {refused : Bool} {message : String} :
    refuseIf refused message = .ok () ↔ refused = false := by
  cases refused <;> simp [refuseIf]

/-- One piece of evidence is bound to the proposal and its commitment. -/
def evidenceBound (proposal : StoredProposal) (evidence : AuthorityEvidence) : Bool :=
  match proposal.commitment with
  | none => false
  | some commitment =>
    evidence.tenantReference == proposal.tenantReference
      && evidence.actionType == proposal.actionType
      && evidence.proposalInstanceReference == proposal.proposalReference
      && evidence.semanticEffectReference == proposal.semanticEffectReference
      && evidence.proposalCommitment == commitment.digest

/-- `_validate_proposal_bindings`. -/
def validateProposalBindings (proposal : StoredProposal) : Except Exn Unit := do
  refuseIf (!proposal.authorityEvidence.all (evidenceBound proposal))
    "authority evidence binding does not match proposal"
  refuseIf (proposal.receipts.any fun r ↦ r.correlationReference != proposal.proposalReference)
    "receipt correlation does not match proposal"

def validateProposalCreate (proposal : StoredProposal) : Except Exn Unit := do
  refuseIf (proposal.revision != 0) "a new proposal must start at revision zero"
  refuseIf (proposal.lifecycleStatus != .awaitingAuthority)
    "a new proposal must start before authorization"
  refuseIf (proposal.erasurePendingAt.isSome || proposal.erasedAt.isSome)
    "a new proposal cannot start erased"
  validateProposalBindings proposal

def proposalWithErasurePending (proposal : StoredProposal) (pendingAt : Timestamp) :
    StoredProposal :=
  { proposal with erasurePendingAt := some pendingAt, revision := proposal.revision + 1 }

def erasedProposal (proposal : StoredProposal) (erasedAt : Timestamp) : StoredProposal :=
  { proposal with
    protectedPrivateSnapshot := none
    commitment := none
    displayPreview := []
    requestingPrincipal := none
    proposingAgent := none
    authorityEvidence := []
    receipts := []
    safeResult := none
    executionPrecondition := none
    nextVerificationAt := none
    erasurePendingAt := none
    erasedAt := some erasedAt
    revision := proposal.revision + 1 }

/-- The content an erased proposal may not carry is gone. -/
def contentFree (proposal : StoredProposal) : Bool :=
  proposal.protectedPrivateSnapshot.isNone
    && proposal.commitment.isNone
    && proposal.displayPreview.isEmpty
    && proposal.requestingPrincipal.isNone
    && proposal.proposingAgent.isNone
    && proposal.authorityEvidence.isEmpty
    && proposal.receipts.isEmpty
    && proposal.safeResult.isNone
    && proposal.executionPrecondition.isNone

def validateProposalUpdate (current updated : StoredProposal) : Except Exn Unit := do
  refuseIf (current.identity != updated.identity) "proposal identity cannot change"
  refuseIf (updated.revision != current.revision + 1)
    "updated revision must advance by exactly one"
  refuseIf (current.erasurePendingAt.isSome && updated.erasurePendingAt.isNone
      && updated.erasedAt.isNone)
    "pending erasure can only advance to erased"
  refuseIf (updated.erasedAt.isSome && !contentFree updated)
    "an erased proposal must be a content-free tombstone"
  refuseIf (updated.erasedAt.isNone
      && updated.authorityEvidence.take current.authorityEvidence.length
        != current.authorityEvidence)
    "authority evidence is append-only before erasure"
  refuseIf (updated.erasedAt.isNone
      && updated.receipts.take current.receipts.length != current.receipts)
    "receipts are append-only before erasure"
  refuseIf (updated.lifecycleStatus != current.lifecycleStatus
      && !(allowedLifecycleTransitions current.lifecycleStatus).contains updated.lifecycleStatus)
    ("invalid lifecycle transition: " ++ current.lifecycleStatus.value ++ " -> "
      ++ updated.lifecycleStatus.value)
  validateProposalBindings updated

/-! ## What the guards establish -/

/-- Everything an accepted update guarantees, stated once for every caller. -/
structure AcceptedUpdate (current updated : StoredProposal) : Prop where
  identity : current.identity = updated.identity
  revision : updated.revision = current.revision + 1
  pending : current.erasurePendingAt.isSome → updated.erasurePendingAt.isNone →
    updated.erasedAt.isSome
  tombstone : updated.erasedAt.isSome → contentFree updated = true
  evidence : updated.erasedAt = none → current.authorityEvidence <+: updated.authorityEvidence
  receipts : updated.erasedAt = none → current.receipts <+: updated.receipts
  status : updated.lifecycleStatus = current.lifecycleStatus ∨
    updated.lifecycleStatus ∈ allowedLifecycleTransitions current.lifecycleStatus
  bindings : validateProposalBindings updated = .ok ()

private theorem prefix_of_take_check {β : Type} [DecidableEq β] {erased : Option Timestamp}
    {xs ys : List β} (h : (erased.isNone && ys.take xs.length != xs) = false)
    (hnone : erased = none) : xs <+: ys := by
  rw [List.prefix_iff_eq_take, eq_comm]
  simpa [hnone] using h

theorem validateProposalUpdate_ok {current updated : StoredProposal}
    (h : validateProposalUpdate current updated = .ok ()) : AcceptedUpdate current updated := by
  simp only [validateProposalUpdate, refuseIf_bind_eq_ok] at h
  obtain ⟨hid, hrev, hpend, htomb, hev, hrec, hst, hbind⟩ := h
  exact
    { identity := by simpa using hid
      revision := by simpa using hrev
      pending := by
        intro hsome hnone
        simpa [hsome, hnone, Option.isSome_iff_ne_none] using hpend
      tombstone := by
        intro hsome
        simpa [hsome] using htomb
      evidence := prefix_of_take_check hev
      receipts := prefix_of_take_check hrec
      status := by
        by_cases heq : updated.lifecycleStatus = current.lifecycleStatus
        · exact Or.inl heq
        · exact Or.inr (by simpa [heq] using hst)
      bindings := hbind }

/-- The guards of an update pass exactly when what they establish holds. -/
theorem validateProposalUpdate_eq_ok {current updated : StoredProposal} :
    validateProposalUpdate current updated = .ok () ↔ AcceptedUpdate current updated := by
  refine ⟨validateProposalUpdate_ok, fun h ↦ ?_⟩
  have htake : ∀ {β : Type} [DecidableEq β] {xs ys : List β},
      (updated.erasedAt = none → xs <+: ys) →
      (updated.erasedAt.isNone && ys.take xs.length != xs) = false := by
    intro β _ xs ys hfront
    cases herased : updated.erasedAt with
    | some _ => rfl
    | none =>
      rw [← List.prefix_iff_eq_take.mp (hfront herased)]
      simp
  simp only [validateProposalUpdate, refuseIf_bind_eq_ok]
  refine ⟨by simpa using h.identity, by simpa using h.revision, ?_, ?_, htake h.evidence,
    htake h.receipts, ?_, h.bindings⟩
  · cases hcurrent : current.erasurePendingAt with
    | none => rfl
    | some at' =>
      cases hupdated : updated.erasurePendingAt with
      | some _ => rfl
      | none =>
        have herased := h.pending (by rw [hcurrent]; rfl) (by rw [hupdated]; rfl)
        simpa using herased
  · cases herased : updated.erasedAt with
    | none => rfl
    | some _ => rw [h.tombstone (by rw [herased]; rfl)]; rfl
  · rcases h.status with hsame | hallowed
    · simp [hsame]
    · simp [hallowed]

/-- What the binding check accepts: evidence bound to this proposal's commitment, receipts
correlated with this proposal. -/
theorem validateProposalBindings_eq_ok {proposal : StoredProposal} :
    validateProposalBindings proposal = .ok () ↔
      (∀ e ∈ proposal.authorityEvidence, evidenceBound proposal e = true) ∧
      ∀ r ∈ proposal.receipts, r.correlationReference = proposal.proposalReference := by
  simp [validateProposalBindings, refuseIf_bind_eq_ok, refuseIf_eq_ok]

/-- An update of a bound, unerased proposal that keeps its evidence and appends correlated receipts
is accepted, if its transition is allowed. -/
theorem AcceptedUpdate.keep {current updated : StoredProposal} {added : List Receipt}
    (hcurrent : validateProposalBindings current = .ok ()) (hunerased : updated.erasedAt = none)
    (hidentity : current.identity = updated.identity)
    (hrevision : updated.revision = current.revision + 1)
    (hpending : updated.erasurePendingAt = current.erasurePendingAt)
    (hcommitment : updated.commitment = current.commitment)
    (hevidence : updated.authorityEvidence = current.authorityEvidence)
    (hreceipts : updated.receipts = current.receipts ++ added)
    (hadded : ∀ r ∈ added, r.correlationReference = current.proposalReference)
    (hstatus : updated.lifecycleStatus = current.lifecycleStatus ∨
      updated.lifecycleStatus ∈ allowedLifecycleTransitions current.lifecycleStatus) :
    AcceptedUpdate current updated where
  identity := hidentity
  revision := hrevision
  pending hsome hnone := by
    rw [hpending, Option.isNone_iff_eq_none] at hnone
    rw [hnone] at hsome
    cases hsome
  tombstone hsome := by
    rw [hunerased] at hsome
    cases hsome
  evidence _ := by simp [hevidence]
  receipts _ := by
    rw [hreceipts]
    exact List.prefix_append _ _
  status := hstatus
  bindings := by
    have hfields := hidentity
    simp only [StoredProposal.identity, Prod.mk.injEq] at hfields
    obtain ⟨htenant, hreference, haction, heffect, -⟩ := hfields
    obtain ⟨hbound, hcorrelated⟩ := validateProposalBindings_eq_ok.mp hcurrent
    refine validateProposalBindings_eq_ok.mpr ⟨fun e he ↦ ?_, fun r hr ↦ ?_⟩
    · rw [hevidence] at he
      have hsame := hbound e he
      rw [evidenceBound] at hsame ⊢
      rwa [hcommitment, ← htenant, ← haction, ← hreference, ← heffect]
    · rw [hreceipts, List.mem_append] at hr
      rw [← hreference]
      exact hr.elim (hcorrelated r) (hadded r)

/-- A created proposal starts at revision zero, unauthorized and unerased. -/
theorem validateProposalCreate_ok {proposal : StoredProposal}
    (h : validateProposalCreate proposal = .ok ()) :
    proposal.revision = 0 ∧ proposal.lifecycleStatus = .awaitingAuthority ∧
      proposal.erasurePendingAt = none ∧ proposal.erasedAt = none ∧
      validateProposalBindings proposal = .ok () := by
  simp only [validateProposalCreate, refuseIf_bind_eq_ok] at h
  obtain ⟨hrev, hst, her, hbind⟩ := h
  rw [Bool.or_eq_false_iff, Option.isSome_eq_false_iff, Option.isSome_eq_false_iff,
    Option.isNone_iff_eq_none, Option.isNone_iff_eq_none] at her
  exact ⟨by simpa using hrev, by simpa using hst, her.1, her.2, hbind⟩

/-- Erasure leaves nothing behind that an erased proposal may not carry. -/
theorem contentFree_erasedProposal (proposal : StoredProposal) (erasedAt : Timestamp) :
    contentFree (erasedProposal proposal erasedAt) = true := rfl

end ThrevoActions
