import ThrevoActions.Authority
import ThrevoActions.Canonical

/-!
# Server-bound approval requests

The records of `approval_channels/models.py`. Their validators are fields here: a binding expires
after its creation, a decision is the one its evidence states, and the decision of a request has
evidence that matches the binding of the request.
-/

namespace ThrevoActions

/-- Immutable fields that a callback must never be allowed to supply. -/
structure ApprovalRequestBinding where
  requestReference : SafeReference
  tenantReference : SafeReference
  proposalReference : SafeReference
  semanticEffectReference : SafeReference
  actionType : ActionType
  proposalCommitment : SafeReference
  intendedAuthority : SafeReference
  audience : SafeReference
  channelAssurance : SafeReference
  createdAt : Timestamp
  expiresAt : Timestamp
  valid_window : createdAt < expiresAt

/-- The proposal a request is about. -/
def ApprovalRequestBinding.proposal (binding : ApprovalRequestBinding) : ProposalIdentity :=
  ⟨binding.tenantReference, binding.proposalReference⟩

/-- What a replayed request must have in common with the stored one. -/
structure ApprovalRequestTerms where
  proposal : ProposalIdentity
  semanticEffectReference : SafeReference
  actionType : ActionType
  proposalCommitment : SafeReference
  intendedAuthority : SafeReference
  audience : SafeReference
  channelAssurance : SafeReference
  expiresAt : Timestamp
  deriving DecidableEq

/-- `binding.model_dump(exclude={"request_reference", "created_at"})`. -/
def ApprovalRequestBinding.terms (binding : ApprovalRequestBinding) : ApprovalRequestTerms where
  proposal := binding.proposal
  semanticEffectReference := binding.semanticEffectReference
  actionType := binding.actionType
  proposalCommitment := binding.proposalCommitment
  intendedAuthority := binding.intendedAuthority
  audience := binding.audience
  channelAssurance := binding.channelAssurance
  expiresAt := binding.expiresAt

/-- First-write-wins authority evidence retained before runtime delivery. -/
structure ApprovalDecisionRecord where
  decision : AuthorityDecision
  evidence : AuthorityEvidence
  recordedAt : Timestamp
  decision_matches_evidence : decision = evidence.decision

/-- The evidence is about the bound proposal, by the intended authority, to the bound audience, and
its validity lies inside the window of the request. -/
structure MatchesBinding (evidence : AuthorityEvidence) (binding : ApprovalRequestBinding) : Prop
    where
  tenantReference : evidence.tenantReference = binding.tenantReference
  actionType : evidence.actionType = binding.actionType
  proposalReference : evidence.proposalInstanceReference = binding.proposalReference
  semanticEffectReference : evidence.semanticEffectReference = binding.semanticEffectReference
  proposalCommitment : evidence.proposalCommitment = binding.proposalCommitment
  authority : evidence.authority.reference = binding.intendedAuthority
  audience : evidence.audience = [binding.audience]
  channelAssurance : evidence.channelAssurance = binding.channelAssurance
  issuedAt : binding.createdAt ≤ evidence.issuedAt
  expiresAt : evidence.expiresAt ≤ binding.expiresAt

/-- The condition under which `decision_matches_binding` raises. -/
def mismatchesBinding (evidence : AuthorityEvidence) (binding : ApprovalRequestBinding) : Bool :=
  evidence.tenantReference != binding.tenantReference
    || evidence.actionType != binding.actionType
    || evidence.proposalInstanceReference != binding.proposalReference
    || evidence.semanticEffectReference != binding.semanticEffectReference
    || evidence.proposalCommitment != binding.proposalCommitment
    || evidence.authority.reference != binding.intendedAuthority
    || evidence.audience != [binding.audience]
    || evidence.channelAssurance != binding.channelAssurance
    || decide (evidence.issuedAt < binding.createdAt)
    || decide (binding.expiresAt < evidence.expiresAt)

theorem mismatchesBinding_eq_false {evidence : AuthorityEvidence}
    {binding : ApprovalRequestBinding} :
    mismatchesBinding evidence binding = false ↔ MatchesBinding evidence binding := by
  rw [mismatchesBinding]
  simp only [Bool.or_eq_false_iff, bne_eq_false_iff_eq, decide_eq_false_iff_not, Int.not_lt]
  constructor
  · rintro ⟨⟨⟨⟨⟨⟨⟨⟨⟨htenant, haction⟩, hproposal⟩, heffect⟩, hcommitment⟩, hauthority⟩, haudience⟩,
      hchannel⟩, hissued⟩, hexpires⟩
    exact ⟨htenant, haction, hproposal, heffect, hcommitment, hauthority, haudience, hchannel,
      hissued, hexpires⟩
  · intro h
    exact ⟨⟨⟨⟨⟨⟨⟨⟨⟨h.tenantReference, h.actionType⟩, h.proposalReference⟩,
      h.semanticEffectReference⟩, h.proposalCommitment⟩, h.authority⟩, h.audience⟩,
      h.channelAssurance⟩, h.issuedAt⟩, h.expiresAt⟩

/-- A request with the decision recorded for it, whose evidence matches the binding. -/
structure ApprovalRequestRecord where
  binding : ApprovalRequestBinding
  decision : Option ApprovalDecisionRecord
  decision_matches_binding : ∀ d ∈ decision, MatchesBinding d.evidence binding

/-- `ApprovalRequestRecord(binding=…, decision=…)`; `none` is a `ValidationError`. -/
def ApprovalRequestRecord.validate (binding : ApprovalRequestBinding) :
    Option ApprovalDecisionRecord → Option ApprovalRequestRecord
  | none => some ⟨binding, none, fun _ hd ↦ absurd hd (Option.not_mem_none _)⟩
  | some decision =>
    if h : mismatchesBinding decision.evidence binding = false then
      some ⟨binding, some decision, fun _ hd ↦
        Option.mem_some.mp hd ▸ mismatchesBinding_eq_false.mp h⟩
    else none

theorem ApprovalRequestRecord.validate_eq_some {binding : ApprovalRequestBinding}
    {decision : Option ApprovalDecisionRecord} {record : ApprovalRequestRecord}
    (h : validate binding decision = some record) :
    record.binding = binding ∧ record.decision = decision := by
  cases decision with
  | none =>
    cases h
    exact ⟨rfl, rfl⟩
  | some decision =>
    rw [validate] at h
    split_ifs at h
    cases h
    exact ⟨rfl, rfl⟩

theorem ApprovalRequestRecord.exists_validate {binding : ApprovalRequestBinding}
    {decision : Option ApprovalDecisionRecord} :
    (∃ record, validate binding decision = some record) ↔
      ∀ d ∈ decision, MatchesBinding d.evidence binding := by
  cases decision with
  | none => exact iff_of_true ⟨_, rfl⟩ fun d hd ↦ absurd hd (Option.not_mem_none _)
  | some decision =>
    rw [validate]
    split_ifs with hmatches
    · refine iff_of_true ⟨_, rfl⟩ fun d hd ↦ ?_
      rw [← Option.mem_some.mp hd]
      exact mismatchesBinding_eq_false.mp hmatches
    · refine iff_of_false ?_ fun hall ↦ hmatches ?_
      · rintro ⟨record, hrecord⟩
        cases hrecord
      · exact mismatchesBinding_eq_false.mpr (hall decision rfl)

/-- A record is determined by its binding and its decision. -/
theorem ApprovalRequestRecord.ext' {a b : ApprovalRequestRecord} (hbinding : a.binding = b.binding)
    (hdecision : a.decision = b.decision) : a = b := by
  cases a
  cases b
  cases hbinding
  cases hdecision
  rfl

end ThrevoActions
