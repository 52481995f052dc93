import ThrevoActions.Models

/-!
# Authority evidence and its validation

Authority evidence is a bound decision, not authorization by itself: it must match every
dimension of the server's binding and be inside its validity window when it is used. Evidence
whose expiry does not follow its issue time cannot be built.
-/

namespace ThrevoActions

/-- `DENY` is an alias of `REJECT` in the source: both are the value `"reject"`. -/
inductive AuthorityDecision
  | approve
  | reject
  deriving DecidableEq, Repr

@[match_pattern] abbrev AuthorityDecision.deny : AuthorityDecision := .reject

/-- Security-relevant dimensions an authority record must match exactly. -/
structure AuthorityBinding where
  tenantReference : SafeReference
  actionType : ActionType
  proposalInstanceReference : SafeReference
  semanticEffectReference : SafeReference
  proposalCommitment : SafeReference
  requiredAudience : SafeReference
  requiredChannelAssurance : SafeReference
  deriving DecidableEq

inductive AuthorityValidationFailure
  | bindingMismatch
  | expired
  | notYetValid
  deriving DecidableEq, Repr

/-- The enumeration values of the source, used as error texts. -/
def AuthorityValidationFailure.value : AuthorityValidationFailure → String
  | .bindingMismatch => "binding_mismatch"
  | .expired => "expired"
  | .notYetValid => "not_yet_valid"

structure AuthorityValidationResult where
  valid : Bool
  failure : Option AuthorityValidationFailure := none
  deriving DecidableEq, Repr

/-- Reference to an artifact the host verified outside this library. -/
structure ExternalAuthorityAttestation where
  format : SafeReference
  issuerReference : SafeReference
  artifactReference : SafeReference
  artifactDigest : SafeReference
  deriving DecidableEq, Repr

/-- A bound authority decision; it is not authorization by itself. -/
structure AuthorityEvidence where
  tenantReference : SafeReference
  actionType : ActionType
  proposalInstanceReference : SafeReference
  semanticEffectReference : SafeReference
  authority : ConfirmingAuthority
  audience : List SafeReference
  decision : AuthorityDecision
  proposalCommitment : SafeReference
  channelAssurance : SafeReference
  issuedAt : Timestamp
  expiresAt : Timestamp
  externalAttestation : Option ExternalAuthorityAttestation := none
  audience_ne_nil : audience ≠ []
  expiry_follows_issue_time : issuedAt < expiresAt
  deriving DecidableEq

/-- Check proposal binding dimensions without evaluating time or sufficiency. -/
def authorityEvidenceMatchesBinding (evidence : AuthorityEvidence) (binding : AuthorityBinding) :
    Bool :=
  evidence.tenantReference == binding.tenantReference
    && evidence.actionType == binding.actionType
    && evidence.proposalInstanceReference == binding.proposalInstanceReference
    && evidence.semanticEffectReference == binding.semanticEffectReference
    && evidence.proposalCommitment == binding.proposalCommitment
    && evidence.audience.contains binding.requiredAudience
    && evidence.channelAssurance == binding.requiredChannelAssurance

/-- Validate server-bound evidence without treating it as sufficient policy. -/
def validateAuthorityEvidence (evidence : AuthorityEvidence) (binding : AuthorityBinding)
    (now : Timestamp) : AuthorityValidationResult :=
  if !authorityEvidenceMatchesBinding evidence binding then
    ⟨false, some .bindingMismatch⟩
  else if now < evidence.issuedAt then
    ⟨false, some .notYetValid⟩
  else if evidence.expiresAt ≤ now then
    ⟨false, some .expired⟩
  else
    ⟨true, none⟩

/-- Validity is exactly the binding check together with the half-open validity window. -/
theorem validateAuthorityEvidence_valid_iff {evidence : AuthorityEvidence}
    {binding : AuthorityBinding} {now : Timestamp} :
    (validateAuthorityEvidence evidence binding now).valid = true ↔
      authorityEvidenceMatchesBinding evidence binding = true ∧
        evidence.issuedAt ≤ now ∧ now < evidence.expiresAt := by
  rw [validateAuthorityEvidence]
  cases hm : authorityEvidenceMatchesBinding evidence binding with
  | false => simp
  | true =>
    by_cases hissued : now < evidence.issuedAt
    · simp [hissued, Int.not_le.mpr hissued]
    · by_cases hexpired : evidence.expiresAt ≤ now
      · simp [hissued, hexpired]
      · simp [hissued, hexpired, Int.not_lt.mp hissued, Int.not_le.mp hexpired]

/-- A refused validation always names its failure. -/
theorem validateAuthorityEvidence_failure_isSome {evidence : AuthorityEvidence}
    {binding : AuthorityBinding} {now : Timestamp}
    (h : (validateAuthorityEvidence evidence binding now).valid = false) :
    (validateAuthorityEvidence evidence binding now).failure.isSome = true := by
  rw [validateAuthorityEvidence] at h ⊢
  split_ifs at h ⊢
  all_goals rfl

/-- Evidence of an approval of a sample proposal. -/
def sampleEvidence (proposalReference : SafeReference) : AuthorityEvidence where
  tenantReference := "tenant"
  actionType := ⟨"sample.actions", "act", 1, Nat.one_pos⟩
  proposalInstanceReference := proposalReference
  semanticEffectReference := "effect"
  authority := ⟨"approver"⟩
  audience := ["audience"]
  decision := .approve
  proposalCommitment := "digest"
  channelAssurance := "assurance"
  issuedAt := 0
  expiresAt := 600000000
  audience_ne_nil := by decide
  expiry_follows_issue_time := by decide

end ThrevoActions
