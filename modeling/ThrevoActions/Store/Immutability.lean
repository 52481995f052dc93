import ThrevoActions.Store.Base

/-!
# What a replacement may not change

The rule is written three times: `validate_proposal_update`, which guards `compare_and_set` and
`admit_execution` of the memory and SQLite stores; the runtime update procedure of MySQL, which
compares the two documents without the fields the runtime may write; and the update trigger of
PostgreSQL, which compares the fields the runtime may not write. The three do not agree.
-/

namespace ThrevoActions

/-- The fields of `StoredProposal`. -/
inductive ProposalField
  | tenantReference
  | proposalReference
  | actionType
  | semanticEffectReference
  | effectKind
  | lifecycleStatus
  | revision
  | protectedPrivateSnapshot
  | commitment
  | displayPreview
  | requestingPrincipal
  | proposingAgent
  | createdAt
  | expiresAt
  | authorityEvidence
  | receipts
  | verificationAttempts
  | maxVerificationAttempts
  | nextVerificationAt
  | safeResult
  | executionPrecondition
  | supersededBy
  | erasurePendingAt
  | erasedAt
  deriving DecidableEq, Repr

/-- Two records agree on a field. -/
def StoredProposal.AgreeOn (current updated : StoredProposal) : ProposalField → Prop
  | .tenantReference => current.tenantReference = updated.tenantReference
  | .proposalReference => current.proposalReference = updated.proposalReference
  | .actionType => current.actionType = updated.actionType
  | .semanticEffectReference => current.semanticEffectReference = updated.semanticEffectReference
  | .effectKind => current.effectKind = updated.effectKind
  | .lifecycleStatus => current.lifecycleStatus = updated.lifecycleStatus
  | .revision => current.revision = updated.revision
  | .protectedPrivateSnapshot =>
    current.protectedPrivateSnapshot = updated.protectedPrivateSnapshot
  | .commitment => current.commitment = updated.commitment
  | .displayPreview => current.displayPreview = updated.displayPreview
  | .requestingPrincipal => current.requestingPrincipal = updated.requestingPrincipal
  | .proposingAgent => current.proposingAgent = updated.proposingAgent
  | .createdAt => current.createdAt = updated.createdAt
  | .expiresAt => current.expiresAt = updated.expiresAt
  | .authorityEvidence => current.authorityEvidence = updated.authorityEvidence
  | .receipts => current.receipts = updated.receipts
  | .verificationAttempts => current.verificationAttempts = updated.verificationAttempts
  | .maxVerificationAttempts => current.maxVerificationAttempts = updated.maxVerificationAttempts
  | .nextVerificationAt => current.nextVerificationAt = updated.nextVerificationAt
  | .safeResult => current.safeResult = updated.safeResult
  | .executionPrecondition => current.executionPrecondition = updated.executionPrecondition
  | .supersededBy => current.supersededBy = updated.supersededBy
  | .erasurePendingAt => current.erasurePendingAt = updated.erasurePendingAt
  | .erasedAt => current.erasedAt = updated.erasedAt

instance (current updated : StoredProposal) (field : ProposalField) :
    Decidable (current.AgreeOn updated field) := by
  cases field <;> exact inferInstanceAs (Decidable (_ = _))

/-! ## The databases -/

/-- The fields `JSON_REMOVE` takes out of both documents before `threvo_actions_runtime_update_proposal`
compares them. -/
def mysqlRuntimeFields : List ProposalField :=
  [.lifecycleStatus, .revision, .expiresAt, .authorityEvidence, .receipts, .verificationAttempts,
    .nextVerificationAt, .safeResult, .executionPrecondition, .supersededBy]

/-- The fields the MySQL procedure does not let the runtime change. -/
def MysqlForbids (field : ProposalField) : Prop := field ∉ mysqlRuntimeFields

/-- The fields `enforce_proposal_update` compares before it asks for the retention boundary, and the
columns it calls the identity of a proposal. -/
def postgresGuardedFields : List ProposalField :=
  [.commitment, .protectedPrivateSnapshot, .erasurePendingAt, .erasedAt] ++
    [.tenantReference, .proposalReference, .actionType, .semanticEffectReference, .effectKind,
      .createdAt]

/-- The fields the PostgreSQL trigger does not let the runtime change. -/
def PostgresForbids (field : ProposalField) : Prop := field ∈ postgresGuardedFields

instance (field : ProposalField) : Decidable (MysqlForbids field) :=
  inferInstanceAs (Decidable (_ ∉ _))

instance (field : ProposalField) : Decidable (PostgresForbids field) :=
  inferInstanceAs (Decidable (_ ∈ _))

/-- Everything PostgreSQL guards MySQL guards too. -/
theorem PostgresForbids.mysql {field : ProposalField} (h : PostgresForbids field) :
    MysqlForbids field := by
  cases field <;> revert h <;> decide

/-! ## The validator -/

/-- The fields of which `validate_proposal_update` requires nothing. -/
def unguardedFields : List ProposalField :=
  [.protectedPrivateSnapshot, .commitment, .displayPreview, .requestingPrincipal, .proposingAgent,
    .maxVerificationAttempts, .erasurePendingAt, .erasedAt]

/-- A field the databases guard belongs to the identity, or nothing guards it in the validator. -/
theorem AcceptedUpdate.agreeOn {current updated : StoredProposal}
    (haccepted : AcceptedUpdate current updated) {field : ProposalField}
    (hforbidden : MysqlForbids field) (hguarded : field ∉ unguardedFields) :
    current.AgreeOn updated field := by
  have hidentity := haccepted.identity
  simp only [StoredProposal.identity, Prod.mk.injEq] at hidentity
  obtain ⟨htenant, hproposal, haction, heffect, hkind, hcreated⟩ := hidentity
  cases field with
  | tenantReference => exact htenant
  | proposalReference => exact hproposal
  | actionType => exact haction
  | semanticEffectReference => exact heffect
  | effectKind => exact hkind
  | createdAt => exact hcreated
  | protectedPrivateSnapshot | commitment | displayPreview | requestingPrincipal | proposingAgent
  | maxVerificationAttempts | erasurePendingAt | erasedAt => exact absurd (by decide) hguarded
  | lifecycleStatus | revision | expiresAt | authorityEvidence | receipts | verificationAttempts
  | nextVerificationAt | safeResult | executionPrecondition | supersededBy =>
    exact absurd (by decide) hforbidden

/-- **When an accepted replacement respects the databases' rule**: it must keep the eight fields the
validator does not compare. -/
theorem accepted_agrees_iff {current updated : StoredProposal}
    (haccepted : validateProposalUpdate current updated = .ok ()) :
    (∀ field, MysqlForbids field ∨ PostgresForbids field → current.AgreeOn updated field) ↔
      ∀ field ∈ unguardedFields, current.AgreeOn updated field := by
  constructor
  · intro hagree field hfield
    refine hagree field (Or.inl ?_)
    cases field <;> revert hfield <;> decide
  · intro hagree field hforbidden
    by_cases hfield : field ∈ unguardedFields
    · exact hagree field hfield
    · have hforbidden' : MysqlForbids field := hforbidden.elim id PostgresForbids.mysql
      exact (validateProposalUpdate_ok haccepted).agreeOn hforbidden' hfield

/-! ### A sample approval -/

section Sample

/-- An approved proposal. -/
def sampleApproved : StoredProposal where
  tenantReference := "tenant"
  proposalReference := "proposal"
  actionType := ⟨"sample.actions", "act", 1, Nat.one_pos⟩
  semanticEffectReference := "effect"
  effectKind := .single
  lifecycleStatus := .authorized
  revision := 1
  protectedPrivateSnapshot := some ⟨"codec", "handle", "version", "ciphertext"⟩
  commitment := some ⟨"algorithm", "handle", "version", "digest"⟩
  displayPreview := [jsonField "amount" (jsonText "1.00")]
  requestingPrincipal := some ⟨"requester"⟩
  createdAt := 0
  expiresAt := 600000000
  authorityEvidence := [sampleEvidence "proposal"]
  maxVerificationAttempts := 3

/-- The approved proposal expires: nothing the databases guard changes. -/
theorem accepted_agrees_sample :
    validateProposalUpdate sampleApproved
        { sampleApproved with lifecycleStatus := .expired, revision := 2 } = .ok () ∧
      ∀ field, MysqlForbids field ∨ PostgresForbids field → sampleApproved.AgreeOn
        { sampleApproved with lifecycleStatus := .expired, revision := 2 } field :=
  ⟨by decide, (accepted_agrees_iff (by decide)).mpr (by decide)⟩

/-- An accepted successor of the approved sample, or of its tombstone, with another `field`. -/
def exchanged : ProposalField → StoredProposal × StoredProposal
  | .protectedPrivateSnapshot => (sampleApproved,
    { sampleApproved with revision := 2, protectedPrivateSnapshot := none })
  | .commitment => (sampleApproved,
    { sampleApproved with
      revision := 2
      commitment := some ⟨"algorithm", "other handle", "version", "digest"⟩ })
  | .displayPreview => (sampleApproved,
    { sampleApproved with revision := 2, displayPreview := [] })
  | .requestingPrincipal => (sampleApproved,
    { sampleApproved with revision := 2, requestingPrincipal := none })
  | .proposingAgent => (sampleApproved,
    { sampleApproved with revision := 2, proposingAgent := some ⟨"agent"⟩ })
  | .maxVerificationAttempts => (sampleApproved,
    { sampleApproved with revision := 2, maxVerificationAttempts := 4 })
  | .erasurePendingAt => (sampleApproved,
    { sampleApproved with revision := 2, erasurePendingAt := some 0 })
  | _ => (erasedProposal sampleApproved 0,
    { erasedProposal sampleApproved 0 with revision := 3, erasedAt := none })

/-- None of the eight fields is redundant: each can be exchanged alone. -/
theorem unguarded_open {field : ProposalField} (h : field ∈ unguardedFields) :
    validateProposalUpdate (exchanged field).1 (exchanged field).2 = .ok () ∧
      ∀ other ∈ unguardedFields,
        (exchanged field).1.AgreeOn (exchanged field).2 other ↔ other ≠ field := by
  simp only [unguardedFields, List.mem_cons, List.not_mem_nil, or_false] at h
  rcases h with rfl | rfl | rfl | rfl | rfl | rfl | rfl | rfl <;> decide

/-- After the approval its snapshot and its preview are exchanged, and the validator accepts. -/
theorem approved_content_exchanged :
    ∃ current updated : StoredProposal, current.lifecycleStatus = .authorized ∧
      current.authorityEvidence ≠ [] ∧ validateProposalUpdate current updated = .ok () ∧
      MysqlForbids .protectedPrivateSnapshot ∧ PostgresForbids .protectedPrivateSnapshot ∧
      ¬current.AgreeOn updated .protectedPrivateSnapshot ∧
      MysqlForbids .displayPreview ∧ ¬current.AgreeOn updated .displayPreview :=
  ⟨sampleApproved,
    { sampleApproved with
      revision := 2
      protectedPrivateSnapshot := some ⟨"codec", "handle", "version", "other ciphertext"⟩
      displayPreview := [jsonField "amount" (jsonText "100.00")] },
    by decide⟩

end Sample

end ThrevoActions
