import ThrevoActions.Registry
import Mathlib.Data.Finset.Card
import Mathlib.Data.Finset.Image

/-!
# Evidence-only approval requirements

The evaluators of `approvals.py` count distinct declared authorities with matching approvals. They
look at evidence the runtime has already filtered, and never decide whether an authority is
currently permitted to act.

`AtLeast` is the counting in its own terms; `MOfNApprovals.satisfied_iff` says that the evaluator
counts just that.
-/

namespace ThrevoActions

/-! ## Counting -/

section AtLeast

variable {α : Type} {P Q : α → Prop} {m : ℕ}

/-- At least `m` distinct elements have the property. -/
def AtLeast (m : ℕ) (P : α → Prop) : Prop := ∃ S : Finset α, m ≤ S.card ∧ ∀ a ∈ S, P a

theorem AtLeast.mono (h : AtLeast m P) (himp : ∀ a, P a → Q a) : AtLeast m Q := by
  obtain ⟨S, hcard, hS⟩ := h
  exact ⟨S, hcard, fun a ha ↦ himp a (hS a ha)⟩

/-- Where the elements with the property form a finite set, they are counted. -/
theorem atLeast_iff_le_card {S : Finset α} (hS : ∀ a, a ∈ S ↔ P a) :
    AtLeast m P ↔ m ≤ S.card := by
  constructor
  · rintro ⟨T, hcard, hT⟩
    have hsubset : T ⊆ S := fun a ha ↦ (hS a).mpr (hT a ha)
    exact hcard.trans (Finset.card_le_card hsubset)
  · intro hcard
    exact ⟨S, hcard, fun a ha ↦ (hS a).mp ha⟩

/-- At least one element has a property that at least a positive number of elements have. -/
theorem AtLeast.exists (h : AtLeast m P) (hm : 1 ≤ m) : ∃ a, P a := by
  obtain ⟨S, hcard, hS⟩ := h
  obtain ⟨a, ha⟩ := Finset.card_pos.mp (hm.trans hcard)
  exact ⟨a, hS a ha⟩

end AtLeast

/-! ## The evaluators -/

/-- `_references`. -/
def references (authorities : List ConfirmingAuthority) : List SafeReference :=
  authorities.map (·.reference)

/-- Reason codes generated by the evidence-only approval requirements. -/
inductive ApprovalReasonCode
  | moreAuthorityRequired
  deriving DecidableEq, Repr

def ApprovalReasonCode.value : ApprovalReasonCode → String
  | .moreAuthorityRequired => "more_authority_required"

/-- The distinct declared references with matching approvals. -/
def approving (authorities : List ConfirmingAuthority) (binding : AuthorityBinding)
    (evidence : List AuthorityEvidence) : Finset SafeReference :=
  ((evidence.filter fun record ↦ record.decision == .approve
      && (references authorities).contains record.authority.reference
      && authorityEvidenceMatchesBinding record binding).map (·.authority.reference)).toFinset

/-- `_satisfied`. -/
def satisfied (required : ℕ) (authorities : List ConfirmingAuthority) (binding : AuthorityBinding)
    (evidence : List AuthorityEvidence) : AuthorityEvaluation :=
  let satisfied := decide (required ≤ (approving authorities binding evidence).card)
  ⟨satisfied, if satisfied then none else some ApprovalReasonCode.moreAuthorityRequired.value⟩

/-- Require one specific authority after the host authorizes the decision. -/
structure SingleApproval where
  authority : ConfirmingAuthority

def SingleApproval.evaluate (requirement : SingleApproval) (binding : AuthorityBinding)
    (evidence : List AuthorityEvidence) : AuthorityEvaluation :=
  satisfied 1 [requirement.authority] binding evidence

/-- Require one distinct authority from a declared set. -/
structure AnyApproval where
  authorities : List ConfirmingAuthority
  nonempty : authorities ≠ []
  distinct : (references authorities).Nodup

def AnyApproval.evaluate (requirement : AnyApproval) (binding : AuthorityBinding)
    (evidence : List AuthorityEvidence) : AuthorityEvaluation :=
  satisfied 1 requirement.authorities binding evidence

/-- Require approvals from a distinct M-of-N set of authorities. -/
structure MOfNApprovals where
  required : ℕ
  authorities : List ConfirmingAuthority
  nonempty : authorities ≠ []
  distinct : (references authorities).Nodup
  one_le_required : 1 ≤ required
  required_le : required ≤ authorities.length

def MOfNApprovals.evaluate (requirement : MOfNApprovals) (binding : AuthorityBinding)
    (evidence : List AuthorityEvidence) : AuthorityEvaluation :=
  satisfied requirement.required requirement.authorities binding evidence

/-! ## What they count -/

theorem mem_references {authorities : List ConfirmingAuthority} {authority : ConfirmingAuthority} :
    authority.reference ∈ references authorities ↔ authority ∈ authorities := by
  rw [references, List.mem_map]
  constructor
  · rintro ⟨other, hmem, hreference⟩
    obtain ⟨reference⟩ := other
    obtain rfl : reference = authority.reference := hreference
    exact hmem
  · intro hmem
    exact ⟨authority, hmem, rfl⟩

/-- A declared authority with an approval among the evidence that passes `accepted`. -/
def Approves (authorities : List ConfirmingAuthority) (evidence : List AuthorityEvidence)
    (accepted : AuthorityEvidence → Bool) (authority : ConfirmingAuthority) : Prop :=
  authority ∈ authorities ∧ ∃ item ∈ evidence,
    item.decision = .approve ∧ item.authority = authority ∧ accepted item = true

theorem Approves.mono {authorities : List ConfirmingAuthority}
    {evidence evidence' : List AuthorityEvidence} {accepted accepted' : AuthorityEvidence → Bool}
    {authority : ConfirmingAuthority}
    (h : Approves authorities evidence accepted authority)
    (hevidence : ∀ item ∈ evidence, accepted item = true → item ∈ evidence' ∧ accepted' item = true) :
    Approves authorities evidence' accepted' authority := by
  obtain ⟨hdeclared, item, hitem, happrove, hauthority, haccepted⟩ := h
  obtain ⟨hitem', haccepted'⟩ := hevidence item hitem haccepted
  exact ⟨hdeclared, item, hitem', happrove, hauthority, haccepted'⟩

theorem mem_approving {authorities : List ConfirmingAuthority} {binding : AuthorityBinding}
    {evidence : List AuthorityEvidence} {reference : SafeReference} :
    reference ∈ approving authorities binding evidence ↔
      Approves authorities evidence (authorityEvidenceMatchesBinding · binding) ⟨reference⟩ := by
  simp only [approving, List.mem_toFinset, List.mem_map, List.mem_filter, Bool.and_eq_true,
    beq_iff_eq, List.contains_iff_mem, mem_references]
  constructor
  · rintro ⟨item, ⟨hitem, ⟨happrove, hdeclared⟩, hmatches⟩, rfl⟩
    exact ⟨hdeclared, item, hitem, happrove, rfl, hmatches⟩
  · rintro ⟨hdeclared, item, hitem, happrove, hauthority, hmatches⟩
    rw [← hauthority] at hdeclared
    exact ⟨item, ⟨hitem, ⟨happrove, hdeclared⟩, hmatches⟩, by rw [hauthority]⟩

variable {requirement : MOfNApprovals} {binding : AuthorityBinding}
  {evidence evidence' : List AuthorityEvidence}

/-- **The evaluator counts distinct declared authorities** with a matching approval. -/
theorem MOfNApprovals.satisfied_iff :
    (requirement.evaluate binding evidence).satisfied = true ↔
      AtLeast requirement.required (Approves requirement.authorities evidence
        (authorityEvidenceMatchesBinding · binding)) := by
  rw [evaluate, satisfied, decide_eq_true_iff]
  have hcard : ((approving requirement.authorities binding evidence).map
      ⟨ConfirmingAuthority.mk, fun _ _ h ↦ congrArg ConfirmingAuthority.reference h⟩).card =
      (approving requirement.authorities binding evidence).card := Finset.card_map _
  rw [← hcard]
  refine (atLeast_iff_le_card fun authority ↦ ?_).symm
  rw [Finset.mem_map]
  constructor
  · rintro ⟨reference, hmem, rfl⟩
    exact mem_approving.mp hmem
  · intro happroves
    exact ⟨authority.reference, mem_approving.mpr happroves, rfl⟩

/-- The answer depends on nothing but which items occur in the evidence. -/
theorem MOfNApprovals.evaluate_congr (hsubset : evidence ⊆ evidence')
    (hsupset : evidence' ⊆ evidence) :
    requirement.evaluate binding evidence = requirement.evaluate binding evidence' := by
  have happroving : approving requirement.authorities binding evidence =
      approving requirement.authorities binding evidence' := by
    ext reference
    rw [mem_approving, mem_approving]
    exact ⟨fun h ↦ h.mono fun _ hitem haccepted ↦ ⟨hsubset hitem, haccepted⟩,
      fun h ↦ h.mono fun _ hitem haccepted ↦ ⟨hsupset hitem, haccepted⟩⟩
  rw [evaluate, evaluate, satisfied, satisfied, happroving]

/-- More evidence never turns a satisfied evaluation down. -/
theorem MOfNApprovals.satisfied_of_subset (hsubset : evidence ⊆ evidence')
    (hsatisfied : (requirement.evaluate binding evidence).satisfied = true) :
    (requirement.evaluate binding evidence').satisfied = true := by
  rw [satisfied_iff] at hsatisfied ⊢
  refine hsatisfied.mono fun authority happroves ↦ ?_
  exact happroves.mono fun _ hitem haccepted ↦ ⟨hsubset hitem, haccepted⟩

/-- Requiring one authority of a declared set is requiring one of its N. -/
theorem AnyApproval.evaluate_eq (requirement : AnyApproval) (binding : AuthorityBinding)
    (evidence : List AuthorityEvidence) :
    requirement.evaluate binding evidence = MOfNApprovals.evaluate
      ⟨1, requirement.authorities, requirement.nonempty, requirement.distinct, Nat.le_refl 1,
        List.length_pos_iff.mpr requirement.nonempty⟩ binding evidence := rfl

end ThrevoActions
