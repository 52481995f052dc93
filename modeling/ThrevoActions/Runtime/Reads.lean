import ThrevoActions.Evidence
import ThrevoActions.Recovery
import ThrevoActions.Runtime.Writes

/-!
# The reading operations of the runtime

`read`, `read_recovery`, `export_evidence` and `observation_context`. They write nothing, so they
are coroutines of their own and no calls of the machine.
-/

namespace ThrevoActions

open Interleaving Interleaving.Program

variable {V : Type} [HostModels V] {H : Signature}

/-- How every reading operation begins: the proposal exists, belongs to the action, and may be
read. -/
def readable (definition : ActionDeclaration V) (proposalReference : SafeReference)
    (context : ReadContext) : Coroutine V H StoredProposal := do
  let record ← required context.tenantReference proposalReference
  raiseIf (record.actionType ≠ definition.actionType) .proposalNotFound
  let allowed ← await (.canRead definition proposalReference context)
  raiseIf (allowed = false) .proposalNotFound
  return record

/-! ## Views and exports -/

structure ProposalView where
  proposalReference : SafeReference
  lifecycleStatus : LifecycleStatus
  revision : ℕ
  displayPreview : JsonObject
  receipts : List Receipt
  safeResult : Option JsonObject := none
  erased : Bool
  deriving DecidableEq

def proposalView (record : StoredProposal) : ProposalView where
  proposalReference := record.proposalReference
  lifecycleStatus := record.lifecycleStatus
  revision := record.revision
  displayPreview := if record.erasureMarked then [] else record.displayPreview
  receipts := if record.erasureMarked then [] else record.receipts
  safeResult := if record.erasureMarked then none else record.safeResult
  erased := record.erasureMarked

/-- `ActionRuntime.read`. -/
def read (definition : ActionDeclaration V) (proposalReference : SafeReference)
    (context : ReadContext) : Coroutine V H ProposalView := do
  let record ← readable definition proposalReference context
  return proposalView record

/-- `ActionRuntime.export_evidence`. -/
def exportEvidence [UnicodeNormalization] [PydanticJson] (runtime : ActionRuntime)
    (definition : ActionDeclaration V) (proposalReference : SafeReference)
    (context : ReadContext) : Coroutine V H ActionEvidenceBundle := do
  let record ← readable definition proposalReference context
  let now ← await .now
  orRaise (buildEvidenceBundle record now runtime.runtimeRevision)

/-- `ActionRuntime.observation_context`. -/
def observationContext (definition : ActionDeclaration V) (proposalReference : SafeReference)
    (context : ReadContext) : Coroutine V H ExecutionContext := do
  let record ← readable definition proposalReference context
  raiseIf (record.erasureMarked = true) .proposalNotFound
  let now ← await .now
  orRaise (executionContext record now)

/-! ## The recovery view -/

/-- The condition `recovery_condition` derives from a whole record. -/
def conditionOf (record : StoredProposal) (observedAt : Timestamp) : ActionRecoveryCondition :=
  recoveryCondition record.lifecycleStatus observedAt record.expiresAt record.nextVerificationAt
    ((lastVerification record).map VerificationReceipt.status)

/-- The owner of an effect as a reader of another proposal sees it. -/
def ownerView (observedAt : Timestamp) (owner : StoredProposal) : ActionRecoveryOwnerView where
  proposalReference := owner.proposalReference
  revision := owner.revision
  lifecycleStatus := owner.lifecycleStatus
  condition := conditionOf owner observedAt
  nextCheckAt := owner.nextVerificationAt

/-- Whether the reader may be shown the owner of the effect. -/
def mayShowOwner (definition : ActionDeclaration V) (record : StoredProposal)
    (context : ReadContext) (ownerReference : SafeReference) (owner : Option StoredProposal) :
    Coroutine V H Bool :=
  match owner with
  | none => pure false
  | some owner =>
    if owner.actionType = record.actionType ∧
        owner.semanticEffectReference = record.semanticEffectReference ∧
        owner.erasureMarked = false then
      await (.canRead definition ownerReference context)
    else pure false

/-- The owner lookup of `_read_effect_owner`. An exception of the store leaves the ownership
uncertain. -/
def observeOwner (record : StoredProposal) : Coroutine V H (Option (Option SafeReference)) := do
  let owner ← (await (.getEffectClaimOwner record.tenantReference record.actionType
    record.semanticEffectReference)).attempt
  match owner with
  | .ok owner => return some owner
  | .error failure =>
    raiseIf (failure.isException = false) failure
    return none

/-- `_read_effect_owner`. -/
def readEffectOwner (definition : ActionDeclaration V) (record : StoredProposal)
    (context : ReadContext) (observedAt : Timestamp) :
    Coroutine V H (ActionEffectOwnership × Option ActionRecoveryOwnerView) := do
  let observed ← observeOwner record
  match observed with
  | none => return (.observationUncertain, none)
  | some none => return (.unclaimed, none)
  | some (some ownerReference) =>
    if ownerReference = record.proposalReference then return (.ownedByThisProposal, none)
    else
    let owner ← await (.get record.tenantReference ownerReference)
    let mayShow ← mayShowOwner definition record context ownerReference owner
    let confirmed ← observeOwner record
    if confirmed ≠ some (some ownerReference) then return (.observationUncertain, none)
    else return (.ownedElsewhere, if mayShow then owner.map (ownerView observedAt) else none)

/-- What the view says of a record that is erased or about to be. -/
def erasedRecoveryView (record : StoredProposal) (observedAt : Timestamp) : ActionRecoveryView where
  proposalReference := record.proposalReference
  lifecycleStatus := record.lifecycleStatus
  revision := record.revision
  erased := true
  observedAt := observedAt
  condition := .erased
  effectOwnership := .observationUncertain
  recommendedSteps := recoverySteps .erased none none

/-- The newest reason code on file. -/
def lastReason (record : StoredProposal) : Option SafeReference :=
  record.receipts.reverse.findSome? Receipt.reasonCode

/-- The reason the view gives. -/
def recoveryReason (record : StoredProposal) (observedAt : Timestamp) : Option SafeReference :=
  if conditionOf record observedAt = .expiryDue ∧ lastReason record = none then
    some RuntimeReasonCode.proposalExpired.value
  else lastReason record

/-- The condition the view gives: an authorized proposal defers to another owner of its effect. -/
def recoveryConditionOf (record : StoredProposal) (observedAt : Timestamp)
    (ownership : ActionEffectOwnership) : ActionRecoveryCondition :=
  if record.lifecycleStatus = .authorized ∧
      ownership ∈ [.ownedElsewhere, .observationUncertain] then .effectOwnedElsewhere
  else conditionOf record observedAt

/-- The view of an unmarked record. -/
def recoveryView (record : StoredProposal) (observedAt : Timestamp)
    (ownership : ActionEffectOwnership) (owner : Option ActionRecoveryOwnerView) :
    ActionRecoveryView where
  proposalReference := record.proposalReference
  lifecycleStatus := record.lifecycleStatus
  revision := record.revision
  erased := false
  observedAt := observedAt
  expiresAt := some record.expiresAt
  nextVerificationAt := record.nextVerificationAt
  verificationAttempts := some record.verificationAttempts
  maxVerificationAttempts := some record.maxVerificationAttempts
  lastVerificationStatus := (lastVerification record).map VerificationReceipt.status
  reasonCode := recoveryReason record observedAt
  condition := recoveryConditionOf record observedAt ownership
  effectOwnership := ownership
  owner := owner
  recommendedSteps := recoverySteps (recoveryConditionOf record observedAt ownership)
    record.nextVerificationAt (recoveryReason record observedAt)

/-- `ActionRuntime.read_recovery`. -/
def readRecovery (definition : ActionDeclaration V) (proposalReference : SafeReference)
    (context : ReadContext) : Coroutine V H ActionRecoveryView := do
  let record ← readable definition proposalReference context
  let observedAt ← await .now
  if record.erasureMarked = true then return erasedRecoveryView record observedAt
  else
  let (ownership, owner) ← readEffectOwner definition record context observedAt
  return recoveryView record observedAt ownership owner

/-! ## What the readers return -/

theorem required_returns (tenantReference proposalReference : SafeReference)
    (h : RuntimeHistory V H) :
    (required tenantReference proposalReference).Returns (fun h' record ↦
      Answered h' (.get tenantReference proposalReference) (some record) ∧
        record.key = (tenantReference, proposalReference)) h := by
  refine Returns.perform fun found ↦ ?_
  cases found with
  | none => exact Returns.throw
  | some record =>
    refine Returns.raiseIf fun hkey ↦ Returns.pure ?_
    simp only [not_or, ne_eq, not_not] at hkey
    obtain ⟨rfl, rfl⟩ := hkey
    exact ⟨.head, rfl⟩

theorem readable_returns (definition : ActionDeclaration V) (proposalReference : SafeReference)
    (context : ReadContext) (h : RuntimeHistory V H) :
    (readable definition proposalReference context).Returns (fun h' record ↦
      Answered h' (.get context.tenantReference proposalReference) (some record) ∧
        record.key = (context.tenantReference, proposalReference) ∧
        record.actionType = definition.actionType) h := by
  refine Returns.bind (required_returns _ _ _) fun h₁ record _ hread ↦ Returns.raiseIf fun haction ↦ ?_
  refine Returns.perform fun allowed ↦ Returns.raiseIf fun _ ↦ Returns.pure ?_
  exact ⟨hread.1.mono (List.suffix_cons _ _), hread.2, not_not.mp haction⟩

/-- The lookup of the recorded owner of a record's effect. -/
abbrev ownerLookup (record : StoredProposal) : Op V H :=
  .getEffectClaimOwner record.tenantReference record.actionType record.semanticEffectReference

/-- What the owner lookups of a reader answered, for each ownership it reports. -/
inductive OwnershipObserved (h : RuntimeHistory V H) (record : StoredProposal) :
    ActionEffectOwnership → Prop
  | unclaimed (hlookup : Answered h (ownerLookup record) none) :
      OwnershipObserved h record .unclaimed
  | own (hlookup : Answered h (ownerLookup record) (some record.proposalReference)) :
      OwnershipObserved h record .ownedByThisProposal
  | elsewhere {owner : SafeReference} (hother : owner ≠ record.proposalReference)
      (hlookup : Answered h (ownerLookup record) (some owner)) :
      OwnershipObserved h record .ownedElsewhere
  | failed {failure : Exn} (hlookup : (⟨ownerLookup record, .error failure⟩ :
      Event (runtimeSignature V H) Exn) ∈ h) : OwnershipObserved h record .observationUncertain
  | changed {first second : Option SafeReference} (hne : first ≠ second)
      (hfirst : Answered h (ownerLookup record) first)
      (hsecond : Answered h (ownerLookup record) second) :
      OwnershipObserved h record .observationUncertain

theorem observeOwner_returns (record : StoredProposal) (h : RuntimeHistory V H) :
    (observeOwner record).Returns (fun h' observed ↦
      (∀ owner, observed = some owner → Answered h' (ownerLookup record) owner) ∧
        (observed = none → ∃ failure, (⟨ownerLookup record, .error failure⟩ :
          Event (runtimeSignature V H) Exn) ∈ h')) h := by
  refine Returns.attempt fun owner ↦ ?_
  cases owner with
  | ok owner => exact Returns.pure ⟨fun _ heq ↦ Option.some.inj heq ▸ .head, nofun⟩
  | error failure =>
    exact Returns.raiseIf fun _ ↦ Returns.pure ⟨nofun, fun _ ↦ ⟨failure, List.mem_cons_self⟩⟩

theorem readEffectOwner_returns (definition : ActionDeclaration V) (record : StoredProposal)
    (context : ReadContext) (observedAt : Timestamp) (h : RuntimeHistory V H) :
    (readEffectOwner definition record context observedAt).Returns
      (fun h' answer ↦ OwnershipObserved h' record answer.1) h := by
  refine Returns.bind (observeOwner_returns record h) fun h₁ observed _ hobserved ↦ ?_
  cases observed with
  | none =>
    obtain ⟨failure, hfailure⟩ := hobserved.2 rfl
    exact Returns.pure (.failed hfailure)
  | some first =>
    have hfirst := hobserved.1 first rfl
    cases first with
    | none => exact Returns.pure (.unclaimed hfirst)
    | some ownerReference =>
      dsimp only
      split
      · rename_i hself
        subst hself
        exact Returns.pure (.own hfirst)
      · rename_i hother
        refine Returns.perform fun owner ↦ ?_
        refine Returns.bind (Returns.any _ _) fun h₃ mayShow hsuffix₃ _ ↦ ?_
        refine Returns.bind (observeOwner_returns record h₃) fun h₄ confirmed hsuffix₄ hconfirmed ↦ ?_
        have hfirst₄ := hfirst.mono (((List.suffix_cons _ _).trans hsuffix₃).trans hsuffix₄)
        split
        · rename_i hne
          refine Returns.pure ?_
          cases confirmed with
          | none =>
            obtain ⟨failure, hfailure⟩ := hconfirmed.2 rfl
            exact .failed hfailure
          | some second =>
            exact .changed (fun heq ↦ hne (congrArg some heq)) (hconfirmed.1 second rfl) hfirst₄
        · exact Returns.pure (.elsewhere hother hfirst₄)

/-- **What a recovery view is made of**: one record on file, one reading of the clock, and what the
owner lookups answered. -/
theorem readRecovery_returns (definition : ActionDeclaration V) (proposalReference : SafeReference)
    (context : ReadContext) (h : RuntimeHistory V H) :
    (readRecovery definition proposalReference context).Returns (fun h' view ↦
      ∃ record observedAt,
        Answered h' (.get context.tenantReference proposalReference) (some record) ∧
        record.actionType = definition.actionType ∧ Answered h' .now observedAt ∧
        (record.erasureMarked = true ∧ view = erasedRecoveryView record observedAt ∨
          record.erasureMarked = false ∧ ∃ ownership owner, OwnershipObserved h' record ownership ∧
            view = recoveryView record observedAt ownership owner)) h := by
  refine Returns.bind (readable_returns _ _ _ h) fun h₁ record _ hread ↦ ?_
  refine Returns.perform fun observedAt ↦ ?_
  have hread₂ := hread.1.mono (List.suffix_cons (⟨.now, .ok observedAt⟩ :
    Event (runtimeSignature V H) Exn) h₁)
  split
  · rename_i hmarked
    exact Returns.pure ⟨record, observedAt, hread₂, hread.2.2, .head, Or.inl ⟨hmarked, rfl⟩⟩
  · rename_i hunmarked
    rw [Bool.not_eq_true] at hunmarked
    refine Returns.bind (readEffectOwner_returns _ _ _ _ _) fun h₃ answer hsuffix hobserved ↦ ?_
    exact Returns.pure ⟨record, observedAt, hread₂.mono hsuffix, hread.2.2,
      Answered.head.mono hsuffix, Or.inr ⟨hunmarked, answer.1, answer.2, hobserved, rfl⟩⟩

/-! ## A store at rest -/

/-- Answers of the store `store` as it stands and of a clock that reads `t`. Whatever else is asked
may be answered in any way. -/
def answersFrom (store : MemoryActionStore) (t : Timestamp) : (o : Op V H) → Except Exn o.Ans → Prop
  | .get tenantReference proposalReference, answer =>
    answer = .ok (store.get tenantReference proposalReference)
  | .getEffectClaimOwner tenantReference actionType semanticEffectReference, answer =>
    answer = .ok (store.getEffectClaimOwner tenantReference actionType semanticEffectReference)
  | .compareAndSet args, answer => answer = (store.compareAndSet args).1
  | .now, answer => answer = .ok t
  | _, _ => True

/-- Over the store `store` at `t`, the coroutine writes. -/
def WouldWrite {α : Type} (store : MemoryActionStore) (t : Timestamp) (p : Coroutine V H α) :
    Prop :=
  p.May (answersFrom store t) fun ev : Event (runtimeSignature V H) Exn ↦
    ∃ args, ev = ⟨.compareAndSet args, .ok true⟩

section WouldWrite

variable {α : Type} {store : MemoryActionStore} {t : Timestamp}

theorem wouldWrite_now_bind {f : Timestamp → Coroutine V H α} :
    WouldWrite store t (await .now >>= f) ↔ WouldWrite store t (f t) := by
  refine (may_perform_bind (a := t) fun _ ↦ Iff.rfl).trans (or_iff_right ?_)
  rintro ⟨args, heq⟩
  cases heq

theorem wouldWrite_required_bind {tenantReference proposalReference : SafeReference}
    {record : StoredProposal} {f : StoredProposal → Coroutine V H α}
    (hfound : store.proposals (tenantReference, proposalReference) = some record)
    (hkey : record.key = (tenantReference, proposalReference)) :
    WouldWrite store t (required tenantReference proposalReference >>= f) ↔
      WouldWrite store t (f record) := by
  rw [required, LawfulMonad.bind_assoc, WouldWrite, may_perform_bind fun _ ↦ Iff.rfl,
    MemoryActionStore.get, hfound]
  refine (or_iff_right ?_).trans ?_
  · rintro ⟨args, heq⟩
    cases heq
  · obtain ⟨rfl, rfl⟩ := Prod.mk.inj hkey
    dsimp only
    rw [LawfulMonad.bind_assoc, may_raiseIf_bind, and_iff_right (by simp)]
    exact Iff.rfl

/-- A guarded write over the record on file succeeds if the store accepts it. -/
theorem wouldWrite_cas_bind {record updated : StoredProposal} {f : Bool → Coroutine V H α}
    (hfound : store.proposals record.key = some record) (haccepted : AcceptedUpdate record updated)
    (hunstarted : updated.lifecycleStatus ≠ .executing) :
    WouldWrite store t (cas record updated >>= f) := by
  have happlied : store.compareAndSet (casArguments record updated) =
      (.ok true, store.put updated) :=
    MemoryActionStore.compareAndSet_accepted hfound rfl (List.mem_singleton_self _) haccepted
      hunstarted
  refine (may_perform_bind (a := true) fun r ↦ ?_).mpr (Or.inl ⟨casArguments record updated, rfl⟩)
  rw [answersFrom, happlied]

end WouldWrite

end ThrevoActions
