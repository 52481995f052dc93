import ThrevoActions.Interleaving.Disguise
import ThrevoActions.Runtime.Writes

/-!
# What coroutines make of marked records

A record that is marked for erasure is read by every coroutine before it can be refused. This module
masks the content of such records (preview, receipts, safe result, and authority evidence where
asked) in what a coroutine reads, and shows function by function that the coroutine does not notice:
it is `Unaffected`. What has to be expected of the readings is stated once (`ExpectedRead`); it
matters in two places only, the report of a coroutine that lost a guarded write and the end of an
erasure.
-/

namespace ThrevoActions

open Interleaving Interleaving.Program

variable {V : Type} [HostModels V] {H : Signature} {α β : Type}

/-! ## Masks -/

/-- What is hidden: the content of marked records under `keys`, with or without their authority
evidence. -/
structure Mask where
  keys : ProposalKey → Bool
  evidence : Bool

/-- The record without the content that is hidden. -/
def StoredProposal.without (evidence : Bool) (record : StoredProposal) : StoredProposal :=
  { record with
    displayPreview := []
    authorityEvidence := if evidence then [] else record.authorityEvidence
    receipts := []
    safeResult := none }

/-- The mask covers the record. -/
def Mask.covers (mask : Mask) (record : StoredProposal) : Bool :=
  mask.keys record.key && record.erasureMarked

/-- The record as it is seen through the mask. -/
def Mask.record (mask : Mask) (record : StoredProposal) : StoredProposal :=
  if mask.covers record then record.without mask.evidence else record

theorem Mask.record_of_covers {mask : Mask} {record : StoredProposal}
    (hcovers : mask.covers record = true) : mask.record record = record.without mask.evidence :=
  if_pos hcovers

theorem Mask.record_of_not_covers {mask : Mask} {record : StoredProposal}
    (hcovers : mask.covers record = false) : mask.record record = record := by
  rw [Mask.record, hcovers]
  rfl

/-- A mask covers marked records only. -/
theorem Mask.marked_of_covers {mask : Mask} {record : StoredProposal}
    (hcovers : mask.covers record = true) : record.erasureMarked = true :=
  (Bool.and_eq_true _ _ ▸ hcovers).2

/-- A tombstone has nothing to hide. -/
theorem StoredProposal.without_of_contentFree {record : StoredProposal} (evidence : Bool)
    (hfree : contentFree record = true) : record.without evidence = record := by
  simp only [contentFree, Bool.and_eq_true, Option.isNone_iff_eq_none, List.isEmpty_iff] at hfree
  obtain ⟨⟨⟨⟨⟨⟨⟨⟨-, -⟩, hpreview⟩, -⟩, -⟩, hevidence⟩, hreceipts⟩, hresult⟩, -⟩ := hfree
  rw [without, hevidence, ite_self]
  cases record
  simp_all

theorem safeResult_of_contentFree {record : StoredProposal} (hfree : contentFree record = true) :
    record.safeResult = none := by
  simp only [contentFree, Bool.and_eq_true, Option.isNone_iff_eq_none] at hfree
  exact hfree.1.2

/-- The coroutine has just lost a guarded write over the proposal. -/
inductive LostWrite (h : RuntimeHistory V H) (key : ProposalKey) : Prop
  | written {args : MemoryActionStore.CompareAndSet} {past : RuntimeHistory V H}
      (hh : h = ⟨.compareAndSet args, .ok false⟩ :: past)
      (hkey : (args.tenantReference, args.proposalReference) = key)
  | admission {args : MemoryActionStore.AdmitExecution} {claim : EffectClaimResult}
      {past : RuntimeHistory V H} (hh : h = ⟨.admitExecution args, .ok claim⟩ :: past)
      (hclaim : claim.admits = false)
      (hkey : (args.tenantReference, args.proposalReference) = key)

/-- What is expected of a marked record when it is read: a tombstone is free of content, a record
whose erasure was completed is a tombstone, and a coroutine that has just lost a guarded write finds
no safe result, nor is evidence hidden from it. -/
structure ExpectedRead (mask : Mask) (h : RuntimeHistory V H) (record : StoredProposal) : Prop where
  tombstone : record.erasedAt ≠ none → contentFree record = true
  completed : ∀ args completed, Answered h (.completeErasure args) completed →
    (args.tenantReference, args.proposalReference) = record.key → record.erasedAt ≠ none
  lost : LostWrite h record.key → record.safeResult = none ∧ mask.evidence = false

/-- The disguise of a mask, when covered records that are read satisfy `E`. -/
def Mask.disguise (mask : Mask) (E : RuntimeHistory V H → StoredProposal → Prop) :
    Disguise (runtimeSignature V H) Exn where
  hide
    | .get _ _, .ok found => .ok (found.map mask.record)
    | _, r => r
  expects
    | h, .get _ _, .ok (some record) => mask.covers record = true → E h record
    | _, _, _ => True

/-- What is to be expected of an event: something of covered records that are read. -/
theorem Mask.expects_of {mask : Mask} {E : RuntimeHistory V H → StoredProposal → Prop}
    {h : RuntimeHistory V H} {ev : Event (runtimeSignature V H) Exn}
    (hread : ∀ tenantReference proposalReference record,
      ev = ⟨.get tenantReference proposalReference, .ok (some record)⟩ →
      mask.covers record = true → E h record) :
    (mask.disguise E).expects h ev.op ev.answer := by
  obtain ⟨o, r⟩ := ev
  cases o
  case get tenantReference proposalReference =>
    cases r with
    | error e => exact trivial
    | ok found =>
      cases found with
      | none => exact trivial
      | some record => exact hread tenantReference proposalReference record rfl
  all_goals exact trivial

/-! ## Rules -/

/-- What `_required` does with what it read. -/
def foundNext (tenantReference proposalReference : SafeReference)
    (f : StoredProposal → Coroutine V H β) : Option StoredProposal → Coroutine V H β
  | none => throw .proposalNotFound
  | some record => do
    raiseIf (record.tenantReference ≠ tenantReference ∨
      record.proposalReference ≠ proposalReference) .proposalNotFound
    f record

theorem required_bind (tenantReference proposalReference : SafeReference)
    (f : StoredProposal → Coroutine V H β) :
    required tenantReference proposalReference >>= f =
      await (.get tenantReference proposalReference) >>=
        foundNext tenantReference proposalReference f := by
  rw [required, LawfulMonad.bind_assoc]
  refine congrArg _ (funext fun found ↦ ?_)
  cases found with
  | none => rfl
  | some record =>
    dsimp only [foundNext]
    rw [LawfulMonad.bind_assoc]
    rfl

/-- A record found under another key is not found. -/
theorem foundNext_of_ne {tenantReference proposalReference : SafeReference}
    {f : StoredProposal → Coroutine V H β} {record : StoredProposal}
    (hkey : record.key ≠ (tenantReference, proposalReference)) :
    foundNext tenantReference proposalReference f (some record) = .raise .proposalNotFound := by
  have hraises : record.tenantReference ≠ tenantReference ∨
      record.proposalReference ≠ proposalReference := by
    by_contra hsame
    simp only [not_or, ne_eq, not_not] at hsame
    exact hkey (Prod.ext hsame.1 hsame.2)
  rw [foundNext, raiseIf, if_pos hraises]
  rfl

/-- The coroutine does not notice the mask, when covered records that it reads satisfy `E`. -/
def Ignores (mask : Mask) (E : RuntimeHistory V H → StoredProposal → Prop) (p : Coroutine V H α)
    (h : RuntimeHistory V H) : Prop :=
  p.Indifferent (mask.disguise E) h

namespace Ignores

variable {mask : Mask} {E : RuntimeHistory V H → StoredProposal → Prop} {h : RuntimeHistory V H}

theorem pure (a : α) (h : RuntimeHistory V H) : Ignores mask E (pure a) h := trivial

theorem throw (e : Exn) (h : RuntimeHistory V H) :
    Ignores mask E (throw e : Coroutine V H α) h := trivial

theorem bind {p : Coroutine V H α} {f : α → Coroutine V H β} (hp : Ignores mask E p h)
    (hnext : ∀ h' a, Ignores mask E (f a) h') : Ignores mask E (p >>= f) h :=
  Indifferent.bind hp hnext

theorem await {o : Op V H} {f : o.Ans → Coroutine V H β}
    (ho : ∀ r, (mask.disguise E).hide o r = r)
    (hnext : ∀ a, Ignores mask E (f a) (⟨o, .ok a⟩ :: h)) :
    Ignores mask E (ThrevoActions.await o >>= f) h :=
  Indifferent.perform_bind ho hnext

theorem attempt {o : Op V H} {f : Except Exn o.Ans → Coroutine V H β}
    (ho : ∀ r, (mask.disguise E).hide o r = r)
    (hnext : ∀ r, Ignores mask E (f r) (⟨o, r⟩ :: h)) :
    Ignores mask E ((ThrevoActions.await o).attempt >>= f) h :=
  Indifferent.attempt_perform_bind ho hnext

theorem port {o : Op V H} (ho : ∀ r, (mask.disguise E).hide o r = r)
    (h : RuntimeHistory V H) : Ignores mask E (ThrevoActions.await o) h :=
  Indifferent.perform ho h

theorem raiseIf {condition : Prop} [Decidable condition] {e : Exn} {f : Unit → Coroutine V H β}
    (hpass : ¬condition → Ignores mask E (f ()) h) :
    Ignores mask E (raiseIf condition e >>= f) h :=
  Indifferent.raiseIf_bind hpass

theorem orRaise {r : Except Exn α} {f : α → Coroutine V H β}
    (hok : ∀ a, Ignores mask E (f a) h) : Ignores mask E (orRaise r >>= f) h :=
  Indifferent.orRaise_bind hok

/-- A reading, when the rest treats a covered record as the masked one. -/
theorem get {tenantReference proposalReference : SafeReference}
    {f : Option StoredProposal → Coroutine V H β}
    (hcovered : ∀ record, mask.covers record = true → E h record →
      f (some (record.without mask.evidence)) = f (some record))
    (hnext : ∀ found, (∀ record, found = some record → mask.covers record = true →
        E h record) →
      Ignores mask E (f found) (⟨.get tenantReference proposalReference, .ok found⟩ :: h)) :
    Ignores mask E (ThrevoActions.await (.get tenantReference proposalReference) >>= f) h := by
  intro r hexpects
  cases r with
  | error e => exact ⟨rfl, trivial⟩
  | ok found =>
    have hexpected : ∀ record, found = some record → mask.covers record = true →
        E h record := by
      rintro record rfl
      exact hexpects
    refine ⟨?_, hnext found hexpected⟩
    cases found with
    | none => rfl
    | some record =>
      change f (some (mask.record record)) = f (some record)
      cases hcovers : mask.covers record with
      | false => rw [Mask.record_of_not_covers hcovers]
      | true =>
        rw [Mask.record_of_covers hcovers]
        exact hcovered record hcovers (hexpected record rfl hcovers)

/-- A reading whose errors are caught. -/
theorem attempt_get {tenantReference proposalReference : SafeReference}
    {f : Except Exn (Option StoredProposal) → Coroutine V H β}
    (hcovered : ∀ record, mask.covers record = true →
      f (.ok (some (record.without mask.evidence))) = f (.ok (some record)))
    (hnext : ∀ r h', Ignores mask E (f r) h') :
    Ignores mask E ((ThrevoActions.await (.get tenantReference proposalReference)).attempt >>= f)
      h := by
  intro r hexpects
  cases r with
  | error e => exact ⟨rfl, hnext _ _⟩
  | ok found =>
    refine ⟨?_, hnext _ _⟩
    cases found with
    | none => rfl
    | some record =>
      change f (.ok (some (mask.record record))) = f (.ok (some record))
      cases hcovers : mask.covers record with
      | false => rw [Mask.record_of_not_covers hcovers]
      | true =>
        rw [Mask.record_of_covers hcovers]
        exact hcovered record hcovers

/-- `_required`, when the rest treats a covered record as the masked one. -/
theorem required {tenantReference proposalReference : SafeReference}
    {f : StoredProposal → Coroutine V H β}
    (hcovered : ∀ record, record.key = (tenantReference, proposalReference) →
      mask.covers record = true → E h record →
      f (record.without mask.evidence) = f record)
    (hnext : ∀ record, record.key = (tenantReference, proposalReference) →
      (mask.covers record = true → E h record) →
      Ignores mask E (f record) (⟨.get record.tenantReference record.proposalReference,
        .ok (some record)⟩ :: h)) :
    Ignores mask E (ThrevoActions.required tenantReference proposalReference >>= f) h := by
  rw [required_bind]
  refine Ignores.get (fun record hcovers hexpected ↦ ?_) fun found hexpected ↦ ?_
  · by_cases hkey : record.key = (tenantReference, proposalReference)
    · rw [foundNext, foundNext, hcovered record hkey hcovers hexpected]
      rfl
    · have hkey' : (record.without mask.evidence).key ≠ (tenantReference, proposalReference) := hkey
      rw [foundNext_of_ne hkey, foundNext_of_ne hkey']
  · cases found with
    | none => exact Ignores.throw _ _
    | some record =>
      by_cases hkey : record.key = (tenantReference, proposalReference)
      · refine Ignores.raiseIf fun _ ↦ ?_
        obtain ⟨rfl, rfl⟩ := Prod.mk.inj hkey
        exact hnext record rfl (hexpected record rfl)
      · rw [foundNext_of_ne hkey]
        exact Ignores.throw _ _

/-- A guarded write; the coroutine is told if it lost it. -/
theorem cas {current updated : StoredProposal} {f : Bool → Coroutine V H β}
    (hnext : ∀ h' written, (written = false → LostWrite h' current.key) →
      Ignores mask E (f written) h') :
    Ignores mask E (ThrevoActions.cas current updated >>= f) h :=
  Ignores.await (fun _ ↦ rfl) fun written ↦ hnext _ written fun hlost ↦ by
    rw [hlost]
    exact .written rfl rfl

/-- A guard on marked records. -/
theorem guard {record : StoredProposal} (hmarked : record.erasureMarked = true)
    (e : Exn) (f : Unit → Coroutine V H β) :
    (Program.raiseIf (record.erasureMarked = true) e >>= f) = .raise e := by
  rw [Program.raiseIf, if_pos hmarked]
  rfl

/-- How a coroutine that works on one proposal begins: the proposal belongs to the action and is not
marked. -/
theorem guarded {tenantReference proposalReference : SafeReference} {actionType : ActionType}
    {rest : StoredProposal → Coroutine V H β}
    (hnext : ∀ h' record, record.key = (tenantReference, proposalReference) →
      record.erasureMarked = false → Ignores mask E (rest record) h') :
    Ignores mask E (ThrevoActions.required tenantReference proposalReference >>= fun record ↦
      Program.raiseIf (record.actionType ≠ actionType) .proposalNotFound >>= fun _ ↦
      Program.raiseIf (record.erasureMarked = true) .proposalNotFound >>= fun _ ↦ rest record) h := by
  refine Ignores.required (fun record _ hcovers _ ↦ ?_) fun record hkey _ ↦ ?_
  · have hmarked := Mask.marked_of_covers hcovers
    have hmarked' : (record.without mask.evidence).erasureMarked = true := hmarked
    rw [guard hmarked, guard hmarked']
    rfl
  · refine Ignores.raiseIf fun _ ↦ Ignores.raiseIf fun hunmarked ↦ ?_
    exact hnext _ record hkey (Bool.eq_false_iff.mpr hunmarked)

theorem emit {record : StoredProposal} {eventType : RuntimeEventType} {observedAt : Timestamp}
    {reasonCode : Option SafeReference} {f : Unit → Coroutine V H β}
    (hnext : ∀ h', Ignores mask E (f ()) h') :
    Ignores mask E (ThrevoActions.emit record eventType observedAt reasonCode >>= f) h := by
  refine Ignores.bind ?_ fun h' _ ↦ hnext h'
  refine Ignores.attempt (fun _ ↦ rfl) fun sent ↦ ?_
  cases sent with
  | ok _ => exact Ignores.pure _ _
  | error failure =>
    dsimp only [Program.raiseIf]
    split
    · exact Ignores.throw _ _
    · exact Ignores.pure _ _

end Ignores

/-- A coroutine of the runtime does not notice the mask. -/
abbrev Unaffected (mask : Mask) (p : Coroutine V H α) (h : RuntimeHistory V H) : Prop :=
  Ignores mask (ExpectedRead mask) p h

/-- The report of a coroutine that has just lost a guarded write. -/
theorem Unaffected.report {mask : Mask} {h : RuntimeHistory V H}
    {tenantReference proposalReference : SafeReference}
    {outcome : StoredProposal → OperationOutcome}
    (hlost : LostWrite h (tenantReference, proposalReference))
    (houtcome : ∀ record, outcome (record.without false) = outcome record) :
    Unaffected mask (ThrevoActions.required tenantReference proposalReference >>= fun current ↦
      (Pure.pure (operationResult current (outcome current)) : Coroutine V H _)) h := by
  refine Ignores.required (fun record hkey _ hexpected ↦ ?_) fun _ _ _ ↦ Ignores.pure _ _
  obtain ⟨hresult, hevidence⟩ := hexpected.lost (hkey.symm ▸ hlost)
  rw [hevidence, houtcome, operationResult, operationResult, hresult]
  rfl

/-! ## Preparation -/

section Coroutines

variable {mask : Mask}

theorem destroyPayload_unaffected (definition : ActionDeclaration V)
    (proposalIdentity : ProposalIdentity) (payload : Option ProtectedPayload)
    (h : RuntimeHistory V H) :
    Unaffected mask (destroyPayload (H := H) definition proposalIdentity payload) h := by
  cases payload with
  | none => exact Ignores.pure _ _
  | some payload => exact Ignores.port (fun _ ↦ rfl) _

theorem destroyCommitment_unaffected (definition : ActionDeclaration V)
    (proposalIdentity : ProposalIdentity) (commitment : Option KeyedCommitment)
    (h : RuntimeHistory V H) :
    Unaffected mask (destroyCommitment (H := H) definition proposalIdentity commitment) h := by
  cases commitment with
  | none => exact Ignores.pure _ _
  | some commitment => exact Ignores.port (fun _ ↦ rfl) _

theorem compensatePrepared_unaffected (definition : ActionDeclaration V)
    (proposalIdentity : ProposalIdentity) (protectedPayload : Option ProtectedPayload)
    (commitment : KeyedCommitment) (failure : Exn) (h : RuntimeHistory V H) :
    Unaffected mask (compensatePrepared definition proposalIdentity protectedPayload commitment
      failure : Coroutine V H α) h := by
  refine Ignores.bind (Indifferent.attempt (destroyPayload_unaffected _ _ _ _)) fun h₁ _ ↦ ?_
  exact Ignores.attempt (fun _ ↦ rfl) fun _ ↦ Ignores.throw _ _

theorem createPrepared_unaffected (definition : ActionDeclaration V)
    (proposalIdentity : ProposalIdentity) (protectedPayload : ProtectedPayload)
    (commitment : KeyedCommitment) {record : StoredProposal}
    (hunmarked : record.erasureMarked = false) (h : RuntimeHistory V H) :
    Unaffected mask (createPrepared definition proposalIdentity protectedPayload commitment record)
      h := by
  refine Ignores.attempt (fun _ ↦ rfl) fun created ↦ ?_
  cases created with
  | ok _ => exact Ignores.pure _ _
  | error failure =>
    -- a marked record is not the one that was to be created
    have hother : ∀ {persisted : StoredProposal}, persisted.erasureMarked = true →
        some persisted ≠ some record := by
      intro persisted hmarked hsame
      rw [Option.some.inj hsame, hunmarked] at hmarked
      cases hmarked
    refine Ignores.attempt_get (fun persisted hcovers ↦ ?_) fun r h' ↦ ?_
    · have hmarked := Mask.marked_of_covers hcovers
      have hmarked' : (persisted.without mask.evidence).erasureMarked = true := hmarked
      dsimp only
      rw [if_neg (hother hmarked), if_neg (hother hmarked')]
    · cases r with
      | error _ =>
        dsimp only
        split <;> exact Ignores.throw _ _
      | ok persisted =>
        dsimp only
        split
        · split
          · exact Ignores.throw _ _
          · exact Ignores.pure _ _
        · exact compensatePrepared_unaffected _ _ _ _ _ _

theorem buildPrepared_unaffected (runtime : ActionRuntime) (definition : ActionDeclaration V)
    (proposalIdentity : ProposalIdentity) (prepared : PreparedAction V)
    (protectedPayload : ProtectedPayload) (commitment : KeyedCommitment)
    (requestingPrincipal : RequestingPrincipal) (proposingAgent : Option ProposingAgent)
    (now : Timestamp) (h : RuntimeHistory V H) :
    Unaffected mask (buildPrepared runtime definition proposalIdentity prepared protectedPayload
      commitment requestingPrincipal proposingAgent now) h :=
  Ignores.await (fun _ ↦ rfl) fun _ ↦ Ignores.orRaise fun _ ↦ Ignores.pure _ _

/-- What is built is not marked. -/
theorem buildPrepared_returns (runtime : ActionRuntime) (definition : ActionDeclaration V)
    (proposalIdentity : ProposalIdentity) (prepared : PreparedAction V)
    (protectedPayload : ProtectedPayload) (commitment : KeyedCommitment)
    (requestingPrincipal : RequestingPrincipal) (proposingAgent : Option ProposingAgent)
    (now : Timestamp) (h : RuntimeHistory V H) :
    (buildPrepared runtime definition proposalIdentity prepared protectedPayload commitment
      requestingPrincipal proposingAgent now).Returns
        (fun _ record ↦ record.erasureMarked = false) h :=
  Returns.perform fun _ ↦ Returns.orRaise fun _ _ ↦ Returns.pure rfl

theorem protectAndCreate_unaffected (runtime : ActionRuntime) (definition : ActionDeclaration V)
    (proposalIdentity : ProposalIdentity) (prepared : PreparedAction V) (privateCanonical : Bytes)
    (commitment : KeyedCommitment) (requestingPrincipal : RequestingPrincipal)
    (proposingAgent : Option ProposingAgent) (now : Timestamp) (h : RuntimeHistory V H) :
    Unaffected mask (protectAndCreate runtime definition proposalIdentity prepared privateCanonical
      commitment requestingPrincipal proposingAgent now) h := by
  refine Ignores.attempt (fun _ ↦ rfl) fun protect ↦ ?_
  cases protect with
  | error failure => exact compensatePrepared_unaffected _ _ _ _ _ _
  | ok payload =>
    refine Indifferent.attempt_bind_of (buildPrepared_unaffected _ _ _ _ _ _ _ _ _ _)
      (buildPrepared_returns _ _ _ _ _ _ _ _ _ _) (fun h' failure ↦ ?_) fun h' record hunmarked ↦ ?_
    · exact compensatePrepared_unaffected _ _ _ _ _ _
    · exact createPrepared_unaffected _ _ _ _ hunmarked _

section Unicode

variable [UnicodeNormalization]

theorem persistPrepared_unaffected (runtime : ActionRuntime) (definition : ActionDeclaration V)
    (tenantReference : SafeReference) (prepared : PreparedAction V)
    (requestingPrincipal : RequestingPrincipal) (proposingAgent : Option ProposingAgent)
    (now : Timestamp) (proposalReference : Option SafeReference) (h : RuntimeHistory V H) :
    Unaffected mask (persistPrepared runtime definition tenantReference prepared
      requestingPrincipal proposingAgent now proposalReference) h := by
  have hreference : Unaffected mask (resolveProposalReference (V := V) (H := H) proposalReference)
      h := by
    cases proposalReference with
    | none => exact Ignores.port (fun _ ↦ rfl) _
    | some reference => exact Ignores.pure _ _
  refine Ignores.bind hreference fun _ _ ↦ Ignores.orRaise fun _ ↦ Ignores.orRaise fun _ ↦
    Ignores.orRaise fun _ ↦ Ignores.await (fun _ ↦ rfl) fun _ ↦ ?_
  exact protectAndCreate_unaffected _ _ _ _ _ _ _ _ _ _

theorem prepare_unaffected (runtime : ActionRuntime) (definition : ActionDeclaration V)
    (tenantReference : SafeReference) (command : V) (requestingPrincipal : RequestingPrincipal)
    (proposingAgent : Option ProposingAgent) (proposalReference : Option SafeReference)
    (h : RuntimeHistory V H) :
    Unaffected mask (prepare runtime definition tenantReference command requestingPrincipal
      proposingAgent proposalReference) h := by
  refine Ignores.await (fun _ ↦ rfl) fun _ ↦ Ignores.await (fun _ ↦ rfl) fun _ ↦
    Ignores.raiseIf fun _ ↦ Ignores.await (fun _ ↦ rfl) fun _ ↦ Ignores.orRaise fun _ ↦ ?_
  refine Ignores.bind (persistPrepared_unaffected _ _ _ _ _ _ _ _ _) fun _ _ ↦ ?_
  exact Ignores.emit fun _ ↦ Ignores.pure _ _

end Unicode

/-! ## Expiry and authority -/

theorem expireDue_unaffected (definition : ActionDeclaration V)
    (tenantReference proposalReference : SafeReference) (h : RuntimeHistory V H) :
    Unaffected mask (expireDue definition tenantReference proposalReference) h := by
  refine Ignores.guarded fun h₁ record hkey _ ↦ ?_
  split
  · exact Ignores.pure _ _
  refine Ignores.await (fun _ ↦ rfl) fun _ ↦ ?_
  split
  · exact Ignores.pure _ _
  refine Ignores.cas fun h₂ written hlost ↦ ?_
  split
  · rename_i hrefused
    exact Unaffected.report (hkey ▸ hlost hrefused) fun _ ↦ rfl
  · exact Ignores.emit fun _ ↦ Ignores.pure _ _

theorem writeAuthority_unaffected (runtime : ActionRuntime) (record : StoredProposal)
    (evidence : AuthorityEvidence) (now : Timestamp) (decided : AuthorityOutcome)
    (h : RuntimeHistory V H) :
    Unaffected mask (writeAuthority runtime record evidence now decided) h := by
  refine Ignores.await (fun _ ↦ rfl) fun _ ↦ Ignores.cas fun h₁ written hlost ↦ ?_
  split
  · rename_i hrefused
    exact Unaffected.report (hlost hrefused) fun _ ↦ rfl
  · exact Ignores.emit fun _ ↦ Ignores.pure _ _

theorem recordAuthority_unaffected (runtime : ActionRuntime) (definition : ActionDeclaration V)
    (evidence : AuthorityEvidence) (authenticatedAuthority : ConfirmingAuthority)
    (proposalReference : Option SafeReference) (h : RuntimeHistory V H) :
    Unaffected mask (recordAuthority runtime definition evidence authenticatedAuthority
      proposalReference) h := by
  refine Ignores.required (fun record _ hcovers _ ↦ ?_) fun record hkey _ ↦ ?_
  · have hmarked := Mask.marked_of_covers hcovers
    have hmarked' : (record.without mask.evidence).erasureMarked = true := hmarked
    refine congrArg _ (funext fun now ↦ ?_)
    rw [Ignores.guard hmarked, Ignores.guard hmarked']
    rfl
  refine Ignores.await (fun _ ↦ rfl) fun now ↦ Ignores.raiseIf fun _ ↦
    Ignores.raiseIf fun _ ↦ Ignores.raiseIf fun _ ↦ Ignores.await (fun _ ↦ rfl) fun _ ↦
    Ignores.raiseIf fun _ ↦ ?_
  split
  · exact Ignores.pure _ _
  split
  · exact Ignores.pure _ _
  split
  · refine Ignores.cas fun h₁ written hlost ↦ ?_
    split
    · exact Ignores.pure _ _
    · rename_i hrefused
      exact Unaffected.report (hkey ▸ hlost (Bool.eq_false_iff.mpr hrefused)) fun _ ↦ rfl
  · split
    · exact Ignores.throw _ _
    · refine Ignores.raiseIf fun _ ↦ Ignores.bind ?_ fun _ _ ↦
        writeAuthority_unaffected _ _ _ _ _ _
      rw [decideAuthority]
      split
      · exact Ignores.pure _ _
      · exact Ignores.await (fun _ ↦ rfl) fun _ ↦ Ignores.pure _ _

/-! ## Execution -/

theorem expireBeforeAdmission_unaffected (record : StoredProposal) (h : RuntimeHistory V H) :
    Unaffected mask (expireBeforeAdmission record) h := by
  refine Ignores.cas fun _ _ _ ↦ ?_
  split <;> exact Ignores.pure _ _

theorem block_unaffected (runtime : ActionRuntime) (record : StoredProposal) (now : Timestamp)
    (reasonCode : SafeReference) (h : RuntimeHistory V H) :
    Unaffected mask (block runtime record now reasonCode) h := by
  refine Ignores.orRaise fun _ ↦ Ignores.await (fun _ ↦ rfl) fun _ ↦
    Ignores.cas fun h₁ written hlost ↦ ?_
  split
  · rename_i hrefused
    exact Unaffected.report (hlost hrefused) fun _ ↦ rfl
  · exact Ignores.emit fun _ ↦ Ignores.pure _ _

theorem settleExecution_unaffected (runtime : ActionRuntime) (definition : ActionDeclaration V)
    (record : StoredProposal) (execution : ExecutionResult V) (now : Timestamp)
    (h : RuntimeHistory V H) :
    Unaffected mask (settleExecution runtime definition record execution now) h := by
  refine Ignores.orRaise fun _ ↦ Ignores.await (fun _ ↦ rfl) fun _ ↦
    Ignores.orRaise fun _ ↦ Ignores.cas fun h₁ written hlost ↦ ?_
  split
  · rename_i hrefused
    exact Unaffected.report (hlost hrefused) fun _ ↦ rfl
  · exact Ignores.emit fun _ ↦ Ignores.pure _ _

theorem evaluateAuthority_unaffected (definition : ActionDeclaration V) (record : StoredProposal)
    (binding : AuthorityBinding) (at' : Timestamp) (h : RuntimeHistory V H) :
    Unaffected mask (evaluateAuthority definition record binding at') h :=
  Ignores.await (fun _ ↦ rfl) fun _ ↦ Ignores.pure _ _

section Execute

variable [UnicodeNormalization] {definition : ActionDefinition V H} (runtime : ActionRuntime)

theorem loadPrivate_unaffected (definition : ActionDeclaration V) (record : StoredProposal)
    (h : RuntimeHistory V H) : Unaffected mask (loadPrivate definition record) h := by
  rw [loadPrivate]
  split
  · refine Ignores.attempt (fun _ ↦ rfl) fun unprotect ↦ ?_
    cases unprotect with
    | error failure =>
      dsimp only
      split
      · exact Ignores.pure _ _
      · exact Ignores.throw _ _
    | ok canonical =>
      refine Ignores.orRaise fun _ ↦ Ignores.await (fun _ ↦ rfl) fun _ ↦ ?_
      split
      · exact Ignores.pure _ _
      · exact Ignores.orRaise fun _ ↦ Ignores.pure _ _
  · exact Ignores.pure _ _

theorem persistReplacement_unaffected (definition : ActionDeclaration V)
    (record stale : StoredProposal) (replacement : Option (PreparedAction V)) (now : Timestamp)
    (h : RuntimeHistory V H) :
    Unaffected mask (persistReplacement runtime definition record stale replacement now) h := by
  cases replacement with
  | none => exact Ignores.pure _ _
  | some replacement =>
    unfold persistReplacement
    dsimp only
    split
    · exact Ignores.throw _ _
    · refine Ignores.orRaise fun _ ↦
        Ignores.bind (persistPrepared_unaffected _ _ _ _ _ _ _ _ _) fun _ _ ↦ ?_
      exact Ignores.cas fun _ _ _ ↦ Ignores.pure _ _

theorem supersedeStale_unaffected (definition : ActionDeclaration V) (record : StoredProposal)
    (replacement : Option (PreparedAction V)) (now : Timestamp) (h : RuntimeHistory V H) :
    Unaffected mask (supersedeStale runtime definition record replacement now) h := by
  refine Ignores.await (fun _ ↦ rfl) fun _ ↦ Ignores.cas fun h₁ written hlost ↦ ?_
  split
  · rename_i hrefused
    exact Unaffected.report (hlost hrefused) fun _ ↦ rfl
  refine Ignores.bind (persistReplacement_unaffected _ _ _ _ _ _ _) fun _ _ ↦ ?_
  exact Ignores.emit fun _ ↦ Ignores.pure _ _

/-- An executor that does not notice the mask. -/
def UnaffectedExecutor (mask : Mask)
    (executor : V → ExecutionContext → SafeReference → Coroutine V H (ExecutionResult V)) : Prop :=
  ∀ snapshot context executionPrecondition h,
    Unaffected mask (executor snapshot context executionPrecondition) h

omit [UnicodeNormalization] in
/-- A host executor is not told anything. -/
theorem hostExecutors_unaffected (definition : ActionDeclaration V) :
    UnaffectedExecutor mask (hostExecutors V H definition) :=
  fun _ _ _ _ ↦ Ignores.port (fun _ ↦ rfl) _

variable (hexecutor : UnaffectedExecutor mask definition.executor)

omit [UnicodeNormalization] in
include hexecutor in
theorem dispatch_unaffected (record executing : StoredProposal) (binding : AuthorityBinding)
    (validEvidence : List AuthorityEvidence) (resolved : ResolvedState V) (admittedAt : Timestamp)
    (h : RuntimeHistory V H) :
    Unaffected mask (dispatch runtime definition record executing binding validEvidence resolved
      admittedAt) h := by
  refine Ignores.await (fun _ ↦ rfl) fun _ ↦ ?_
  split
  · exact settleExecution_unaffected _ _ _ _ _ _
  · refine Ignores.orRaise fun _ ↦ Ignores.bind (hexecutor _ _ _ _) fun _ _ ↦
      Ignores.await (fun _ ↦ rfl) fun _ ↦ ?_
    exact settleExecution_unaffected _ _ _ _ _ _

omit [UnicodeNormalization] in
include hexecutor in
theorem admitAttempt_unaffected (record : StoredProposal) (binding : AuthorityBinding)
    (validEvidence : List AuthorityEvidence) (resolved : ResolvedState V)
    (h : RuntimeHistory V H) :
    Unaffected mask (admitAttempt runtime definition record binding validEvidence resolved) h := by
  refine Ignores.await (fun _ ↦ rfl) fun _ ↦ ?_
  split
  · exact expireBeforeAdmission_unaffected _ _
  split
  · exact block_unaffected _ _ _ _ _
  refine Ignores.await (fun _ ↦ rfl) fun _ ↦ Ignores.await (fun _ ↦ rfl) fun claim ↦ ?_
  cases claim with
  | conflict => exact Unaffected.report (.admission rfl rfl rfl) fun _ ↦ rfl
  | proposalNotFound => exact Ignores.throw _ _
  | proposalNotAuthorized => exact Unaffected.report (.admission rfl rfl rfl) fun _ ↦ rfl
  | acquired | ownedByProposal => exact dispatch_unaffected _ hexecutor _ _ _ _ _ _ _

omit [UnicodeNormalization] in
include hexecutor in
theorem reauthorize_unaffected (record : StoredProposal) (binding : AuthorityBinding)
    (resolved : ResolvedState V) (h : RuntimeHistory V H) :
    Unaffected mask (reauthorize runtime definition record binding resolved) h := by
  refine Ignores.await (fun _ ↦ rfl) fun _ ↦ ?_
  split
  · exact expireBeforeAdmission_unaffected _ _
  refine Ignores.bind (evaluateAuthority_unaffected _ _ _ _ _) fun _ evaluated ↦ ?_
  obtain ⟨validEvidence, authority⟩ := evaluated
  dsimp only
  split
  · exact block_unaffected _ _ _ _ _
  refine Ignores.orRaise fun _ ↦ Ignores.await (fun _ ↦ rfl) fun _ ↦ ?_
  split
  · exact block_unaffected _ _ _ _ _
  · exact admitAttempt_unaffected _ hexecutor _ _ _ _ _

include hexecutor in
theorem resolveCurrent_unaffected (record : StoredProposal) (commitment : KeyedCommitment)
    (snapshot : V) (now : Timestamp) (h : RuntimeHistory V H) :
    Unaffected mask (resolveCurrent runtime definition record commitment snapshot now) h := by
  refine Ignores.bind (evaluateAuthority_unaffected _ _ _ _ _) fun _ evaluated ↦ ?_
  obtain ⟨validEvidence, authority⟩ := evaluated
  dsimp only
  split
  · exact block_unaffected _ _ _ _ _
  refine Ignores.orRaise fun _ ↦ Ignores.await (fun _ ↦ rfl) fun _ ↦
    Ignores.raiseIf fun _ ↦ ?_
  split
  · exact supersedeStale_unaffected _ _ _ _ _ _
  · exact reauthorize_unaffected _ hexecutor _ _ _ _

include hexecutor in
theorem execute_unaffected (tenantReference proposalReference : SafeReference)
    (h : RuntimeHistory V H) :
    Unaffected mask (execute runtime definition tenantReference proposalReference) h := by
  refine Ignores.guarded fun h₁ record hkey _ ↦ ?_
  split
  · exact Ignores.pure _ _
  split
  · exact Ignores.pure _ _
  refine Ignores.await (fun _ ↦ rfl) fun _ ↦ ?_
  split
  · exact expireBeforeAdmission_unaffected _ _
  refine Ignores.bind (loadPrivate_unaffected _ _ _) fun _ _ ↦ ?_
  split
  · exact block_unaffected _ _ _ _ _
  · exact block_unaffected _ _ _ _ _
  · exact resolveCurrent_unaffected _ hexecutor _ _ _ _ _

end Execute

/-! ## Reconciliation -/

theorem settleVerification_unaffected (runtime : ActionRuntime) (definition : ActionDeclaration V)
    (record : StoredProposal) (verification : VerificationResult V) (now : Timestamp)
    (h : RuntimeHistory V H) :
    Unaffected mask (settleVerification runtime definition record verification now) h := by
  refine Ignores.orRaise fun _ ↦ Ignores.await (fun _ ↦ rfl) fun _ ↦
    Ignores.orRaise fun _ ↦ Ignores.cas fun h₁ written hlost ↦ ?_
  split
  · rename_i hrefused
    exact Unaffected.report (hlost hrefused) fun _ ↦ rfl
  · exact Ignores.emit fun _ ↦ Ignores.pure _ _

theorem reconcilePending_unaffected (runtime : ActionRuntime) (definition : ActionDeclaration V)
    {tenantReference proposalReference : SafeReference} {record : StoredProposal}
    (hkey : record.key = (tenantReference, proposalReference)) (now : Timestamp)
    (h : RuntimeHistory V H) :
    Unaffected mask (reconcilePending runtime definition tenantReference proposalReference record
      now) h := by
  rw [reconcilePending]
  split
  · exact Ignores.pure _ _
  split
  · refine Ignores.cas fun h₁ written hlost ↦ ?_
    split
    · rename_i hrefused
      exact Unaffected.report (hkey ▸ hlost hrefused) fun _ ↦ rfl
    · exact Ignores.emit fun _ ↦ Ignores.pure _ _
  · refine Ignores.cas fun h₁ written hlost ↦ ?_
    split
    · rename_i hrefused
      exact Unaffected.report (hkey ▸ hlost hrefused) fun _ ↦ rfl
    · refine Ignores.orRaise fun _ ↦ Ignores.await (fun _ ↦ rfl) fun _ ↦ ?_
      exact settleVerification_unaffected _ _ _ _ _ _

theorem reconcile_unaffected (runtime : ActionRuntime) (definition : ActionDeclaration V)
    (tenantReference proposalReference : SafeReference) (h : RuntimeHistory V H) :
    Unaffected mask (reconcile runtime definition tenantReference proposalReference) h := by
  refine Ignores.guarded fun h₁ record hkey _ ↦ Ignores.await (fun _ ↦ rfl) fun now ↦ ?_
  split
  · exact Ignores.pure _ _
  split
  · have hkey' : (takenOverProposal record).key = (tenantReference, proposalReference) := hkey
    refine Ignores.cas fun h₂ written hlost ↦ ?_
    split
    · rename_i hrefused
      exact Unaffected.report (hkey ▸ hlost hrefused) fun _ ↦ rfl
    · exact reconcilePending_unaffected _ _ hkey' _ _
  split
  · exact Ignores.pure _ _
  · exact reconcilePending_unaffected _ _ hkey _ _

theorem resumeVerification_unaffected (runtime : ActionRuntime) (definition : ActionDeclaration V)
    (tenantReference proposalReference : SafeReference) (expectedRevision : ℕ)
    (operator : RecoveryOperator) (interventionReference : SafeReference)
    (h : RuntimeHistory V H) :
    Unaffected mask (resumeVerification runtime definition tenantReference proposalReference
      expectedRevision operator interventionReference) h := by
  refine Ignores.guarded fun h₁ record hkey _ ↦ Ignores.await (fun _ ↦ rfl) fun now ↦
    Ignores.raiseIf fun _ ↦ Ignores.await (fun _ ↦ rfl) fun _ ↦ Ignores.raiseIf fun _ ↦ ?_
  split
  · exact Ignores.pure _ _
  split
  · exact Ignores.pure _ _
  split
  · exact Ignores.throw _ _
  · refine Ignores.await (fun _ ↦ rfl) fun _ ↦ Ignores.cas fun h₂ written hlost ↦ ?_
    split
    · rename_i hrefused
      exact Unaffected.report (hkey ▸ hlost hrefused) fun _ ↦ rfl
    · exact Ignores.emit fun _ ↦ reconcile_unaffected _ _ _ _ _

/-! ## Erasure -/

theorem destroyAndComplete_unaffected (definition : ActionDeclaration V)
    (proposalReference : SafeReference) (context : ReadContext) {record : StoredProposal}
    (hkey : record.key = (context.tenantReference, proposalReference)) (now : Timestamp)
    (h : RuntimeHistory V H) :
    Unaffected mask (destroyAndComplete definition proposalReference context record now) h := by
  refine Ignores.bind (destroyPayload_unaffected _ _ _ _) fun h₁ _ ↦ ?_
  refine Ignores.bind (destroyCommitment_unaffected _ _ _ _) fun h₂ _ ↦ ?_
  refine Ignores.await (fun _ ↦ rfl) fun completed ↦ ?_
  -- whatever the completion answered, a tombstone is read afterwards
  have htombstone : ∀ {current : StoredProposal},
      current.key = (context.tenantReference, proposalReference) →
      ExpectedRead mask (⟨.completeErasure ⟨record.tenantReference, record.proposalReference,
        record.revision, now⟩, .ok completed⟩ :: h₂) current →
      current.without mask.evidence = current := by
    intro current hcurrent hexpected
    refine current.without_of_contentFree _ (hexpected.tombstone ?_)
    exact hexpected.completed _ completed .head (hkey.trans hcurrent.symm)
  split
  · refine Ignores.required (fun current hcurrent _ hexpected ↦ ?_) fun _ _ _ ↦
      Ignores.pure _ _
    rw [htombstone hcurrent hexpected]
  · refine Ignores.required (fun current hcurrent _ hexpected ↦ ?_) fun _ _ _ ↦
      Ignores.emit fun _ ↦ Ignores.pure _ _
    rw [htombstone hcurrent hexpected]

/-- A marked record is erased, or its erasure is pending. -/
theorem pending_of_marked {record : StoredProposal} (hmarked : record.erasureMarked = true)
    (hunerased : record.erasedAt.isSome ≠ true) : record.erasurePendingAt.isSome = true := by
  rw [StoredProposal.erasureMarked, Bool.or_eq_true] at hmarked
  exact hmarked.resolve_right hunerased

theorem erase_unaffected (runtime : ActionRuntime) (definition : ActionDeclaration V)
    (proposalReference : SafeReference) (context : ReadContext) (h : RuntimeHistory V H) :
    Unaffected mask (erase runtime definition proposalReference context) h := by
  refine Ignores.raiseIf fun _ ↦ Ignores.await (fun _ ↦ rfl) fun _ ↦
    Ignores.raiseIf fun _ ↦ ?_
  refine Ignores.required (fun record _ hcovers hexpected ↦ ?_) fun record hkey _ ↦ ?_
  · by_cases herased : record.erasedAt.isSome = true
    · rw [record.without_of_contentFree _
        (hexpected.tombstone (Option.isSome_iff_ne_none.mp herased))]
    · have hpending := pending_of_marked (Mask.marked_of_covers hcovers) herased
      have herased' : ¬(record.without mask.evidence).erasedAt.isSome = true := herased
      have hpending' : (record.without mask.evidence).erasurePendingAt.isSome = true := hpending
      refine congrArg _ (funext fun _ ↦ ?_)
      rw [if_neg herased, if_neg herased']
      refine congrArg _ (funext fun now ↦ ?_)
      rw [if_pos hpending, if_pos hpending']
      rfl
  refine Ignores.raiseIf fun _ ↦ ?_
  split
  · exact Ignores.pure _ _
  refine Ignores.await (fun _ ↦ rfl) fun now ↦ ?_
  split
  · exact destroyAndComplete_unaffected _ _ _ hkey _ _
  refine Ignores.await (fun _ ↦ rfl) fun marked ↦ ?_
  refine Ignores.required (fun record' _ hcovers hexpected ↦ ?_) fun record' hkey' _ ↦ ?_
  · by_cases herased : record'.erasedAt.isSome = true
    · rw [record'.without_of_contentFree _
        (hexpected.tombstone (Option.isSome_iff_ne_none.mp herased))]
    · have hpending := pending_of_marked (Mask.marked_of_covers hcovers) herased
      have hnot : ¬(marked = false ∧ record'.erasedAt.isSome = true) := fun hboth ↦ herased hboth.2
      have hnot' : ¬(marked = false ∧ record'.erasurePendingAt = none) :=
        fun hboth ↦ Option.isSome_iff_ne_none.mp hpending hboth.2
      have hmask : ¬(marked = false ∧ (record'.without mask.evidence).erasedAt.isSome = true) := hnot
      have hmask' : ¬(marked = false ∧ (record'.without mask.evidence).erasurePendingAt = none) :=
        hnot'
      rw [if_neg hnot, if_neg hnot', if_neg hmask, if_neg hmask']
      rfl
  split
  · exact Ignores.pure _ _
  split
  · exact Ignores.pure _ _
  · exact destroyAndComplete_unaffected _ _ _ hkey' _ _

/-! ## All calls -/

/-- **No call on a runtime notices the mask**, whatever executors that do not notice it run. -/
theorem coroutine_unaffected [UnicodeNormalization] {executorOf : ExecutorOf V H}
    (hexecutors : ∀ definition, UnaffectedExecutor mask (executorOf definition))
    (call : RuntimeCall V) (h : RuntimeHistory V H) :
    Unaffected mask (call.coroutine executorOf) h := by
  cases call with
  | prepare => exact prepare_unaffected _ _ _ _ _ _ _ _
  | recordAuthority => exact recordAuthority_unaffected _ _ _ _ _ _
  | expireDue => exact expireDue_unaffected _ _ _ _
  | execute runtime definition tenantReference proposalReference =>
    have hexecutor : UnaffectedExecutor mask
        (ActionDefinition.mk definition (executorOf definition)).executor := hexecutors definition
    exact execute_unaffected runtime hexecutor _ _ _
  | reconcile => exact reconcile_unaffected _ _ _ _ _
  | resumeVerification => exact resumeVerification_unaffected _ _ _ _ _ _ _ _
  | erase => exact erase_unaffected _ _ _ _ _

end Coroutines

end ThrevoActions
