import ThrevoActions.Interleaving.Trace
import ThrevoActions.Runtime.Lawful

/-!
# The effects of a call

Of what a call of the runtime does, only its writes and its dispatches are left behind. This module
says which of them the subroutines of `execute` show, however they end.
-/

namespace ThrevoActions

open Interleaving Interleaving.Program

variable {V : Type} [HostModels V] {H : Signature} {α : Type}

/-- The operations that write to the store or leave the runtime through an executor. -/
def Op.hasEffect : Op V H → Bool
  | .create _ | .compareAndSet _ | .admitExecution _ | .markErasurePending _ | .completeErasure _
  | .execute _ _ _ _ | .host _ => true
  | _ => false

/-- From the effects `w` on, `Q` holds of the effects and of the ending. -/
abbrev ShowsEffects (p : Coroutine V H α)
    (Q : RuntimeHistory V H → Except Exn α → Prop) (w : RuntimeHistory V H) : Prop :=
  p.Shows (S := runtimeSignature V H) Op.hasEffect Q w

variable {Q : RuntimeHistory V H → Except Exn α → Prop} {w : RuntimeHistory V H}
  {target : ProposalKey → Prop}

theorem required_shows {tenantReference proposalReference : SafeReference}
    {f : StoredProposal → Coroutine V H α} (herror : ∀ e, Q w (.error e))
    (hok : ∀ record, record.key = (tenantReference, proposalReference) →
      ShowsEffects (f record) Q w) :
    ShowsEffects (required tenantReference proposalReference >>= f) Q w := by
  rw [required, LawfulMonad.bind_assoc]
  refine Shows.hidden rfl herror fun found ↦ ?_
  cases found with
  | none => exact herror _
  | some record =>
    dsimp only
    rw [LawfulMonad.bind_assoc]
    refine Shows.raiseIf (fun _ ↦ herror _) fun hkey ↦ hok record ?_
    simp only [not_or, ne_eq, not_not] at hkey
    exact Prod.ext hkey.1 hkey.2

theorem emit_shows {record : StoredProposal} {eventType : RuntimeEventType}
    {observedAt : Timestamp} {reasonCode : Option SafeReference} {f : Unit → Coroutine V H α}
    (herror : ∀ e, Q w (.error e)) (hok : ShowsEffects (f ()) Q w) :
    ShowsEffects (emit record eventType observedAt reasonCode >>= f) Q w := by
  rw [emit, LawfulMonad.bind_assoc]
  refine Shows.attempt_hidden rfl fun sent ↦ ?_
  cases sent with
  | ok _ => exact hok
  | error failure => exact Shows.raiseIf (fun _ ↦ herror _) fun _ ↦ hok

/-! ## Preparation -/

/-- What `_persist_prepared` leaves behind after the effects `w`: nothing, or the creation of the
record that it returns, if it returns. -/
inductive PersistEffects (target : ProposalKey → Prop) (w : RuntimeHistory V H) :
    RuntimeHistory V H → Except Exn StoredProposal → Prop
  | nothing (e : Exn) : PersistEffects target w w (.error e)
  | created {record : StoredProposal} (answer : Except Exn Unit) {r : Except Exn StoredProposal}
      (htarget : target record.key) (hstatus : record.lifecycleStatus = .awaitingAuthority)
      (hreturned : ∀ record', r = .ok record' → record' = record) :
      PersistEffects target w (⟨.create record, answer⟩ :: w) r

/-- The compensation raises and leaves nothing behind. -/
theorem compensatePrepared_shows (definition : ActionDeclaration V)
    (proposalIdentity : ProposalIdentity) (payload : Option ProtectedPayload)
    (commitment : KeyedCommitment) (failure : Exn) (hQ : Q w (.error failure)) :
    ShowsEffects (compensatePrepared definition proposalIdentity payload commitment failure) Q
      w := by
  cases payload with
  | none => exact Shows.attempt_hidden rfl fun _ ↦ hQ
  | some payload => exact Shows.attempt_hidden rfl fun _ ↦ Shows.attempt_hidden rfl fun _ ↦ hQ

theorem createPrepared_shows (definition : ActionDeclaration V)
    {proposalIdentity : ProposalIdentity} (payload : ProtectedPayload)
    (commitment : KeyedCommitment) {record : StoredProposal}
    (htarget : target record.key) (hstatus : record.lifecycleStatus = .awaitingAuthority)
    (w : RuntimeHistory V H) :
    ShowsEffects (createPrepared definition proposalIdentity payload commitment record)
      (PersistEffects target w) w := by
  have hraised : ∀ (answer : Except Exn Unit) (e : Exn),
      PersistEffects target w (⟨.create record, answer⟩ :: w)
        (.error e) :=
    fun answer e ↦ .created answer htarget hstatus (by rintro record' ⟨⟩)
  have hreturned : ∀ answer : Except Exn Unit,
      PersistEffects target w (⟨.create record, answer⟩ :: w)
        (.ok record) :=
    fun answer ↦ .created answer htarget hstatus (by rintro record' ⟨⟩; rfl)
  rw [createPrepared]
  refine Shows.attempt_of (P := fun w' r ↦ w' = ⟨.create record, r⟩ :: w) ?_ ?_
  · intro r
    cases r <;> rfl
  rintro w' created rfl
  cases created with
  | ok u => exact hreturned _
  | error failure =>
    refine Shows.attempt_hidden rfl fun read ↦ ?_
    cases read with
    | error failure' =>
      dsimp only
      split
      · exact hraised _ _
      · exact hraised _ _
    | ok persisted =>
      dsimp only
      split
      · split
        · exact hraised _ _
        · exact hreturned _
      · exact compensatePrepared_shows _ _ _ _ _ (hraised _ _)

theorem protectAndCreate_shows (runtime : ActionRuntime) (definition : ActionDeclaration V)
    (proposalIdentity : ProposalIdentity) (prepared : PreparedAction V) (privateCanonical : Bytes)
    (commitment : KeyedCommitment) (requestingPrincipal : RequestingPrincipal)
    (proposingAgent : Option ProposingAgent) (now : Timestamp)
    (htarget : target (proposalIdentity.tenantReference, proposalIdentity.proposalReference))
    (w : RuntimeHistory V H) :
    ShowsEffects (protectAndCreate runtime definition proposalIdentity prepared privateCanonical
      commitment requestingPrincipal proposingAgent now) (PersistEffects target w) w := by
  rw [protectAndCreate]
  refine Shows.attempt_hidden rfl fun protect ↦ ?_
  cases protect with
  | error failure => exact compensatePrepared_shows _ _ _ _ _ (.nothing _)
  | ok payload =>
    refine Shows.attempt_of (P := fun w' built ↦ w' = w ∧ ∀ record, built = .ok record →
      target record.key ∧ record.lifecycleStatus = .awaitingAuthority) ?_ ?_
    · rw [buildPrepared]
      refine Shows.hidden rfl (fun e ↦ ⟨rfl, by rintro record ⟨⟩⟩) fun reference ↦ ?_
      refine Shows.orRaise (fun e _ ↦ ⟨rfl, by rintro record ⟨⟩⟩) fun displayPreview _ ↦ ?_
      refine ⟨rfl, ?_⟩
      rintro record ⟨⟩
      exact ⟨htarget, rfl⟩
    · rintro w' built ⟨rfl, hbuilt⟩
      cases built with
      | error failure => exact compensatePrepared_shows _ _ _ _ _ (.nothing _)
      | ok record =>
        obtain ⟨hkey, hstatus⟩ := hbuilt record rfl
        exact createPrepared_shows definition payload commitment hkey hstatus _

section Prepare

variable [UnicodeNormalization]

/-- The keys a proposal of `_persist_prepared` may get. -/
def PreparedUnder (tenantReference : SafeReference) (proposalReference : Option SafeReference)
    (key : ProposalKey) : Prop :=
  key.1 = tenantReference ∧ ∀ reference ∈ proposalReference, key.2 = reference

theorem persistPrepared_shows (runtime : ActionRuntime) (definition : ActionDeclaration V)
    (tenantReference : SafeReference) (prepared : PreparedAction V)
    (requestingPrincipal : RequestingPrincipal) (proposingAgent : Option ProposingAgent)
    (now : Timestamp) (proposalReference : Option SafeReference) (w : RuntimeHistory V H) :
    ShowsEffects (persistPrepared runtime definition tenantReference prepared requestingPrincipal
      proposingAgent now proposalReference)
      (PersistEffects (PreparedUnder tenantReference proposalReference) w) w := by
  rw [persistPrepared]
  have hresolve : ShowsEffects (resolveProposalReference (V := V) (H := H) proposalReference)
      (fun w' r ↦ w' = w ∧ ∀ reference, r = .ok reference →
        ∀ reference' ∈ proposalReference, reference = reference') w := by
    cases proposalReference with
    | some reference =>
      refine ⟨rfl, ?_⟩
      rintro _ ⟨⟩ _ ⟨⟩
      rfl
    | none =>
      intro r
      cases r with
      | error e => exact ⟨rfl, by rintro reference - reference' ⟨⟩⟩
      | ok reference => exact ⟨rfl, by rintro reference - reference' ⟨⟩⟩
  refine Shows.bind_of hresolve (fun w' e hw ↦ hw.1 ▸ .nothing e) fun w' reference hw ↦ ?_
  obtain ⟨rfl, hreference⟩ := hw
  refine Shows.orRaise (fun e _ ↦ .nothing e) fun privateJson _ ↦ ?_
  refine Shows.orRaise (fun e _ ↦ .nothing e) fun privateCanonical _ ↦ ?_
  refine Shows.orRaise (fun e _ ↦ .nothing e) fun commitmentInput _ ↦ ?_
  refine Shows.hidden rfl (fun e ↦ .nothing e) fun commitment ↦ ?_
  exact protectAndCreate_shows runtime definition ⟨tenantReference, reference⟩ prepared
    privateCanonical commitment requestingPrincipal proposingAgent now
    ⟨rfl, hreference reference rfl⟩ w'

end Prepare

end ThrevoActions
