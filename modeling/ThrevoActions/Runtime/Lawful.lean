import ThrevoActions.Runtime.Writes

/-!
# The runtime keeps its contract

Each function of the runtime is followed once, from top to bottom, and shown to issue every
operation under the conditions of `runtimeContract`. Helpers whose result is used later come with
a specification of that result (`required_yields`, `persistPrepared_yields`, …); the others are only
shown to be lawful.

An executor enters as a parameter: it may do anything that the contract allows and that asks
for no admission (`LawfulExecutor`).
-/

namespace ThrevoActions

open Interleaving Interleaving.Program

variable {V : Type} [HostModels V] {H : Signature}

/-! ## Histories that ask for no admission -/

/-- The coroutine went on from `h` to `h'` without asking for an admission. -/
structure Grew (h h' : RuntimeHistory V H) : Prop where
  suffix : h <:+ h'
  asks_nothing : ∀ args, AdmissionAsked h' args → AdmissionAsked h args

namespace Grew

theorem refl (h : RuntimeHistory V H) : Grew h h := ⟨List.suffix_refl h, fun _ ha ↦ ha⟩

theorem trans {h₁ h₂ h₃ : RuntimeHistory V H} (h₁₂ : Grew h₁ h₂) (h₂₃ : Grew h₂ h₃) :
    Grew h₁ h₃ :=
  ⟨h₁₂.suffix.trans h₂₃.suffix, fun x hx ↦ h₁₂.asks_nothing x (h₂₃.asks_nothing x hx)⟩

/-- Any operation but an admission. -/
theorem event {h : RuntimeHistory V H} {o : Op V H} (ho : o.isAdmission = false)
    (r : Except Exn o.Ans) : Grew h (⟨o, r⟩ :: h) where
  suffix := List.suffix_cons _ _
  asks_nothing := by
    rintro args ⟨answer, hasked⟩
    rcases List.mem_cons.mp hasked with heq | hmem
    · have hop : Op.admitExecution args = o := congrArg Event.op heq
      rw [← hop] at ho
      cases ho
    · exact ⟨answer, hmem⟩

end Grew

theorem NoAdmission.nil : NoAdmission ([] : RuntimeHistory V H) := by
  rintro args ⟨answer, hasked⟩
  cases hasked

theorem NoAdmission.grew {h h' : RuntimeHistory V H} (hfree : NoAdmission h)
    (hgrew : Grew h h') : NoAdmission h' :=
  fun x hx ↦ hfree x (hgrew.asks_nothing x hx)

theorem NoAdmission.event {h : RuntimeHistory V H} (hfree : NoAdmission h) {o : Op V H}
    (ho : o.isAdmission = false) (r : Except Exn o.Ans) :
    NoAdmission (V := V) (H := H) (⟨o, r⟩ :: h) :=
  hfree.grew (.event ho r)

/-- A write of a coroutine that asked for no admission. -/
theorem WriteIssued.ofWrite {h : RuntimeHistory V H} {current updated : StoredProposal}
    (hfree : NoAdmission h) (hknown : Known h current)
    (hunmarked : current.erasureMarked = false) (hwrite : Write h current updated) :
    WriteIssued h current updated :=
  ⟨hknown, hunmarked, hwrite, fun x hx ↦ absurd hx (hfree x)⟩

/-! ## Lawful coroutines -/

section Lawful

variable [UnicodeNormalization] {hostIssues : RuntimeHistory V H → H.Op → Prop} {α β : Type}

/-- From history `h` on, the coroutine meets the contract, however it ends. -/
def Lawful (hostIssues : RuntimeHistory V H → H.Op → Prop) (p : Coroutine V H α)
    (h : RuntimeHistory V H) : Prop :=
  p.Meets (runtimeContract hostIssues) (fun _ _ ↦ True) h

/-- From history `h` on, the coroutine meets the contract and asks for no admission, and
`P` holds of whatever it returns. -/
def Yields (hostIssues : RuntimeHistory V H → H.Op → Prop) (p : Coroutine V H α)
    (h : RuntimeHistory V H) (P : RuntimeHistory V H → α → Prop) : Prop :=
  p.Meets (runtimeContract hostIssues) (fun h' r ↦ Grew h h' ∧ ∀ a, r = .ok a → P h' a) h

namespace Lawful

theorem pure (a : α) (h : RuntimeHistory V H) : Lawful hostIssues (pure a) h := trivial

theorem throw (e : Exn) (h : RuntimeHistory V H) :
    Lawful hostIssues (throw e : Coroutine V H α) h := trivial

theorem await {o : Op V H} {f : o.Ans → Coroutine V H β} {h : RuntimeHistory V H}
    (hissue : (runtimeContract hostIssues).issues h o)
    (hnext : ∀ a, Lawful hostIssues (f a) (⟨o, .ok a⟩ :: h)) :
    Lawful hostIssues (await o >>= f) h :=
  Meets.perform_bind hissue (fun _ _ ↦ trivial) fun a _ ↦ hnext a

theorem raiseIf {condition : Prop} [Decidable condition] {e : Exn} {f : Unit → Coroutine V H β}
    {h : RuntimeHistory V H} (hpass : ¬condition → Lawful hostIssues (f ()) h) :
    Lawful hostIssues (raiseIf condition e >>= f) h :=
  Meets.raiseIf_bind (fun _ ↦ trivial) hpass

theorem orRaise {r : Except Exn α} {f : α → Coroutine V H β} {h : RuntimeHistory V H}
    (hok : ∀ a, r = .ok a → Lawful hostIssues (f a) h) :
    Lawful hostIssues (orRaise r >>= f) h :=
  Meets.orRaise_bind (fun _ _ ↦ trivial) hok

/-- After a subroutine that yields something. -/
theorem bind {p : Coroutine V H α} {f : α → Coroutine V H β} {h : RuntimeHistory V H}
    {P : RuntimeHistory V H → α → Prop} (hp : Yields hostIssues p h P)
    (hnext : ∀ h' a, Grew h h' → P h' a → Lawful hostIssues (f a) h') :
    Lawful hostIssues (p >>= f) h :=
  Meets.bind_of hp (fun _ _ _ _ ↦ trivial) fun h' a _ hP ↦ hnext h' a hP.1 (hP.2 a rfl)

end Lawful

namespace Yields

variable {P : RuntimeHistory V H → α → Prop} {Q : RuntimeHistory V H → β → Prop}

theorem pure {a : α} {h : RuntimeHistory V H} (hP : P h a) : Yields hostIssues (pure a) h P :=
  ⟨.refl h, fun _ heq ↦ Except.ok.inj heq ▸ hP⟩

theorem throw {e : Exn} {h : RuntimeHistory V H} :
    Yields hostIssues (throw e : Coroutine V H α) h P :=
  ⟨.refl h, nofun⟩

theorem bind {p : Coroutine V H α} {f : α → Coroutine V H β} {h : RuntimeHistory V H}
    (hp : Yields hostIssues p h P)
    (hnext : ∀ h' a, Grew h h' → P h' a → Yields hostIssues (f a) h' Q) :
    Yields hostIssues (p >>= f) h Q := by
  refine Meets.bind_of hp (fun h' e _ hP ↦ ⟨hP.1, nofun⟩) fun h' a _ hP ↦ ?_
  refine (hnext h' a hP.1 (hP.2 a rfl)).imp fun h'' r _ hQ ↦ ⟨hP.1.trans hQ.1, hQ.2⟩

theorem await {o : Op V H} {f : o.Ans → Coroutine V H β} {h : RuntimeHistory V H}
    (ho : o.isAdmission = false) (hissue : (runtimeContract hostIssues).issues h o)
    (hnext : ∀ a, Yields hostIssues (f a) (⟨o, .ok a⟩ :: h) Q) :
    Yields hostIssues (await o >>= f) h Q := by
  refine Meets.perform_bind hissue (fun e _ ↦ ⟨.event ho _, nofun⟩) fun a _ ↦ ?_
  exact (hnext a).imp fun h' r _ hQ ↦ ⟨(Grew.event ho _).trans hQ.1, hQ.2⟩

/-- One operation whose errors are caught. -/
theorem attempt {o : Op V H} {f : Except Exn o.Ans → Coroutine V H β} {h : RuntimeHistory V H}
    (ho : o.isAdmission = false) (hissue : (runtimeContract hostIssues).issues h o)
    (hnext : ∀ r, Yields hostIssues (f r) (⟨o, r⟩ :: h) Q) :
    Yields hostIssues ((ThrevoActions.await o).attempt >>= f) h Q := by
  refine Meets.attempt_perform_bind hissue fun r _ ↦ ?_
  exact (hnext r).imp fun h' r' _ hQ ↦ ⟨(Grew.event ho _).trans hQ.1, hQ.2⟩

/-- A subroutine whose errors are caught. -/
theorem attempt_bind {p : Coroutine V H α} {f : Except Exn α → Coroutine V H β}
    {h : RuntimeHistory V H} (hp : Yields hostIssues p h P)
    (hnext : ∀ h' r, Grew h h' → (∀ a, r = .ok a → P h' a) → Yields hostIssues (f r) h' Q) :
    Yields hostIssues (p.attempt >>= f) h Q := by
  refine Meets.attempt_bind_of hp fun h' r _ hP ↦ ?_
  exact (hnext h' r hP.1 hP.2).imp fun h'' r' _ hQ ↦ ⟨hP.1.trans hQ.1, hQ.2⟩

/-- The same, for a subroutine of which more is known than that it asks for no admission. -/
theorem attempt_meets {p : Coroutine V H α} {f : Except Exn α → Coroutine V H β}
    {h : RuntimeHistory V H} {R : RuntimeHistory V H → Except Exn α → Prop}
    (hp : p.Meets (runtimeContract hostIssues) R h)
    (hnext : ∀ h' r, R h' r → Grew h h' ∧ Yields hostIssues (f r) h' Q) :
    Yields hostIssues (p.attempt >>= f) h Q := by
  refine Meets.attempt_bind_of hp fun h' r _ hR ↦ ?_
  obtain ⟨hgrew, hf⟩ := hnext h' r hR
  exact hf.imp fun h'' r' _ hQ ↦ ⟨hgrew.trans hQ.1, hQ.2⟩

theorem raiseIf {condition : Prop} [Decidable condition] {e : Exn} {f : Unit → Coroutine V H β}
    {h : RuntimeHistory V H} (hpass : ¬condition → Yields hostIssues (f ()) h Q) :
    Yields hostIssues (raiseIf condition e >>= f) h Q :=
  Meets.raiseIf_bind (fun _ ↦ ⟨.refl h, nofun⟩) hpass

/-- A guard with nothing behind it. -/
theorem guard {condition : Prop} [Decidable condition] {e : Exn} {h : RuntimeHistory V H} :
    Yields hostIssues (Program.raiseIf condition e) h fun _ _ ↦ True := by
  rw [Program.raiseIf]
  split_ifs
  · exact Yields.throw
  · exact Yields.pure trivial

theorem orRaise {r : Except Exn α} {f : α → Coroutine V H β} {h : RuntimeHistory V H}
    (hok : ∀ a, r = .ok a → Yields hostIssues (f a) h Q) :
    Yields hostIssues (orRaise r >>= f) h Q :=
  Meets.orRaise_bind (fun _ _ ↦ ⟨.refl h, nofun⟩) hok

/-- A single operation whose answer does not matter. -/
theorem port {o : Op V H} {h : RuntimeHistory V H} (ho : o.isAdmission = false)
    (hissue : (runtimeContract hostIssues).issues h o) :
    Yields hostIssues (ThrevoActions.await o) h fun _ _ ↦ True :=
  meets_perform.mpr ⟨hissue, fun r _ ↦ ⟨.event ho r, fun _ _ ↦ trivial⟩⟩

theorem lawful {p : Coroutine V H α} {h : RuntimeHistory V H} (hp : Yields hostIssues p h P) :
    Lawful hostIssues p h :=
  hp.imp fun _ _ _ _ ↦ trivial

end Yields

/-! ## Reading, writing, emitting -/

theorem required_yields (tenantReference proposalReference : SafeReference)
    (h : RuntimeHistory V H) :
    Yields hostIssues (required tenantReference proposalReference) h
      fun h' record ↦ Known h' record ∧ record.key = (tenantReference, proposalReference) := by
  refine Yields.await rfl trivial fun found ↦ ?_
  cases found with
  | none => exact Yields.throw
  | some record =>
    refine Yields.raiseIf fun hkey ↦ Yields.pure ?_
    simp only [not_or, ne_eq, not_not] at hkey
    obtain ⟨rfl, rfl⟩ := hkey
    exact ⟨.read .head, rfl⟩

theorem emit_yields (record : StoredProposal) (eventType : RuntimeEventType)
    (observedAt : Timestamp) (reasonCode : Option SafeReference) (h : RuntimeHistory V H) :
    Yields hostIssues (emit record eventType observedAt reasonCode) h fun _ _ ↦ True := by
  refine Yields.attempt rfl trivial fun r ↦ ?_
  cases r with
  | ok _ => exact Yields.pure trivial
  | error failure => exact Yields.guard

theorem Lawful.required {tenantReference proposalReference : SafeReference}
    {f : StoredProposal → Coroutine V H β} {h : RuntimeHistory V H}
    (hnext : ∀ h' record, Grew h h' → Known h' record →
      record.key = (tenantReference, proposalReference) → Lawful hostIssues (f record) h') :
    Lawful hostIssues (required tenantReference proposalReference >>= f) h :=
  Lawful.bind (required_yields _ _ h) fun h' record hgrew hP ↦ hnext h' record hgrew hP.1 hP.2

theorem Lawful.emit {record : StoredProposal} {eventType : RuntimeEventType}
    {observedAt : Timestamp} {reasonCode : Option SafeReference}
    {f : Unit → Coroutine V H β} {h : RuntimeHistory V H}
    (hnext : ∀ h', Grew h h' → Lawful hostIssues (f ()) h') :
    Lawful hostIssues (emit record eventType observedAt reasonCode >>= f) h :=
  Lawful.bind (emit_yields _ _ _ _ h) fun h' _ hgrew _ ↦ hnext h' hgrew

theorem Lawful.cas {current updated : StoredProposal} {f : Bool → Coroutine V H β}
    {h : RuntimeHistory V H} (hissued : WriteIssued h current updated)
    (hnext : ∀ written, Lawful hostIssues (f written)
      (⟨.compareAndSet (casArguments current updated), .ok written⟩ :: h)) :
    Lawful hostIssues (cas current updated >>= f) h :=
  Lawful.await ⟨current, updated, rfl, hissued⟩ hnext

/-- The report after a lost write: read the record again and return something about it. -/
theorem Lawful.report {tenantReference proposalReference : SafeReference}
    {result : StoredProposal → α} {h : RuntimeHistory V H} :
    Lawful hostIssues (do
      let current ← ThrevoActions.required tenantReference proposalReference
      return result current) h :=
  Lawful.required fun h' _ _ _ _ ↦ Lawful.pure _ h'

/-- The report after a successful write: emit an event and return. -/
theorem Lawful.announce {record : StoredProposal} {eventType : RuntimeEventType}
    {observedAt : Timestamp} {reasonCode : Option SafeReference} {result : α}
    {h : RuntimeHistory V H} :
    Lawful hostIssues (do
      ThrevoActions.emit record eventType observedAt reasonCode
      return result) h :=
  Lawful.emit fun h' _ ↦ Lawful.pure _ h'

/-! ## Expiry -/

theorem expireDue_lawful (definition : ActionDeclaration V)
    (tenantReference proposalReference : SafeReference) {h : RuntimeHistory V H}
    (hfree : NoAdmission h) :
    Lawful hostIssues (expireDue definition tenantReference proposalReference) h := by
  refine Lawful.required fun h₁ record hgrew hknown _ ↦ ?_
  refine Lawful.raiseIf fun _ ↦ Lawful.raiseIf fun hunmarked ↦ ?_
  split
  · exact Lawful.pure _ _
  · rename_i hstatus
    refine Lawful.await trivial fun now ↦ ?_
    split
    · exact Lawful.pure _ _
    · rename_i hdue
      have hissued : WriteIssued (⟨.now, .ok now⟩ :: h₁) record (expiredProposal record) := by
        have hnow : Answered (⟨.now, .ok now⟩ :: h₁ : RuntimeHistory V H) .now now := .head
        refine .ofWrite ((hfree.grew hgrew).event rfl _) (hknown.mono (List.suffix_cons _ _))
          (Bool.not_eq_true _ ▸ hunmarked) (.expired ?_ hnow (Int.not_lt.mp hdue))
        simpa [or_iff_not_imp_left] using hstatus
      refine Lawful.cas hissued fun written ↦ ?_
      split
      · exact Lawful.report
      · exact Lawful.announce

theorem expireBeforeAdmission_lawful {record : StoredProposal} {h : RuntimeHistory V H}
    {now : Timestamp} (hfree : NoAdmission h) (hknown : Known h record)
    (hunmarked : record.erasureMarked = false) (hstatus : record.lifecycleStatus = .authorized)
    (hnow : Answered h .now now) (hdue : record.expiresAt ≤ now) :
    Lawful hostIssues (expireBeforeAdmission record) h := by
  refine Lawful.cas (.ofWrite hfree hknown hunmarked (.expired (.inr hstatus) hnow hdue))
    fun written ↦ ?_
  split <;> exact Lawful.pure _ _

/-! ## Preparation -/

/-- What was obtained and abandoned may be destroyed. -/
theorem compensatePrepared_yields (definition : ActionDeclaration V)
    (proposalIdentity : ProposalIdentity) {payload : Option ProtectedPayload}
    {commitment : KeyedCommitment} (failure : Exn) {h : RuntimeHistory V H}
    (hpayload : ∀ payload', payload = some payload' → Abandoned h (.payload payload'))
    (hcommitment : Abandoned h (.commitment commitment)) (P : RuntimeHistory V H → α → Prop) :
    Yields hostIssues (compensatePrepared definition proposalIdentity payload commitment failure)
      h P := by
  cases payload with
  | none => exact Yields.attempt rfl (.abandoned hcommitment) fun _ ↦ Yields.throw
  | some payload =>
    refine Yields.attempt rfl (.abandoned (hpayload payload rfl)) fun answer ↦ ?_
    exact Yields.attempt rfl (.abandoned (hcommitment.event rfl answer)) fun _ ↦ Yields.throw

/-- What `_persist_prepared` returns is persisted, for the given tenant and action type. -/
def PersistedFor (definition : ActionDeclaration V) (tenantReference : SafeReference)
    (h : RuntimeHistory V H) (record : StoredProposal) : Prop :=
  Persisted h record ∧ record.tenantReference = tenantReference ∧
    record.actionType = definition.actionType

theorem createPrepared_yields (definition : ActionDeclaration V)
    {proposalIdentity : ProposalIdentity} {payload : ProtectedPayload}
    {commitment : KeyedCommitment} {record : StoredProposal} {h : RuntimeHistory V H}
    (hissued : CreateIssued h record)
    (hkey : record.key = (proposalIdentity.tenantReference, proposalIdentity.proposalReference))
    (haction : record.actionType = definition.actionType)
    (hsnapshot : record.protectedPrivateSnapshot = some payload)
    (hcommitment : record.commitment = some commitment)
    (hunfiled : ∀ m, record.RefersTo m → Unfiled h m) :
    Yields hostIssues (createPrepared definition proposalIdentity payload commitment record) h
      (PersistedFor definition proposalIdentity.tenantReference) := by
  have htenant : record.tenantReference = proposalIdentity.tenantReference :=
    congrArg Prod.fst hkey
  have hreference : record.proposalReference = proposalIdentity.proposalReference :=
    congrArg Prod.snd hkey
  refine Yields.attempt rfl ⟨hissued, fun m hm ↦ (hunfiled m hm).obtained⟩ fun created ↦ ?_
  cases created with
  | ok u => exact Yields.pure ⟨Or.inl .head, htenant, haction⟩
  | error failure =>
    refine Yields.attempt rfl trivial fun read ↦ ?_
    cases read with
    | error failure' =>
      dsimp only
      split
      · exact Yields.throw
      · exact Yields.throw
    | ok persisted =>
      dsimp only
      split
      · rename_i hpersisted
        split
        · exact Yields.throw
        · refine Yields.pure ⟨Or.inr ?_, htenant, haction⟩
          rw [htenant, hreference, ← hpersisted]
          exact .head
      · rename_i hother
        -- the record is not on file as it was created
        have habandoned : ∀ m, record.RefersTo m → Abandoned (V := V) (H := H)
            (⟨.get proposalIdentity.tenantReference proposalIdentity.proposalReference,
              .ok persisted⟩ :: ⟨.create record, .error failure⟩ :: h) m := by
          intro m hm
          rw [← htenant, ← hreference]
          exact .notFound (List.nil_append _).symm (hunfiled m hm) hm (List.forall_mem_nil _) hother
        refine compensatePrepared_yields _ _ _ ?_ (habandoned _ hcommitment) _
        intro payload' hpayload'
        cases hpayload'
        exact habandoned _ hsnapshot

omit [UnicodeNormalization] in
/-- The record built for creation, with its receipt's identifier drawn last. -/
theorem buildPrepared_meets {C : Contract (runtimeSignature V H) Exn} (runtime : ActionRuntime) (definition : ActionDeclaration V)
    (proposalIdentity : ProposalIdentity) (prepared : PreparedAction V)
    (payload : ProtectedPayload) (commitment : KeyedCommitment)
    (requestingPrincipal : RequestingPrincipal) (proposingAgent : Option ProposingAgent)
    (now : Timestamp) {h : RuntimeHistory V H} (hissues : C.issues h (.newIdentifier .receipt)) :
    (buildPrepared runtime definition proposalIdentity prepared payload commitment
      requestingPrincipal proposingAgent now).Meets C (fun h' built ↦
        (∃ answer, h' = ⟨.newIdentifier .receipt, answer⟩ :: h) ∧ ∀ record, built = .ok record →
          CreateIssued h' record ∧
          record.key = (proposalIdentity.tenantReference, proposalIdentity.proposalReference) ∧
          record.actionType = definition.actionType ∧
          record.protectedPrivateSnapshot = some payload ∧ record.commitment = some commitment) h := by
  have hfailed : ∀ (e : Exn) (record : StoredProposal),
      (.error e : Except Exn StoredProposal) ≠ .ok record := by
    intro e record heq
    cases heq
  refine Meets.perform_bind hissues
    (fun e _ ↦ ⟨⟨_, rfl⟩, fun record heq ↦ absurd heq (hfailed e record)⟩) fun reference _ ↦ ?_
  refine Meets.orRaise_bind
    (fun e _ ↦ ⟨⟨_, rfl⟩, fun record heq ↦ absurd heq (hfailed e record)⟩) fun displayPreview _ ↦ ?_
  refine ⟨⟨_, rfl⟩, fun record hrecord ↦ ?_⟩
  cases hrecord
  exact ⟨⟨runtime, definition, _, _, _, reference, _, _, _, _, _, _, rfl, h, rfl⟩, rfl, rfl, rfl,
    rfl⟩

theorem protectAndCreate_yields (runtime : ActionRuntime) (definition : ActionDeclaration V)
    (proposalIdentity : ProposalIdentity) (prepared : PreparedAction V) (privateCanonical : Bytes)
    {commitment : KeyedCommitment} (requestingPrincipal : RequestingPrincipal)
    (proposingAgent : Option ProposingAgent) (now : Timestamp) {h : RuntimeHistory V H}
    (hcommitment : Unfiled h (.commitment commitment)) :
    Yields hostIssues (protectAndCreate runtime definition proposalIdentity prepared
      privateCanonical commitment requestingPrincipal proposingAgent now) h
      (PersistedFor definition proposalIdentity.tenantReference) := by
  refine Yields.attempt rfl trivial fun protect ↦ ?_
  cases protect with
  | error failure =>
    refine compensatePrepared_yields _ _ _ ?_ (.unattempted (hcommitment.event rfl _)) _
    intro payload hpayload
    cases hpayload
  | ok payload =>
    refine Yields.attempt_meets (buildPrepared_meets _ _ _ _ _ _ _ _ _ trivial) fun h' built hP ↦ ?_
    obtain ⟨⟨answer, rfl⟩, hbuilt⟩ := hP
    have hout : HandsOut (V := V) (H := H)
        ⟨.protectPayload definition proposalIdentity privateCanonical, .ok payload⟩
        (.payload payload) := rfl
    have hpayload := ((Unfiled.head hout).event (o := .newIdentifier .receipt) rfl answer :
      Unfiled (_ :: _ :: h) _)
    have hcommitment' := (hcommitment.event (o := .protectPayload definition proposalIdentity
      privateCanonical) rfl (.ok payload)).event (o := .newIdentifier .receipt) rfl answer
    refine ⟨Grew.event (o := .newIdentifier .receipt) rfl answer, ?_⟩
    cases built with
    | error failure =>
      refine compensatePrepared_yields _ _ _ ?_ (.unattempted hcommitment') _
      intro payload' hpayload'
      cases hpayload'
      exact .unattempted hpayload
    | ok record =>
      obtain ⟨hissued, hkey, haction, hsnapshot, hcommitment''⟩ := hbuilt record rfl
      refine createPrepared_yields definition hissued hkey haction hsnapshot hcommitment'' ?_
      intro m hm
      cases m with
      | payload payload' =>
        cases hsnapshot.symm.trans hm
        exact hpayload
      | commitment commitment' =>
        cases hcommitment''.symm.trans hm
        exact hcommitment'

theorem persistPrepared_yields (runtime : ActionRuntime) (definition : ActionDeclaration V)
    (tenantReference : SafeReference) (prepared : PreparedAction V)
    (requestingPrincipal : RequestingPrincipal) (proposingAgent : Option ProposingAgent)
    (now : Timestamp) (proposalReference : Option SafeReference) (h : RuntimeHistory V H) :
    Yields hostIssues (persistPrepared runtime definition tenantReference prepared
      requestingPrincipal proposingAgent now proposalReference) h
      (PersistedFor definition tenantReference) := by
  have hresolve : Yields hostIssues (resolveProposalReference proposalReference) h
      fun _ _ ↦ True := by
    cases proposalReference with
    | some reference => exact Yields.pure trivial
    | none => exact Yields.port rfl trivial
  refine Yields.bind hresolve fun h' reference _ _ ↦ ?_
  refine Yields.orRaise fun privateJson _ ↦ Yields.orRaise fun privateCanonical _ ↦
    Yields.orRaise fun commitmentInput _ ↦ Yields.await rfl trivial fun commitment ↦ ?_
  have hout : HandsOut (V := V) (H := H) ⟨.createCommitment definition
      ⟨tenantReference, reference⟩ commitmentInput, .ok commitment⟩ (.commitment commitment) := rfl
  exact protectAndCreate_yields runtime definition ⟨tenantReference, reference⟩ prepared
    privateCanonical requestingPrincipal proposingAgent now (.head hout)

theorem prepare_lawful (runtime : ActionRuntime) (definition : ActionDeclaration V)
    (tenantReference : SafeReference) (command : V) (requestingPrincipal : RequestingPrincipal)
    (proposingAgent : Option ProposingAgent) (proposalReference : Option SafeReference)
    (h : RuntimeHistory V H) :
    Lawful hostIssues (prepare runtime definition tenantReference command requestingPrincipal
      proposingAgent proposalReference) h :=
  Lawful.await trivial fun _ ↦ Lawful.await trivial fun _ ↦ Lawful.raiseIf fun _ ↦
    Lawful.await trivial fun _ ↦ Lawful.orRaise fun _ _ ↦
    Lawful.bind (persistPrepared_yields _ _ _ _ _ _ _ _ _) fun _ _ _ _ ↦ Lawful.announce

/-! ## Recording authority -/

theorem decideAuthority_yields (definition : ActionDeclaration V) (record : StoredProposal)
    (evidence : AuthorityEvidence) (binding : AuthorityBinding) (now : Timestamp)
    (h : RuntimeHistory V H) :
    Yields hostIssues (decideAuthority definition record evidence binding now) h
      fun h' decided ↦ Decided h' definition record evidence binding now decided := by
  rw [decideAuthority]
  split
  · rename_i hdeny
    exact Yields.pure (.denied hdeny)
  · rename_i happrove
    exact Yields.await rfl trivial fun evaluation ↦
      Yields.pure (.evaluated evaluation happrove .head)

theorem writeAuthority_lawful (runtime : ActionRuntime) (definition : ActionDeclaration V)
    {record : StoredProposal} {evidence : AuthorityEvidence} {commitment : KeyedCommitment}
    {now : Timestamp} {decided : AuthorityOutcome} {h : RuntimeHistory V H}
    (hfree : NoAdmission h) (hknown : Known h record)
    (hunmarked : record.erasureMarked = false)
    (hstatus : record.lifecycleStatus = .awaitingAuthority)
    (hnew : evidence ∉ record.authorityEvidence) (hcommitment : record.commitment = some commitment)
    (hnow : Answered h .now now)
    (hvalid : (validateAuthorityEvidence evidence
      (authorityBinding definition record commitment) now).valid = true)
    (hdecided : Decided h definition record evidence
      (authorityBinding definition record commitment) now decided) :
    Lawful hostIssues (writeAuthority runtime record evidence now decided) h := by
  refine Lawful.await trivial fun reference ↦ ?_
  have hsuffix : h <:+ (⟨.newIdentifier .receipt, .ok reference⟩ :: h : RuntimeHistory V H) :=
    List.suffix_cons _ _
  refine Lawful.cas (.ofWrite (hfree.event rfl _) (hknown.mono hsuffix) hunmarked
    (.authorityRecorded runtime definition hstatus hnew hcommitment (hnow.mono hsuffix) hvalid
      (hdecided.mono hsuffix) ⟨h, rfl⟩)) fun written ↦ ?_
  split
  · exact Lawful.report
  · exact Lawful.announce

theorem recordAuthority_lawful (runtime : ActionRuntime) (definition : ActionDeclaration V)
    (evidence : AuthorityEvidence) (authenticatedAuthority : ConfirmingAuthority)
    (proposalReference : Option SafeReference) {h : RuntimeHistory V H}
    (hfree : NoAdmission h) :
    Lawful hostIssues (recordAuthority runtime definition evidence authenticatedAuthority
      proposalReference) h := by
  refine Lawful.required fun h₁ record hgrew hknown _ ↦ Lawful.await trivial fun now ↦ ?_
  refine Lawful.raiseIf fun _ ↦ Lawful.raiseIf fun hunmarked ↦ Lawful.raiseIf fun _ ↦ ?_
  rw [Bool.not_eq_true] at hunmarked
  refine Lawful.await trivial fun decisionAuth ↦ Lawful.raiseIf fun _ ↦ ?_
  generalize hh₂ : (⟨.canDecide definition evidence
    ⟨record.tenantReference, authenticatedAuthority, now⟩, .ok decisionAuth⟩ ::
      ⟨.now, .ok now⟩ :: h₁ : RuntimeHistory V H) = h₂
  have hfree₂ : NoAdmission h₂ := hh₂ ▸ ((hfree.grew hgrew).event rfl _).event rfl _
  have hsuffix : h₁ <:+ h₂ := hh₂ ▸ (List.suffix_cons _ _).trans (List.suffix_cons _ _)
  have hnow : Answered h₂ .now now := hh₂ ▸ Answered.head.mono (List.suffix_cons _ _)
  split
  · exact Lawful.pure _ _
  · rename_i hnew
    split
    · exact Lawful.pure _ _
    · rename_i hstatus
      rw [ne_eq, not_not] at hstatus
      split
      · rename_i hdue
        refine Lawful.cas (.ofWrite hfree₂ (hknown.mono hsuffix) hunmarked
          (.expired (.inl hstatus) hnow hdue)) fun written ↦ ?_
        split
        · exact Lawful.pure _ _
        · exact Lawful.report
      · split
        · exact Lawful.throw _ _
        · rename_i commitment hcommitment
          refine Lawful.raiseIf fun hvalid ↦ ?_
          rw [Bool.not_eq_false] at hvalid
          refine Lawful.bind (decideAuthority_yields _ _ _ _ _ h₂) fun h₃ decided hgrew₃ hdecided ↦ ?_
          exact writeAuthority_lawful runtime definition (hfree₂.grew hgrew₃)
            ((hknown.mono hsuffix).mono hgrew₃.suffix) hunmarked hstatus hnew hcommitment
            (hnow.mono hgrew₃.suffix) hvalid hdecided

/-! ## Execution -/

theorem loadPrivate_yields (definition : ActionDeclaration V) (record : StoredProposal)
    (h : RuntimeHistory V H) :
    Yields hostIssues (loadPrivate definition record) h fun h' loaded ↦
      ∀ snapshot, loaded = some snapshot → ∃ commitment payload canonical commitmentInput,
        SnapshotVerified h' definition record commitment payload canonical commitmentInput
          snapshot := by
  rw [loadPrivate]
  split
  · rename_i payload commitment hpayload hcommitment
    refine Yields.attempt rfl trivial fun unprotect ↦ ?_
    cases unprotect with
    | error failure =>
      dsimp only
      split
      · exact Yields.pure nofun
      · exact Yields.throw
    | ok canonical =>
      refine Yields.orRaise fun commitmentInput hinput ↦ Yields.await rfl trivial fun verified ↦ ?_
      split
      · exact Yields.pure nofun
      · rename_i hverified
        rw [Bool.not_eq_false] at hverified
        subst hverified
        refine Yields.orRaise fun snapshot hvalidated ↦ Yields.pure ?_
        rintro _ ⟨⟩
        exact ⟨commitment, payload, canonical, commitmentInput, hpayload, hcommitment,
          Answered.head.mono (List.suffix_cons _ _), hinput, .head, hvalidated⟩
  · exact Yields.pure nofun

theorem block_lawful (runtime : ActionRuntime) {record : StoredProposal} {now : Timestamp}
    {reasonCode : SafeReference} {h : RuntimeHistory V H} (hfree : NoAdmission h)
    (hknown : Known h record) (hunmarked : record.erasureMarked = false)
    (hstatus : record.lifecycleStatus = .authorized) :
    Lawful hostIssues (block runtime record now reasonCode) h := by
  refine Lawful.orRaise fun authority hauthority ↦ Lawful.await trivial fun reference ↦ ?_
  refine Lawful.cas (.ofWrite (hfree.event rfl _) (hknown.mono (List.suffix_cons _ _)) hunmarked
    (.blocked runtime hstatus hauthority ⟨h, rfl⟩)) fun written ↦ ?_
  split
  · exact Lawful.report
  · exact Lawful.announce

theorem persistReplacement_yields (runtime : ActionRuntime) (definition : ActionDeclaration V)
    {record stale : StoredProposal} (replacement : Option (PreparedAction V)) (now : Timestamp)
    {h : RuntimeHistory V H} (hfree : NoAdmission h) (hknown : Known h stale)
    (hunmarked : stale.erasureMarked = false) (hstatus : stale.lifecycleStatus = .stale)
    (htenant : record.tenantReference = stale.tenantReference)
    (haction : definition.actionType = stale.actionType) :
    Yields hostIssues (persistReplacement runtime definition record stale replacement now) h
      fun _ _ ↦ True := by
  unfold persistReplacement
  split
  · exact Yields.pure trivial
  · split
    · exact Yields.throw
    · refine Yields.orRaise fun _ _ ↦ ?_
      refine Yields.bind (persistPrepared_yields _ _ _ _ _ _ _ _ h) fun h' fresh hgrew hfresh ↦ ?_
      obtain ⟨hpersisted, hfreshTenant, hfreshAction⟩ := hfresh
      refine Yields.await rfl ⟨stale, _, rfl, .ofWrite (hfree.grew hgrew)
        (hknown.mono hgrew.suffix) hunmarked (.superseded hstatus hpersisted
          (hfreshTenant.trans htenant) (hfreshAction.trans haction))⟩ fun written ↦ ?_
      exact Yields.pure trivial

theorem supersedeStale_lawful (runtime : ActionRuntime) (definition : ActionDeclaration V)
    {record : StoredProposal} (replacement : Option (PreparedAction V)) {now : Timestamp}
    {h : RuntimeHistory V H} (hfree : NoAdmission h) (hknown : Known h record)
    (hunmarked : record.erasureMarked = false) (hstatus : record.lifecycleStatus = .authorized)
    (haction : record.actionType = definition.actionType) :
    Lawful hostIssues (supersedeStale runtime definition record replacement now) h := by
  refine Lawful.await trivial fun reference ↦ ?_
  refine Lawful.cas (.ofWrite (hfree.event rfl _) (hknown.mono (List.suffix_cons _ _)) hunmarked
    (.stale runtime definition hstatus ⟨h, rfl⟩)) fun written ↦ ?_
  split
  · exact Lawful.report
  · rename_i hwritten
    rw [Bool.not_eq_false] at hwritten
    subst hwritten
    refine Lawful.bind (persistReplacement_yields runtime definition replacement now
      ((hfree.event rfl _).event rfl _) (.wrote .head) hunmarked rfl rfl haction.symm)
      fun _ _ _ _ ↦ Lawful.announce

/-- The attempt `executing` is the one the coroutine admitted. -/
structure OwnAttempt (h : RuntimeHistory V H) (executing : StoredProposal) : Prop where
  admitted : AdmittedBy h executing
  only : ∀ args, AdmissionAsked h args → executing = args.updated
  unmarked : executing.erasureMarked = false
  status : executing.lifecycleStatus = .executing

omit [UnicodeNormalization] in
theorem OwnAttempt.grew {h h' : RuntimeHistory V H} {executing : StoredProposal}
    (hown : OwnAttempt h executing) (hgrew : Grew h h') : OwnAttempt h' executing :=
  { hown with
    admitted := hown.admitted.mono hgrew.suffix
    only := fun args hasked ↦ hown.only args (hgrew.asks_nothing args hasked) }

theorem settleExecution_lawful (runtime : ActionRuntime) (definition : ActionDeclaration V)
    {record : StoredProposal} (execution : ExecutionResult V) {now : Timestamp}
    {h : RuntimeHistory V H} (hown : OwnAttempt h record) (hnow : Answered h .now now) :
    Lawful hostIssues (settleExecution runtime definition record execution now) h := by
  refine Lawful.orRaise fun _ _ ↦ Lawful.await trivial fun reference ↦ ?_
  refine Lawful.orRaise fun safeResult _ ↦ ?_
  have hown' := hown.grew (.event (o := .newIdentifier .receipt) rfl (.ok reference))
  refine Lawful.cas ⟨.admitted hown'.admitted, hown.unmarked,
    .executionSettled runtime definition hown.status hown'.admitted
      (hnow.mono (List.suffix_cons _ _)) ⟨h, rfl⟩, hown'.only⟩ fun written ↦ ?_
  split
  · exact Lawful.report
  · exact Lawful.announce

/-- An executor that keeps the contract, and asks for no admission, whenever it is dispatched. -/
def LawfulExecutor (hostIssues : RuntimeHistory V H → H.Op → Prop)
    (definition : ActionDeclaration V)
    (executor : V → ExecutionContext → SafeReference → Coroutine V H (ExecutionResult V)) : Prop :=
  ∀ (h : RuntimeHistory V H) (snapshot : V) (context : ExecutionContext)
    (executionPrecondition : SafeReference) (args : MemoryActionStore.AdmitExecution)
    (claim : EffectClaimResult) (record : StoredProposal) (commitment : KeyedCommitment)
    (evidence : List AuthorityEvidence) (resolved : ResolvedState V),
    DispatchReady h definition snapshot context executionPrecondition args claim record commitment
      evidence resolved →
    Yields hostIssues (executor snapshot context executionPrecondition) h fun _ _ ↦ True

/-- Host executors are lawful: dispatching is one call on the executor port. -/
theorem hostExecutors_lawful (definition : ActionDeclaration V) :
    LawfulExecutor hostIssues definition (hostExecutors V H definition) :=
  fun _ _ _ _ args claim record commitment evidence resolved hready ↦
    Yields.port rfl ⟨args, claim, record, commitment, evidence, resolved, hready⟩

/-- Host executors are lawful without any condition on host operations. -/
theorem hostExecutors_lawful_any (definition : ActionDeclaration V) :
    LawfulExecutor (fun _ _ ↦ True) definition (hostExecutors V H definition) :=
  hostExecutors_lawful definition

omit [UnicodeNormalization] in
/-- What the last check before dispatch has established when it refuses nothing. -/
theorem dispatchRefusal_eq_none {definition : ActionDeclaration V} {record : StoredProposal}
    {binding : AuthorityBinding} {evidence : List AuthorityEvidence}
    {admittedAt executionAt : Timestamp}
    (hnone : dispatchRefusal definition record binding evidence admittedAt executionAt = none) :
    executionAt < record.expiresAt ∧
      (∀ item ∈ evidence, (validateAuthorityEvidence item binding executionAt).valid = true) ∧
      executionAt < admittedAt + definition.verificationLeaseDuration := by
  rw [dispatchRefusal] at hnone
  split at hnone
  · cases hnone
  · rename_i hexpiry
    split at hnone
    · cases hnone
    · rename_i hevidence
      split at hnone
      · cases hnone
      · rename_i hlease
        rw [ne_eq, not_not, validAuthorityEvidence, List.filter_eq_self] at hevidence
        exact ⟨Int.not_le.mp hexpiry, hevidence, Int.not_le.mp hlease⟩

/-- What the successive stages of `execute` have established about the record they work on. -/
structure Executable (h : RuntimeHistory V H) (definition : ActionDeclaration V)
    (record : StoredProposal) : Prop where
  free : NoAdmission h
  known : Known h record
  unmarked : record.erasureMarked = false
  status : record.lifecycleStatus = .authorized
  action : record.actionType = definition.actionType

omit [UnicodeNormalization] in
theorem Executable.grew {h h' : RuntimeHistory V H} {definition : ActionDeclaration V}
    {record : StoredProposal} (hx : Executable h definition record) (hgrew : Grew h h') :
    Executable h' definition record :=
  { hx with free := hx.free.grew hgrew, known := hx.known.mono hgrew.suffix }

omit [UnicodeNormalization] in
theorem Executable.event {h : RuntimeHistory V H} {definition : ActionDeclaration V}
    {record : StoredProposal} (hx : Executable h definition record) {o : Op V H}
    (ho : o.isAdmission = false) (r : Except Exn o.Ans) :
    Executable (V := V) (H := H) (⟨o, r⟩ :: h) definition record :=
  hx.grew (.event ho r)

theorem evaluateAuthority_yields (declaration : ActionDeclaration V) (record : StoredProposal)
    (binding : AuthorityBinding) (at' : Timestamp) (h : RuntimeHistory V H) :
    Yields hostIssues (evaluateAuthority declaration record binding at') h fun h' answer ↦
      answer.1 ⊆ record.authorityEvidence ∧
        Answered h' (.evaluate declaration binding answer.1) answer.2 :=
  Yields.await rfl trivial fun _ ↦ Yields.pure ⟨List.filter_subset_self _, .head⟩

section Definition

variable (runtime : ActionRuntime) (definition : ActionDefinition V H)
  (hexecutor : LawfulExecutor hostIssues definition.toActionDeclaration definition.executor)

include hexecutor

theorem dispatch_lawful {args : MemoryActionStore.AdmitExecution} {claim : EffectClaimResult}
    {record : StoredProposal} {commitment : KeyedCommitment} {evidence : List AuthorityEvidence}
    {resolved : ResolvedState V} {reference : SafeReference} {h : RuntimeHistory V H}
    (hclaim : claim.admits = true)
    (hissued : AdmissionIssued h args runtime definition.toActionDeclaration record
      resolved.executionPrecondition reference)
    (hstored : evidence ⊆ record.authorityEvidence)
    (hcurrent : CurrentResolved h definition.toActionDeclaration record commitment resolved)
    (hreauthorized : Reauthorized h definition.toActionDeclaration
      (authorityBinding definition.toActionDeclaration record commitment) evidence resolved) :
    Lawful hostIssues (dispatch runtime definition record args.updated
      (authorityBinding definition.toActionDeclaration record commitment) evidence resolved
      args.admittedAt) (⟨.admitExecution args, .ok claim⟩ :: h) := by
  have hupdated := hissued.updated
  have hown : OwnAttempt (⟨.admitExecution args, .ok claim⟩ :: h : RuntimeHistory V H)
      args.updated := by
    refine ⟨⟨args, claim, rfl, hclaim, .head⟩, ?_, ?_, ?_⟩
    · rintro args' ⟨answer, hasked⟩
      rcases List.mem_cons.mp hasked with heq | hmem
      · have hop : Op.admitExecution args' = (Op.admitExecution args : Op V H) :=
          congrArg Event.op heq
        rw [Op.admitExecution.inj hop]
      · exact absurd ⟨answer, hmem⟩ (hissued.first _)
    · rw [hupdated]
      exact hissued.unmarked
    · rw [hupdated]
      rfl
  have hsuffix : h <:+ (⟨.admitExecution args, .ok claim⟩ :: h : RuntimeHistory V H) :=
    List.suffix_cons _ _
  refine Lawful.await trivial fun executionAt ↦ ?_
  have hown' := hown.grew (.event (o := .now) rfl (.ok executionAt))
  split
  · exact settleExecution_lawful runtime _ _ hown' .head
  · rename_i hrefusal
    obtain ⟨hexpiry, hevidence, hlease⟩ := dispatchRefusal_eq_none hrefusal
    refine Lawful.orRaise fun context hcontext ↦ ?_
    have hobserved : context.observedAt = executionAt := executionContext_observedAt hcontext
    subst hobserved
    refine Lawful.bind (hexecutor _ _ _ _ args claim record commitment evidence resolved
      { justAdmitted := ⟨runtime, reference, h, rfl, hissued⟩
        admits := hclaim
        contextOf := hcontext
        unexpired := hexpiry
        evidence_stored := hstored
        evidence_valid := hevidence
        inLease := hlease
        current := hcurrent.mono (hsuffix.trans (List.suffix_cons _ _))
        reauthorized := hreauthorized.mono (hsuffix.trans (List.suffix_cons _ _))
        snapshotOf := rfl
        preconditionOf := rfl }) fun h' execution hgrew _ ↦ ?_
    refine Lawful.await trivial fun now ↦ ?_
    exact settleExecution_lawful runtime _ execution
      ((hown'.grew hgrew).grew (.event rfl _)) .head

theorem admitAttempt_lawful {record : StoredProposal} {commitment : KeyedCommitment}
    {evidence : List AuthorityEvidence} {resolved : ResolvedState V} {h : RuntimeHistory V H}
    (hx : Executable h definition.toActionDeclaration record)
    (hstored : evidence ⊆ record.authorityEvidence)
    (hcurrent : CurrentResolved h definition.toActionDeclaration record commitment resolved)
    (hreauthorized : Reauthorized h definition.toActionDeclaration
      (authorityBinding definition.toActionDeclaration record commitment) evidence resolved) :
    Lawful hostIssues (admitAttempt runtime definition record
      (authorityBinding definition.toActionDeclaration record commitment) evidence resolved) h := by
  refine Lawful.await trivial fun admittedAt ↦ ?_
  have hx' := hx.event (o := .now) rfl (.ok admittedAt)
  split
  · rename_i hdue
    exact expireBeforeAdmission_lawful hx'.free hx'.known hx'.unmarked hx'.status .head hdue
  · split
    · exact block_lawful runtime hx'.free hx'.known hx'.unmarked hx'.status
    · refine Lawful.await trivial fun reference ↦ ?_
      have hsuffix : h <:+ (⟨.newIdentifier .receipt, .ok reference⟩ ::
          ⟨.now, .ok admittedAt⟩ :: h : RuntimeHistory V H) :=
        (List.suffix_cons _ _).trans (List.suffix_cons _ _)
      have hx'' := hx'.event (o := .newIdentifier .receipt) rfl (.ok reference)
      have hallowed := hreauthorized.2
      obtain ⟨context, authorization, hauthorization, -⟩ := hallowed
      have hissued : AdmissionIssued (⟨.newIdentifier .receipt, .ok reference⟩ ::
          ⟨.now, .ok admittedAt⟩ :: h : RuntimeHistory V H)
          { tenantReference := record.tenantReference
            proposalReference := record.proposalReference
            expectedRevision := record.revision
            admittedAt := admittedAt
            updated := executingProposal definition.toActionDeclaration record
              resolved.executionPrecondition admittedAt (executionReceipt runtime
                definition.toActionDeclaration record reference admittedAt .started none) }
          runtime definition.toActionDeclaration record resolved.executionPrecondition
          reference :=
        ⟨rfl, hx''.known, hx''.unmarked, hx''.status,
          ⟨_, context, authorization, hauthorization.mono hsuffix⟩, ⟨_, rfl⟩,
          Answered.head.mono (List.suffix_cons _ _), hx''.free⟩
      refine Lawful.await ⟨runtime, _, record, _, reference, hissued⟩ fun claim ↦ ?_
      have hdispatch := fun hclaim : claim.admits = true ↦ dispatch_lawful runtime definition
        hexecutor hclaim hissued hstored (hcurrent.mono hsuffix) (hreauthorized.mono hsuffix)
      cases claim with
      | conflict => exact Lawful.report
      | proposalNotFound => exact Lawful.throw _ _
      | proposalNotAuthorized => exact Lawful.report
      | acquired => exact hdispatch rfl
      | ownedByProposal => exact hdispatch rfl

theorem reauthorize_lawful {record : StoredProposal} {commitment : KeyedCommitment}
    {resolved : ResolvedState V} {h : RuntimeHistory V H}
    (hx : Executable h definition.toActionDeclaration record)
    (hcurrent : CurrentResolved h definition.toActionDeclaration record commitment resolved) :
    Lawful hostIssues (reauthorize runtime definition record
      (authorityBinding definition.toActionDeclaration record commitment) resolved) h := by
  refine Lawful.await trivial fun admittedAt ↦ ?_
  have hx₁ := hx.event (o := .now) rfl (.ok admittedAt)
  split
  · rename_i hdue
    exact expireBeforeAdmission_lawful hx₁.free hx₁.known hx₁.unmarked hx₁.status .head hdue
  · refine Lawful.bind (evaluateAuthority_yields _ _ _ _ _) fun h₂ answer hgrew hanswer ↦ ?_
    obtain ⟨evidence, authority⟩ := answer
    obtain ⟨hstored, hevaluated⟩ := hanswer
    have hx₂ := hx₁.grew hgrew
    dsimp only
    split
    · exact block_lawful runtime hx₂.free hx₂.known hx₂.unmarked hx₂.status
    · rename_i hsatisfied
      rw [Bool.not_eq_false] at hsatisfied
      refine Lawful.orRaise fun context _ ↦ Lawful.await trivial fun authorization ↦ ?_
      have hx₃ := hx₂.event (o := .canExecute definition.toActionDeclaration
        resolved.currentSnapshot context) rfl (.ok authorization)
      split
      · exact block_lawful runtime hx₃.free hx₃.known hx₃.unmarked hx₃.status
      · rename_i hallowed
        rw [Bool.not_eq_false] at hallowed
        refine admitAttempt_lawful runtime definition hexecutor hx₃ hstored ?_ ?_
        · exact hcurrent.mono ((List.suffix_cons _ _).trans
            (hgrew.suffix.trans (List.suffix_cons _ _)))
        · exact ⟨⟨authority, hevaluated.mono (List.suffix_cons _ _), hsatisfied⟩, context,
            authorization, .head, hallowed⟩

theorem resolveCurrent_lawful {record : StoredProposal} {commitment : KeyedCommitment}
    {payload : ProtectedPayload} {canonical commitmentInput : Bytes} {snapshot : V}
    {now : Timestamp} {h : RuntimeHistory V H}
    (hx : Executable h definition.toActionDeclaration record)
    (hverified : SnapshotVerified h definition.toActionDeclaration record commitment payload
      canonical commitmentInput snapshot) :
    Lawful hostIssues (resolveCurrent runtime definition record commitment snapshot now) h := by
  refine Lawful.bind (evaluateAuthority_yields _ _ _ _ _) fun h₁ answer hgrew _ ↦ ?_
  obtain ⟨evidence, authority⟩ := answer
  have hx₁ := hx.grew hgrew
  dsimp only
  split
  · exact block_lawful runtime hx₁.free hx₁.known hx₁.unmarked hx₁.status
  · refine Lawful.orRaise fun context _ ↦ Lawful.await trivial fun resolved ↦ ?_
    have hx₂ := hx₁.event (o := .resolve definition.toActionDeclaration snapshot context) rfl
      (.ok resolved)
    refine Lawful.raiseIf fun _ ↦ ?_
    split
    · exact supersedeStale_lawful runtime _ _ hx₂.free hx₂.known hx₂.unmarked hx₂.status hx₂.action
    · rename_i hdrifted
      rw [Bool.not_eq_true] at hdrifted
      refine reauthorize_lawful runtime definition hexecutor hx₂ ?_
      exact ⟨payload, canonical, commitmentInput, snapshot, context,
        hverified.mono (hgrew.suffix.trans (List.suffix_cons _ _)), .head, hdrifted⟩

theorem execute_lawful (tenantReference proposalReference : SafeReference)
    {h : RuntimeHistory V H} (hfree : NoAdmission h) :
    Lawful hostIssues (execute runtime definition tenantReference proposalReference) h := by
  refine Lawful.required fun h₁ record hgrew hknown _ ↦ ?_
  refine Lawful.raiseIf fun haction ↦ Lawful.raiseIf fun hunmarked ↦ ?_
  rw [ne_eq, not_not] at haction
  rw [Bool.not_eq_true] at hunmarked
  split
  · exact Lawful.pure _ _
  · split
    · exact Lawful.pure _ _
    · rename_i hstatus
      rw [ne_eq, not_not] at hstatus
      refine Lawful.await trivial fun now ↦ ?_
      have hx : Executable h₁ definition.toActionDeclaration record :=
        ⟨hfree.grew hgrew, hknown, hunmarked, hstatus, haction⟩
      have hx₁ := hx.event (o := .now) rfl (.ok now)
      split
      · rename_i hdue
        exact expireBeforeAdmission_lawful hx₁.free hx₁.known hx₁.unmarked hx₁.status .head hdue
      · refine Lawful.bind (loadPrivate_yields _ _ _) fun h₂ loaded hgrew₂ hloaded ↦ ?_
        have hx₂ := hx₁.grew hgrew₂
        split
        · exact block_lawful runtime hx₂.free hx₂.known hx₂.unmarked hx₂.status
        · exact block_lawful runtime hx₂.free hx₂.known hx₂.unmarked hx₂.status
        · rename_i snapshot commitment hcommitment
          obtain ⟨commitment', payload, canonical, commitmentInput, hverified⟩ :=
            hloaded snapshot rfl
          rw [hverified.hasCommitment] at hcommitment
          cases hcommitment
          exact resolveCurrent_lawful runtime definition hexecutor hx₂ hverified

end Definition

/-! ## Reconciliation and recovery -/

theorem settleVerification_lawful (runtime : ActionRuntime) (definition : ActionDeclaration V)
    {previous : StoredProposal} {verification : VerificationResult V} {now : Timestamp}
    {context : ExecutionContext} {h : RuntimeHistory V H} (hfree : NoAdmission h)
    (hunmarked : previous.erasureMarked = false)
    (hstatus : previous.lifecycleStatus = .verificationPending)
    (hadmitted : Answered h (.compareAndSet (casArguments previous
      (verificationAdmittedProposal definition previous now))) true)
    (hverified : Answered h (.verify definition context) verification) :
    Lawful hostIssues (settleVerification runtime definition
      (verificationAdmittedProposal definition previous now) verification now) h := by
  refine Lawful.orRaise fun _ _ ↦ Lawful.await trivial fun reference ↦ ?_
  refine Lawful.orRaise fun safeResult _ ↦ ?_
  have hsuffix : h <:+ (⟨.newIdentifier .receipt, .ok reference⟩ :: h : RuntimeHistory V H) :=
    List.suffix_cons _ _
  refine Lawful.cas (.ofWrite (hfree.event rfl _) (.wrote (hadmitted.mono hsuffix)) hunmarked
    (.verificationSettled runtime definition hstatus (hadmitted.mono hsuffix)
      (hverified.mono hsuffix) ⟨h, rfl⟩)) fun written ↦ ?_
  split
  · exact Lawful.report
  · exact Lawful.announce

theorem reconcilePending_lawful (runtime : ActionRuntime) (definition : ActionDeclaration V)
    (tenantReference proposalReference : SafeReference) {record : StoredProposal}
    {now : Timestamp} {h : RuntimeHistory V H} (hfree : NoAdmission h)
    (hknown : Known h record) (hunmarked : record.erasureMarked = false)
    (hstatus : record.lifecycleStatus = .verificationPending) (hnow : Answered h .now now) :
    Lawful hostIssues (reconcilePending runtime definition tenantReference proposalReference record
      now) h := by
  unfold reconcilePending
  split
  · exact Lawful.pure _ _
  · rename_i hdue
    rw [Bool.not_eq_true] at hdue
    split
    · rename_i hexhausted
      refine Lawful.cas (.ofWrite hfree hknown hunmarked
        (.unresolved hstatus hnow hdue hexhausted)) fun written ↦ ?_
      split
      · exact Lawful.report
      · exact Lawful.announce
    · rename_i hattempts
      refine Lawful.cas (.ofWrite hfree hknown hunmarked
        (.verificationAdmitted definition hstatus hnow hdue (Nat.not_le.mp hattempts)))
        fun written ↦ ?_
      split
      · exact Lawful.report
      · rename_i hwritten
        rw [Bool.not_eq_false] at hwritten
        subst hwritten
        refine Lawful.orRaise fun context hcontext ↦ ?_
        have hobserved : context.observedAt = now := executionContext_observedAt hcontext
        subst hobserved
        refine Lawful.await ⟨record, ⟨⟨h, rfl⟩, hcontext, hknown, hstatus,
          hnow.mono (List.suffix_cons _ _), hdue⟩⟩ fun verification ↦ ?_
        exact settleVerification_lawful runtime definition ((hfree.event rfl _).event rfl _)
          hunmarked hstatus (Answered.head.mono (List.suffix_cons _ _)) .head

theorem reconcile_lawful (runtime : ActionRuntime) (definition : ActionDeclaration V)
    (tenantReference proposalReference : SafeReference) {h : RuntimeHistory V H}
    (hfree : NoAdmission h) :
    Lawful hostIssues (reconcile runtime definition tenantReference proposalReference) h := by
  refine Lawful.required fun h₁ record hgrew hknown _ ↦ ?_
  refine Lawful.raiseIf fun _ ↦ Lawful.raiseIf fun hunmarked ↦ Lawful.await trivial fun now ↦ ?_
  rw [Bool.not_eq_true] at hunmarked
  have hfree₁ := (hfree.grew hgrew).event (o := .now) rfl (.ok now)
  have hknown₁ := hknown.mono (List.suffix_cons ⟨.now, .ok now⟩ h₁)
  split
  · exact Lawful.pure _ _
  · rename_i hleased
    split
    · rename_i hstatus
      have hnow : Answered (⟨.now, .ok now⟩ :: h₁ : RuntimeHistory V H) .now now := .head
      refine Lawful.cas (.ofWrite hfree₁ hknown₁ hunmarked
        (.takenOver (by simpa using hstatus) hnow fun hexecuting ↦ ?_)) fun written ↦ ?_
      · exact Bool.eq_false_iff.mpr fun hdue ↦ hleased ⟨hexecuting, hdue⟩
      · split
        · exact Lawful.report
        · rename_i hwritten
          rw [Bool.not_eq_false] at hwritten
          subst hwritten
          exact reconcilePending_lawful runtime definition tenantReference proposalReference
            (hfree₁.event rfl _) (.wrote .head) hunmarked rfl
            (Answered.head.mono (List.suffix_cons _ _))
    · split
      · exact Lawful.pure _ _
      · rename_i hstatus
        rw [ne_eq, not_not] at hstatus
        exact reconcilePending_lawful runtime definition tenantReference proposalReference
          hfree₁ hknown₁ hunmarked hstatus .head

theorem resumeVerification_lawful (runtime : ActionRuntime) (definition : ActionDeclaration V)
    (tenantReference proposalReference : SafeReference) (expectedRevision : ℕ)
    (operator : RecoveryOperator) (interventionReference : SafeReference)
    {h : RuntimeHistory V H} (hfree : NoAdmission h) :
    Lawful hostIssues (resumeVerification runtime definition tenantReference proposalReference
      expectedRevision operator interventionReference) h := by
  refine Lawful.required fun h₁ record hgrew hknown _ ↦ ?_
  refine Lawful.raiseIf fun _ ↦ Lawful.raiseIf fun hunmarked ↦ Lawful.await trivial fun now ↦ ?_
  rw [Bool.not_eq_true] at hunmarked
  refine Lawful.raiseIf fun _ ↦ Lawful.await trivial fun authorization ↦ Lawful.raiseIf fun _ ↦ ?_
  split
  · exact Lawful.pure _ _
  · rename_i hstatus
    split
    · exact Lawful.pure _ _
    · split
      · exact Lawful.throw _ _
      · rename_i cause hcause
        refine Lawful.await trivial fun reference ↦ ?_
        have hgrew₂ : Grew h₁ (⟨.newIdentifier .receipt, .ok reference⟩ ::
            ⟨.canRecover definition proposalReference
              ⟨tenantReference, operator, interventionReference, now⟩, .ok authorization⟩ ::
            ⟨.now, .ok now⟩ :: h₁ : RuntimeHistory V H) :=
          ((Grew.event rfl _).trans (.event rfl _)).trans (.event rfl _)
        have hfree₂ := (hfree.grew hgrew).grew hgrew₂
        have hnow : Answered (⟨.now, .ok now⟩ :: h₁ : RuntimeHistory V H) .now now := .head
        refine Lawful.cas (.ofWrite hfree₂ (hknown.mono hgrew₂.suffix) hunmarked
          (.resumed runtime (by simpa [or_iff_not_imp_left] using hstatus) hcause
            ((hnow.mono (List.suffix_cons _ _)).mono (List.suffix_cons _ _)) ⟨_, rfl⟩))
          fun written ↦ ?_
        split
        · exact Lawful.report
        · refine Lawful.emit fun h₃ hgrew₃ ↦ ?_
          exact reconcile_lawful runtime definition tenantReference proposalReference
            ((hfree₂.event rfl _).grew hgrew₃)

/-! ## Erasure -/

/-- Destroying what a marked record refers to. -/
theorem destroy_yields {o : Op V H} {proposalIdentity : ProposalIdentity} {m : Material}
    {h : RuntimeHistory V H} (ho : o.isAdmission = false) (hout : ∀ r, handedOut o r = none)
    (hdestroys : o.destroys = some (proposalIdentity, m))
    (hissue : (runtimeContract hostIssues).issues h o) (hnone : ∀ m, ¬Obtained h m) :
    Yields hostIssues (await o) h fun h' _ ↦
      (∀ m, ¬Obtained h' m) ∧ Destroyed h' proposalIdentity m :=
  meets_perform.mpr ⟨hissue, fun r _ ↦ ⟨.event ho r, fun a hr ↦
    ⟨not_obtained_cons (hout r) hnone, o, a, hdestroys, hr ▸ .head⟩⟩⟩

theorem destroyPayload_yields (definition : ActionDeclaration V) {record : StoredProposal}
    {h : RuntimeHistory V H} (hmarked : MarkKnown h record) (hnone : ∀ m, ¬Obtained h m) :
    Yields hostIssues (destroyPayload definition record.proposalIdentity
      record.protectedPrivateSnapshot) h fun h' _ ↦ (∀ m, ¬Obtained h' m) ∧
        ∀ payload, record.RefersTo (.payload payload) →
          Destroyed h' record.proposalIdentity (.payload payload) := by
  cases hsnapshot : record.protectedPrivateSnapshot with
  | none =>
    refine Yields.pure ⟨hnone, fun payload hrefers ↦ ?_⟩
    cases hsnapshot.symm.trans hrefers
  | some payload =>
    have hissue : DestroyIssued h record.proposalIdentity (.payload payload) :=
      .erasing hmarked rfl hsnapshot hnone
    refine (destroy_yields (o := .destroyPayload definition _ payload) rfl (fun _ ↦ rfl) rfl hissue hnone).imp
      fun h' r _ hP ↦ ⟨hP.1, fun a hr ↦ ⟨(hP.2 a hr).1, fun payload' hrefers ↦ ?_⟩⟩
    cases hsnapshot.symm.trans hrefers
    exact (hP.2 a hr).2

theorem destroyCommitment_yields (definition : ActionDeclaration V) {record : StoredProposal}
    {h : RuntimeHistory V H} (hmarked : MarkKnown h record) (hnone : ∀ m, ¬Obtained h m) :
    Yields hostIssues (destroyCommitment definition record.proposalIdentity record.commitment) h
      fun h' _ ↦ ∀ commitment, record.RefersTo (.commitment commitment) →
        Destroyed h' record.proposalIdentity (.commitment commitment) := by
  cases hcommitment : record.commitment with
  | none =>
    refine Yields.pure fun commitment hrefers ↦ ?_
    cases hcommitment.symm.trans hrefers
  | some commitment =>
    have hissue : DestroyIssued h record.proposalIdentity (.commitment commitment) :=
      .erasing hmarked rfl hcommitment hnone
    refine (destroy_yields (o := .destroyCommitment definition _ commitment) rfl (fun _ ↦ rfl) rfl
      hissue hnone).imp
      fun h' r _ hP ↦ ⟨hP.1, fun a hr commitment' hrefers ↦ ?_⟩
    cases hcommitment.symm.trans hrefers
    exact (hP.2 a hr).2

theorem destroyAndComplete_lawful (definition : ActionDeclaration V)
    (proposalReference : SafeReference) (context : ReadContext) {record : StoredProposal}
    (now : Timestamp) {h : RuntimeHistory V H} (hmarked : MarkKnown h record)
    (hnone : ∀ m, ¬Obtained h m) :
    Lawful hostIssues (destroyAndComplete definition proposalReference context record now) h := by
  refine Lawful.bind (destroyPayload_yields definition hmarked hnone) fun h₁ _ hgrew₁ hpayload ↦ ?_
  have hmarked₁ := hmarked.mono hgrew₁.suffix
  refine Lawful.bind (destroyCommitment_yields definition hmarked₁ hpayload.1)
    fun h₂ _ hgrew₂ hcommitment ↦ ?_
  have hissued : CompletionIssued h₂
      ⟨record.tenantReference, record.proposalReference, record.revision, now⟩ record := by
    refine ⟨rfl, rfl, hmarked₁.mono hgrew₂.suffix, fun m hrefers ↦ ?_⟩
    cases m with
    | payload payload => exact (hpayload.2 payload hrefers).mono hgrew₂.suffix
    | commitment commitment => exact hcommitment commitment hrefers
  refine Lawful.await ⟨record, hissued⟩ fun completed ↦ ?_
  split
  · exact Lawful.report
  · exact Lawful.required fun _ _ _ _ _ ↦ Lawful.announce

omit [UnicodeNormalization] in
/-- How `_required` ends: with the error of the reading, without finding the proposal, or with a
record that the newest event read. -/
theorem required_cases {C : Contract (runtimeSignature V H) Exn} {h : RuntimeHistory V H}
    {tenantReference proposalReference : SafeReference} {f : StoredProposal → Coroutine V H β}
    {Q : RuntimeHistory V H → Except Exn β → Prop}
    (hissue : C.issues h (.get tenantReference proposalReference))
    (hfailed : ∀ e, Q (⟨.get tenantReference proposalReference, .error e⟩ :: h) (.error e))
    (hmissing : ∀ found, (∀ record, found = some record →
        record.key ≠ (tenantReference, proposalReference)) →
      Q (⟨.get tenantReference proposalReference, .ok found⟩ :: h) (.error .proposalNotFound))
    (hnext : ∀ record, record.key = (tenantReference, proposalReference) →
      (f record).Meets C Q (⟨.get record.tenantReference record.proposalReference,
        .ok (some record)⟩ :: h)) :
    (required tenantReference proposalReference >>= f).Meets C Q h := by
  rw [required, LawfulMonad.bind_assoc]
  refine Meets.perform_bind hissue (fun e _ ↦ hfailed e) fun found _ ↦ ?_
  cases found with
  | none => exact hmissing none fun record hnone ↦ absurd hnone.symm (Option.some_ne_none record)
  | some record =>
    dsimp only
    rw [LawfulMonad.bind_assoc]
    refine Meets.raiseIf_bind (fun hkey ↦ hmissing _ ?_) fun hkey ↦ ?_
    · intro record' hrecord' hsame
      obtain rfl := Option.some.inj hrecord'
      obtain ⟨htenant, hreference⟩ := Prod.mk.inj hsame
      exact hkey.elim (fun hne ↦ hne htenant) fun hne ↦ hne hreference
    · simp only [not_or, ne_eq, not_not] at hkey
      obtain ⟨rfl, rfl⟩ := hkey
      exact hnext record rfl

omit [UnicodeNormalization] in
/-- What `_required` read is the newest event. -/
theorem required_meets {C : Contract (runtimeSignature V H) Exn} {h : RuntimeHistory V H}
    (hissues : ∀ h tenantReference proposalReference,
      C.issues h (.get tenantReference proposalReference))
    {tenantReference proposalReference : SafeReference} {f : StoredProposal → Coroutine V H β}
    {Q : RuntimeHistory V H → Except Exn β → Prop} (herror : ∀ h e, Q h (.error e))
    (hnext : ∀ record, record.key = (tenantReference, proposalReference) →
      (f record).Meets C Q (⟨.get record.tenantReference record.proposalReference,
        .ok (some record)⟩ :: h)) :
    (required tenantReference proposalReference >>= f).Meets C Q h :=
  required_cases (hissues _ _ _) (fun e ↦ herror _ e) (fun _ _ ↦ herror _ _) hnext

theorem Lawful.required_read {tenantReference proposalReference : SafeReference}
    {f : StoredProposal → Coroutine V H β} {h : RuntimeHistory V H}
    (hnext : ∀ record, record.key = (tenantReference, proposalReference) →
      Lawful hostIssues (f record) (⟨.get record.tenantReference record.proposalReference,
        .ok (some record)⟩ :: h)) :
    Lawful hostIssues (ThrevoActions.required tenantReference proposalReference >>= f) h :=
  required_meets (fun _ _ _ ↦ trivial) (fun _ _ ↦ trivial) hnext

theorem erase_lawful (runtime : ActionRuntime) (definition : ActionDeclaration V)
    (proposalReference : SafeReference) (context : ReadContext) {h : RuntimeHistory V H}
    (hnone : ∀ m, ¬Obtained h m) :
    Lawful hostIssues (erase runtime definition proposalReference context) h := by
  refine Lawful.raiseIf fun _ ↦ Lawful.await trivial fun authorized ↦ Lawful.raiseIf fun _ ↦ ?_
  have hnone₁ := not_obtained_cons (o := .authorizeErasure definition proposalReference context)
    (r := .ok authorized) rfl hnone
  refine Lawful.required_read fun record hkey ↦ Lawful.raiseIf fun _ ↦ ?_
  have hnone₂ := not_obtained_cons (o := .get record.tenantReference record.proposalReference)
    (r := .ok (some record)) rfl hnone₁
  split
  · exact Lawful.pure _ _
  · refine Lawful.await trivial fun now ↦ ?_
    have hnone₃ := not_obtained_cons (o := .now) (r := .ok now) rfl hnone₂
    split
    · rename_i hpending
      refine destroyAndComplete_lawful definition proposalReference context now (.read ?_ ?_) hnone₃
      · exact Answered.head.mono (List.suffix_cons _ _)
      · rw [StoredProposal.erasureMarked, hpending]
        rfl
    · refine Lawful.await trivial fun marked ↦ Lawful.required_read fun record' hkey' ↦ ?_
      have hnone₄ := not_obtained_cons (o := .markErasurePending _) (r := .ok marked) rfl hnone₃
      have hnone₅ := not_obtained_cons (o := .get record'.tenantReference record'.proposalReference)
        (r := .ok (some record')) rfl hnone₄
      split
      · exact Lawful.pure _ _
      · split
        · exact Lawful.pure _ _
        · rename_i hpending
          refine destroyAndComplete_lawful definition proposalReference context now ?_ hnone₅
          cases marked with
          | true =>
            -- the record was read after it had been marked
            exact .marked (List.suffix_refl _) .head (hkey.trans hkey'.symm)
          | false =>
            refine .read .head ?_
            rw [StoredProposal.erasureMarked, Bool.or_eq_true, Option.isSome_iff_ne_none]
            exact Or.inl fun hnot ↦ hpending ⟨rfl, hnot⟩

/-! ## All calls -/

/-- **Every call on a runtime keeps the contract**, whatever lawful executors run behind it. -/
theorem coroutine_lawful {executorOf : ExecutorOf V H}
    (hexecutors : ∀ definition, LawfulExecutor hostIssues definition (executorOf definition))
    (call : RuntimeCall V) : Lawful hostIssues (call.coroutine executorOf) [] := by
  cases call with
  | prepare => exact prepare_lawful _ _ _ _ _ _ _ _
  | recordAuthority => exact recordAuthority_lawful _ _ _ _ _ .nil
  | expireDue => exact expireDue_lawful _ _ _ .nil
  | execute runtime definition tenantReference proposalReference =>
    exact execute_lawful runtime ⟨definition, executorOf definition⟩ (hexecutors definition) _ _
      .nil
  | reconcile => exact reconcile_lawful _ _ _ _ .nil
  | resumeVerification => exact resumeVerification_lawful _ _ _ _ _ _ _ .nil
  | erase => exact erase_lawful _ _ _ _ not_obtained_nil

end Lawful

end ThrevoActions
