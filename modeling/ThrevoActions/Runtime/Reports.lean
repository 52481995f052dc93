import ThrevoActions.Runtime.Effects
import ThrevoActions.Runtime.Masking

/-!
# What calls report

Every call of the runtime ends with an `ActionOperationResult`. It describes a version of the
proposal that the call read, wrote or created (`Report`), so one that was on file while the call
ran.

A call that loses a guarded write reads the proposal back and reports the version it finds. There
are two exceptions, both in `execute`: after losing its expiry write it reports the version it had
read before, and after losing the write that points a stale proposal to its replacement it reports
the stale version it wrote itself.
-/

namespace ThrevoActions

open Interleaving Interleaving.Program
open MemoryActionStore (EffectsOwned)

variable {V : Type} [HostModels V] {H : Signature} {α β : Type}

/-- The proposals a call may be about: the one it names, or any of its tenant if `prepare` is to
name it. -/
def RuntimeCall.Targets : RuntimeCall V → ProposalKey → Prop
  | .prepare _ _ tenantReference _ _ _ proposalReference =>
    PreparedUnder tenantReference proposalReference
  | .recordAuthority _ _ evidence _ proposalReference =>
    (· = (evidence.tenantReference, proposalReference.getD evidence.proposalInstanceReference))
  | .expireDue _ tenantReference proposalReference => (· = (tenantReference, proposalReference))
  | .execute _ _ tenantReference proposalReference => (· = (tenantReference, proposalReference))
  | .reconcile _ _ tenantReference proposalReference => (· = (tenantReference, proposalReference))
  | .resumeVerification _ _ tenantReference proposalReference _ _ _ =>
    (· = (tenantReference, proposalReference))
  | .erase _ _ proposalReference context => (· = (context.tenantReference, proposalReference))

def RuntimeCall.isExecute : RuntimeCall V → Bool
  | .execute _ _ _ _ => true
  | _ => false

/-- The result says of its proposal what `record` says. -/
structure Describes (result : ActionOperationResult) (record : StoredProposal) : Prop where
  proposalReference : result.proposalReference = record.proposalReference
  lifecycleStatus : result.lifecycleStatus = record.lifecycleStatus
  revision : result.revision = record.revision
  safeResult : result.safeResult = record.safeResult

theorem describes_operationResult (record : StoredProposal) (outcome : OperationOutcome)
    (freshProposalReference reasonCode : Option SafeReference) (includeDisplayPreview : Bool) :
    Describes (operationResult record outcome freshProposalReference reasonCode
      includeDisplayPreview) record := ⟨rfl, rfl, rfl, rfl⟩

/-- The coroutine lost the guarded write `args`. -/
def Lost (h : RuntimeHistory V H) (args : MemoryActionStore.CompareAndSet) : Prop :=
  Answered h (.compareAndSet args) false

def LostNothing (h : RuntimeHistory V H) : Prop := ∀ args, ¬Lost h args

theorem LostNothing.nil : LostNothing ([] : RuntimeHistory V H) := by
  intro args hlost
  cases hlost

/-- Nothing is lost with an event that is no lost write. -/
theorem LostNothing.event {h : RuntimeHistory V H} (hlost : LostNothing h)
    {ev : Event (runtimeSignature V H) Exn} (hev : ∀ args, ev ≠ ⟨.compareAndSet args, .ok false⟩) :
    LostNothing (ev :: h) := by
  intro args hmem
  rcases List.mem_cons.mp hmem with heq | hmem
  · exact hev args heq.symm
  · exact hlost args hmem

/-- An operation that is no guarded write loses none. -/
theorem LostNothing.port {h : RuntimeHistory V H} (hlost : LostNothing h) {o : Op V H}
    (ho : o.isCompareAndSet = false) (r : Except Exn o.Ans) :
    LostNothing (V := V) (H := H) (⟨o, r⟩ :: h) := by
  refine hlost.event ?_
  rintro args ⟨⟩
  cases ho

/-- The coroutine knows that `record` was on file, and has lost no write. -/
structure Aware (h : RuntimeHistory V H) (record : StoredProposal) : Prop where
  known : Known h record
  lostNothing : LostNothing h

theorem Aware.port {h : RuntimeHistory V H} {record : StoredProposal} (haware : Aware h record)
    {o : Op V H} (ho : o.isCompareAndSet = false) (r : Except Exn o.Ans) :
    Aware (V := V) (H := H) (⟨o, r⟩ :: h) record :=
  ⟨haware.known.mono (List.suffix_cons _ _), haware.lostNothing.port ho r⟩

/-- A record that was read. -/
theorem Aware.read {h : RuntimeHistory V H} (hlost : LostNothing h) (record : StoredProposal) :
    Aware (V := V) (H := H)
      (⟨.get record.tenantReference record.proposalReference, .ok (some record)⟩ :: h) record :=
  ⟨.read .head, hlost.port rfl _⟩

/-- A record that was written. -/
theorem Aware.wrote {h : RuntimeHistory V H} (hlost : LostNothing h)
    (current updated : StoredProposal) :
    Aware (V := V) (H := H)
      (⟨.compareAndSet (casArguments current updated), .ok true⟩ :: h) updated :=
  ⟨.wrote .head, hlost.event (by rintro args ⟨⟩)⟩

/-- The statuses of the writes that `execute` does not read the proposal back after. -/
def unreadStatuses : List LifecycleStatus := [.expired, .superseded]

/-- What a call reports that has done `h`, and has lost a write or not. -/
inductive Report (inExecute : Prop) (target : ProposalKey → Prop) (h : RuntimeHistory V H)
    (result : ActionOperationResult) : Prop
  /-- A version it read, wrote or created, having lost nothing. -/
  | held {record : StoredProposal} (hheld : Known h record ∨ Persisted h record)
      (htarget : target record.key) (hdescribes : Describes result record) (hlost : LostNothing h)
  /-- The version it read back right after it had lost a write. -/
  | reread {args : MemoryActionStore.CompareAndSet} {current : StoredProposal}
      {past : RuntimeHistory V H}
      (hhistory : h =
        ⟨.get current.tenantReference current.proposalReference, .ok (some current)⟩ ::
          ⟨.compareAndSet args, .ok false⟩ :: past)
      (hkey : current.key = (args.tenantReference, args.proposalReference))
      (htarget : target current.key) (hdescribes : Describes result current)
      (hpast : LostNothing past)
      (hread : inExecute → args.updated.lifecycleStatus ∉ unreadStatuses)
  /-- The version over which it has lost a write. -/
  | unread {record : StoredProposal} (updated : StoredProposal) {past : RuntimeHistory V H}
      (newer : RuntimeHistory V H)
      (hhistory : h = newer ++ ⟨.compareAndSet (casArguments record updated), .ok false⟩ :: past)
      (hnewer : LostNothing newer) (hpast : LostNothing past) (hknown : Known past record)
      (htarget : target record.key) (hdescribes : Describes result record)
      (hexecute : inExecute) (hunread : updated.lifecycleStatus ∈ unreadStatuses)

/-! ## Programs that report -/

/-- From history `h` on, whatever the coroutine returns is a report. -/
def Reports (inExecute : Prop) (target : ProposalKey → Prop)
    (p : Coroutine V H ActionOperationResult) (h : RuntimeHistory V H) : Prop :=
  p.Meets free (fun h' r ↦ ∀ result, r = .ok result → Report inExecute target h' result) h

namespace Reports

variable {inExecute : Prop} {target : ProposalKey → Prop} {h : RuntimeHistory V H}

theorem throw (e : Exn) : Reports inExecute target (throw e) h := by
  rintro result ⟨⟩

theorem raiseIf {condition : Prop} [Decidable condition] {e : Exn}
    {f : Unit → Coroutine V H ActionOperationResult}
    (hpass : ¬condition → Reports inExecute target (f ()) h) :
    Reports inExecute target (Program.raiseIf condition e >>= f) h :=
  Meets.raiseIf_bind (by rintro - result ⟨⟩) hpass

theorem orRaise {r : Except Exn α} {f : α → Coroutine V H ActionOperationResult}
    (hok : ∀ a, r = .ok a → Reports inExecute target (f a) h) :
    Reports inExecute target (Program.orRaise r >>= f) h :=
  Meets.orRaise_bind (by rintro e - result ⟨⟩) hok

theorem await {o : Op V H} {f : o.Ans → Coroutine V H ActionOperationResult}
    (hok : ∀ a, Reports inExecute target (f a) (⟨o, .ok a⟩ :: h)) :
    Reports inExecute target (ThrevoActions.await o >>= f) h :=
  Meets.perform_bind trivial (by rintro e - result ⟨⟩) fun a _ ↦ hok a

/-- An operation that is no guarded write. -/
theorem port {o : Op V H} {f : o.Ans → Coroutine V H ActionOperationResult}
    {record : StoredProposal} (ho : o.isCompareAndSet = false) (haware : Aware h record)
    (hok : ∀ a, Aware (V := V) (H := H) (⟨o, .ok a⟩ :: h) record →
      Reports inExecute target (f a) (⟨o, .ok a⟩ :: h)) :
    Reports inExecute target (ThrevoActions.await o >>= f) h :=
  Reports.await fun a ↦ hok a (haware.port ho _)

/-- A guarded write, won or lost. -/
theorem cas {current updated : StoredProposal} {f : Bool → Coroutine V H ActionOperationResult}
    (hwon : Reports inExecute target (f true)
      (⟨.compareAndSet (casArguments current updated), .ok true⟩ :: h))
    (hlost : Reports inExecute target (f false)
      (⟨.compareAndSet (casArguments current updated), .ok false⟩ :: h)) :
    Reports inExecute target (ThrevoActions.cas current updated >>= f) h := by
  refine Reports.await fun written ↦ ?_
  cases written with
  | false => exact hlost
  | true => exact hwon

/-- The proposal is read. -/
theorem required {tenantReference' proposalReference : SafeReference}
    {f : StoredProposal → Coroutine V H ActionOperationResult}
    (hnext : ∀ record, record.key = (tenantReference', proposalReference) →
      Reports inExecute target (f record)
        (⟨.get record.tenantReference record.proposalReference, .ok (some record)⟩ :: h)) :
    Reports inExecute target
      (ThrevoActions.required tenantReference' proposalReference >>= f) h :=
  required_meets (fun _ _ _ ↦ trivial) (by rintro h e result ⟨⟩) hnext

/-- How the calls on a proposal begin. -/
theorem reading {tenantReference proposalReference : SafeReference}
    {f : StoredProposal → Coroutine V H ActionOperationResult} (hlost : LostNothing h)
    (hnext : ∀ record h', record.key = (tenantReference, proposalReference) → Aware h' record →
      Reports inExecute target (f record) h') :
    Reports inExecute target
      (ThrevoActions.required tenantReference proposalReference >>= f) h :=
  Reports.required fun record hkey ↦ hnext record _ hkey (.read hlost record)

theorem congr {inExecute' : Prop} {p : Coroutine V H ActionOperationResult}
    (hreports : Reports inExecute' target p h) (hiff : inExecute ↔ inExecute') :
    Reports inExecute target p h := by
  rwa [propext hiff]

/-- A subroutine. -/
theorem bind {p : Coroutine V H α} {f : α → Coroutine V H ActionOperationResult}
    {P : RuntimeHistory V H → α → Prop} (hp : p.Returns P h)
    (hnext : ∀ h' a, h <:+ h' → P h' a → Reports inExecute target (f a) h') :
    Reports inExecute target (p >>= f) h := by
  refine Meets.bind_of hp (by rintro h' e - - result ⟨⟩) fun h' a _ hP ↦ ?_
  exact hnext h' a hP.1 (hP.2 a rfl)

/-- A version the coroutine knows is reported. -/
theorem held {record : StoredProposal} {outcome : OperationOutcome}
    {freshProposalReference reasonCode : Option SafeReference} {includeDisplayPreview : Bool}
    (haware : Aware h record) (htarget : target record.key) :
    Reports inExecute target (pure (operationResult record outcome freshProposalReference
      reasonCode includeDisplayPreview)) h := by
  rintro result ⟨⟩
  exact .held (.inl haware.known) htarget (describes_operationResult _ _ _ _ _) haware.lostNothing

/-- The proposal is read back after a lost write. -/
theorem reread {tenantReference' proposalReference : SafeReference}
    {outcome : StoredProposal → OperationOutcome} {args : MemoryActionStore.CompareAndSet}
    (hkey : (args.tenantReference, args.proposalReference) = (tenantReference', proposalReference))
    (htarget : target (tenantReference', proposalReference)) (hlost : LostNothing h)
    (hread : inExecute → args.updated.lifecycleStatus ∉ unreadStatuses) :
    Reports inExecute target (do
      let current ← ThrevoActions.required tenantReference' proposalReference
      return operationResult current (outcome current))
      (⟨.compareAndSet args, .ok false⟩ :: h) := by
  refine Reports.required fun current hcurrent ↦ ?_
  rintro result ⟨⟩
  refine .reread rfl (hcurrent.trans hkey.symm) ?_ (describes_operationResult _ _ _ _ _) hlost hread
  rwa [hcurrent]

end Reports

theorem emit_returns (record : StoredProposal) (eventType : RuntimeEventType)
    (observedAt : Timestamp) (reasonCode : Option SafeReference) (h : RuntimeHistory V H) :
    (emit record eventType observedAt reasonCode).Returns
      (fun h' _ ↦ ∃ event answer, h' = ⟨.emit event, answer⟩ :: h) h := by
  refine Returns.attempt fun sent ↦ ?_
  cases sent with
  | ok _ => exact Returns.pure ⟨_, _, rfl⟩
  | error failure =>
    dsimp only
    rw [Program.raiseIf]
    split_ifs
    · exact Returns.throw
    · exact Returns.pure ⟨_, _, rfl⟩

namespace Reports

variable {inExecute : Prop} {target : ProposalKey → Prop} {h : RuntimeHistory V H}

/-- The event of a write is emitted before the write is reported. -/
theorem announce {record : StoredProposal} {eventType : RuntimeEventType} {observedAt : Timestamp}
    {reasonCode reasonCode' freshProposalReference : Option SafeReference}
    {outcome : OperationOutcome} (haware : Aware h record)
    (htarget : target record.key) :
    Reports inExecute target (do
      emit record eventType observedAt reasonCode
      return operationResult record outcome freshProposalReference reasonCode') h := by
  refine Reports.bind (emit_returns _ _ _ _ h) fun h' _ _ hemitted ↦ ?_
  obtain ⟨event, answer, rfl⟩ := hemitted
  exact Reports.held (haware.port (o := .emit event) rfl answer) htarget

/-- **A guarded write.** Won, it is announced and reported; lost, the proposal is read back. -/
theorem guardedWrite {tenantReference' proposalReference : SafeReference}
    {record updated : StoredProposal} {eventType : RuntimeEventType} {observedAt : Timestamp}
    {reasonCode reasonCode' : Option SafeReference} {outcome : OperationOutcome}
    {rereadOutcome : StoredProposal → OperationOutcome}
    (hkey : record.key = (tenantReference', proposalReference))
    (htarget : target (tenantReference', proposalReference)) (hlost : LostNothing h)
    (hupdated : updated.key = record.key)
    (hread : inExecute → updated.lifecycleStatus ∉ unreadStatuses) :
    Reports inExecute target (do
      let written ← ThrevoActions.cas record updated
      if written = false then
        let current ← ThrevoActions.required tenantReference' proposalReference
        return operationResult current (rereadOutcome current)
      else
      emit updated eventType observedAt reasonCode
      return operationResult updated outcome none reasonCode') h := by
  refine Reports.cas ?_ ?_
  · refine Reports.announce (.wrote hlost record updated) ?_
    rwa [hupdated, hkey]
  · exact Reports.reread hkey htarget hlost hread

end Reports

/-- A loss is an effect. -/
theorem lostNothing_visibleEvents {h : RuntimeHistory V H} :
    LostNothing (visibleEvents (S := runtimeSignature V H) Op.hasEffect h) ↔ LostNothing h := by
  constructor
  · intro hlost args hmem
    exact hlost args (mem_visibleEvents.mpr ⟨hmem, rfl⟩)
  · intro hlost args hmem
    exact hlost args (mem_visibleEvents.mp hmem).1

section Calls

variable [UnicodeNormalization]

/-- What `_persist_prepared` returns is persisted, and it writes nothing that could be lost. -/
theorem persistPrepared_returns (runtime : ActionRuntime) (definition : ActionDeclaration V)
    (tenantReference : SafeReference) (prepared : PreparedAction V)
    (requestingPrincipal : RequestingPrincipal) (proposingAgent : Option ProposingAgent)
    (now : Timestamp) (proposalReference : Option SafeReference) {h : RuntimeHistory V H}
    (hlost : LostNothing h) :
    (persistPrepared runtime definition tenantReference prepared requestingPrincipal
      proposingAgent now proposalReference).Returns (fun h' record ↦ Persisted h' record ∧
        PreparedUnder tenantReference proposalReference record.key ∧ LostNothing h') h := by
  have hyields : Yields (fun _ _ ↦ True) (persistPrepared (H := H) runtime definition
      tenantReference prepared requestingPrincipal proposingAgent now proposalReference) h
      (PersistedFor definition tenantReference) := persistPrepared_yields _ _ _ _ _ _ _ _ _
  refine Meets.imp ((hyields.freed fun _ _ ↦ trivial).and (persistPrepared_shows runtime definition
    tenantReference prepared requestingPrincipal proposingAgent now proposalReference _).meets)
    fun h' r hsuffix hboth ↦ ?_
  obtain ⟨⟨-, hpersisted⟩, heffects⟩ := hboth
  refine ⟨hsuffix, fun record hrecord ↦ ?_⟩
  subst hrecord
  refine ⟨(hpersisted record rfl).1, ?_⟩
  rw [← lostNothing_visibleEvents] at hlost ⊢
  generalize visibleEvents Op.hasEffect h = w at hlost heffects
  generalize visibleEvents Op.hasEffect h' = w' at heffects ⊢
  cases heffects with
  | created answer htarget hstatus hreturned =>
    rw [hreturned record rfl]
    exact ⟨htarget, hlost.event (by rintro args ⟨⟩)⟩

variable {inExecute : Prop} {h : RuntimeHistory V H} {target : ProposalKey → Prop}

theorem reports_prepare (runtime : ActionRuntime) (definition : ActionDeclaration V)
    (tenantReference : SafeReference) (command : V) (requestingPrincipal : RequestingPrincipal)
    (proposingAgent : Option ProposingAgent) (proposalReference : Option SafeReference)
    (hlost : LostNothing h) :
    Reports inExecute (PreparedUnder tenantReference proposalReference)
      (prepare runtime definition tenantReference command requestingPrincipal proposingAgent
        proposalReference) h := by
  refine Reports.await fun now ↦ Reports.await fun authorization ↦ Reports.raiseIf fun _ ↦
    Reports.await fun prepared ↦ Reports.orRaise fun _ _ ↦ ?_
  refine Reports.bind (persistPrepared_returns _ _ _ _ _ _ _ _
    (((hlost.port rfl _).port rfl _).port rfl _)) fun h' record _ hrecord ↦ ?_
  obtain ⟨hpersisted, htarget, hlost'⟩ := hrecord
  refine Reports.bind (emit_returns _ _ _ _ h') fun h'' _ hsuffix hemitted ↦ ?_
  obtain ⟨event, answer, rfl⟩ := hemitted
  rintro result ⟨⟩
  refine .held (.inr ?_) htarget (describes_operationResult _ _ _ _ _)
    (hlost'.port (o := .emit event) rfl answer)
  exact hpersisted.imp (fun hcreated ↦ hcreated.mono hsuffix) fun hread ↦ hread.mono hsuffix

omit [UnicodeNormalization] in
theorem reports_expireDue (definition : ActionDeclaration V)
    (tenantReference proposalReference : SafeReference) (hlost : LostNothing h) :
    Reports False (· = (tenantReference, proposalReference))
      (expireDue definition tenantReference proposalReference) h := by
  refine Reports.reading hlost fun record h hkey haware ↦ ?_
  refine Reports.raiseIf fun _ ↦ Reports.raiseIf fun _ ↦ ?_
  split
  · exact Reports.held haware hkey
  refine Reports.port rfl haware fun now haware ↦ ?_
  split
  · exact Reports.held haware hkey
  · exact Reports.guardedWrite hkey rfl haware.lostNothing rfl (by rintro ⟨⟩)

/-! ## Authority -/

omit [UnicodeNormalization] in
theorem decideAuthority_lostNothing (definition : ActionDeclaration V) (record : StoredProposal)
    (evidence : AuthorityEvidence) (binding : AuthorityBinding) (now : Timestamp)
    (haware : Aware h record) :
    (decideAuthority definition record evidence binding now).Returns
      (fun h' _ ↦ Aware h' record) h := by
  rw [decideAuthority]
  split
  · exact Returns.pure haware
  · exact Returns.perform fun evaluation ↦ Returns.pure (haware.port rfl _)

omit [UnicodeNormalization] in
theorem reports_recordAuthority (runtime : ActionRuntime) (definition : ActionDeclaration V)
    (evidence : AuthorityEvidence) (authenticatedAuthority : ConfirmingAuthority)
    (proposalReference : Option SafeReference) (hlost : LostNothing h) :
    Reports False (· = (evidence.tenantReference,
        proposalReference.getD evidence.proposalInstanceReference))
      (recordAuthority runtime definition evidence authenticatedAuthority proposalReference) h := by
  refine Reports.reading hlost fun record h hkey haware ↦ ?_
  refine Reports.port rfl haware fun now haware ↦ ?_
  refine Reports.raiseIf fun _ ↦ Reports.raiseIf fun _ ↦ Reports.raiseIf fun _ ↦ ?_
  refine Reports.port rfl haware fun decisionAuth haware ↦ Reports.raiseIf fun _ ↦ ?_
  split
  · exact Reports.held haware hkey
  split
  · exact Reports.held haware hkey
  split
  · refine Reports.cas ?_ ?_
    · exact Reports.held (.wrote haware.lostNothing _ _) hkey
    · exact Reports.reread hkey rfl
        haware.lostNothing (by rintro ⟨⟩)
  split
  · exact Reports.throw _
  · refine Reports.raiseIf fun _ ↦ ?_
    refine Reports.bind (decideAuthority_lostNothing _ _ _ _ _ haware) fun h' decided _ haware ↦ ?_
    refine Reports.port rfl haware fun reference haware ↦ ?_
    exact Reports.guardedWrite rfl hkey haware.lostNothing rfl (by rintro ⟨⟩)

/-! ## Execution -/

omit [UnicodeNormalization] in
theorem reports_expireBeforeAdmission {record : StoredProposal} (haware : Aware h record)
    (htarget : target record.key) :
    Reports True target (expireBeforeAdmission record) h := by
  refine Reports.cas ?_ ?_
  · exact Reports.held (.wrote haware.lostNothing _ _) htarget
  · rintro result ⟨⟩
    exact .unread (expiredProposal record) [] rfl .nil haware.lostNothing haware.known htarget (describes_operationResult _ _ _ _ _) trivial
      (by simp [expiredProposal, unreadStatuses])

omit [UnicodeNormalization] in
theorem reports_block (runtime : ActionRuntime) {record : StoredProposal} (now : Timestamp)
    (reasonCode : SafeReference) (haware : Aware h record)
    (htarget : target record.key) :
    Reports True target (block runtime record now reasonCode) h := by
  refine Reports.orRaise fun authority _ ↦ Reports.port rfl haware fun reference haware ↦ ?_
  exact Reports.guardedWrite rfl htarget haware.lostNothing rfl
    fun _ ↦ by simp [blockedProposal, unreadStatuses]

omit [UnicodeNormalization] in
theorem executionSettlement_read (definition : ActionDeclaration V)
    (execution : ExecutionResult V) (now : Timestamp) :
    (executionSettlement definition execution now).target ∉ unreadStatuses := by
  rw [executionSettlement]
  split <;> simp [unreadStatuses]

omit [UnicodeNormalization] in
theorem reports_settleExecution (runtime : ActionRuntime) (definition : ActionDeclaration V)
    {record : StoredProposal} (execution : ExecutionResult V) (now : Timestamp)
    (haware : Aware h record) (htarget : target record.key) :
    Reports True target (settleExecution runtime definition record execution now) h := by
  refine Reports.orRaise fun _ _ ↦ Reports.port rfl haware fun reference haware ↦ ?_
  refine Reports.orRaise fun safeResult _ ↦ ?_
  exact Reports.guardedWrite rfl htarget haware.lostNothing rfl
    fun _ ↦ executionSettlement_read _ _ _

/-- What `_supersede_stale` goes on with: a version it wrote, having lost nothing, or the stale one
after it lost the write over it. -/
theorem persistReplacement_returns (runtime : ActionRuntime) (definition : ActionDeclaration V)
    (record : StoredProposal) {stale : StoredProposal} (replacement : Option (PreparedAction V))
    (now : Timestamp) (haware : Aware h stale) :
    (persistReplacement runtime definition record stale replacement now).Returns
      (fun h' replaced ↦ Aware h' replaced.1 ∧
          replaced.1.key = stale.key ∨
        replaced.1 = stale ∧ ∃ past reference, Aware past stale ∧ h' =
          ⟨.compareAndSet (casArguments stale (supersededProposal stale reference)), .ok false⟩ ::
            past) h := by
  unfold persistReplacement
  split
  · exact Returns.pure (Or.inl ⟨haware, rfl⟩)
  split
  · exact Returns.throw
  · refine Returns.orRaise fun _ _ ↦ ?_
    refine Returns.bind (persistPrepared_returns _ _ _ _ _ _ _ _ haware.lostNothing)
      fun h' fresh hsuffix hfresh ↦ ?_
    have haware' : Aware h' stale := ⟨haware.known.mono hsuffix, hfresh.2.2⟩
    refine Returns.perform fun written ↦ Returns.pure ?_
    cases written with
    | false => exact Or.inr ⟨rfl, h', _, haware', rfl⟩
    | true => exact Or.inl ⟨.wrote haware'.lostNothing _ _, rfl⟩

theorem reports_supersedeStale (runtime : ActionRuntime) (definition : ActionDeclaration V)
    {record : StoredProposal} (replacement : Option (PreparedAction V)) (now : Timestamp)
    (haware : Aware h record) (htarget : target record.key) :
    Reports True target (supersedeStale runtime definition record replacement now) h := by
  refine Reports.port rfl haware fun reference haware ↦ Reports.cas ?_ ?_
  · refine Reports.bind (persistReplacement_returns _ _ _ _ _
      (.wrote haware.lostNothing _ _)) fun h' replaced _ hreplaced ↦ ?_
    obtain ⟨final, freshReference⟩ := replaced
    rcases hreplaced with ⟨haware', hfinal⟩ | ⟨rfl, past, reference', haware', rfl⟩
    · exact Reports.announce haware' (hfinal ▸ htarget)
    · refine Reports.bind (emit_returns _ _ _ _ _) fun h'' _ _ hemitted ↦ ?_
      obtain ⟨event, answer, rfl⟩ := hemitted
      rintro result ⟨⟩
      exact .unread (supersededProposal _ reference') [⟨.emit event, answer⟩] rfl
        (LostNothing.nil.port (o := .emit event) rfl answer) haware'.lostNothing haware'.known
        htarget (describes_operationResult _ _ _ _ _) trivial
        (by simp [supersededProposal, unreadStatuses])
  · exact Reports.reread rfl htarget haware.lostNothing
      fun _ ↦ by simp [casArguments, staleProposal, unreadStatuses]

omit [UnicodeNormalization] in
theorem evaluateAuthority_aware (definition : ActionDeclaration V) (record : StoredProposal)
    (binding : AuthorityBinding) (at' : Timestamp) (haware : Aware h record) :
    (evaluateAuthority definition record binding at').Returns (fun h' _ ↦ Aware h' record) h :=
  Returns.perform fun _ ↦ Returns.pure (haware.port rfl _)

omit [UnicodeNormalization] in
/-- A version that was admitted. -/
theorem Aware.admitted {record : StoredProposal} (haware : Aware h record)
    {args : MemoryActionStore.AdmitExecution} {claim : EffectClaimResult}
    (hclaim : claim.admits = true) :
    Aware (V := V) (H := H) (⟨.admitExecution args, .ok claim⟩ :: h) args.updated :=
  ⟨.admitted ⟨args, claim, rfl, hclaim, .head⟩, haware.lostNothing.port rfl _⟩

section Executor

variable (runtime : ActionRuntime) (definition : ActionDeclaration V) {record : StoredProposal}
  (binding : AuthorityBinding)

omit [UnicodeNormalization] in
theorem reports_dispatch {executing : StoredProposal} (validEvidence : List AuthorityEvidence)
    (resolved : ResolvedState V) (admittedAt : Timestamp) (haware : Aware h executing)
    (htarget : target executing.key) :
    Reports True target (dispatch runtime ⟨definition, hostExecutors V H definition⟩ record
      executing binding validEvidence resolved admittedAt) h := by
  refine Reports.port rfl haware fun executionAt haware ↦ ?_
  split
  · exact reports_settleExecution _ _ _ _ haware htarget
  · refine Reports.orRaise fun context _ ↦ Reports.port rfl haware fun execution haware ↦ ?_
    refine Reports.port rfl haware fun now haware ↦ ?_
    exact reports_settleExecution _ _ _ _ haware htarget

omit [UnicodeNormalization] in
theorem reports_admitAttempt (validEvidence : List AuthorityEvidence) (resolved : ResolvedState V)
    (haware : Aware h record) (htarget : target record.key) :
    Reports True target (admitAttempt runtime ⟨definition, hostExecutors V H definition⟩
      record binding validEvidence resolved) h := by
  refine Reports.port rfl haware fun admittedAt haware ↦ ?_
  split
  · exact reports_expireBeforeAdmission haware htarget
  split
  · exact reports_block _ _ _ haware htarget
  refine Reports.port rfl haware fun reference haware ↦ ?_
  refine Reports.port rfl haware fun claim haware' ↦ ?_
  -- a refused admission is answered with what is read next
  have hread : ∀ (result : StoredProposal → ActionOperationResult),
      (∀ current, ∃ outcome, result current = operationResult current outcome) →
      ∀ h', Aware (V := V) (H := H) h' record →
        Reports True target (required record.tenantReference record.proposalReference >>=
          fun current ↦ pure (result current)) h' := by
    intro result hresult h' haware'
    refine Reports.required fun current hkey ↦ ?_
    obtain ⟨outcome, houtcome⟩ := hresult current
    rw [houtcome]
    exact Reports.held (.read haware'.lostNothing current) (by rwa [hkey])
  cases claim with
  | conflict => exact hread _ (fun current ↦ ⟨_, rfl⟩) _ haware'
  | proposalNotFound => exact Reports.throw _
  | proposalNotAuthorized => exact hread _ (fun current ↦ ⟨_, rfl⟩) _ haware'
  | acquired => exact reports_dispatch _ _ _ _ _ _ (haware.admitted rfl) htarget
  | ownedByProposal => exact reports_dispatch _ _ _ _ _ _ (haware.admitted rfl) htarget

omit [UnicodeNormalization] in
theorem reports_reauthorize (resolved : ResolvedState V) (haware : Aware h record)
    (htarget : target record.key) :
    Reports True target (reauthorize runtime ⟨definition, hostExecutors V H definition⟩
      record binding resolved) h := by
  refine Reports.port rfl haware fun admittedAt haware ↦ ?_
  split
  · exact reports_expireBeforeAdmission haware htarget
  refine Reports.bind (evaluateAuthority_aware _ _ _ _ haware) fun h' evaluated _ haware ↦ ?_
  obtain ⟨validEvidence, authority⟩ := evaluated
  dsimp only
  split
  · exact reports_block _ _ _ haware htarget
  refine Reports.orRaise fun context _ ↦ Reports.port rfl haware fun liveAuthorization haware ↦ ?_
  split
  · exact reports_block _ _ _ haware htarget
  · exact reports_admitAttempt _ _ _ _ _ haware htarget

theorem reports_resolveCurrent (commitment : KeyedCommitment) (snapshot : V) (now : Timestamp)
    (haware : Aware h record) (htarget : target record.key) :
    Reports True target (resolveCurrent runtime ⟨definition, hostExecutors V H definition⟩
      record commitment snapshot now) h := by
  refine Reports.bind (evaluateAuthority_aware _ _ _ _ haware) fun h' evaluated _ haware ↦ ?_
  obtain ⟨validEvidence, authority⟩ := evaluated
  dsimp only
  split
  · exact reports_block _ _ _ haware htarget
  refine Reports.orRaise fun context _ ↦ Reports.port rfl haware fun resolved haware ↦ ?_
  refine Reports.raiseIf fun _ ↦ ?_
  split
  · exact reports_supersedeStale _ _ _ _ haware htarget
  · exact reports_reauthorize _ _ _ _ haware htarget

theorem loadPrivate_aware (haware : Aware h record) :
    (loadPrivate definition record).Returns (fun h' _ ↦ Aware h' record) h := by
  rw [loadPrivate]
  split
  · refine Returns.attempt fun unprotect ↦ ?_
    cases unprotect with
    | error failure =>
      dsimp only
      split
      · exact Returns.pure (haware.port rfl _)
      · exact Returns.throw
    | ok canonical =>
      refine Returns.orRaise fun commitmentInput _ ↦ Returns.perform fun verified ↦ ?_
      split
      · exact Returns.pure ((haware.port rfl _).port rfl _)
      · exact Returns.orRaise fun snapshot _ ↦ Returns.pure ((haware.port rfl _).port rfl _)
  · exact Returns.pure haware

theorem reports_execute (tenantReference proposalReference : SafeReference)
    (hlost : LostNothing h) :
    Reports True (· = (tenantReference, proposalReference))
      (execute runtime ⟨definition, hostExecutors V H definition⟩ tenantReference
        proposalReference) h := by
  refine Reports.reading hlost fun record h hkey haware ↦ ?_
  refine Reports.raiseIf fun _ ↦ Reports.raiseIf fun _ ↦ ?_
  split
  · exact Reports.held haware hkey
  split
  · exact Reports.held haware hkey
  refine Reports.port rfl haware fun now haware ↦ ?_
  split
  · exact reports_expireBeforeAdmission haware hkey
  refine Reports.bind (loadPrivate_aware _ haware) fun h' loaded _ haware ↦ ?_
  split
  · exact reports_block _ _ _ haware hkey
  · exact reports_block _ _ _ haware hkey
  · exact reports_resolveCurrent _ _ _ _ _ haware hkey

end Executor

/-! ## Verification -/

omit [UnicodeNormalization] in
theorem reports_settleVerification (runtime : ActionRuntime) (definition : ActionDeclaration V)
    {record : StoredProposal} (verification : VerificationResult V) (now : Timestamp)
    (haware : Aware h record) (htarget : target record.key) :
    Reports False target
      (settleVerification runtime definition record verification now) h := by
  refine Reports.orRaise fun _ _ ↦ Reports.port rfl haware fun reference haware ↦ ?_
  refine Reports.orRaise fun safeResult _ ↦ ?_
  exact Reports.guardedWrite rfl htarget haware.lostNothing rfl (by rintro ⟨⟩)

omit [UnicodeNormalization] in
theorem reports_reconcilePending (runtime : ActionRuntime) (definition : ActionDeclaration V)
    {tenantReference proposalReference : SafeReference} {record : StoredProposal} (now : Timestamp)
    (haware : Aware h record) (hkey : record.key = (tenantReference, proposalReference)) :
    Reports False (· = (tenantReference, proposalReference))
      (reconcilePending runtime definition tenantReference proposalReference record now) h := by
  rw [reconcilePending]
  split
  · exact Reports.held haware hkey
  split
  · exact Reports.guardedWrite hkey rfl haware.lostNothing rfl (by rintro ⟨⟩)
  · refine Reports.cas ?_ ?_
    · refine Reports.orRaise fun context _ ↦ ?_
      refine Reports.port rfl (.wrote haware.lostNothing _ _) fun verification haware' ↦ ?_
      exact reports_settleVerification _ _ _ _ haware' hkey
    · exact Reports.reread hkey rfl haware.lostNothing
        (by rintro ⟨⟩)

omit [UnicodeNormalization] in
theorem reports_reconcile (runtime : ActionRuntime) (definition : ActionDeclaration V)
    (tenantReference proposalReference : SafeReference) (hlost : LostNothing h) :
    Reports False (· = (tenantReference, proposalReference))
      (reconcile runtime definition tenantReference proposalReference) h := by
  refine Reports.reading hlost fun record h hkey haware ↦ ?_
  refine Reports.raiseIf fun _ ↦ Reports.raiseIf fun _ ↦ Reports.port rfl haware fun now haware ↦ ?_
  split
  · exact Reports.held haware hkey
  split
  · refine Reports.cas ?_ ?_
    · exact reports_reconcilePending _ _ _ (.wrote haware.lostNothing _ _) hkey
    · exact Reports.reread hkey rfl haware.lostNothing
        (by rintro ⟨⟩)
  split
  · exact Reports.held haware hkey
  · exact reports_reconcilePending _ _ _ haware hkey

omit [UnicodeNormalization] in
theorem reports_resumeVerification (runtime : ActionRuntime) (definition : ActionDeclaration V)
    (tenantReference proposalReference : SafeReference) (expectedRevision : ℕ)
    (operator : RecoveryOperator) (interventionReference : SafeReference)
    (hlost : LostNothing h) :
    Reports False (· = (tenantReference, proposalReference))
      (resumeVerification runtime definition tenantReference proposalReference expectedRevision
        operator interventionReference) h := by
  refine Reports.reading hlost fun record h hkey haware ↦ ?_
  refine Reports.raiseIf fun _ ↦ Reports.raiseIf fun _ ↦ Reports.port rfl haware fun now haware ↦ ?_
  refine Reports.raiseIf fun _ ↦ Reports.port rfl haware fun recoveryAuthorization haware ↦ ?_
  refine Reports.raiseIf fun _ ↦ ?_
  split
  · exact Reports.held haware hkey
  split
  · exact Reports.held haware hkey
  split
  · exact Reports.throw _
  · refine Reports.port rfl haware fun reference haware ↦ Reports.cas ?_ ?_
    · refine Reports.bind (emit_returns _ _ _ _ _) fun h' _ _ hemitted ↦ ?_
      obtain ⟨event, answer, rfl⟩ := hemitted
      exact reports_reconcile _ _ _ _ ((Aware.wrote haware.lostNothing _ _).port
        (o := .emit event) rfl answer).lostNothing
    · exact Reports.reread hkey rfl haware.lostNothing
        (by rintro ⟨⟩)

/-! ## Erasure -/

omit [UnicodeNormalization] in
theorem await_lostNothing {o : Op V H} (ho : o.isCompareAndSet = false) (hlost : LostNothing h) :
    (await o).Returns (fun h' _ ↦ LostNothing h') h :=
  meets_perform.mpr ⟨trivial, fun r _ ↦ ⟨List.suffix_cons _ _, fun _ _ ↦ hlost.port ho r⟩⟩

omit [UnicodeNormalization] in
theorem destroyPayload_lostNothing (definition : ActionDeclaration V)
    (proposalIdentity : ProposalIdentity) (payload : Option ProtectedPayload)
    (hlost : LostNothing h) :
    (destroyPayload definition proposalIdentity payload).Returns (fun h' _ ↦ LostNothing h') h := by
  cases payload with
  | none => exact Returns.pure hlost
  | some payload => exact await_lostNothing rfl hlost

omit [UnicodeNormalization] in
theorem destroyCommitment_lostNothing (definition : ActionDeclaration V)
    (proposalIdentity : ProposalIdentity) (commitment : Option KeyedCommitment)
    (hlost : LostNothing h) :
    (destroyCommitment definition proposalIdentity commitment).Returns
      (fun h' _ ↦ LostNothing h') h := by
  cases commitment with
  | none => exact Returns.pure hlost
  | some commitment => exact await_lostNothing rfl hlost

omit [UnicodeNormalization] in
theorem reports_destroyAndComplete (definition : ActionDeclaration V)
    (proposalReference : SafeReference) (context : ReadContext) (record : StoredProposal)
    (now : Timestamp) (hlost : LostNothing h) :
    Reports False (· = (context.tenantReference, proposalReference))
      (destroyAndComplete definition proposalReference context record now) h := by
  refine Reports.bind (destroyPayload_lostNothing _ _ _ hlost) fun h₁ _ _ hlost ↦ ?_
  refine Reports.bind (destroyCommitment_lostNothing _ _ _ hlost) fun h₂ _ _ hlost ↦ ?_
  refine Reports.await fun completed ↦ ?_
  split
  · refine Reports.reading (hlost.port rfl _) fun current h hkey haware ↦ ?_
    exact Reports.held haware hkey
  · refine Reports.reading (hlost.port rfl _) fun erased h hkey haware ↦ ?_
    exact Reports.announce haware hkey

omit [UnicodeNormalization] in
theorem reports_erase (runtime : ActionRuntime) (definition : ActionDeclaration V)
    (proposalReference : SafeReference) (context : ReadContext) (hlost : LostNothing h) :
    Reports False (· = (context.tenantReference, proposalReference))
      (erase runtime definition proposalReference context) h := by
  refine Reports.raiseIf fun _ ↦ Reports.await fun authorized ↦ Reports.raiseIf fun _ ↦ ?_
  refine Reports.reading (hlost.port rfl _) fun record h hkey haware ↦ Reports.raiseIf fun _ ↦ ?_
  split
  · exact Reports.held haware hkey
  refine Reports.port rfl haware fun now haware ↦ ?_
  split
  · exact reports_destroyAndComplete _ _ _ _ _ haware.lostNothing
  refine Reports.port rfl haware fun marked haware ↦ ?_
  refine Reports.reading haware.lostNothing fun current h hkey haware ↦ ?_
  split
  · exact Reports.held haware hkey
  split
  · exact Reports.held haware hkey
  · exact reports_destroyAndComplete _ _ _ _ _ haware.lostNothing

/-! ## Calls -/

/-- **Whatever a call returns is a report.** -/
theorem reports_coroutine (call : RuntimeCall V) :
    Reports (call.isExecute = true) call.Targets (call.coroutine (hostExecutors V H)) [] := by
  -- outside of `execute` nothing is left unread
  have hother : (false = true) ↔ False := iff_of_false Bool.false_ne_true id
  cases call with
  | prepare => exact reports_prepare _ _ _ _ _ _ _ .nil
  | recordAuthority => exact (reports_recordAuthority _ _ _ _ _ .nil).congr hother
  | expireDue => exact (reports_expireDue _ _ _ .nil).congr hother
  | execute => exact (reports_execute _ _ _ _ .nil).congr (iff_of_true rfl trivial)
  | reconcile => exact (reports_reconcile _ _ _ _ .nil).congr hother
  | resumeVerification => exact (reports_resumeVerification _ _ _ _ _ _ _ .nil).congr hother
  | erase => exact (reports_erase _ _ _ _ .nil).congr hother

end Calls

end ThrevoActions
