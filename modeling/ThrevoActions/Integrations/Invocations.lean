import ThrevoActions.Integrations.Confinement
import ThrevoActions.Runtime.Aborted
import ThrevoActions.Runtime.Reports
import ThrevoActions.Runtime.Schedules
import ThrevoActions.Store.Tenants

/-!
# Tool invocations

What one invocation calls (`toolContract`), and that the operations of its action, called so, are
confined to its trusted tenant and to the proposal it continues (`handled_confined`).
-/

namespace ThrevoActions

open Interleaving Interleaving.Program
open MemoryActionStore (EffectsOwned)

variable {V : Type} [HostModels V] {H : Signature} {α : Type}

/-! ## The operations an invocation calls -/

/-- What a call answers is about the proposal it was called for. -/
def ActionOperation.Answers : (o : ActionOperation V) → Except Exn o.Ans → Prop
  | .execute _ proposalReference, .ok result => result.proposalReference = proposalReference
  | .reconcile _ proposalReference, .ok result => result.proposalReference = proposalReference
  | _, _ => True

section Invocation

variable [ReferenceCharacters] {invocation : ToolInvocation V}

/-- The framework approved the call, and its continuation names the proposal. -/
def ToolInvocation.Continues (invocation : ToolInvocation V) (proposalReference : SafeReference) :
    Prop :=
  invocation.approved = true ∧ ∃ continuation, invocation.continuation = some continuation ∧
    continuation.proposalReference = proposalReference

/-- An invocation prepares for its trusted tenant and reads for its trusted consumer. It executes
and reconciles only the proposal that it continues, after it has read it. -/
def toolContract (invocation : ToolInvocation V) : Contract (actionOperations V) Exn where
  legal := ActionOperation.Answers
  issues g
    | .prepare tenantReference _ _ _ => tenantReference = invocation.trusted.tenantReference
    | .execute tenantReference proposalReference | .reconcile tenantReference proposalReference =>
      tenantReference = invocation.trusted.tenantReference ∧
        invocation.Continues proposalReference ∧
        ∃ view, ⟨.read proposalReference invocation.readContext, .ok view⟩ ∈ g
    | .read _ context => context = invocation.readContext

theorem reread_meets (result : ActionOperationResult) (g : History (actionOperations V) Exn) :
    (do
      let _ ← operate (.read result.proposalReference invocation.readContext)
      match result.freshProposalReference with
      | none => return result
      | some freshProposalReference =>
        let _ ← operate (.read freshProposalReference invocation.readContext)
        return result : ToolProgram V ActionOperationResult).Meets (toolContract invocation)
      (fun _ _ ↦ True) g := by
  refine Meets.perform_bind rfl (fun _ _ ↦ trivial) fun _ _ ↦ ?_
  split
  · exact trivial
  · exact Meets.perform_bind rfl (fun _ _ ↦ trivial) fun _ _ ↦ trivial

theorem continueAction_meets {continuation : ContinuationMetadata}
    (happroved : invocation.approved = true)
    (hcontinuation : invocation.continuation = some continuation)
    (g : History (actionOperations V) Exn) :
    (invocation.continueAction continuation).Meets (toolContract invocation) (fun _ _ ↦ True) g := by
  have hcontinues : invocation.Continues continuation.proposalReference :=
    ⟨happroved, continuation, hcontinuation, rfl⟩
  refine Meets.perform_bind rfl (fun _ _ ↦ trivial) fun view _ ↦ ?_
  refine Meets.perform_bind ⟨rfl, hcontinues, view, List.mem_cons_self⟩ (fun _ _ ↦ trivial)
    fun executed hexecuted ↦ ?_
  have hreference : executed.proposalReference = continuation.proposalReference := hexecuted
  dsimp only
  split
  · rw [hreference]
    refine Meets.perform_bind ⟨rfl, hcontinues, view, ?_⟩ (fun _ _ ↦ trivial) fun result _ ↦ ?_
    · exact List.mem_cons_of_mem _ List.mem_cons_self
    · exact reread_meets result _
  · exact reread_meets executed _

/-- **A tool executes what it was first allowed to read.** -/
theorem invokeActionTool_meets [CommandModels V] (invocation : ToolInvocation V) :
    (invokeActionTool invocation).Meets (toolContract invocation) (fun _ _ ↦ True) [] := by
  rw [invokeActionTool]
  split
  · rename_i happroved
    split
    · exact trivial
    · rename_i continuation hcontinuation
      refine Meets.attempt_bind_of (continueAction_meets happroved hcontinuation [])
        fun _ continued _ _ ↦ ?_
      split <;> exact trivial
  · refine Meets.orRaise_bind (fun _ _ ↦ trivial) fun command _ ↦ ?_
    cases command with
    | none => exact trivial
    | some command =>
      refine Meets.attempt_perform_bind rfl fun prepared _ ↦ ?_
      split
      · exact trivial
      · exact trivial
      · refine Meets.attempt_perform_bind rfl fun view _ ↦ ?_
        split <;> exact trivial

end Invocation

/-! ## What carries an invocation out -/

/-- The reader was allowed to read the proposal, which was on file. -/
structure ReadGranted (definition : ActionDeclaration V) (context : ReadContext)
    (proposalReference : SafeReference) (h : RuntimeHistory V H) : Prop where
  found : ∃ record, Answered h (.get context.tenantReference proposalReference) (some record)
  allowed : Answered h (.canRead definition proposalReference context) true

theorem ReadGranted.mono {definition : ActionDeclaration V} {context : ReadContext}
    {proposalReference : SafeReference} {h h' : RuntimeHistory V H}
    (hgranted : ReadGranted definition context proposalReference h) (hsuffix : h <:+ h') :
    ReadGranted definition context proposalReference h' := by
  obtain ⟨record, hrecord⟩ := hgranted.found
  exact ⟨⟨record, hrecord.mono hsuffix⟩, hgranted.allowed.mono hsuffix⟩

/-- `read` returns only if the reader may read. -/
theorem read_granted (definition : ActionDeclaration V) (proposalReference : SafeReference)
    (context : ReadContext) (h : RuntimeHistory V H) :
    (read definition proposalReference context).Returns
      (fun h' _ ↦ ReadGranted definition context proposalReference h') h := by
  have hreadable : (readable definition proposalReference context).Returns
      (fun h' _ ↦ ReadGranted definition context proposalReference h') h := by
    refine Returns.bind (required_returns _ _ _) fun h₁ record _ hread ↦
      Returns.raiseIf fun _ ↦ Returns.perform fun allowed ↦ Returns.raiseIf fun hallowed ↦ ?_
    rw [Bool.not_eq_false] at hallowed
    subst hallowed
    exact Returns.pure ⟨⟨record, hread.1.mono (List.suffix_cons _ _)⟩, .head⟩
  exact Returns.bind hreadable fun _ _ _ hgranted ↦ Returns.pure hgranted

/-- What a call reports is about a proposal it may be about. -/
theorem Report.proposalReference {inExecute : Prop} {target : ProposalKey → Prop}
    {h : RuntimeHistory V H} {result : ActionOperationResult}
    (hreport : Report inExecute target h result) :
    ∃ key, target key ∧ result.proposalReference = key.2 := by
  cases hreport with
  | held _ htarget hdescribes => exact ⟨_, htarget, hdescribes.proposalReference⟩
  | reread _ _ htarget hdescribes => exact ⟨_, htarget, hdescribes.proposalReference⟩
  | unread _ _ _ _ _ _ htarget hdescribes => exact ⟨_, htarget, hdescribes.proposalReference⟩

theorem Op.Confined.imp {tenant : SafeReference} {target target' : ProposalKey → Prop} {o : Op V H}
    (ho : o.Confined tenant target) (htarget : ∀ key, target key → target' key) :
    o.Confined tenant target' := by
  cases o
  case compareAndSet | admitExecution => exact ⟨htarget _ ho.1, ho.2⟩
  case resolve | canExecute | execute | verify => exact htarget _ ho
  all_goals exact ho

section Handled

variable [ReferenceCharacters] {invocation : ToolInvocation V} {definition : ActionDeclaration V}

/-- The proposal an invocation may act on: it continues it, and was allowed to read it. -/
def ToolTarget (definition : ActionDeclaration V) (invocation : ToolInvocation V)
    (h : RuntimeHistory V H) (key : ProposalKey) : Prop :=
  key.1 = invocation.trusted.tenantReference ∧ invocation.Continues key.2 ∧
    ReadGranted definition invocation.readContext key.2 h

/-- An invocation is confined to its trusted tenant and to its target. -/
def confinedContract (definition : ActionDeclaration V) (invocation : ToolInvocation V) :
    Contract (runtimeSignature V H) Exn where
  legal _ _ := True
  issues h o := o.Confined invocation.trusted.tenantReference (ToolTarget definition invocation h)

/-- Every read that was answered was granted. -/
def ReadsGranted (definition : ActionDeclaration V) (invocation : ToolInvocation V)
    (g : History (actionOperations V) Exn) (h : RuntimeHistory V H) : Prop :=
  ∀ proposalReference view,
    (⟨.read proposalReference invocation.readContext, .ok view⟩ : Event (actionOperations V) Exn) ∈ g →
    ReadGranted definition invocation.readContext proposalReference h

omit [ReferenceCharacters] in
theorem ReadsGranted.event {g : History (actionOperations V) Exn} {h h' : RuntimeHistory V H}
    (hgranted : ReadsGranted definition invocation g h) (hsuffix : h <:+ h')
    {o : ActionOperation V} {r : Except Exn o.Ans}
    (hread : ∀ proposalReference context view,
      (⟨o, r⟩ : Event (actionOperations V) Exn) = ⟨.read proposalReference context, .ok view⟩ →
      ReadGranted definition context proposalReference h') :
    ReadsGranted definition invocation (⟨o, r⟩ :: g) h' := by
  intro proposalReference view hmem
  rcases List.mem_cons.mp hmem with heq | hmem
  · exact hread proposalReference _ view heq.symm
  · exact (hgranted proposalReference view hmem).mono hsuffix

omit [ReferenceCharacters] in
/-- Only a read grants a read. -/
theorem ReadsGranted.unread {g : History (actionOperations V) Exn} {h h' : RuntimeHistory V H}
    (hgranted : ReadsGranted definition invocation g h) (hsuffix : h <:+ h')
    {o : ActionOperation V} {r : Except Exn o.Ans}
    (ho : ∀ proposalReference context, o ≠ .read proposalReference context) :
    ReadsGranted definition invocation (⟨o, r⟩ :: g) h' := by
  refine hgranted.event hsuffix fun proposalReference context view heq ↦ ?_
  injection heq with hop
  exact absurd hop (ho proposalReference context)

/-- What acts on the target is confined. -/
theorem confined_of_target {h : RuntimeHistory V H} {key : ProposalKey}
    {p : Coroutine V H ActionOperationResult}
    (hp : Confines invocation.trusted.tenantReference (· = key) p)
    (htarget : ToolTarget definition invocation h key)
    (hanswers : p.Only (fun _ ↦ True) fun result ↦ result.proposalReference = key.2) :
    p.Meets (confinedContract definition invocation)
      (fun h' r ↦ h <:+ h' ∧ ∀ result, r = .ok result → result.proposalReference = key.2) h := by
  refine ((hp.and hanswers).meets fun h' o hsuffix ho ↦ ?_).imp fun h' r _ hQ ↦
    ⟨hQ.1, fun result hr ↦ (hQ.2 result hr).2⟩
  refine Op.Confined.imp ho fun key' hkey ↦ ?_
  subst hkey
  exact ⟨htarget.1, htarget.2.1, htarget.2.2.mono hsuffix⟩

variable [UnicodeNormalization]

omit [ReferenceCharacters] in
/-- What `execute` and `reconcile` return is about the proposal they were called for. -/
theorem coroutine_answers (call : RuntimeCall V) {key : ProposalKey}
    (htargets : ∀ key', call.Targets key' → key' = key) :
    (call.coroutine (hostExecutors V H)).Only (fun _ ↦ True)
      fun result ↦ result.proposalReference = key.2 := by
  refine Only.of_meets (h := []) ((reports_coroutine call).imp fun h r _ hreport result hr ↦ ?_)
  obtain ⟨key', htarget, hreference⟩ := (hreport result hr).proposalReference
  rw [hreference, htargets key' htarget]

/-- The operations of an action, called as an invocation calls them, are confined. -/
theorem fixedActionOperations_meets (runtime : ActionRuntime) (o : ActionOperation V)
    (g : History (actionOperations V) Exn) (h : RuntimeHistory V H)
    (hgranted : ReadsGranted definition invocation g h)
    (hissues : (toolContract invocation).issues g o) :
    (fixedActionOperations runtime ⟨definition, hostExecutors V H definition⟩ o).Meets
      (confinedContract definition invocation)
      (fun h' r ↦ (toolContract invocation).legal o r ∧
        ReadsGranted definition invocation (⟨o, r⟩ :: g) h') h := by
  have htargeted : ∀ {tenantReference proposalReference : SafeReference},
      tenantReference = invocation.trusted.tenantReference ∧
        invocation.Continues proposalReference ∧
        (∃ view, ⟨.read proposalReference invocation.readContext, .ok view⟩ ∈ g) →
      ToolTarget definition invocation h (tenantReference, proposalReference) := by
    rintro tenantReference proposalReference ⟨htenant, hcontinues, view, hview⟩
    exact ⟨htenant, hcontinues, hgranted _ view hview⟩
  cases o with
  | prepare tenantReference command requestingPrincipal proposingAgent =>
    have htenant : tenantReference = invocation.trusted.tenantReference := hissues
    subst htenant
    have hconfined : Confines (H := H) invocation.trusted.tenantReference (fun _ ↦ False)
        (prepare runtime definition invocation.trusted.tenantReference command requestingPrincipal
          proposingAgent) := prepare_confined runtime definition command _ _ none
    refine (hconfined.meets fun h' o _ ho ↦ Op.Confined.imp ho fun _ hfalse ↦ hfalse.elim).imp
      fun h' r _ hQ ↦ ⟨trivial, hgranted.unread hQ.1 ?_⟩
    rintro _ _ ⟨⟩
  | execute tenantReference proposalReference =>
    have htenant : tenantReference = invocation.trusted.tenantReference := hissues.1
    subst htenant
    refine (confined_of_target (execute_confined runtime definition rfl) (htargeted hissues)
      ?_).imp fun h' r _ hQ ↦ ⟨?_, ?_⟩
    · exact coroutine_answers (.execute runtime definition _ proposalReference) fun _ hkey ↦ hkey
    · cases r with
      | error e => exact trivial
      | ok result => exact hQ.2 result rfl
    · refine hgranted.unread hQ.1 ?_
      rintro _ _ ⟨⟩
  | reconcile tenantReference proposalReference =>
    have htenant : tenantReference = invocation.trusted.tenantReference := hissues.1
    subst htenant
    refine (confined_of_target (reconcile_confined runtime definition rfl) (htargeted hissues)
      ?_).imp fun h' r _ hQ ↦ ⟨?_, ?_⟩
    · exact coroutine_answers (.reconcile runtime definition _ proposalReference) fun _ hkey ↦ hkey
    · cases r with
      | error e => exact trivial
      | ok result => exact hQ.2 result rfl
    · refine hgranted.unread hQ.1 ?_
      rintro _ _ ⟨⟩
  | read proposalReference context =>
    have hcontext : context = invocation.readContext := hissues
    subst hcontext
    have hconfined : Confines (H := H) invocation.trusted.tenantReference (fun _ ↦ False)
        (read definition proposalReference invocation.readContext) := read_confined _ _ _
    refine Meets.imp (Meets.and_free (hconfined.meets fun h' o _ ho ↦
      Op.Confined.imp ho fun _ hfalse ↦ hfalse.elim) (read_granted definition proposalReference
        invocation.readContext h)) fun h' r _ hQ ↦ ⟨?_, hgranted.event hQ.1.1 ?_⟩
    · cases r <;> exact trivial
    · intro proposalReference' context view heq
      injection heq with hop hanswer
      injection hop with hreference hcontext
      subst hreference hcontext
      exact hQ.2.2 view hanswer

/-- **An invocation is confined**, whatever is answered. -/
theorem handled_confined [CommandModels V] (runtime : ActionRuntime)
    (definition : ActionDeclaration V) (invocation : ToolInvocation V) :
    ((invokeActionTool invocation).handle
      (fixedActionOperations runtime ⟨definition, hostExecutors V H definition⟩)).Meets
      (confinedContract definition invocation) (fun _ _ ↦ True) [] := by
  refine (Meets.handle (R := ReadsGranted definition invocation)
    (invokeActionTool_meets invocation) ?_ fun o g h hgranted hissues ↦ ?_).imp
      fun _ _ _ _ ↦ trivial
  · rintro proposalReference view ⟨⟩
  · exact fixedActionOperations_meets runtime o g h hgranted hissues

end Handled

end ThrevoActions
