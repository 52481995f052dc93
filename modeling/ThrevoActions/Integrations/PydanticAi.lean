import ThrevoActions.Interleaving.Handler
import ThrevoActions.Json.Fields
import ThrevoActions.Runtime.Machine
import ThrevoActions.Runtime.Reads

/-!
# The Pydantic AI tool path

`_invoke_action_tool` with what it validates and calls. It is written against the operations it is
given (`_ActionOperations`), so it is a program over these four operations; `fixedActionOperations`
carries them out on a runtime (`_FixedActionOperations`).

What comes from the model and from the framework is JSON: the tool arguments and the metadata of a
continuation. The command model is host code, as are the annotations of its fields.
-/

namespace ThrevoActions

open Interleaving Interleaving.Program

/-! ## Values of the tool path -/

/-- Trusted host context resolved from authenticated agent dependencies. -/
structure ActionAgentContext where
  tenantReference : SafeReference
  requestingPrincipal : RequestingPrincipal
  evidenceConsumer : EvidenceConsumer
  proposingAgent : Option ProposingAgent := none

inductive IntegrationOutcome
  | bindingUnavailable
  | invalidContinuation
  | operationOutcomeUnknown
  | preparationDenied
  | preparedNotVisible
  deriving DecidableEq, Repr

/-- Display-safe result returned to the model after a continuation attempt. -/
structure ActionToolResult where
  proposalReference : Option SafeReference := none
  lifecycleStatus : Option LifecycleStatus := none
  outcome : OperationOutcome ⊕ IntegrationOutcome
  revision : Option ℕ := none
  displayPreview : JsonObject := []
  safeResult : Option JsonObject := none
  freshProposalReference : Option SafeReference := none
  deriving DecidableEq

/-- `_ContinuationMetadata`. -/
structure ContinuationMetadata where
  proposalReference : SafeReference
  toolName : SafeReference
  actionType : ActionType
  displayPreview : JsonObject
  deriving DecidableEq

/-- `_tool_result`. -/
def toolResult (result : ActionOperationResult) : ActionToolResult where
  proposalReference := some result.proposalReference
  lifecycleStatus := some result.lifecycleStatus
  outcome := .inl result.outcome
  revision := some result.revision
  displayPreview := result.displayPreview
  safeResult := result.safeResult
  freshProposalReference := result.freshProposalReference

/-- `_invoke_action_tool` answers a result, or the metadata with which the framework suspends the
call. -/
inductive ToolOutcome
  | result (result : ActionToolResult)
  | continuation (metadata : ContinuationMetadata)
  deriving DecidableEq

/-- `_safe_failure`. -/
def safeFailure (outcome : IntegrationOutcome) : ToolOutcome := .result { outcome := .inr outcome }

/-! ## Continuation metadata -/

/-- `_continuation_metadata`. -/
def continuationMetadata [ReferenceCharacters] (value : JsonValue) : Option ContinuationMetadata :=
    do
  let entries ← strictFields ["proposal_reference", "tool_name", "action_type", "display_preview"]
    value
  let proposalReference ← safeReference? (← metadataField entries "proposal_reference")
  let toolName ← safeReference? (← metadataField entries "tool_name")
  let actionType ← actionType? (← metadataField entries "action_type")
  match ← metadataField entries "display_preview" with
  | .dict displayPreview => return ⟨proposalReference, toolName, actionType, displayPreview⟩
  | _ => none

/-! ## Tool arguments -/

/-- An annotation of a field, by its origin and arguments; `C` are the model classes. -/
inductive AnnotationForm (C : Type)
  | decimal
  | model (modelClass : C)
  /-- The origin is `list`, `set`, `frozenset` or `Sequence`. -/
  | sequence (arguments : List (AnnotationForm C))
  | tuple (arguments : List (AnnotationForm C))
  /-- The origin is `dict` or `Mapping`. -/
  | mapping (arguments : List (AnnotationForm C))
  | ellipsis
  | other (arguments : List (AnnotationForm C))

/-- A field of a model class. -/
structure ModelField (C : Type) where
  name : PyStr
  fieldAlias : Option PyStr := none
  validationAlias : Option PyStr := none
  annotation : AnnotationForm C

/-- The names under which a field may come, in the order in which they are tried. -/
def ModelField.inputNames {C : Type} (field : ModelField C) : List PyStr :=
  field.validationAlias.toList ++ field.fieldAlias.toList ++ [field.name]

/-- The command models of a host. -/
class CommandModels (V : Type) [HostModels V] where
  /-- `model_fields`. -/
  modelFields : ModelClass V → List (ModelField (ModelClass V))
  /-- `command_model.model_validate_json(json.dumps(arguments))`. -/
  validateArguments : ModelClass V → JsonObject → Except Exn V

/-- A Python value, as far as `_contains_json_float_for_decimal` looks into it: what it would answer
for the parts of the value. No part of a text is a float. -/
inductive ValueParts (C : Type)
  | float
  | sequence (items : List (AnnotationForm C → Bool))
  | mapping (entries : List (PyStr × (AnnotationForm C → Bool)))
  | other

section FloatForDecimal

variable {C : Type} (modelFields : C → List (ModelField C))

mutual

/-- The cases of `_contains_json_float_for_decimal`, by the annotation. -/
def floatForDecimal (value : ValueParts C) : AnnotationForm C → Bool
  | .decimal =>
    match value with
    | .float => true
    | _ => false
  | .model modelClass =>
    match value with
    | .mapping entries => (modelFields modelClass).any fun field ↦
      ((field.inputNames.findSome? fun name ↦ entries.lookup name).map (· field.annotation)).getD false
    | _ => false
  | .sequence arguments =>
    match value, arguments with
    | .sequence items, argument :: _ => items.any (· argument)
    | _, _ => false
  | .tuple arguments =>
    match value, arguments with
    | .sequence items, [argument, .ellipsis] => items.any (· argument)
    | .sequence items, arguments => (arguments.zip items).any fun part ↦ part.2 part.1
    | _, arguments => floatForSome value arguments
  | .mapping arguments =>
    match value, arguments with
    | .mapping entries, [_, argument] => entries.any fun entry ↦ entry.2 argument
    | _, arguments => floatForSome value arguments
  | .ellipsis => false
  | .other arguments => floatForSome value arguments

def floatForSome (value : ValueParts C) : List (AnnotationForm C) → Bool
  | [] => false
  | argument :: arguments => floatForDecimal value argument || floatForSome value arguments

end

mutual

/-- `_contains_json_float_for_decimal`. -/
def containsJsonFloatForDecimal : JsonValue → AnnotationForm C → Bool
  | .float _ => floatForDecimal modelFields .float
  | .list items => floatForDecimal modelFields (.sequence (itemParts items))
  | .dict entries => floatForDecimal modelFields (.mapping (entryParts entries))
  | .null | .bool _ | .int _ | .str _ => floatForDecimal modelFields .other

def itemParts : List JsonValue → List (AnnotationForm C → Bool)
  | [] => []
  | item :: items => containsJsonFloatForDecimal item :: itemParts items

def entryParts : List (PyStr × JsonValue) → List (PyStr × (AnnotationForm C → Bool))
  | [] => []
  | (key, item) :: entries => (key, containsJsonFloatForDecimal item) :: entryParts entries

end

end FloatForDecimal

/-! ## The operations of an action -/

/-- A call on `_ActionOperations`. -/
inductive ActionOperation (V : Type)
  | prepare (tenantReference : SafeReference) (command : V)
      (requestingPrincipal : RequestingPrincipal) (proposingAgent : Option ProposingAgent)
  | execute (tenantReference proposalReference : SafeReference)
  | reconcile (tenantReference proposalReference : SafeReference)
  | read (proposalReference : SafeReference) (context : ReadContext)

/-- What a call on `_ActionOperations` answers. -/
@[reducible] def ActionOperation.Ans {V : Type} : ActionOperation V → Type
  | .prepare _ _ _ _ => ActionOperationResult
  | .execute _ _ => ActionOperationResult
  | .reconcile _ _ => ActionOperationResult
  | .read _ _ => ProposalView

/-- The signature of programs over `_ActionOperations`. -/
abbrev actionOperations (V : Type) : Signature := ⟨ActionOperation V, ActionOperation.Ans⟩

abbrev ToolProgram (V α : Type) := Program (actionOperations V) Exn α

/-- Call one of the operations. -/
def operate {V : Type} (o : ActionOperation V) : ToolProgram V o.Ans :=
  Program.perform (S := actionOperations V) o

variable {V : Type} [HostModels V] {H : Signature}

/-- `_FixedActionOperations`. -/
def fixedActionOperations [UnicodeNormalization] (runtime : ActionRuntime)
    (definition : ActionDefinition V H) : (o : ActionOperation V) → Coroutine V H o.Ans
  | .prepare tenantReference command requestingPrincipal proposingAgent =>
    prepare runtime definition.toActionDeclaration tenantReference command requestingPrincipal
      proposingAgent
  | .execute tenantReference proposalReference =>
    execute runtime definition tenantReference proposalReference
  | .reconcile tenantReference proposalReference =>
    reconcile runtime definition.toActionDeclaration tenantReference proposalReference
  | .read proposalReference context =>
    read definition.toActionDeclaration proposalReference context

/-! ## The invocation -/

/-- The arguments of `_invoke_action_tool`, its operations aside. -/
structure ToolInvocation (V : Type) [HostModels V] where
  approved : Bool
  continuationValue : JsonValue
  arguments : JsonObject
  commandModel : ModelClass V
  actionType : ActionType
  trusted : ActionAgentContext
  toolName : SafeReference

namespace ToolInvocation

/-- The trusted host reads as this. -/
def readContext (invocation : ToolInvocation V) : ReadContext :=
  ⟨invocation.trusted.tenantReference, invocation.trusted.evidenceConsumer⟩

/-- The continuation of an approved call, if its metadata is valid and of this tool and action. -/
def continuation [ReferenceCharacters] (invocation : ToolInvocation V) :
    Option ContinuationMetadata :=
  (continuationMetadata invocation.continuationValue).filter fun continuation ↦
    continuation.toolName = invocation.toolName ∧ continuation.actionType = invocation.actionType

/-- The `try` block of an approved call. -/
def continueAction (invocation : ToolInvocation V) (continuation : ContinuationMetadata) :
    ToolProgram V ActionOperationResult := do
  let _ ← operate (.read continuation.proposalReference invocation.readContext)
  let executed ← operate (.execute invocation.trusted.tenantReference
    continuation.proposalReference)
  let result ←
    if executed.outcome ∈ [.verificationPending, .failedUnknown] then
      operate (.reconcile invocation.trusted.tenantReference executed.proposalReference)
    else pure executed
  let _ ← operate (.read result.proposalReference invocation.readContext)
  match result.freshProposalReference with
  | none => return result
  | some freshProposalReference =>
    let _ ← operate (.read freshProposalReference invocation.readContext)
    return result

/-- `isinstance(exc, (TypeError, ValueError))`. -/
def isTypeOrValueError (failure : Exn) : Bool :=
  failure = .host "TypeError" || failure.isKeyOrValueError && failure ≠ .keyError

/-- The command of a first call. -/
def command? [CommandModels V] (invocation : ToolInvocation V) : Except Exn (Option V) :=
  if containsJsonFloatForDecimal CommandModels.modelFields (.dict invocation.arguments)
      (.model invocation.commandModel) = true then .ok none
  else
    match CommandModels.validateArguments invocation.commandModel invocation.arguments with
    | .ok command => .ok (some command)
    | .error failure => if isTypeOrValueError failure then .ok none else .error failure

/-- `ModelRetry`, an exception of the framework. -/
def modelRetry (message : String) : Exn := .host ("ModelRetry: " ++ message)

/-- A first call: prepare an action, and show it to the requester if the host lets it be read. -/
def prepareAction [CommandModels V] (invocation : ToolInvocation V) : ToolProgram V ToolOutcome := do
  match ← orRaise invocation.command? with
  | none => throw (modelRetry "Action arguments do not match the declared command schema.")
  | some command =>
    let prepare ← (operate (.prepare invocation.trusted.tenantReference command
      invocation.trusted.requestingPrincipal invocation.trusted.proposingAgent)).attempt
    match prepare with
    | .error (.authorizationDenied _) => return safeFailure .preparationDenied
    | .error failure => throw failure
    | .ok prepared =>
      let view ← (operate (.read prepared.proposalReference invocation.readContext)).attempt
      match view with
      | .error .proposalNotFound => return safeFailure .preparedNotVisible
      | .error failure => throw failure
      | .ok preparedView =>
        return .continuation
          { proposalReference := prepared.proposalReference
            toolName := invocation.toolName
            actionType := invocation.actionType
            displayPreview := preparedView.displayPreview }

end ToolInvocation

open ToolInvocation in
/-- `_invoke_action_tool`. -/
def invokeActionTool [ReferenceCharacters] [CommandModels V] (invocation : ToolInvocation V) :
    ToolProgram V ToolOutcome :=
  if invocation.approved then
    match invocation.continuation with
    | none => return safeFailure .invalidContinuation
    | some continuation => do
      let continued ← (invocation.continueAction continuation).attempt
      match continued with
      | .error .proposalNotFound => return safeFailure .invalidContinuation
      | .error failure => throw failure
      | .ok result => return .result (toolResult result)
  else invocation.prepareAction

end ThrevoActions
