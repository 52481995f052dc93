import ThrevoActions.Interleaving.Schedule
import ThrevoActions.Runtime.Machine

/-!
# Running the runtime

A host that answers its ports by fixed functions, together with one exact clock and a supply of
identifiers, makes the runtime machine executable (`hostOracle`). The sample host at the end is the
smallest one with which proposals go through their whole lifecycle.
-/

namespace ThrevoActions

open Interleaving

variable {V : Type} [HostModels V] {H : Signature}

/-- How a host answers every operation that is not the runtime's own. -/
abbrev HostAnswers (V : Type) [HostModels V] (H : Signature) := (o : Op V H) → Except Exn o.Ans

/-- The next unused identifier of a supply. -/
def World.draw (names : List SafeReference) (world : World) :
    Except Exn SafeReference × World :=
  match names.find? (· ∉ world.issued) with
  | none => (.error (.host "identifiers exhausted"), world)
  | some reference => (.ok reference, { world with issued := reference :: world.issued })

theorem World.draw_sound (names : List SafeReference) (world : World) :
    world.NewIdentifier (world.draw names).1 (world.draw names).2 := by
  rw [World.draw]
  split
  · exact Or.inr ⟨⟨_, rfl⟩, rfl⟩
  · rename_i reference hfind
    have hfresh := List.find?_some hfind
    exact Or.inl ⟨reference, rfl, by simpa using hfresh, rfl⟩

/-- The answer to an operation, and the shared state after it. -/
def World.answer (host : HostAnswers V H) (names : List SafeReference) (world : World) :
    (o : Op V H) → Except Exn o.Ans × World
  | .create proposal => ((world.store.create proposal).1,
    { world with store := (world.store.create proposal).2 })
  | .get tenantReference proposalReference =>
    (.ok (world.store.get tenantReference proposalReference), world)
  | .compareAndSet args => ((world.store.compareAndSet args).1,
    { world with store := (world.store.compareAndSet args).2 })
  | .admitExecution args => ((world.store.admitExecution args).1,
    { world with store := (world.store.admitExecution args).2 })
  | .getEffectClaimOwner tenantReference actionType semanticEffectReference =>
    (.ok (world.store.getEffectClaimOwner tenantReference actionType semanticEffectReference),
      world)
  | .markErasurePending args => (.ok (world.store.markErasurePending args).1,
    { world with store := (world.store.markErasurePending args).2 })
  | .completeErasure args => (.ok (world.store.completeErasure args).1,
    { world with store := (world.store.completeErasure args).2 })
  | .now => (.ok world.time, world)
  | .newIdentifier _ => world.draw names
  | o => (host o, world)

variable [UnicodeNormalization]

/-- A host with fixed answers and one clock. A move of the environment sets the clock forward,
unless some call is about to start an operation that starts without delay. -/
def hostOracle (host : HostAnswers V H) (names : List SafeReference) (prompt : Op V H → Bool)
    (executorOf : ExecutorOf V H) :
    Oracle (runtimeMachine (Env.oneClock prompt) executorOf) Timestamp where
  answer := World.answer host names
  answer_sound world o := by
    cases o with
    | newIdentifier kind => exact World.draw_sound names world
    | now =>
      refine ⟨?_, rfl⟩
      rintro reading ⟨⟩
      rfl
    | create | get | compareAndSet | admitExecution | getEffectClaimOwner | markErasurePending
    | completeErasure => exact Or.inl ⟨rfl, rfl⟩
    | emit | canPrepare | prepare | canDecide | evaluate | resolve | canExecute | execute | verify
    | canRead | canRecover | authorizeErasure | createCommitment | verifyCommitment | destroyCommitment
    | protectPayload | unprotectPayload | destroyPayload | host => rfl
  move c time :=
    if c.shared.time ≤ time ∧ RuntimeConfig.hurried (Env.oneClock prompt) c = false then
      some { c.shared with time := time }
    else none
  move_sound c time world' hmove := by
    split_ifs at hmove with hok
    cases hmove
    refine ⟨time, hok.1, rfl, fun hhurried ↦ ?_⟩
    rw [hok.2] at hhurried
    cases hhurried

/-- The configuration a schedule reaches from an empty store at time zero. -/
def scheduled (host : HostAnswers V H) (names : List SafeReference) (prompt : Op V H → Bool)
    (executorOf : ExecutorOf V H) (turns : List (Turn (RuntimeCall V) Timestamp)) :
    RuntimeConfig V H :=
  (Config.initial (World.initial 0)).follow (hostOracle host names prompt executorOf) turns

theorem scheduled_reachable (host : HostAnswers V H) (names : List SafeReference)
    (prompt : Op V H → Bool) (executorOf : ExecutorOf V H)
    (turns : List (Turn (RuntimeCall V) Timestamp)) :
    Reachable (runtimeMachine (Env.oneClock prompt) executorOf) (World.initial 0)
      (scheduled host names prompt executorOf turns) :=
  Reachable.initial.follow _ turns

/-! ## A sample host -/

/-- One model class for each role, with one value each. -/
inductive SampleModel
  | command
  | snapshot
  | preview
  | result
  deriving DecidableEq, Repr

instance : HostModels SampleModel where
  ModelClass := SampleModel
  classDecidable := inferInstance
  modelClass model := model
  modelJsonObject _ := .ok []
  modelValidateJson model _ := .ok model

/-- No operations. -/
abbrev noOperations : Signature := ⟨Empty, Empty.elim⟩

def sampleRuntime : ActionRuntime := ⟨true, "revision"⟩

def sampleDefinition : ActionDeclaration SampleModel where
  actionType := ⟨"sample.actions", "act", 1, Nat.one_pos⟩
  privateSnapshotModel := SampleModel.snapshot
  displayPreviewModel := SampleModel.preview
  resultModel := SampleModel.result
  proposalTtl := 600000000
  executorIdentity := ⟨"executor"⟩
  targetIdentity := ⟨"target"⟩
  authorityAudience := "audience"
  authorityChannelAssurance := "assurance"
  proposalTtl_pos := by decide

/-- The executor was accepted by its target. -/
def sampleAcceptance : ExecutionResult SampleModel :=
  { status := .accepted, partial_mixes_outcomes := accepted_mixes_nothing }

/-- The executor knows that it failed. -/
def sampleFailure : ExecutionResult SampleModel :=
  { status := .failedKnown, partial_mixes_outcomes := failedKnown_mixes_nothing }

/-- The effect is there. -/
def sampleConfirmation : VerificationResult SampleModel := { status := .verifiedCompletion }

/-- The effect is not there yet. -/
def sampleNotYet : VerificationResult SampleModel := { status := .provisionalAbsence }

/-- The effect is not there and will not be. -/
def sampleNever : VerificationResult SampleModel :=
  { status := .authoritativeFinalAbsence, settlingBoundaryPassed := true }

/-- A host that allows and confirms everything; its executors answer `execution` and its verifier
answers `verification`. -/
def sampleHost {H : Signature} (execution : ExecutionResult SampleModel)
    (verification : VerificationResult SampleModel) (operations : (o : H.Op) → Except Exn (H.Ans o)) :
    HostAnswers SampleModel H
  | .emit _ => .ok ()
  | .canPrepare _ _ _ => .ok { allowed := true }
  | .prepare _ _ _ => .ok ⟨.snapshot, .preview, "effect"⟩
  | .canDecide _ _ _ => .ok { allowed := true }
  | .evaluate _ _ _ => .ok { satisfied := true }
  | .resolve _ resolved _ => .ok ⟨resolved, "precondition", false, none⟩
  | .canExecute _ _ _ => .ok { allowed := true }
  | .execute _ _ _ _ => .ok execution
  | .verify _ _ => .ok verification
  | .createCommitment _ _ _ => .ok ⟨"algorithm", "handle", "version", "digest"⟩
  | .verifyCommitment _ _ _ _ => .ok true
  | .protectPayload _ _ _ => .ok ⟨"codec", "handle", "version", "ciphertext"⟩
  | .unprotectPayload _ _ _ => .ok [0x7b, 0x7d]
  | .destroyPayload _ _ _ => .ok ()
  | .destroyCommitment _ _ _ => .ok ()
  | .canRead _ _ _ => .ok true
  | .canRecover _ _ _ => .ok { allowed := true }
  | .authorizeErasure _ _ _ => .ok true
  | .host operation => operations operation
  | _ => .error (.host "not a port")

/-- Turns of workers of the sample host. -/
abbrev SampleTurns := List (Turn (RuntimeCall SampleModel) Timestamp)

/-- The next `n` turns of call `i`. -/
def turnsOf (i n : ℕ) : SampleTurns := List.replicate n (.act i)

/-- Calls `i`, `i + 1` and `i + 2` work on one proposal: it is prepared (eight operations) and
approved (seven), and `n` operations of its execution are performed. -/
def sampleAttempt (i : ℕ) (proposalReference : SafeReference) (n : ℕ) : SampleTurns :=
  [.spawn (.prepare sampleRuntime sampleDefinition "tenant" .command ⟨"requester"⟩ none
    (some proposalReference))] ++ turnsOf i 8 ++
  [.spawn (.recordAuthority sampleRuntime sampleDefinition (sampleEvidence proposalReference)
    ⟨"approver"⟩ none)] ++ turnsOf (i + 1) 7 ++
  [.spawn (.execute sampleRuntime sampleDefinition "tenant" proposalReference)] ++
    turnsOf (i + 2) n

section Sample

attribute [local instance] normalizedTexts

/-- What workers over the sample host reach. -/
def sampleRun (execution : ExecutionResult SampleModel)
    (verification : VerificationResult SampleModel) (turns : SampleTurns) :
    RuntimeConfig SampleModel noOperations :=
  scheduled (sampleHost execution verification fun o ↦ nomatch o)
    ["r1", "r2", "r3", "r4", "r5", "r6", "r7", "r8"] (fun _ ↦ false)
    (hostExecutors SampleModel noOperations) turns

theorem sampleRun_reachable (execution : ExecutionResult SampleModel)
    (verification : VerificationResult SampleModel) (turns : SampleTurns) :
    Reachable (runtimeMachine (Env.oneClock fun _ ↦ false)
      (hostExecutors SampleModel noOperations)) (World.initial 0)
      (sampleRun execution verification turns) :=
  scheduled_reachable _ _ _ _ _

/-- The sample attempt is accepted, and its verifier answers `verification`. -/
def sampleVerification (verification : VerificationResult SampleModel) :
    RuntimeConfig SampleModel noOperations :=
  sampleRun sampleAcceptance verification
    (sampleAttempt 0 "proposal" 18 ++
      [.spawn (.reconcile sampleRuntime sampleDefinition "tenant" "proposal")] ++ turnsOf 3 7)

/-- A sample attempt that is verified. -/
def sampleCompletion : RuntimeConfig SampleModel noOperations :=
  sampleVerification sampleConfirmation

end Sample

end ThrevoActions
