import ThrevoActions.Approvals.FirstWriteWins

/-!
# How the calls of the approval store end

A call takes effect at one of its statements. `create` ends with the row of its proposal: its own,
one with the same terms, or one with others, and only the last is refused. `record_decision` ends
with the row it has locked, as `Settles` says. `FirstWriteWins` puts this together with what holds
of the table, and is proved of every interleaving.
-/

namespace ThrevoActions

namespace Approvals

/-! ## Later versions of a row -/

theorem Keeps.trans {row later latest : RequestRow} (h : Keeps row later)
    (h' : Keeps later latest) : Keeps row latest := by
  refine ⟨h'.requestReference.trans h.requestReference, h'.proposal.trans h.proposal,
    h'.bindingData.trans h.bindingData, fun hsome ↦ ?_⟩
  have hdata := h.decisionData hsome
  rw [← hdata]
  exact h'.decisionData (hdata ▸ hsome)

variable {s s' : System} {w : Worker}

theorem Frames.keeps (h : Frames s s' w) {row : RequestRow} (hrow : row ∈ s.table.rows) :
    ∃ later ∈ s'.table.rows, Keeps row later := by
  rcases h.2.2 row hrow with hrow' | ⟨-, hlater⟩
  · exact ⟨row, hrow', .refl row⟩
  · exact hlater

section Records

variable [ApprovalJson]

open ApprovalJson

theorem Invariant.step_frames (hfaithful : Faithful) (h : Invariant s) (w : Worker)
    (event : Event) : Frames s (s.step w event) w := by
  cases event with
  | start call => exact .start s w call
  | advance => exact ((s.advance_spec w).spec hfaithful h).1
  | cancel => exact (h.cancel_spec w).1

/-- Every row stays, with its binding, and with its decision once it has one. -/
theorem Invariant.run_keeps (hfaithful : Faithful) (h : Invariant s)
    (events : List (Worker × Event)) {row : RequestRow} (hrow : row ∈ s.table.rows) :
    ∃ later ∈ (s.run events).table.rows, Keeps row later := by
  induction events generalizing s row with
  | nil => exact ⟨row, hrow, .refl row⟩
  | cons event events ih =>
    obtain ⟨later, hlater, hkeeps⟩ := (h.step_frames hfaithful event.1 event.2).keeps hrow
    obtain ⟨latest, hlatest, hkeeps'⟩ := ih (h.step hfaithful event.1 event.2) hlater
    exact ⟨latest, hlatest, hkeeps.trans hkeeps'⟩

/-! ## Which calls write -/

/-- A step that changes the table counts as a write of the call it belongs to. -/
theorem step_wrote (s : System) (w : Worker) (event : Event)
    (h : (s.step w event).table ≠ s.table) : (s.step w event).wrote w = true := by
  cases event with
  | start call => exact absurd (s.start_table w call) h
  | cancel => exact absurd (s.cancel_table w) h
  | advance =>
    have hadvance := s.advance_spec w
    rw [System.step] at h ⊢
    generalize s.advance w = s' at hadvance h ⊢
    cases hadvance with
    | inserted => rw [System.move_wrote, System.commit_wrote_self]
    | decided => rw [System.commit_wrote_self]
    | stays | refused | present | read | missing | locked | updated | released =>
      exact absurd rfl h

/-- What a call has written counts until its worker receives another call. -/
theorem step_keeps_wrote (s : System) (v w : Worker) (event : Event) (h : s.wrote v = true) :
    (s.step w event).wrote v = true ∨ v = w ∧ ∃ call, event = .start call := by
  cases event with
  | start call =>
    by_cases hv : v = w
    · exact Or.inr ⟨hv, call, rfl⟩
    · exact Or.inl (((Frames.start s w call).1 v hv).2.trans h)
  | cancel =>
    left
    rw [System.step, System.cancel]
    split <;> exact h
  | advance =>
    left
    have hadvance := s.advance_spec w
    rw [System.step]
    generalize s.advance w = s' at hadvance ⊢
    cases hadvance with
    | inserted =>
      rw [System.move_wrote]
      by_cases hv : v = w
      · rw [hv, System.commit_wrote_self]
      · rwa [System.commit_wrote_of_ne hv]
    | decided =>
      by_cases hv : v = w
      · rw [hv, System.commit_wrote_self]
      · rwa [System.commit_wrote_of_ne hv]
    | stays | refused | present | read | missing | locked | updated | released => exact h

/-! ## Outcomes -/

/-- The call of `w` leaves the table as it is: neither its last step nor, as far as `wrote` tells,
an earlier one has written. -/
def Unchanged (s s' : System) (w : Worker) : Prop := s'.table = s.table ∧ s'.wrote w = false

/-- How `create` ends, `s` and `s'` being the states before and after its last step. -/
inductive CreateOutcome (s s' : System) (w : Worker) (binding : ApprovalRequestBinding) :
    Answer → Prop
  | cancelled (htable : s'.table = s.table) : CreateOutcome s s' w binding (.error .cancelled)
  /-- The reference of the request is taken. -/
  | refused (message : String) (hunchanged : Unchanged s s' w) :
      CreateOutcome s s' w binding (.error (.database message))
  /-- The proposal has the binding, or had one that differs from it in its reference and its time of
  creation only. -/
  | bound {row : RequestRow} {record : ApprovalRequestRecord} (hrow : row ∈ s.table.rows)
      (hproposal : row.proposal = binding.proposal) (hrecord : recordOf row = .ok record)
      (hterms : record.binding.terms = binding.terms)
      (hwrote : s'.wrote w = true → record.binding = binding) (htable : s'.table = s.table) :
      CreateOutcome s s' w binding (.ok record)
  | boundDifferently {row : RequestRow} {record : ApprovalRequestRecord} (hrow : row ∈ s.table.rows)
      (hproposal : row.proposal = binding.proposal) (hrecord : recordOf row = .ok record)
      (hterms : record.binding.terms ≠ binding.terms) (hunchanged : Unchanged s s' w) :
      CreateOutcome s s' w binding
        (.error (.request "approval request is already bound differently"))

/-- How `record_decision` ends. -/
inductive DecisionOutcome (s s' : System) (w : Worker) (reference : SafeReference)
    (d : ApprovalDecisionRecord) : Answer → Prop
  | cancelled (hunchanged : Unchanged s s' w) :
      DecisionOutcome s s' w reference d (.error .cancelled)
  | unavailable (hmissing : ∀ row ∈ s.table.rows, row.requestReference ≠ reference)
      (hunchanged : Unchanged s s' w) :
      DecisionOutcome s s' w reference d (.error (.request "approval request is unavailable"))
  /-- The decision does not match, or the request has one already. -/
  | settled {row : RequestRow} {answer : Answer} (hrow : row ∈ s.table.rows)
      (hreference : row.requestReference = reference) (hsettles : Settles row d none answer)
      (hunchanged : Unchanged s s' w) : DecisionOutcome s s' w reference d answer
  /-- The decision is the first, and is stored. -/
  | accepted {row later : RequestRow} {data : JsonValue} {decided : ApprovalRequestRecord}
      (hrow : row ∈ s.table.rows) (hreference : row.requestReference = reference)
      (hsettles : Settles row d (some data) (.ok decided)) (hlater : later ∈ s'.table.rows)
      (hkeeps : Keeps row later) (hdecided : recordOf later = .ok decided) :
      DecisionOutcome s s' w reference d (.ok decided)

def Outcome (s s' : System) (w : Worker) : Call → Answer → Prop
  | .create binding, answer => CreateOutcome s s' w binding answer
  | .recordDecision reference d, answer => DecisionOutcome s s' w reference d answer

omit [ApprovalJson] in
/-- A call of `w` ends with the step from `s` to `s'`. -/
def Completes (s s' : System) (w : Worker) (call : Call) (answer : Answer) : Prop :=
  s'.progress w = .done call answer ∧ ∀ call' answer', s.progress w ≠ .done call' answer'

/-- The row of a proposal, once `create` reads it. -/
theorem createAnswer_outcome (hreadable : Readable s.table) {binding : ApprovalRequestBinding}
    {row : RequestRow} (hrow : row ∈ s.table.rows) (hproposal : row.proposal = binding.proposal)
    (hwritten : s'.wrote w = true → parseBinding row.bindingData = some binding)
    (htable : s'.table = s.table) :
    CreateOutcome s s' w binding (createAnswer s.table binding) := by
  obtain ⟨record, hrecord, -, -⟩ := hreadable row hrow
  have hown : s'.wrote w = true → record.binding = binding := by
    intro hwrote
    have hparse := (recordOf_eq_ok.mp hrecord).1
    rw [hwritten hwrote] at hparse
    exact (Option.some.inj hparse).symm
  rw [createAnswer, ← hproposal, ApprovalRequests.byProposal_of_mem hrow]
  dsimp only
  rw [hrecord]
  dsimp only
  split_ifs with hterms
  · refine .boundDifferently hrow hproposal hrecord hterms ⟨htable, ?_⟩
    cases hwrote : s'.wrote w with
    | false => rfl
    | true => exact absurd (congrArg ApprovalRequestBinding.terms (hown hwrote)) hterms
  · exact .bound hrow hproposal hrecord (not_not.mp hterms) hown htable

/-- The transaction of `record_decision` commits. -/
theorem commit_outcome (hfaithful : Faithful) {row : RequestRow} (hrow : row ∈ s.table.rows)
    {d : ApprovalDecisionRecord} {data : JsonValue} {answer : Answer}
    (hsettles : Settles row d (some data) answer)
    (htable : s'.table = s.table.decide row.requestReference data) :
    DecisionOutcome s s' w row.requestReference d answer := by
  have haccepted := hsettles
  cases hsettles with
  | accepted hrecord hundecided hbinding hdecision =>
    refine .accepted hrow rfl haccepted ?_ ?_
      (recordOf_decideRow hfaithful hrecord hbinding hdecision)
    · rw [htable]
      exact ApprovalRequests.mem_decide.mpr ⟨row, hrow, if_pos rfl⟩
    · refine ⟨rfl, rfl, rfl, fun hsome ↦ ?_⟩
      rw [decisionData_eq_none hrecord hundecided] at hsome
      cases hsome

/-- **A call ends in one of these ways.** -/
theorem Invariant.advance_outcome (hfaithful : Faithful) (h : Invariant s) {call : Call}
    {answer : Answer} (hcompletes : Completes s (s.advance w) w call answer) :
    Outcome s (s.advance w) w call answer := by
  have hadvance := s.advance_spec w
  have hstanding := h.standing w
  generalize s.advance w = s' at hadvance hcompletes ⊢
  obtain ⟨hdone, hrunning⟩ := hcompletes
  cases hadvance with
  | stays => exact absurd hdone (hrunning call answer)
  | refused hprogress message =>
    rw [System.move_progress_self] at hdone
    rw [hprogress] at hstanding
    cases hdone
    exact .refused message ⟨rfl, hstanding⟩
  | present | inserted =>
    rw [System.move_progress_self] at hdone
    cases hdone
  | read hprogress =>
    rw [System.move_progress_self] at hdone
    rw [hprogress] at hstanding
    cases hdone
    obtain ⟨row, hrow, hproposal, hwritten⟩ := hstanding
    exact createAnswer_outcome h.readable hrow hproposal hwritten rfl
  | missing hprogress hmissing =>
    rw [System.move_progress_self] at hdone
    rw [hprogress] at hstanding
    cases hdone
    refine .unavailable (fun row hrow hreference ↦ ?_) ⟨rfl, hstanding⟩
    have hfound := ApprovalRequests.byReference_of_mem hrow
    rw [hreference, hmissing] at hfound
    cases hfound
  | @locked reference d _ row hfound =>
    rw [System.move_progress_self] at hdone
    obtain ⟨record, hrecord, -⟩ := h.readable row (ApprovalRequests.mem_of_byReference hfound).1
    rcases afterLock_standing reference hrecord d with
      ⟨pending, ended, hafter, -⟩ | ⟨decided, hafter, -⟩
    · rw [hafter] at hdone
      cases hdone
    · rw [hafter] at hdone
      cases hdone
  | updated hprogress =>
    rw [System.move_progress_self] at hdone
    rw [hprogress] at hstanding
    obtain ⟨-, -, row, hrow, rfl, record, hrecord, hundecided, -⟩ := hstanding
    rw [afterUpdate_accepted hrow (decisionData_eq_none hrecord hundecided)] at hdone
    cases hdone
  | released hprogress =>
    rw [System.move_progress_self] at hdone
    rw [hprogress] at hstanding
    cases hdone
    obtain ⟨hunwritten, -, row, hrow, hreference, hsettles⟩ := hstanding
    exact .settled hrow hreference hsettles ⟨rfl, hunwritten⟩
  | decided hprogress =>
    rw [System.commit_progress, System.move_progress_self] at hdone
    rw [hprogress] at hstanding
    cases hdone
    obtain ⟨-, -, row, hrow, rfl, hsettles⟩ := hstanding
    exact commit_outcome hfaithful hrow hsettles rfl

theorem Invariant.cancel_outcome (h : Invariant s) {call : Call} {answer : Answer}
    (hcompletes : Completes s (s.cancel w) w call answer) :
    Outcome s (s.cancel w) w call answer := by
  obtain ⟨hdone, hrunning⟩ := hcompletes
  have hstanding := h.standing w
  rw [System.cancel] at hdone ⊢
  cases hprogress : s.progress w with
  | idle =>
    rw [hprogress] at hdone
    dsimp only at hdone
    rw [hprogress] at hdone
    cases hdone
  | done call' answer' => exact absurd hprogress (hrunning call' answer')
  | inserting | reading =>
    rw [hprogress] at hdone
    dsimp only at hdone ⊢
    rw [System.move_progress_self] at hdone
    cases hdone
    exact .cancelled rfl
  | locking =>
    rw [hprogress] at hdone hstanding
    dsimp only at hdone ⊢
    rw [System.move_progress_self] at hdone
    cases hdone
    exact .cancelled ⟨rfl, hstanding⟩
  | updating | ending =>
    rw [hprogress] at hdone hstanding
    dsimp only at hdone ⊢
    rw [System.move_progress_self] at hdone
    cases hdone
    exact .cancelled ⟨rfl, hstanding.1⟩

omit [ApprovalJson] in
/-- Receiving a call ends none. -/
theorem not_completes_start (s : System) (w : Worker) (call : Call) (ended : Call)
    (answer : Answer) : ¬Completes s (s.start w call) w ended answer := by
  rintro ⟨hdone, hrunning⟩
  have hstart : (s.start w call).progress w ≠ .done ended answer := by
    rw [System.start]
    split
    · cases call <;> rw [System.move_progress_self] <;> rintro ⟨⟩
    · cases call <;> rw [System.move_progress_self] <;> rintro ⟨⟩
    · exact hrunning ended answer
  exact hstart hdone

theorem Invariant.step_outcome (hfaithful : Faithful) (h : Invariant s) (event : Event)
    {call : Call} {answer : Answer} (hcompletes : Completes s (s.step w event) w call answer) :
    Outcome s (s.step w event) w call answer := by
  cases event with
  | start received => exact absurd hcompletes (not_completes_start s w received call answer)
  | advance => exact h.advance_outcome hfaithful hcompletes
  | cancel => exact h.cancel_outcome hcompletes

/-! ## The first decision wins -/

/-- What holds of a system, of all that follows it, and of the calls that end in it. -/
structure FirstWriteWins (s : System) : Prop where
  /-- A proposal has at most one binding. -/
  oneBinding : ∀ row ∈ s.table.rows, ∀ other ∈ s.table.rows,
    row.proposal = other.proposal → row = other
  /-- Neither a binding nor a decision changes. -/
  kept : ∀ row ∈ s.table.rows, ∀ events, ∃ later ∈ (s.run events).table.rows, Keeps row later
  /-- A row is read as a record of its keys, whose decision matches its binding. -/
  matching : ∀ row ∈ s.table.rows, ∃ record, recordOf row = .ok record ∧
    record.binding.requestReference = row.requestReference ∧
    record.binding.proposal = row.proposal ∧
    ∀ d ∈ record.decision, MatchesBinding d.evidence record.binding
  /-- A change of the table is a write of a call, and is remembered until the call has ended. -/
  written : ∀ w event, (s.step w event).table ≠ s.table → (s.step w event).wrote w = true
  remembered : ∀ v w event, s.wrote v = true →
    (s.step w event).wrote v = true ∨ v = w ∧ ∃ call, event = .start call
  outcome : ∀ w event call answer, Completes s (s.step w event) w call answer →
    Outcome s (s.step w event) w call answer

/-- **The first binding and the first decision win, however the workers interleave.** -/
theorem run_firstWriteWins (hfaithful : Faithful) (events : List (Worker × Event)) :
    FirstWriteWins (System.empty.run events) := by
  have h := Invariant.run hfaithful Invariant.empty events
  refine ⟨fun row hrow other hother hproposal ↦ ?_, fun row hrow later ↦ ?_, fun row hrow ↦ ?_,
    step_wrote _, step_keeps_wrote _, fun w event call answer hcompletes ↦ ?_⟩
  · exact ApprovalRequests.eq_of_proposal hrow hother hproposal
  · exact h.run_keeps hfaithful later hrow
  · obtain ⟨record, hrecord, hreference, hproposal⟩ := h.readable row hrow
    exact ⟨record, hrecord, hreference, hproposal, record.decision_matches_binding⟩
  · exact h.step_outcome hfaithful event hcompletes

end Records

/-! ## A JSON form

The documents that a `jsonb` column holds: `jsonb` orders the keys of an object by length. -/

namespace JsonForm

/-- The text of a JSON string. -/
def parseText : JsonValue → Option String
  | .str s => some (String.ofList (s.map fun c ↦ Char.ofNat c.val))
  | _ => none

theorem parseText_jsonText (text : String) : parseText (jsonText text) = some text := by
  have hchars : (PyStr.ofString text).map (fun c ↦ Char.ofNat c.val) = text.toList := by
    rw [PyStr.ofString, List.map_map]
    exact List.map_id'' (fun c ↦ Char.ofNat_toNat c) _
  rw [jsonText, parseText, hchars, String.ofList_toList]

/-- The instants of the sample in ISO 8601, any other as its number of microseconds. -/
def dumpInstant (t : Timestamp) : JsonValue :=
  if t = 0 then jsonText "1970-01-01T00:00:00Z"
  else if t = 60000000 then jsonText "1970-01-01T00:01:00Z"
  else .int t

def parseInstant : JsonValue → Option Timestamp
  | .int t => some t
  | value =>
    match parseText value with
    | some text =>
      if text = "1970-01-01T00:00:00Z" then some 0
      else if text = "1970-01-01T00:01:00Z" then some 60000000
      else none
    | none => none

theorem parseInstant_dumpInstant (t : Timestamp) : parseInstant (dumpInstant t) = some t := by
  rw [dumpInstant]
  split_ifs with hzero hminute
  · rw [hzero]
    rfl
  · rw [hminute]
    rfl
  · rfl

def dumpActionType (actionType : ActionType) : JsonValue :=
  .dict [jsonField "name" (jsonText actionType.name), jsonField "version" (.int actionType.version),
    jsonField "namespace" (jsonText actionType.actionNamespace)]

def parseActionType : JsonValue → Option ActionType
  | .dict [(_, name), (_, .int version), (_, actionNamespace)] => do
    let name ← parseText name
    let actionNamespace ← parseText actionNamespace
    if h : 1 ≤ version.toNat then some ⟨actionNamespace, name, version.toNat, h⟩ else none
  | _ => none

theorem parseActionType_dumpActionType (actionType : ActionType) :
    parseActionType (dumpActionType actionType) = some actionType := by
  simp [dumpActionType, parseActionType, jsonField, parseText_jsonText, actionType.version_pos]

def dumpBinding (binding : ApprovalRequestBinding) : JsonValue :=
  .dict [jsonField "audience" (jsonText binding.audience),
    jsonField "created_at" (dumpInstant binding.createdAt),
    jsonField "expires_at" (dumpInstant binding.expiresAt),
    jsonField "action_type" (dumpActionType binding.actionType),
    jsonField "schema_version" (jsonText "threvo.approval-request/v1"),
    jsonField "tenant_reference" (jsonText binding.tenantReference),
    jsonField "channel_assurance" (jsonText binding.channelAssurance),
    jsonField "request_reference" (jsonText binding.requestReference),
    jsonField "intended_authority" (jsonText binding.intendedAuthority),
    jsonField "proposal_reference" (jsonText binding.proposalReference),
    jsonField "proposal_commitment" (jsonText binding.proposalCommitment),
    jsonField "semantic_effect_reference" (jsonText binding.semanticEffectReference)]

def parseBinding : JsonValue → Option ApprovalRequestBinding
  | .dict [(_, audience), (_, createdAt), (_, expiresAt), (_, actionType), _, (_, tenant),
      (_, channel), (_, request), (_, authority), (_, proposal), (_, commitment), (_, effect)] => do
    let audience ← parseText audience
    let createdAt ← parseInstant createdAt
    let expiresAt ← parseInstant expiresAt
    let actionType ← parseActionType actionType
    let tenant ← parseText tenant
    let channel ← parseText channel
    let request ← parseText request
    let authority ← parseText authority
    let proposal ← parseText proposal
    let commitment ← parseText commitment
    let effect ← parseText effect
    if h : createdAt < expiresAt then
      some ⟨request, tenant, proposal, effect, actionType, commitment, authority, audience, channel,
        createdAt, expiresAt, h⟩
    else none
  | _ => none

theorem parseBinding_dumpBinding (binding : ApprovalRequestBinding) :
    parseBinding (dumpBinding binding) = some binding := by
  simp [dumpBinding, parseBinding, jsonField, parseText_jsonText, parseInstant_dumpInstant,
    parseActionType_dumpActionType, binding.valid_window]

def dumpDecisionKind : AuthorityDecision → JsonValue
  | .approve => jsonText "approve"
  | .reject => jsonText "reject"

def parseDecisionKind (value : JsonValue) : Option AuthorityDecision :=
  match parseText value with
  | some text =>
    if text = "approve" then some .approve
    else if text = "reject" then some .reject
    else none
  | none => none

theorem parseDecisionKind_dumpDecisionKind (decision : AuthorityDecision) :
    parseDecisionKind (dumpDecisionKind decision) = some decision := by
  cases decision <;> rfl

def dumpAttestation (attestation : ExternalAuthorityAttestation) : JsonValue :=
  .dict [jsonField "format" (jsonText attestation.format),
    jsonField "artifact_digest" (jsonText attestation.artifactDigest),
    jsonField "issuer_reference" (jsonText attestation.issuerReference),
    jsonField "artifact_reference" (jsonText attestation.artifactReference)]

def parseAttestation : JsonValue → Option (Option ExternalAuthorityAttestation)
  | .null => some none
  | .dict [(_, format), (_, digest), (_, issuer), (_, artifact)] => do
    let format ← parseText format
    let digest ← parseText digest
    let issuer ← parseText issuer
    let artifact ← parseText artifact
    some (some ⟨format, issuer, artifact, digest⟩)
  | _ => none

theorem parseAttestation_dumpAttestation (attestation : Option ExternalAuthorityAttestation) :
    parseAttestation (jsonOptional dumpAttestation attestation) = some attestation := by
  cases attestation with
  | none => rfl
  | some attestation =>
    simp [jsonOptional, dumpAttestation, parseAttestation, jsonField, parseText_jsonText]

def parseAudience : JsonValue → Option (List SafeReference)
  | .list items => items.mapM parseText
  | _ => none

theorem parseAudience_list (audience : List SafeReference) :
    parseAudience (.list (audience.map jsonText)) = some audience := by
  rw [parseAudience]
  induction audience with
  | nil => rfl
  | cons reference audience ih => simp [List.mapM_cons, parseText_jsonText, ih]

def dumpEvidence (evidence : AuthorityEvidence) : JsonValue :=
  .dict [jsonField "kind" (jsonText "bound_decision"),
    jsonField "domain" (jsonText "threvo.actions.authority-evidence"),
    jsonField "audience" (.list (evidence.audience.map jsonText)),
    jsonField "decision" (dumpDecisionKind evidence.decision),
    jsonField "authority" (.dict [jsonField "kind" (jsonText "confirming_authority"),
      jsonField "reference" (jsonText evidence.authority.reference)]),
    jsonField "issued_at" (dumpInstant evidence.issuedAt),
    jsonField "expires_at" (dumpInstant evidence.expiresAt),
    jsonField "action_type" (dumpActionType evidence.actionType),
    jsonField "schema_version" (jsonText "internal/v0"),
    jsonField "tenant_reference" (jsonText evidence.tenantReference),
    jsonField "channel_assurance" (jsonText evidence.channelAssurance),
    jsonField "proposal_commitment" (jsonText evidence.proposalCommitment),
    jsonField "external_attestation" (jsonOptional dumpAttestation evidence.externalAttestation),
    jsonField "semantic_effect_reference" (jsonText evidence.semanticEffectReference),
    jsonField "proposal_instance_reference" (jsonText evidence.proposalInstanceReference)]

def parseEvidence : JsonValue → Option AuthorityEvidence
  | .dict [_, _, (_, audience), (_, decision), (_, .dict [_, (_, authority)]), (_, issuedAt),
      (_, expiresAt), (_, actionType), _, (_, tenant), (_, channel), (_, commitment),
      (_, attestation), (_, effect), (_, proposal)] => do
    let audience ← parseAudience audience
    let decision ← parseDecisionKind decision
    let authority ← parseText authority
    let issuedAt ← parseInstant issuedAt
    let expiresAt ← parseInstant expiresAt
    let actionType ← parseActionType actionType
    let tenant ← parseText tenant
    let channel ← parseText channel
    let commitment ← parseText commitment
    let attestation ← parseAttestation attestation
    let effect ← parseText effect
    let proposal ← parseText proposal
    if h : audience ≠ [] ∧ issuedAt < expiresAt then
      some ⟨tenant, actionType, proposal, effect, ⟨authority⟩, audience, decision, commitment, channel,
        issuedAt, expiresAt, attestation, h.1, h.2⟩
    else none
  | _ => none

theorem parseEvidence_dumpEvidence (evidence : AuthorityEvidence) :
    parseEvidence (dumpEvidence evidence) = some evidence := by
  simp [dumpEvidence, parseEvidence, jsonField, parseText_jsonText, parseInstant_dumpInstant,
    parseActionType_dumpActionType, parseDecisionKind_dumpDecisionKind, parseAudience_list,
    parseAttestation_dumpAttestation, evidence.audience_ne_nil, evidence.expiry_follows_issue_time]

def dumpDecision (d : ApprovalDecisionRecord) : JsonValue :=
  .dict [jsonField "decision" (dumpDecisionKind d.decision),
    jsonField "evidence" (dumpEvidence d.evidence),
    jsonField "recorded_at" (dumpInstant d.recordedAt)]

def parseDecision : JsonValue → Option ApprovalDecisionRecord
  | .dict [(_, decision), (_, evidence), (_, recordedAt)] => do
    let decision ← parseDecisionKind decision
    let evidence ← parseEvidence evidence
    let recordedAt ← parseInstant recordedAt
    if h : decision = evidence.decision then some ⟨decision, evidence, recordedAt, h⟩ else none
  | _ => none

theorem parseDecision_dumpDecision (d : ApprovalDecisionRecord) :
    parseDecision (dumpDecision d) = some d := by
  simp only [dumpDecision, parseDecision, jsonField, parseDecisionKind_dumpDecisionKind,
    parseEvidence_dumpEvidence, parseInstant_dumpInstant, Option.bind_eq_bind, Option.bind_some,
    dif_pos d.decision_matches_evidence]

end JsonForm

@[reducible] def jsonForm : ApprovalJson :=
  ⟨JsonForm.dumpBinding, JsonForm.parseBinding, JsonForm.dumpDecision, JsonForm.parseDecision⟩

/-- The first approval of a request races with a rejection and wins. -/
def sampleRequest : ApprovalRequestBinding :=
  ⟨"approval-request:1", "tenant", "proposal", "effect", ⟨"billing", "refund", 1, Nat.one_pos⟩,
    "commitment", "alice", "web", "verified", 0, 60000000, by decide⟩

def sampleDecision (decision : AuthorityDecision) : ApprovalDecisionRecord :=
  ⟨decision, ⟨"tenant", ⟨"billing", "refund", 1, Nat.one_pos⟩, "proposal", "effect", ⟨"alice"⟩, ["web"],
    decision, "commitment", "verified", 0, 60000000, none, by simp, by decide⟩, 0, rfl⟩

def sampleRace : List (Worker × Event) :=
  [(0, .start (.create sampleRequest)), (0, .advance), (0, .advance),
    (0, .start (.recordDecision "approval-request:1" (sampleDecision .approve))),
    (1, .start (.recordDecision "approval-request:1" (sampleDecision .reject))),
    (0, .advance), (1, .advance), (0, .advance), (0, .advance), (1, .advance), (1, .advance)]

theorem run_firstWriteWins_sample :
    @FirstWriteWins jsonForm (@System.run jsonForm System.empty sampleRace) ∧
      (@System.run jsonForm System.empty sampleRace).progress 1 =
        .done (.recordDecision "approval-request:1" (sampleDecision .reject))
          (.error (.request "approval request already has a decision")) :=
  ⟨@run_firstWriteWins jsonForm (@Faithful.mk jsonForm JsonForm.parseBinding_dumpBinding
    JsonForm.parseDecision_dumpDecision) sampleRace, rfl⟩

end Approvals

end ThrevoActions
