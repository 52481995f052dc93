import ThrevoActions.Recovery
import ThrevoActions.Runtime.Histories
import ThrevoActions.Runtime.Schedules

/-!
# What a lifecycle status says about the record

Every status is entered by a write that also leaves its grounds on the record: an attempt under way
its `started` receipt, a completion the verification that reported it, a decision its evidence.
Outcomes are grounded by the very write that enters them, so nothing need be known of the record
before; evidence accumulates, so there the record before matters.
-/

namespace ThrevoActions

open Interleaving

variable {V : Type} [HostModels V] {H : Signature}

/-! ## Grounds of an outcome -/

/-- The statuses that say something about an attempt and its completion. -/
def LifecycleStatus.claimsOutcome : LifecycleStatus → Bool
  | .executing | .verified | .partiallySucceeded => true
  | _ => false

/-- The newest verification found the effect complete, and `P` holds of the items it lists. -/
def CompletionFound (record : StoredProposal) (P : List ItemOutcome → Prop) : Prop :=
  ∃ receipt, lastVerification record = some receipt ∧ receipt.status = .verifiedCompletion ∧
    P receipt.itemOutcomes

/-- Attempts and completions have their receipts on file. -/
structure OutcomeGrounded (record : StoredProposal) : Prop where
  executing : record.lifecycleStatus = .executing → ∃ front receipt,
    record.receipts = front ++ [.execution receipt] ∧ receipt.status = .started
  verified : record.lifecycleStatus = .verified →
    CompletionFound record fun items ↦ ∀ item ∈ items, item.status = .succeeded
  partiallySucceeded : record.lifecycleStatus = .partiallySucceeded →
    record.effectKind = .itemized ∧ CompletionFound record fun items ↦
      (∃ item ∈ items, item.status = .succeeded) ∧ ∃ item ∈ items, item.status ≠ .succeeded

theorem OutcomeGrounded.of_not_claims {record : StoredProposal}
    (h : record.lifecycleStatus.claimsOutcome = false) : OutcomeGrounded record := by
  constructor <;> intro hstatus <;> rw [hstatus] at h <;> cases h

/-- `verified` is reported by a completion without a failed item. -/
theorem verificationTransition_verified {definition : ActionDeclaration V}
    {record : StoredProposal} {verification : VerificationResult V} {attempts : ℕ}
    (htarget : (verificationTransition definition record verification attempts).target =
      .verified) :
    verification.status = .verifiedCompletion ∧
      ∀ item ∈ verification.itemOutcomes, item.status = .succeeded := by
  rw [verificationTransition] at htarget
  split at htarget
  case h_1 hstatus =>
    split_ifs at htarget with _ hfailed
    refine ⟨hstatus, ?_⟩
    simpa using hfailed
  all_goals (try split_ifs at htarget) <;> cases htarget

/-- `partially_succeeded` is reported by a completion of a declared itemized effect, with items of
both kinds. -/
theorem verificationTransition_partiallySucceeded {definition : ActionDeclaration V}
    {record : StoredProposal} {verification : VerificationResult V} {attempts : ℕ}
    (htarget : (verificationTransition definition record verification attempts).target =
      .partiallySucceeded) :
    verification.status = .verifiedCompletion ∧ record.effectKind = .itemized ∧
      (∃ item ∈ verification.itemOutcomes, item.status = .succeeded) ∧
        ∃ item ∈ verification.itemOutcomes, item.status ≠ .succeeded := by
  rw [verificationTransition] at htarget
  split at htarget
  case h_1 hstatus =>
    split_ifs at htarget with hundeclared hfailed
    have hmixed : ∃ item ∈ verification.itemOutcomes, item.status ≠ .succeeded := by
      simpa using hfailed
    have hlisted : verification.itemOutcomes ≠ [] := by
      obtain ⟨item, hitem, -⟩ := hmixed
      exact List.ne_nil_of_mem hitem
    -- what lists items was declared itemized
    have heffect : record.effectKind = .itemized := by
      by_contra hne
      exact hundeclared ⟨hlisted, Or.inr hne⟩
    exact ⟨hstatus, heffect, verification.completion_has_success hstatus hlisted, hmixed⟩
  all_goals (try split_ifs at htarget) <;> cases htarget

/-- **Whatever is written is grounded**: only a settled verification reports a completion, and its
receipt is the newest. -/
theorem Write.outcomeGrounded {h : RuntimeHistory V H} {current updated : StoredProposal}
    (hwrite : Write h current updated) : OutcomeGrounded updated := by
  have hunstarted := hwrite.not_executing
  cases hwrite with
  | expired | blocked | stale | superseded | takenOver | unresolved | resumed =>
    exact .of_not_claims rfl
  | authorityRecorded _ _ _ _ _ _ _ hdecided =>
    refine .of_not_claims ?_
    cases hdecided with
    | denied => rfl
    | evaluated evaluation =>
      rw [authorityRecordedProposal]
      dsimp only
      split_ifs <;> rfl
  | executionSettled =>
    refine .of_not_claims ?_
    rw [executionSettledProposal, executionSettlement]
    dsimp only
    split <;> rfl
  | verificationAdmitted _ hstatus =>
    refine .of_not_claims ?_
    rw [verificationAdmittedProposal]
    dsimp only
    rw [hstatus]
    rfl
  | @verificationSettled runtime definition previous verification now _ reference safeResult
      _ _ _ _ =>
    set admitted := verificationAdmittedProposal definition previous now
    set receipt := verificationReceipt runtime definition admitted reference now
      verification.status.receiptStatus verification with hreceipt
    set transition := verificationTransition definition admitted verification
      admitted.verificationAttempts with htransition
    have hlast : lastVerification (verificationSettledProposal definition admitted receipt
        transition safeResult now) = some receipt :=
      lastVerification_append admitted (.verification receipt) rfl
    have hcompleted : verification.status = .verifiedCompletion →
        receipt.status = .verifiedCompletion := by
      intro hcompletion
      rw [hreceipt, verificationReceipt, hcompletion]
      rfl
    refine ⟨fun hexecuting ↦ ?_, fun hverified ↦ ?_, fun hpartial ↦ ?_⟩
    · exact absurd hexecuting hunstarted
    · obtain ⟨hcompletion, hitems⟩ := verificationTransition_verified hverified
      exact ⟨receipt, hlast, hcompleted hcompletion, hitems⟩
    · obtain ⟨hcompletion, heffect, hitems⟩ := verificationTransition_partiallySucceeded hpartial
      exact ⟨heffect, receipt, hlast, hcompleted hcompletion, hitems⟩

/-! ## Grounds of a decision -/

/-- The statuses only an approved proposal reaches. -/
def LifecycleStatus.needsApproval : LifecycleStatus → Bool
  | .awaitingAuthority | .denied | .expired => false
  | _ => true

theorem needsApproval_iff {status : LifecycleStatus} :
    status.needsApproval = true ↔ status ∉ [.awaitingAuthority, .denied, .expired] := by
  cases status <;> decide

/-- Refusals and approvals are on file. -/
structure DecisionGrounded (record : StoredProposal) : Prop where
  denied : record.lifecycleStatus = .denied ↔
    ∃ evidence ∈ record.authorityEvidence, evidence.decision = .deny
  approved : record.lifecycleStatus.needsApproval = true →
    ∃ evidence ∈ record.authorityEvidence, evidence.decision = .approve

namespace DecisionGrounded

variable {record current updated : StoredProposal}

theorem undenied (hrecord : DecisionGrounded record) (h : record.lifecycleStatus ≠ .denied) :
    ∀ evidence ∈ record.authorityEvidence, evidence.decision ≠ .deny :=
  fun evidence hmem hdeny ↦ h (hrecord.denied.mpr ⟨evidence, hmem, hdeny⟩)

/-- With an approval on file, `_last_authority` finds one. -/
theorem lastAuthority_ok (hrecord : DecisionGrounded record)
    (h : record.lifecycleStatus.needsApproval = true) :
    ∃ authority, lastAuthority record = .ok authority := by
  obtain ⟨evidence, hmem, happrove⟩ := hrecord.approved h
  rw [lastAuthority]
  split
  · exact ⟨_, rfl⟩
  · rename_i hnone
    rw [List.find?_eq_none] at hnone
    exact absurd (by rw [happrove]; rfl) (hnone evidence (List.mem_reverse.mpr hmem))

/-- A write that leaves the evidence as it is stays grounded, if it neither refuses nor reopens and
needs no approval that was not needed before. -/
theorem keep (hcurrent : DecisionGrounded current)
    (hevidence : updated.authorityEvidence = current.authorityEvidence)
    (hfrom : current.lifecycleStatus ≠ .denied) (hto : updated.lifecycleStatus ≠ .denied)
    (happroved : updated.lifecycleStatus.needsApproval = true →
      current.lifecycleStatus.needsApproval = true) : DecisionGrounded updated where
  denied := by
    rw [hevidence, ← hcurrent.denied]
    exact iff_of_false hto hfrom
  approved h := by
    rw [hevidence]
    exact hcurrent.approved (happroved h)

/-- Recorded evidence grounds the status it leads to. -/
theorem recorded {h : RuntimeHistory V H} {definition : ActionDeclaration V}
    {evidence : AuthorityEvidence} {binding : AuthorityBinding} {now : Timestamp}
    {decided : AuthorityOutcome} (hcurrent : DecisionGrounded current)
    (hstatus : current.lifecycleStatus = .awaitingAuthority)
    (hdecided : Decided h definition current evidence binding now decided)
    (receipt : AuthorityReceipt) :
    DecisionGrounded (authorityRecordedProposal current evidence receipt decided.target) := by
  have hundenied := hcurrent.undenied (by rw [hstatus]; rintro ⟨⟩)
  have hlast : evidence ∈ current.authorityEvidence ++ [evidence] :=
    List.mem_append_right _ (List.mem_singleton_self _)
  cases hdecided with
  | denied hdeny => exact ⟨iff_of_true rfl ⟨evidence, hlast, hdeny⟩, (by rintro ⟨⟩)⟩
  | evaluated evaluation happrove =>
    refine ⟨iff_of_false ?_ ?_, fun _ ↦ ⟨evidence, hlast, happrove⟩⟩
    · rw [authorityRecordedProposal]
      dsimp only
      split_ifs <;> rintro ⟨⟩
    · rintro ⟨item, hitem, hdeny⟩
      rw [authorityRecordedProposal, List.mem_append, List.mem_singleton] at hitem
      rcases hitem with hitem | rfl
      · exact hundenied item hitem hdeny
      · rw [happrove] at hdeny
        cases hdeny

end DecisionGrounded

/-- **A guarded write over a grounded decision leaves a grounded one.** -/
theorem Write.decisionGrounded {h : RuntimeHistory V H} {current updated : StoredProposal}
    (hwrite : Write h current updated) (hcurrent : DecisionGrounded current) :
    DecisionGrounded updated := by
  cases hwrite with
  | authorityRecorded _ _ hstatus _ _ _ _ hdecided => exact hcurrent.recorded hstatus hdecided _
  | expired hstatus =>
    refine hcurrent.keep rfl ?_ (by rintro ⟨⟩) (by rintro ⟨⟩)
    rcases hstatus with hstatus | hstatus <;> rw [hstatus] <;> rintro ⟨⟩
  | blocked _ hstatus | stale _ _ hstatus | superseded hstatus | unresolved hstatus =>
    refine hcurrent.keep rfl ?_ (by rintro ⟨⟩) fun _ ↦ ?_ <;> rw [hstatus] <;> decide
  | executionSettled _ _ hstatus =>
    refine hcurrent.keep rfl ?_ ?_ fun _ ↦ ?_
    · rw [hstatus]; rintro ⟨⟩
    · rw [executionSettledProposal, executionSettlement]
      dsimp only
      split <;> rintro ⟨⟩
    · rw [hstatus]; decide
  | takenOver hstatus =>
    refine hcurrent.keep rfl ?_ (by rintro ⟨⟩) fun _ ↦ ?_ <;>
      rcases hstatus with hstatus | hstatus <;> rw [hstatus] <;> decide
  | verificationAdmitted _ hstatus =>
    have hsame : current.lifecycleStatus ≠ .denied := by rw [hstatus]; rintro ⟨⟩
    exact hcurrent.keep rfl hsame hsame id
  | @verificationSettled runtime definition previous verification now _ _ _ hstatus =>
    have hpending : (verificationAdmittedProposal definition previous now).lifecycleStatus =
        .verificationPending := hstatus
    refine hcurrent.keep rfl ?_ ?_ fun _ ↦ ?_
    · rw [hpending]; rintro ⟨⟩
    · rw [verificationSettledProposal, verificationTransition]
      dsimp only
      split
      all_goals (try split_ifs) <;> rintro ⟨⟩
    · rw [hpending]; decide
  | resumed _ hstatus =>
    refine hcurrent.keep rfl ?_ (by rintro ⟨⟩) fun _ ↦ ?_ <;>
      rcases hstatus with hstatus | hstatus <;> rw [hstatus] <;> decide

/-! ## Every record on file -/

/-- The status of a record agrees with what else is on it. -/
structure StatusAgrees (record : StoredProposal) : Prop where
  outcome : OutcomeGrounded record
  decision : DecisionGrounded record

/-- One step over a record whose status agrees with it leaves such a record, or an erased one. -/
theorem Change.statusAgrees {h : RuntimeHistory V H} {o : Op V H} {before : Option StoredProposal}
    {record : StoredProposal} (hchange : Change h o before record)
    (hbefore : ∀ current, before = some current → current.erasedAt = none → StatusAgrees current)
    (hrecord : record.erasedAt = none) : StatusAgrees record := by
  cases hchange with
  | created _ hissued =>
    obtain ⟨_, _, _, _, _, _, _, _, _, _, _, _, rfl, -⟩ := hissued
    refine ⟨.of_not_claims rfl, iff_of_false nofun ?_, nofun⟩
    rintro ⟨evidence, hmem, -⟩
    cases hmem
  | @written current _ _ hissued =>
    have hcurrent := hbefore current rfl (erasedAt_of_unmarked hissued.unmarked)
    exact ⟨hissued.write.outcomeGrounded, hissued.write.decisionGrounded hcurrent.decision⟩
  | @admitted args runtime definition current _ reference _ hissued =>
    have hcurrent := hbefore current rfl (erasedAt_of_unmarked hissued.unmarked)
    rw [hissued.updated]
    refine ⟨⟨fun _ ↦ ⟨current.receipts, _, rfl, rfl⟩, nofun, nofun⟩, ?_⟩
    refine hcurrent.decision.keep rfl ?_ nofun fun _ ↦ ?_ <;> rw [hissued.authorized] <;> decide
  | @erasureMarked _ current =>
    have hcurrent := hbefore current rfl hrecord
    exact ⟨⟨hcurrent.outcome.executing, hcurrent.outcome.verified,
      hcurrent.outcome.partiallySucceeded⟩, ⟨hcurrent.decision.denied, hcurrent.decision.approved⟩⟩
  | erased => cases hrecord

section Reachable

variable [UnicodeNormalization] {env : Env V H} {executorOf : ExecutorOf V H}
  {hostIssues : RuntimeHistory V H → H.Op → Prop} {start : Timestamp} {c : RuntimeConfig V H}

theorem RuntimeReachable.statusAgrees
    (hexecutors : ∀ definition, LawfulExecutor hostIssues definition (executorOf definition))
    (hc : RuntimeReachable env executorOf start c) {key : ProposalKey} {record : StoredProposal}
    (hrecord : c.shared.store.proposals key = some record) (hunerased : record.erasedAt = none) :
    StatusAgrees record := by
  refine hc.record_induction hexecutors ?_ hrecord hunerased
  intro h o before record hchange hbefore hunerased
  exact hchange.statusAgrees hbefore hunerased

/-- **Status and history.** Whatever workers do, an unerased record on file opens with the receipt
of its preparation, and its status is grounded: in the receipt of the attempt under way, in the
newest verification, and in the decisions on file. -/
theorem status_agrees_with_history (hc : RuntimeReachable env (hostExecutors V H) start c)
    {key : ProposalKey} {record : StoredProposal}
    (hrecord : c.shared.store.proposals key = some record) (hunerased : record.erasedAt = none) :
    (∃ receipt rest, record.receipts = .proposal receipt :: rest ∧ receipt.status = .prepared) ∧
    (record.lifecycleStatus = .executing → ∃ front receipt,
      record.receipts = front ++ [.execution receipt] ∧ receipt.status = .started) ∧
    (record.lifecycleStatus = .verified → ∃ receipt, lastVerification record = some receipt ∧
      receipt.status = .verifiedCompletion ∧
      ∀ item ∈ receipt.itemOutcomes, item.status = .succeeded) ∧
    (record.lifecycleStatus = .partiallySucceeded → record.effectKind = .itemized ∧
      ∃ receipt, lastVerification record = some receipt ∧ receipt.status = .verifiedCompletion ∧
        (∃ item ∈ receipt.itemOutcomes, item.status = .succeeded) ∧
        ∃ item ∈ receipt.itemOutcomes, item.status ≠ .succeeded) ∧
    (record.lifecycleStatus = .denied ↔
      ∃ evidence ∈ record.authorityEvidence, evidence.decision = .deny) ∧
    (record.lifecycleStatus ∉ [.awaitingAuthority, .denied, .expired] →
      (∃ evidence ∈ record.authorityEvidence, evidence.decision = .approve) ∧
      (∀ evidence ∈ record.authorityEvidence, evidence.decision ≠ .deny) ∧
      ∃ authority, lastAuthority record = .ok authority) := by
  obtain ⟨houtcome, hdecision⟩ := hc.statusAgrees hostExecutors_lawful_any hrecord hunerased
  refine ⟨(hc.soundHistory hostExecutors_lawful_any hrecord hunerased).prepared,
    houtcome.executing, houtcome.verified, houtcome.partiallySucceeded, hdecision.denied,
    fun hstatus ↦ ⟨hdecision.approved (needsApproval_iff.mpr hstatus), hdecision.undenied ?_,
      hdecision.lastAuthority_ok (needsApproval_iff.mpr hstatus)⟩⟩
  intro hdenied
  rw [hdenied] at hstatus
  exact hstatus (by decide)

end Reachable

section Sample

attribute [local instance] normalizedTexts

theorem sampleCompletion_status :
    (sampleCompletion.shared.store.proposals ("tenant", "proposal")).map
      (fun record ↦ (record.lifecycleStatus, record.erasedAt)) = some (.verified, none) := by
  decide +kernel

/-- The verified sample has the verification on file that completed it. -/
theorem status_agrees_with_history_sample :
    ∃ record receipt, sampleCompletion.shared.store.proposals ("tenant", "proposal") = some record ∧
      record.lifecycleStatus = .verified ∧ lastVerification record = some receipt ∧
      receipt.status = .verifiedCompletion := by
  obtain ⟨record, hrecord, hfacts⟩ := Option.map_eq_some_iff.mp sampleCompletion_status
  obtain ⟨hstatus, hunerased⟩ := Prod.mk.inj hfacts
  obtain ⟨-, -, hverified, -⟩ := status_agrees_with_history (c := sampleCompletion)
    (sampleRun_reachable _ _ _) hrecord hunerased
  obtain ⟨receipt, hlast, hcompletion, -⟩ := hverified hstatus
  exact ⟨record, receipt, hrecord, hstatus, hlast, hcompletion⟩

end Sample

end ThrevoActions
