import ThrevoActions.Runtime.Attempts

/-!
# No blind resend

An executor is handed an attempt at most once for each `started` receipt, and a second `started`
receipt needs a receipt of an authoritative final absence. Two proposals with one effect are both
admitted only if the first of them failed without an effect.

The counting is in two parts. Within one coroutine every dispatch directly follows its own
admission, so dispatches are bounded by admissions, call by call and hence in the whole log. Over
the log, an invariant relates the receipts stored so far to the lifecycle status on file.
-/

namespace ThrevoActions

open Interleaving
open MemoryActionStore (EffectsOwned)

variable {V : Type} [HostModels V] {H : Signature}

/-! ## Receipts ever stored -/

/-- The receipts on file for the proposal under `key`. -/
def MemoryActionStore.receiptsOf (store : MemoryActionStore) (key : ProposalKey) : List Receipt :=
  match store.proposals key with
  | none => []
  | some record => record.receipts

/-- The receipts one logged operation added to those on file. -/
def addedReceipts (key : ProposalKey) (e : Entry (runtimeSignature V H) Exn World) :
    List Receipt :=
  (e.after.store.receiptsOf key).drop (e.before.store.receiptsOf key).length

/-- All receipts ever stored for the proposal under `key`, oldest first. Erasing the proposal
does not take them back. -/
def receiptsStored (key : ProposalKey) : RuntimeLog V H → List Receipt
  | [] => []
  | e :: log => receiptsStored key log ++ addedReceipts key e

/-- How many `started` receipts were ever stored. -/
def startedCount (key : ProposalKey) (log : RuntimeLog V H) : ℕ :=
  (receiptsStored key log).countP (Receipt.isExecution .started)

/-- How many receipts of an authoritative final absence were ever stored. -/
def absenceCount (key : ProposalKey) (log : RuntimeLog V H) : ℕ :=
  (receiptsStored key log).countP (Receipt.isVerification .authoritativeFinalAbsence)

theorem startedCount_cons (key : ProposalKey) (e : Entry (runtimeSignature V H) Exn World)
    (log : RuntimeLog V H) : startedCount key (e :: log) =
      startedCount key log + (addedReceipts key e).countP (Receipt.isExecution .started) := by
  rw [startedCount, receiptsStored, List.countP_append]
  rfl

theorem absenceCount_cons (key : ProposalKey) (e : Entry (runtimeSignature V H) Exn World)
    (log : RuntimeLog V H) : absenceCount key (e :: log) = absenceCount key log +
      (addedReceipts key e).countP (Receipt.isVerification .authoritativeFinalAbsence) := by
  rw [absenceCount, receiptsStored, List.countP_append]
  rfl

/-! ## What each write adds -/

/-- `0` while a proposal waits to be admitted, `1` from then on. -/
def LifecycleStatus.begun : LifecycleStatus → ℕ
  | .awaitingAuthority | .authorized => 0
  | _ => 1

theorem LifecycleStatus.begun_le (status : LifecycleStatus) : status.begun ≤ 1 := by
  cases status <;> decide

/-- One status after another: the added receipts start an attempt only out of a status that has
not begun, and return to such a status only with an observed final absence. -/
def Accounted (status target : LifecycleStatus) (added : List Receipt) : Prop :=
  added.countP (Receipt.isExecution .started) + status.begun ≤
    added.countP (Receipt.isVerification .authoritativeFinalAbsence) + target.begun

theorem Accounted.of_begun {status target : LifecycleStatus} {added : List Receipt}
    (htarget : target.begun = 1) (hadded : added.countP (Receipt.isExecution .started) = 0) :
    Accounted status target added := by
  have hstatus := status.begun_le
  rw [Accounted, htarget, hadded]
  omega

theorem Accounted.of_waiting {status target : LifecycleStatus} {added : List Receipt}
    (hstatus : status.begun = 0) (hadded : added.countP (Receipt.isExecution .started) = 0) :
    Accounted status target added := by
  rw [Accounted, hstatus, hadded]
  exact Nat.zero_le _

/-- `_settle_execution` leaves an attempt begun, and stores no second `started` receipt. -/
theorem executionSettlement_begun (definition : ActionDeclaration V)
    (execution : ExecutionResult V) (now : Timestamp) :
    (executionSettlement definition execution now).target.begun = 1 ∧
      (executionSettlement definition execution now).receiptStatus ≠ .started := by
  rw [executionSettlement]
  split <;> exact ⟨rfl, (by rintro ⟨⟩)⟩

/-- `_verification_transition` returns to an authorized proposal on a final absence only. -/
theorem verificationTransition_begun (definition : ActionDeclaration V) (record : StoredProposal)
    (verification : VerificationResult V) (attempts : ℕ)
    (hstatus : verification.status ≠ .authoritativeFinalAbsence) :
    (verificationTransition definition record verification attempts).target.begun = 1 := by
  rw [verificationTransition]
  split
  · split_ifs <;> rfl
  · rfl
  · rename_i habsence
    exact absurd habsence hstatus
  · split_ifs <;> rfl
  · split_ifs <;> rfl

/-- **What a guarded write adds to the receipts.** -/
theorem Write.accounted {h : RuntimeHistory V H} {current updated : StoredProposal}
    (hwrite : Write h current updated) :
    ∃ added, updated.receipts = current.receipts ++ added ∧
      Accounted current.lifecycleStatus updated.lifecycleStatus added := by
  cases hwrite with
  | expired | superseded | takenOver | unresolved =>
    exact ⟨[], (List.append_nil _).symm, .of_begun rfl rfl⟩
  | authorityRecorded runtime definition hstatus =>
    refine ⟨_, rfl, .of_waiting ?_ rfl⟩
    rw [hstatus]
    rfl
  | blocked | stale | resumed => exact ⟨_, rfl, .of_begun rfl rfl⟩
  | executionSettled runtime definition =>
    obtain ⟨htarget, hreceipt⟩ := executionSettlement_begun definition _ _
    refine ⟨_, rfl, .of_begun htarget ?_⟩
    rw [List.countP_eq_zero]
    intro receipt hmem
    rw [List.mem_singleton.mp hmem]
    simpa [Receipt.isExecution, executionReceipt] using hreceipt
  | verificationAdmitted definition => exact ⟨[], (List.append_nil _).symm, Nat.le_refl _⟩
  | @verificationSettled runtime definition previous verification now context reference safeResult
      hstatus =>
    refine ⟨_, rfl, ?_⟩
    by_cases habsence : verification.status = .authoritativeFinalAbsence
    · -- the absence pays for whatever follows
      rw [Accounted]
      simp [verificationAdmittedProposal, hstatus, Receipt.isExecution, Receipt.isVerification,
        verificationReceipt, habsence, VerificationStatus.receiptStatus, LifecycleStatus.begun]
    · exact .of_begun (verificationTransition_begun definition _ verification _ habsence) rfl

/-- Whether the proposal on file under `key` has begun an attempt. -/
def MemoryActionStore.begun (store : MemoryActionStore) (key : ProposalKey) : ℕ :=
  match store.proposals key with
  | none => 0
  | some record => record.lifecycleStatus.begun

theorem MemoryActionStore.receiptsOf_some {store : MemoryActionStore} {key : ProposalKey}
    {record : StoredProposal} (h : store.proposals key = some record) :
    store.receiptsOf key = record.receipts := by
  rw [receiptsOf, h]

theorem MemoryActionStore.begun_some {store : MemoryActionStore} {key : ProposalKey}
    {record : StoredProposal} (h : store.proposals key = some record) :
    store.begun key = record.lifecycleStatus.begun := by
  rw [begun, h]

/-- An operation's own balance of started attempts and observed absences. -/
def Balanced (key : ProposalKey) (e : Entry (runtimeSignature V H) Exn World) : Prop :=
  (addedReceipts key e).countP (Receipt.isExecution .started) + e.before.store.begun key ≤
    (addedReceipts key e).countP (Receipt.isVerification .authoritativeFinalAbsence) +
      e.after.store.begun key

theorem Balanced.of_unchanged {key : ProposalKey} {e : Entry (runtimeSignature V H) Exn World}
    (hsame : e.after.store.proposals key = e.before.store.proposals key) : Balanced key e := by
  have hreceipts : e.after.store.receiptsOf key = e.before.store.receiptsOf key := by
    rw [MemoryActionStore.receiptsOf, hsame, MemoryActionStore.receiptsOf]
  have hbegun : e.after.store.begun key = e.before.store.begun key := by
    rw [MemoryActionStore.begun, hsame, MemoryActionStore.begun]
  rw [Balanced, addedReceipts, hreceipts, hbegun, List.drop_length]
  exact Nat.le_refl _

/-- An operation that succeeds the record on file is balanced if the receipts it adds are accounted
for. -/
theorem Balanced.of_accounted {key : ProposalKey} {e : Entry (runtimeSignature V H) Exn World}
    {current updated : StoredProposal} {added : List Receipt}
    (hbefore : e.before.store.proposals key = some current)
    (hafter : e.after.store.proposals key = some updated)
    (hadded : updated.receipts = current.receipts ++ added)
    (haccounted : Accounted current.lifecycleStatus updated.lifecycleStatus added) :
    Balanced key e := by
  rw [Balanced, addedReceipts, MemoryActionStore.receiptsOf_some hbefore,
    MemoryActionStore.receiptsOf_some hafter, MemoryActionStore.begun_some hbefore,
    MemoryActionStore.begun_some hafter, hadded, List.drop_left]
  exact haccounted

/-- **The step lemma.** Every operation is balanced. -/
theorem Change.balanced {h : RuntimeHistory V H} {key : ProposalKey}
    {e : Entry (runtimeSignature V H) Exn World} {record : StoredProposal}
    (hchange : Change h e.event.op (e.before.store.proposals key) record)
    (hafter : e.after.store.proposals key = some record) : Balanced key e := by
  generalize hbefore : e.before.store.proposals key = before at hchange
  cases hchange with
  | created _ hissued _ =>
    obtain ⟨runtime, definition, _, _, _, reference, _, _, _, _, _, _, rfl, _⟩ := hissued
    have hnone : e.before.store.begun key = 0 := by rw [MemoryActionStore.begun, hbefore]
    rw [Balanced, hnone, addedReceipts, MemoryActionStore.receiptsOf_some hafter,
      MemoryActionStore.receiptsOf, hbefore]
    exact Nat.zero_le _
  | written _ hissued _ =>
    obtain ⟨added, hadded, haccounted⟩ := hissued.write.accounted
    exact .of_accounted hbefore hafter hadded haccounted
  | admitted _ hissued _ _ =>
    rw [hissued.updated] at hafter
    refine .of_accounted hbefore hafter rfl ?_
    rw [hissued.authorized]
    exact Nat.le_refl 1
  | erasureMarked => exact .of_accounted hbefore hafter (List.append_nil _).symm (Nat.le_refl _)
  | @erased args current =>
    -- the receipts are gone, and nothing is added
    have hnil : addedReceipts key e = [] := by
      rw [addedReceipts, MemoryActionStore.receiptsOf_some hafter]
      exact List.drop_nil
    rw [Balanced, hnil, MemoryActionStore.begun_some hbefore, MemoryActionStore.begun_some hafter]
    exact Nat.le_refl _

section Reachable

variable [UnicodeNormalization] {env : Env V H} {executorOf : ExecutorOf V H}
  {hostIssues : RuntimeHistory V H → H.Op → Prop} {start : Timestamp} {c : RuntimeConfig V H}

/-- **The run lemma.** As many attempts were started as final absences were observed, and one more
while the proposal on file has begun one. -/
theorem RuntimeReachable.startedCount_le
    (hexecutors : ∀ definition, LawfulExecutor hostIssues definition (executorOf definition))
    (hc : RuntimeReachable env executorOf start c) (key : ProposalKey) :
    startedCount key c.log ≤ absenceCount key c.log + c.shared.store.begun key := by
  refine RuntimeReachable.induction (P := fun log world ↦
    startedCount key log ≤ absenceCount key log + world.store.begun key) hexecutors ?_ ?_ ?_ hc
  · exact Nat.zero_le _
  · intro c hc i o answer world' hissues hexec ih
    have hbalanced : Balanced key (⟨i, ⟨o, answer⟩, c.shared, world'⟩ :
        Entry (runtimeSignature V H) Exn World) := by
      rcases hc.change hissues hexec key with hsame | ⟨record, hafter, hchange⟩
      · exact .of_unchanged hsame
      · exact hchange.balanced (e := ⟨i, ⟨o, answer⟩, c.shared, world'⟩) hafter
    rw [Balanced] at hbalanced
    rw [startedCount_cons, absenceCount_cons]
    dsimp only at hbalanced ⊢
    omega
  · intro log world time _ ih
    exact ih

end Reachable

/-! ## Dispatches and admissions -/

/-- The event hands the proposal under `key` to its executor. -/
def dispatches (key : ProposalKey) (ev : Event (runtimeSignature V H) Exn) : Bool :=
  match ev.op with
  | .execute _ _ context _ =>
    decide ((context.tenantReference, context.proposalReference) = key)
  | _ => false

/-- The event is a granted admission of the proposal under `key`. -/
def grants (key : ProposalKey) : Event (runtimeSignature V H) Exn → Bool
  | ⟨.admitExecution args, .ok claim⟩ =>
    claim.admits && decide ((args.tenantReference, args.proposalReference) = key)
  | _ => false

/-- How often the proposal under `key` was handed to its executor. -/
def dispatchCount (key : ProposalKey) (log : RuntimeLog V H) : ℕ :=
  log.countP fun e ↦ dispatches key e.event

theorem dispatches_eq_true {key : ProposalKey} {ev : Event (runtimeSignature V H) Exn}
    (h : dispatches key ev = true) :
    ∃ definition snapshot context executionPrecondition,
      ev.op = .execute definition snapshot context executionPrecondition ∧
        (context.tenantReference, context.proposalReference) = key := by
  obtain ⟨o, answer⟩ := ev
  cases o with
  | execute definition snapshot context executionPrecondition =>
    exact ⟨definition, snapshot, context, executionPrecondition, rfl, of_decide_eq_true h⟩
  | _ => cases h

theorem grants_eq_true {key : ProposalKey} {ev : Event (runtimeSignature V H) Exn}
    (h : grants key ev = true) :
    ∃ (args : MemoryActionStore.AdmitExecution) (claim : EffectClaimResult),
      ev = ⟨.admitExecution args, .ok claim⟩ ∧ claim.admits = true ∧
        (args.tenantReference, args.proposalReference) = key := by
  obtain ⟨o, answer⟩ := ev
  cases o with
  | admitExecution args =>
    cases answer with
    | ok claim =>
      rw [grants, Bool.and_eq_true, decide_eq_true_eq] at h
      exact ⟨args, claim, rfl, h⟩
    | error failure => cases h
  | _ => cases h

theorem grants_admission {args : MemoryActionStore.AdmitExecution} {claim : EffectClaimResult}
    (hclaim : claim.admits = true) :
    grants (args.tenantReference, args.proposalReference)
      (⟨.admitExecution args, .ok claim⟩ : Event (runtimeSignature V H) Exn) = true := by
  rw [grants, hclaim, decide_eq_true rfl]
  rfl

section Counting

variable [UnicodeNormalization] {env : Env V H} {executorOf : ExecutorOf V H}
  {hostIssues : RuntimeHistory V H → H.Op → Prop} {start : Timestamp} {c : RuntimeConfig V H}

/-- A dispatch directly follows the clock reading that follows its admission. -/
theorem dispatch_follows_admission {h : RuntimeHistory V H} {key : ProposalKey}
    {ev : Event (runtimeSignature V H) Exn}
    (hissues : (runtimeContract hostIssues).issues h ev.op) (hev : dispatches key ev = true) :
    ∃ reading admission older, h = ⟨.now, reading⟩ :: admission :: older ∧
      grants key admission = true := by
  obtain ⟨definition, snapshot, context, executionPrecondition, hop, rfl⟩ :=
    dispatches_eq_true hev
  rw [hop] at hissues
  obtain ⟨args, claim, record, commitment, evidence, resolved, hready⟩ := hissues
  obtain ⟨runtime, reference, older, hhistory, hadmission⟩ := hready.justAdmitted
  obtain ⟨hkey, -⟩ := executionContext_fields hready.contextOf
  refine ⟨_, _, older, hhistory, ?_⟩
  rw [hkey, ← hadmission.key]
  exact grants_admission hready.admits

/-- Within one history, dispatches are at most as many as granted admissions. -/
theorem countP_dispatches_le {h : RuntimeHistory V H} (key : ProposalKey)
    (hissued : ∀ ev past, ev :: past <:+ h → (runtimeContract hostIssues).issues past ev.op) :
    h.countP (dispatches key) ≤ h.countP (grants key) := by
  refine countP_le_of_preceded fun ev past hev hdispatches ↦ ?_
  obtain ⟨reading, admission, older, hpast, hgrants⟩ :=
    dispatch_follows_admission (hissued ev past hev) hdispatches
  refine ⟨[⟨.now, reading⟩], admission, older, hpast, hgrants, fun z hz ↦ ?_⟩
  obtain ⟨args, claim, rfl, -⟩ := grants_eq_true hgrants
  rcases List.mem_cons.mp hz with rfl | hz
  · rfl
  · rw [List.mem_singleton.mp hz]
    rfl

/-- A granted admission stores a `started` receipt. -/
theorem grants_started {world' : World} {i : ℕ} {o : Op V H} {answer : Except Exn o.Ans}
    (hc : RuntimeReachable env executorOf start c)
    (hissues : (runtimeContract hostIssues).issues (historyOf c.log i) o)
    (hexec : c.shared.exec env o answer world') {key : ProposalKey}
    (hgrants : grants key (⟨o, answer⟩ : Event (runtimeSignature V H) Exn) = true) :
    1 ≤ (addedReceipts key (⟨i, ⟨o, answer⟩, c.shared, world'⟩ :
      Entry (runtimeSignature V H) Exn World)).countP (Receipt.isExecution .started) := by
  obtain ⟨args, claim, hevent, hclaim, rfl⟩ := grants_eq_true hgrants
  cases hevent
  rcases hc.change hissues hexec (args.tenantReference, args.proposalReference) with
    hsame | ⟨record, hafter, hchange⟩
  · -- a granted admission replaces the record by its next revision
    obtain ⟨hanswer, rfl⟩ := World.StoreCall.ok hexec
    rcases MemoryActionStore.admitExecution_cases c.shared.store args with
      ⟨-, hrefused⟩ | ⟨current, result, -, -, happlied⟩
    · rw [hrefused claim hanswer] at hclaim
      cases hclaim
    · have hkey : (args.tenantReference, args.proposalReference) = args.updated.key := by
        rw [← StoredProposal.key_eq_of_identity happlied.accepted.identity]
        exact (hc.effectsOwned.filed _ _ happlied.found).symm
      have hafter := congrFun happlied.proposals (args.tenantReference, args.proposalReference)
      rw [hsame, happlied.found, hkey, MemoryActionStore.put_proposals_self] at hafter
      have hrevision := happlied.accepted.revision
      rw [Option.some.inj hafter] at hrevision
      omega
  · generalize hbefore : c.shared.store.proposals _ = before at hchange
    cases hchange with
    | @admitted _ runtime definition record executionPrecondition reference ho hissued =>
      cases ho
      rw [hissued.updated] at hafter
      rw [addedReceipts, MemoryActionStore.receiptsOf_some hbefore,
        MemoryActionStore.receiptsOf_some hafter]
      simp [executingProposal, Receipt.isExecution, executionReceipt]
    | created ho | written ho | erasureMarked ho | erased ho => cases ho

/-- Over the log, granted admissions are at most as many as `started` receipts. -/
theorem RuntimeReachable.countP_grants_le
    (hexecutors : ∀ definition, LawfulExecutor hostIssues definition (executorOf definition))
    (hc : RuntimeReachable env executorOf start c) (key : ProposalKey) :
    c.log.countP (fun e ↦ grants key e.event) ≤ startedCount key c.log := by
  refine RuntimeReachable.induction (P := fun log _ ↦
    log.countP (fun e ↦ grants key e.event) ≤ startedCount key log) hexecutors ?_ ?_ ?_ hc
  · exact Nat.zero_le _
  · intro c hc i o answer world' hissues hexec ih
    rw [startedCount_cons, List.countP_cons]
    by_cases hgrants : grants key (⟨o, answer⟩ : Event (runtimeSignature V H) Exn) = true
    · have hstarted := grants_started hc hissues hexec hgrants
      rw [if_pos hgrants]
      omega
    · rw [if_neg hgrants]
      omega
  · intro log world time _ ih
    exact ih

/-- **Dispatches are paid for by `started` receipts.** -/
theorem RuntimeReachable.dispatchCount_le
    (hexecutors : ∀ definition, LawfulExecutor hostIssues definition (executorOf definition))
    (hc : RuntimeReachable env executorOf start c) (key : ProposalKey) :
    dispatchCount key c.log ≤ startedCount key c.log := by
  refine (countP_le_of_historyOf fun i ↦ ?_).trans (hc.countP_grants_le hexecutors key)
  exact countP_dispatches_le key fun _ _ hev ↦ hc.issued_historyOf hexecutors hev

end Counting

/-! ## Exclusive admission -/

/-- When the operation `e` was performed, the proposal under `key` was on file as one that failed
without an effect. -/
def EffectFree (e : Entry (runtimeSignature V H) Exn World) (key : ProposalKey) : Prop :=
  ∃ record, e.before.store.proposals key = some record ∧
    record.lifecycleStatus ∈ [.failedKnown, .stale]

section Exclusive

variable [UnicodeNormalization] {env : Env V H} {executorOf : ExecutorOf V H}
  {hostIssues : RuntimeHistory V H → H.Op → Prop} {start : Timestamp} {c : RuntimeConfig V H}

/-- **Who was admitted keeps the effect until the attempt failed without one.** -/
theorem RuntimeReachable.owner_or_effectFree
    (hexecutors : ∀ definition, LawfulExecutor hostIssues definition (executorOf definition))
    (hc : RuntimeReachable env executorOf start c) {e : Entry (runtimeSignature V H) Exn World}
    {older : RuntimeLog V H} (he : e :: older <:+ c.log) {key : ProposalKey}
    {executing : StoredProposal} (hadmits : Admits e key executing) :
    c.shared.store.effectClaims executing.effectKey = some key.2 ∨
      ∃ e' between, e' :: between <:+ c.log ∧ e :: older <:+ between ∧ EffectFree e' key := by
  obtain ⟨hkey, howns⟩ := hadmits.owns hc he
  revert he
  refine RuntimeReachable.induction (P := fun log world ↦ e :: older <:+ log →
    world.store.effectClaims executing.effectKey = some key.2 ∨
      ∃ e' between, e' :: between <:+ log ∧ e :: older <:+ between ∧ EffectFree e' key)
    hexecutors ?_ ?_ ?_ hc
  · intro he
    cases List.suffix_nil.mp he
  · intro c hc i o answer world' _ hexec ih he
    rcases List.suffix_cons_iff.mp he with heq | he
    · obtain ⟨rfl, rfl⟩ := List.cons.inj heq
      exact Or.inl howns
    · rcases ih he with howner | ⟨e', between, hlogged, hafter, hfree⟩
      · rcases World.exec_store hexec with hsame | ⟨call, -, hcall⟩
        · exact Or.inl (by rw [hsame, howner])
        · rw [hcall]
          rcases MemoryActionStore.after_keeps_claim _ call howner with hkept | hfree
          · exact Or.inl hkept
          · -- the claim passes on right now
            refine Or.inr ⟨_, c.log, List.suffix_refl _, he, ?_⟩
            have htenant : (executing.effectKey.1, key.2) = key := by
              rw [← hkey]
              rfl
            rwa [htenant] at hfree
      · exact Or.inr ⟨e', between, hlogged.trans (List.suffix_cons _ _), hafter, hfree⟩
  · intro log world time _ ih he
    exact ih he

/-- **No blind resend.** In every interleaving, dispatches of a proposal are at most as many as its
`started` receipts, and those at most one more than its receipts of an authoritative final absence.
Of two proposals with one effect that are both admitted, the first had been stored as failed
without an effect before the second was admitted. -/
theorem no_blind_resend {env : Env V H} {start : Timestamp} {c : RuntimeConfig V H}
    (hc : RuntimeReachable env (hostExecutors V H) start c) :
    (∀ key, dispatchCount key c.log ≤ startedCount key c.log ∧
      startedCount key c.log ≤ 1 + absenceCount key c.log) ∧
    ∀ (first second : Entry (runtimeSignature V H) Exn World) (older older' : RuntimeLog V H)
      (key key' : ProposalKey) (executing executing' : StoredProposal),
      first :: older <:+ older' → second :: older' <:+ c.log →
      Admits first key executing → Admits second key' executing' → key ≠ key' →
      executing.effectKey = executing'.effectKey →
      ∃ e between, e :: between <:+ second :: older' ∧ first :: older <:+ between ∧
        EffectFree e key := by
  refine ⟨fun key ↦ ⟨hc.dispatchCount_le hostExecutors_lawful_any key, ?_⟩, ?_⟩
  · have hstarted := hc.startedCount_le hostExecutors_lawful_any key
    have hbegun : c.shared.store.begun key ≤ 1 := by
      rw [MemoryActionStore.begun]
      split
      · exact Nat.zero_le _
      · exact LifecycleStatus.begun_le _
    omega
  · intro first second older older' key key' executing executing' hfirst hsecond hadmits hadmits'
      hne heffect
    -- look at the configuration the second admission leads to
    obtain ⟨hkey, -⟩ := hadmits.owns hc (hfirst.trans ((List.suffix_cons _ _).trans hsecond))
    obtain ⟨hkey', howns'⟩ := hadmits'.owns hc hsecond
    obtain ⟨-, c', hc', hlog, hshared⟩ := hc.at_entry hsecond
    have howner := RuntimeReachable.owner_or_effectFree hostExecutors_lawful_any hc'
      (by rw [hlog]; exact hfirst.trans (List.suffix_cons _ _)) hadmits
    rw [hlog, hshared] at howner
    refine howner.resolve_left fun howns ↦ hne ?_
    rw [heffect, howns'] at howns
    have htenant : executing.tenantReference = executing'.tenantReference :=
      congrArg Prod.fst heffect
    refine Prod.ext ?_ (Option.some.inj howns).symm
    rw [← hkey, ← hkey']
    exact htenant

end Exclusive

section Sample

attribute [local instance] normalizedTexts

/-- Two sample proposals with one effect: the first attempt fails, then the second is admitted. -/
def sampleSuccession : RuntimeConfig SampleModel noOperations :=
  sampleRun sampleFailure sampleNotYet
    (sampleAttempt 0 "first" 18 ++ sampleAttempt 3 "second" 12)

/-- The first sample attempt had failed when the second was admitted. -/
theorem no_blind_resend_sample :
    ∃ (first second : Entry (runtimeSignature SampleModel noOperations) Exn World)
      (older older' : RuntimeLog SampleModel noOperations) (executing executing' : StoredProposal),
      sampleSuccession.log = second :: older' ∧ first :: older <:+ older' ∧
      Admits first ("tenant", "first") executing ∧ Admits second ("tenant", "second") executing' ∧
      ∃ e between, e :: between <:+ second :: older' ∧ first :: older <:+ between ∧
        EffectFree e ("tenant", "first") := by
  -- the two admissions are the newest operation and the one 33 operations before it
  obtain ⟨second, older', hsecond⟩ : ∃ e older, sampleSuccession.log.drop 0 = e :: older :=
    List.exists_cons_of_ne_nil (by decide +kernel)
  obtain ⟨first, older, hfirst⟩ : ∃ e older, sampleSuccession.log.drop 33 = e :: older :=
    List.exists_cons_of_ne_nil (by decide +kernel)
  have hlog : sampleSuccession.log = second :: older' := hsecond
  have hsuffix : first :: older <:+ older' := by
    rw [← hfirst, hlog]
    exact List.drop_suffix 32 older'
  obtain ⟨executing, hadmits⟩ : ∃ executing, Admits first ("tenant", "first") executing :=
    exists_admits
      (eq_of_entry hfirst (f := fun e ↦ e.before.store.statusOf _) (by decide +kernel))
      (eq_of_entry hfirst (f := fun e ↦ e.after.store.statusOf _) (by decide +kernel))
  obtain ⟨executing', hadmits'⟩ : ∃ executing, Admits second ("tenant", "second") executing :=
    exists_admits
      (eq_of_entry hsecond (f := fun e ↦ e.before.store.statusOf _) (by decide +kernel))
      (eq_of_entry hsecond (f := fun e ↦ e.after.store.statusOf _) (by decide +kernel))
  have heffect : (some executing).map StoredProposal.effectKey =
      (some executing').map StoredProposal.effectKey := by
    rw [← hadmits.stored, ← hadmits'.stored,
      eq_of_entry hfirst (f := fun e ↦ (e.after.store.proposals ("tenant", "first")).map
        StoredProposal.effectKey) (b := some ("tenant", sampleDefinition.actionType, "effect"))
        (by decide +kernel),
      eq_of_entry hsecond (f := fun e ↦ (e.after.store.proposals ("tenant", "second")).map
        StoredProposal.effectKey) (b := some ("tenant", sampleDefinition.actionType, "effect"))
        (by decide +kernel)]
  refine ⟨_, _, _, _, executing, executing', hlog, hsuffix, hadmits, hadmits', ?_⟩
  exact (no_blind_resend (c := sampleSuccession) (sampleRun_reachable _ _ _)).2 _ _ _ _ _ _ _ _
    hsuffix (hlog ▸ List.suffix_refl _) hadmits hadmits' (by decide) (Option.some.inj heffect)

end Sample

end ThrevoActions
