import ThrevoActions.Integrations.Envelopes

/-!
# Runs of an envelope provider

A run is a sequence of calls, for any proposals, of one provider and one store of envelopes. What is
assumed of the surroundings is said where a call is added to the run: keys and handles that are
drawn are new, the key service unwraps what it wrapped, and nothing is forged. A ciphertext opens
under a key that was drawn only if a call made it under that key, and a digest agrees only with a
message that a call made it for.

From this the store is followed through a run (`Run.held`): each key that was stored stays under its
handle until a call destroys it, whatever else is called.
-/

namespace ThrevoActions

/-- A key that a call drew, with its handle and its envelope. -/
structure Draw (E : Type) where
  keyHandle : SafeReference
  key : Bytes
  envelope : E

/-- What a call of `AESGCM(key).encrypt` makes its ciphertext of. -/
structure Sealing where
  key : Bytes
  nonce : Bytes
  plaintext : Bytes
  associatedData : Bytes
  deriving DecidableEq, Repr

/-- A provider with the calls that make keys. -/
structure EnvelopeService (E X : Type) extends EnvelopeProvider E where
  protectFor : X → Envelopes E → ProposalIdentity → Bytes →
    Except EnvelopeExn ProtectedPayload × Envelopes E
  createFor : X → Envelopes E → ProposalIdentity → Bytes →
    Except EnvelopeExn KeyedCommitment × Envelopes E
  /-- The key that a call makes, if it comes to that. -/
  draw : X → ProposalIdentity → EnvelopePurpose → Option (Draw E)
  nonce : X → Bytes
  /-- What the key service answers the call can be unwrapped later. -/
  KeyService : X → Prop

/-- A call, with what it drew and was answered, and how it ended. -/
inductive EnvelopeCall (X : Type)
  | protect (answers : X) (proposalIdentity : ProposalIdentity) (canonicalPayload : Bytes)
      (result : Except EnvelopeExn ProtectedPayload)
  | create (answers : X) (proposalIdentity : ProposalIdentity) (canonicalPayload : Bytes)
      (result : Except EnvelopeExn KeyedCommitment)
  | unprotect (proposalIdentity : ProposalIdentity) (payload : ProtectedPayload)
      (result : Except EnvelopeExn Bytes)
  | verify (proposalIdentity : ProposalIdentity) (canonicalPayload : Bytes)
      (commitment : KeyedCommitment) (result : Except EnvelopeExn Bool)
  | destroyPayload (proposalIdentity : ProposalIdentity) (payload : ProtectedPayload)
      (result : Except EnvelopeExn Unit)
  | destroyCommitment (proposalIdentity : ProposalIdentity) (commitment : KeyedCommitment)
      (result : Except EnvelopeExn Unit)

namespace EnvelopeCall

/-- The call made a key and returned. -/
def returned {X : Type} : EnvelopeCall X → Bool
  | .protect _ _ _ (.ok _) | .create _ _ _ (.ok _) => true
  | _ => false

theorem exists_of_returned_protect {X : Type} {answers : X} {proposalIdentity : ProposalIdentity}
    {canonicalPayload : Bytes} {result : Except EnvelopeExn ProtectedPayload}
    (h : (protect answers proposalIdentity canonicalPayload result).returned = true) :
    ∃ payload, result = .ok payload := by
  cases result with
  | error exn => cases h
  | ok payload => exact ⟨payload, rfl⟩

theorem exists_of_returned_create {X : Type} {answers : X} {proposalIdentity : ProposalIdentity}
    {canonicalPayload : Bytes} {result : Except EnvelopeExn KeyedCommitment}
    (h : (create answers proposalIdentity canonicalPayload result).returned = true) :
    ∃ commitment, result = .ok commitment := by
  cases result with
  | error exn => cases h
  | ok commitment => exact ⟨commitment, rfl⟩

end EnvelopeCall

def payloadBinding (proposalIdentity : ProposalIdentity) (payload : ProtectedPayload) :
    KeyBinding :=
  ⟨proposalIdentity.tenantReference, proposalIdentity.proposalReference, .payload,
    payload.keyVersion⟩

def commitmentBinding (proposalIdentity : ProposalIdentity) (commitment : KeyedCommitment) :
    KeyBinding :=
  ⟨proposalIdentity.tenantReference, proposalIdentity.proposalReference, .commitment,
    commitment.keyVersion⟩

namespace EnvelopeService

variable {E X : Type} (service : EnvelopeService E X)

/-- The key that a call of a run drew. -/
def drawn : EnvelopeCall X → Option (Draw E)
  | .protect answers proposalIdentity _ _ => service.draw answers proposalIdentity .payload
  | .create answers proposalIdentity _ _ => service.draw answers proposalIdentity .commitment
  | _ => none

/-- What `protect_for` encrypts. -/
def sealing : EnvelopeCall X → Option Sealing
  | .protect answers proposalIdentity canonicalPayload _ => do
    let draw ← service.draw answers proposalIdentity .payload
    let associatedData ←
      (service.metadata draw.keyHandle proposalIdentity .payload draw.envelope).toOption
    return ⟨draw.key, service.nonce answers, canonicalPayload, associatedData⟩
  | _ => none

/-- The key and the message that `create_for` makes the digest of. -/
def digested : EnvelopeCall X → Option (Bytes × Bytes)
  | .create answers proposalIdentity canonicalPayload _ => do
    let draw ← service.draw answers proposalIdentity .commitment
    let metadata ←
      (service.metadata draw.keyHandle proposalIdentity .commitment draw.envelope).toOption
    return (draw.key, metadata ++ canonicalPayload)
  | _ => none

/-- The handle and the binding that a call asks the store to delete. -/
def erases : EnvelopeCall X → Option (SafeReference × KeyBinding)
  | .destroyPayload proposalIdentity payload _ =>
    if payload.codec = service.codec then
      some (payload.keyHandle, payloadBinding proposalIdentity payload)
    else none
  | .destroyCommitment proposalIdentity commitment _ =>
    if commitment.algorithm = service.algorithm then
      some (commitment.keyHandle, commitmentBinding proposalIdentity commitment)
    else none
  | _ => none

/-- The envelopes without the one under that handle with that binding. -/
def erase (erased : Option (SafeReference × KeyBinding)) (envelopes : Envelopes E) : Envelopes E :=
  fun handle ↦ (envelopes handle).filter fun envelope ↦
    decide (erased ≠ some (handle, service.binding envelope))

/-- Some call destroyed the key. -/
def Destroyed (log : List (EnvelopeCall X)) (keyHandle : SafeReference) (binding : KeyBinding) :
    Prop :=
  ∃ call ∈ log, service.erases call = some (keyHandle, binding)

/-- The handle and the key are new. -/
def Fresh (log : List (EnvelopeCall X)) (draw : Draw E) : Prop :=
  ∀ call ∈ log, ∀ draw', service.drawn call = some draw' →
    draw'.keyHandle ≠ draw.keyHandle ∧ draw'.key ≠ draw.key

/-- What opens was sealed. -/
def OpensOnlySealed [Aesgcm] (log : List (EnvelopeCall X)) (opened : Opening) : Prop :=
  ∀ plaintext,
    Aesgcm.decrypt opened.key opened.nonce opened.data opened.associatedData = some plaintext →
      ∃ call ∈ log, service.sealing call =
        some ⟨opened.key, opened.nonce, plaintext, opened.associatedData⟩

/-- A digest is that of a message which was digested. -/
def AgreesOnlyDigested (log : List (EnvelopeCall X)) (key message : Bytes) (digest : String) :
    Prop :=
  Hmac.hexdigest key message = digest → ∃ call ∈ log, service.digested call = some (key, message)

/-- Runs, with the calls in reverse order and the envelopes they leave. -/
inductive Run [Aesgcm] : List (EnvelopeCall X) → Envelopes E → Prop
  | start : Run [] fun _ ↦ none
  | protect {log : List (EnvelopeCall X)} {envelopes : Envelopes E} (run : Run log envelopes)
      (answers : X) (proposalIdentity : ProposalIdentity) (canonicalPayload : Bytes)
      (fresh : ∀ draw, service.draw answers proposalIdentity .payload = some draw →
        service.Fresh log draw)
      (keyService : service.KeyService answers) :
      Run (.protect answers proposalIdentity canonicalPayload
          (service.protectFor answers envelopes proposalIdentity canonicalPayload).1 :: log)
        (service.protectFor answers envelopes proposalIdentity canonicalPayload).2
  | create {log : List (EnvelopeCall X)} {envelopes : Envelopes E} (run : Run log envelopes)
      (answers : X) (proposalIdentity : ProposalIdentity) (canonicalPayload : Bytes)
      (fresh : ∀ draw, service.draw answers proposalIdentity .commitment = some draw →
        service.Fresh log draw)
      (keyService : service.KeyService answers) :
      Run (.create answers proposalIdentity canonicalPayload
          (service.createFor answers envelopes proposalIdentity canonicalPayload).1 :: log)
        (service.createFor answers envelopes proposalIdentity canonicalPayload).2
  | unprotect {log : List (EnvelopeCall X)} {envelopes : Envelopes E} (run : Run log envelopes)
      (proposalIdentity : ProposalIdentity) (payload : ProtectedPayload)
      (unforged : ∀ opened, service.opening envelopes proposalIdentity payload = .ok opened →
        service.OpensOnlySealed log opened) :
      Run (.unprotect proposalIdentity payload
          (service.unprotectFor envelopes proposalIdentity payload) :: log) envelopes
  | verify {log : List (EnvelopeCall X)} {envelopes : Envelopes E} (run : Run log envelopes)
      (proposalIdentity : ProposalIdentity) (canonicalPayload : Bytes)
      (commitment : KeyedCommitment)
      (unforged : ∀ key message, service.verification envelopes proposalIdentity canonicalPayload
          commitment = .ok (some (key, message)) →
        service.AgreesOnlyDigested log key message commitment.digest) :
      Run (.verify proposalIdentity canonicalPayload commitment
          (service.verifyFor envelopes proposalIdentity canonicalPayload commitment) :: log)
        envelopes
  | destroyPayload {log : List (EnvelopeCall X)} {envelopes : Envelopes E}
      (run : Run log envelopes) (proposalIdentity : ProposalIdentity) (payload : ProtectedPayload) :
      Run (.destroyPayload proposalIdentity payload
          (service.destroyPayloadFor envelopes proposalIdentity payload).1 :: log)
        (service.destroyPayloadFor envelopes proposalIdentity payload).2
  | destroyCommitment {log : List (EnvelopeCall X)} {envelopes : Envelopes E}
      (run : Run log envelopes) (proposalIdentity : ProposalIdentity)
      (commitment : KeyedCommitment) :
      Run (.destroyCommitment proposalIdentity commitment
          (service.destroyCommitmentFor envelopes proposalIdentity commitment).1 :: log)
        (service.destroyCommitmentFor envelopes proposalIdentity commitment).2

/-! ## What a provider owes -/

/-- The envelope of a key that was drawn is stored. -/
def Stores (envelopes after : Envelopes E) (draw : Draw E) : Prop :=
  after = Function.update envelopes draw.keyHandle (some draw.envelope)

/-- What the proofs about runs need of the provider. -/
structure Lawful [Aesgcm] : Prop where
  /-- The key service unwraps what it wrapped. -/
  unwrap : ∀ {answers proposalIdentity purpose draw}, service.KeyService answers →
    service.draw answers proposalIdentity purpose = some draw →
    service.unwrap draw.keyHandle draw.envelope = .ok draw.key
  /-- An envelope says what its key was drawn for. -/
  binding : ∀ {answers proposalIdentity purpose draw},
    service.draw answers proposalIdentity purpose = some draw →
    (service.binding draw.envelope).identity = proposalIdentity ∧
      (service.binding draw.envelope).purpose = purpose
  length_nonce : ∀ answers, (service.nonce answers).length = 12
  /-- A failed call stores nothing but the key it drew. -/
  stores : ∀ answers envelopes proposalIdentity canonicalPayload,
    (service.protectFor answers envelopes proposalIdentity canonicalPayload).2 = envelopes ∨
      ∃ draw, service.draw answers proposalIdentity .payload = some draw ∧ Stores envelopes
        (service.protectFor answers envelopes proposalIdentity canonicalPayload).2 draw
  /-- What `protect_for` returns. -/
  protects : ∀ {answers envelopes proposalIdentity canonicalPayload payload},
    (service.protectFor answers envelopes proposalIdentity canonicalPayload).1 = .ok payload →
    ∃ draw associatedData, service.draw answers proposalIdentity .payload = some draw ∧
      Stores envelopes (service.protectFor answers envelopes proposalIdentity canonicalPayload).2
        draw ∧
      service.metadata draw.keyHandle proposalIdentity .payload draw.envelope =
        .ok associatedData ∧
      payload.codec = service.codec ∧ payload.keyHandle = draw.keyHandle ∧
      payload.keyVersion = (service.binding draw.envelope).keyVersion ∧
      Base64.decode payload.ciphertext.toList = some (service.nonce answers ++
        Aesgcm.encrypt draw.key (service.nonce answers) canonicalPayload associatedData)
  storesCommitment : ∀ answers envelopes proposalIdentity canonicalPayload,
    (service.createFor answers envelopes proposalIdentity canonicalPayload).2 = envelopes ∨
      ∃ draw, service.draw answers proposalIdentity .commitment = some draw ∧ Stores envelopes
        (service.createFor answers envelopes proposalIdentity canonicalPayload).2 draw
  /-- What `create_for` returns. -/
  creates : ∀ {answers envelopes proposalIdentity canonicalPayload commitment},
    (service.createFor answers envelopes proposalIdentity canonicalPayload).1 = .ok commitment →
    ∃ draw metadata, service.draw answers proposalIdentity .commitment = some draw ∧
      Stores envelopes (service.createFor answers envelopes proposalIdentity canonicalPayload).2
        draw ∧
      service.metadata draw.keyHandle proposalIdentity .commitment draw.envelope = .ok metadata ∧
      commitment = ⟨service.algorithm, draw.keyHandle,
        (service.binding draw.envelope).keyVersion,
        Hmac.hexdigest draw.key (metadata ++ canonicalPayload)⟩

/-! ## Calls that read -/

variable {service}

theorem matchesFor_iff {binding : KeyBinding} {proposalIdentity : ProposalIdentity}
    {purpose : EnvelopePurpose} {keyVersion : SafeReference} :
    binding.matchesFor proposalIdentity purpose keyVersion = true ↔
      binding = ⟨proposalIdentity.tenantReference, proposalIdentity.proposalReference, purpose,
        keyVersion⟩ := by
  cases binding
  simp only [KeyBinding.matchesFor, Bool.and_eq_true, beq_iff_eq, KeyBinding.mk.injEq, and_assoc]

theorem orRaised_eq_ok {α : Type} {x : Except Exn α} {a : α} : orRaised x = .ok a ↔ x = .ok a := by
  cases x <;> simp [orRaised]

/-- What `unprotect_for` has checked and read when it comes to the decryption. -/
theorem opening_eq_ok {envelopes : Envelopes E} {proposalIdentity : ProposalIdentity}
    {payload : ProtectedPayload} {opened : Opening} :
    service.opening envelopes proposalIdentity payload = .ok opened ↔
      payload.codec = service.codec ∧
      ∃ envelope, envelopes payload.keyHandle = some envelope ∧
        service.binding envelope = payloadBinding proposalIdentity payload ∧
      ∃ encoded, Base64.decode payload.ciphertext.toList = some encoded ∧ 28 ≤ encoded.length ∧
      ∃ key, service.unwrap payload.keyHandle envelope = .ok key ∧
      ∃ associatedData, service.metadata payload.keyHandle proposalIdentity .payload envelope =
          .ok associatedData ∧
        ⟨key, encoded.take 12, encoded.drop 12, associatedData⟩ = opened := by
  rw [EnvelopeProvider.opening]
  by_cases hcodec : payload.codec = service.codec
  swap
  · simp [hcodec]
  rw [if_neg (not_not_intro hcodec)]
  cases henvelope : envelopes payload.keyHandle with
  | none => simp
  | some envelope =>
    by_cases hmatches : (service.binding envelope).matchesFor proposalIdentity .payload
        payload.keyVersion = true
    swap
    · have hbinding : service.binding envelope ≠ payloadBinding proposalIdentity payload :=
        fun h ↦ hmatches (matchesFor_iff.mpr h)
      simp [hmatches, hbinding]
    have hbinding : service.binding envelope = payloadBinding proposalIdentity payload :=
      matchesFor_iff.mp hmatches
    cases hencoded : Base64.decode payload.ciphertext.toList with
    | none => simp [hmatches]
    | some encoded =>
      by_cases hshort : encoded.length < 28
      · simp [hmatches, hshort]
      · simp only [hmatches, hshort, Bool.not_true, Bool.false_eq_true, if_false,
          Except.bind_eq_ok, orRaised_eq_ok, pure, Except.pure, Except.ok.injEq]
        simp only [hcodec, hbinding, not_lt.mp hshort, true_and, Option.some.injEq, exists_eq_left']

theorem unprotectFor_eq_ok [Aesgcm] {envelopes : Envelopes E} {proposalIdentity : ProposalIdentity}
    {payload : ProtectedPayload} {plaintext : Bytes} :
    service.unprotectFor envelopes proposalIdentity payload = .ok plaintext ↔
      ∃ opened, service.opening envelopes proposalIdentity payload = .ok opened ∧
        Aesgcm.decrypt opened.key opened.nonce opened.data opened.associatedData =
          some plaintext := by
  rw [EnvelopeProvider.unprotectFor, Except.bind_eq_ok]
  refine exists_congr fun opened ↦ and_congr_right fun _ ↦ ?_
  cases Aesgcm.decrypt opened.key opened.nonce opened.data opened.associatedData <;> simp

/-- What `verify_for` has checked and read when it comes to the digest. -/
theorem verification_eq_some {envelopes : Envelopes E} {proposalIdentity : ProposalIdentity}
    {canonicalPayload : Bytes} {commitment : KeyedCommitment} {key message : Bytes} :
    service.verification envelopes proposalIdentity canonicalPayload commitment =
        .ok (some (key, message)) ↔
      commitment.algorithm = service.algorithm ∧
      ∃ envelope, envelopes commitment.keyHandle = some envelope ∧
        service.binding envelope = commitmentBinding proposalIdentity commitment ∧
        service.unwrap commitment.keyHandle envelope = .ok key ∧
      ∃ metadata, service.metadata commitment.keyHandle proposalIdentity .commitment envelope =
        .ok metadata ∧ metadata ++ canonicalPayload = message := by
  rw [EnvelopeProvider.verification]
  by_cases halgorithm : commitment.algorithm = service.algorithm
  swap
  · simp [halgorithm]
  rw [if_neg (not_not_intro halgorithm)]
  cases henvelope : envelopes commitment.keyHandle with
  | none => simp
  | some envelope =>
    by_cases hmatches : (service.binding envelope).matchesFor proposalIdentity .commitment
        commitment.keyVersion = true
    swap
    · have hbinding : service.binding envelope ≠ commitmentBinding proposalIdentity commitment :=
        fun h ↦ hmatches (matchesFor_iff.mpr h)
      simp [hmatches, hbinding]
    have hbinding : service.binding envelope = commitmentBinding proposalIdentity commitment :=
      matchesFor_iff.mp hmatches
    cases hunwrap : service.unwrap commitment.keyHandle envelope with
    | error exn =>
      cases hrefuses : service.refusesOn exn <;> simp [hmatches, hunwrap, hrefuses]
    | ok key' =>
      simp only [hmatches, hunwrap, Bool.not_true, Bool.false_eq_true, if_false, Except.bind_eq_ok,
        orRaised_eq_ok, pure, Except.pure, Except.ok.injEq, Option.some.injEq, Prod.mk.injEq]
      simp only [halgorithm, hbinding, hunwrap, true_and, exists_eq_left', Except.ok.injEq]
      constructor
      · rintro ⟨metadata, hmetadata, rfl, rfl⟩
        exact ⟨rfl, metadata, hmetadata, rfl⟩
      · rintro ⟨rfl, metadata, hmetadata, rfl⟩
        exact ⟨metadata, hmetadata, rfl, rfl⟩

theorem verifyFor_eq_true {envelopes : Envelopes E} {proposalIdentity : ProposalIdentity}
    {canonicalPayload : Bytes} {commitment : KeyedCommitment} :
    service.verifyFor envelopes proposalIdentity canonicalPayload commitment = .ok true ↔
      ∃ key message, service.verification envelopes proposalIdentity canonicalPayload commitment =
        .ok (some (key, message)) ∧ Hmac.hexdigest key message = commitment.digest := by
  rw [EnvelopeProvider.verifyFor, Except.bind_eq_ok]
  constructor
  · rintro ⟨_ | ⟨key, message⟩, hverification, hdigest⟩
    · cases hdigest
    · exact ⟨key, message, hverification, beq_iff_eq.mp (Except.ok.inj hdigest)⟩
  · rintro ⟨key, message, hverification, hdigest⟩
    exact ⟨_, hverification, congrArg Except.ok (beq_iff_eq.mpr hdigest)⟩

/-! ## Calls that destroy -/

/-- `_destroy` leaves every other handle alone, and its own unless the binding matches. -/
theorem destroy_apply {envelopes : Envelopes E} {keyHandle : SafeReference}
    {proposalIdentity : ProposalIdentity} {purpose : EnvelopePurpose} {keyVersion : SafeReference}
    (handle : SafeReference) :
    (service.destroy envelopes keyHandle proposalIdentity purpose keyVersion).2 handle =
      if handle = keyHandle then (envelopes handle).filter fun envelope ↦
        !(service.binding envelope).matchesFor proposalIdentity purpose keyVersion
      else envelopes handle := by
  rw [EnvelopeProvider.destroy, deleteIfMatches]
  cases hheld : envelopes keyHandle with
  | none =>
    dsimp only
    split_ifs with hhandle
    · rw [hhandle, hheld]
      rfl
    · rfl
  | some envelope =>
    by_cases hmatches : (service.binding envelope).matchesFor proposalIdentity purpose keyVersion =
        true
    · dsimp only
      rw [if_pos hmatches]
      dsimp only
      split_ifs with hhandle
      · rw [hhandle, Function.update_self, hheld, Option.filter_some, hmatches]
        rfl
      · exact Function.update_of_ne hhandle _ _
    · dsimp only
      rw [if_neg hmatches]
      dsimp only
      split_ifs with hhandle
      · rw [hhandle, hheld, Option.filter_some, Bool.eq_false_iff.mpr hmatches]
        rfl
      · rfl

theorem erase_none (envelopes : Envelopes E) : service.erase none envelopes = envelopes := by
  funext handle
  rw [erase]
  cases envelopes handle <;> rfl

theorem destroy_eq_erase {envelopes : Envelopes E} {keyHandle : SafeReference}
    {proposalIdentity : ProposalIdentity} {purpose : EnvelopePurpose} {keyVersion : SafeReference} :
    (service.destroy envelopes keyHandle proposalIdentity purpose keyVersion).2 =
      service.erase (some (keyHandle, ⟨proposalIdentity.tenantReference,
        proposalIdentity.proposalReference, purpose, keyVersion⟩)) envelopes := by
  funext handle
  rw [destroy_apply, erase]
  split_ifs with hhandle
  · refine congrArg (Option.filter · _) (funext fun envelope ↦ ?_)
    rw [hhandle, Bool.eq_iff_iff, Bool.not_eq_true', ← Bool.not_eq_true, matchesFor_iff]
    simp only [decide_eq_true_eq, ne_eq, Option.some.injEq, Prod.mk.injEq, true_and]
    exact not_congr eq_comm
  · have hall : ∀ envelope, decide (some (keyHandle, (⟨proposalIdentity.tenantReference,
        proposalIdentity.proposalReference, purpose, keyVersion⟩ : KeyBinding)) ≠
        some (handle, service.binding envelope)) = true := by
      intro envelope
      refine decide_eq_true fun h ↦ hhandle ?_
      exact (congrArg Prod.fst (Option.some.inj h)).symm
    cases envelopes handle with
    | none => rfl
    | some envelope => rw [Option.filter_some, if_pos (hall envelope)]

/-- A call that destroys leaves everything alone but what it asks the store to delete. -/
theorem destroyPayloadFor_eq_erase {envelopes : Envelopes E} {proposalIdentity : ProposalIdentity}
    {payload : ProtectedPayload} (result : Except EnvelopeExn Unit) :
    (service.destroyPayloadFor envelopes proposalIdentity payload).2 =
      service.erase (service.erases (.destroyPayload proposalIdentity payload result))
        envelopes := by
  rw [EnvelopeProvider.destroyPayloadFor, erases]
  by_cases hcodec : payload.codec = service.codec
  · rw [if_neg (not_not_intro hcodec), if_pos hcodec]
    exact destroy_eq_erase
  · rw [if_pos hcodec, if_neg hcodec, erase_none]

theorem destroyCommitmentFor_eq_erase {envelopes : Envelopes E}
    {proposalIdentity : ProposalIdentity} {commitment : KeyedCommitment}
    (result : Except EnvelopeExn Unit) :
    (service.destroyCommitmentFor envelopes proposalIdentity commitment).2 =
      service.erase (service.erases (.destroyCommitment proposalIdentity commitment result))
        envelopes := by
  rw [EnvelopeProvider.destroyCommitmentFor, erases]
  by_cases halgorithm : commitment.algorithm = service.algorithm
  · rw [if_neg (not_not_intro halgorithm), if_pos halgorithm]
    exact destroy_eq_erase
  · rw [if_pos halgorithm, if_neg halgorithm, erase_none]

/-! ## One call -/

/-- What one call does to the envelopes. -/
structure Advance (service : EnvelopeService E X) (log : List (EnvelopeCall X))
    (before : Envelopes E) (call : EnvelopeCall X) (after : Envelopes E) : Prop where
  fresh : ∀ draw, service.drawn call = some draw → service.Fresh log draw
  unwrap : ∀ draw, service.drawn call = some draw →
    service.unwrap draw.keyHandle draw.envelope = .ok draw.key
  /-- Where no key was drawn, only what was to be deleted is missing. -/
  keeps : ∀ handle, (∀ draw, service.drawn call = some draw → draw.keyHandle ≠ handle) →
    after handle = service.erase (service.erases call) before handle
  /-- Nothing is written but a key that was drawn. -/
  writes : ∀ handle envelope, after handle = some envelope → before handle = some envelope ∨
    ∃ draw, service.drawn call = some draw ∧ draw.keyHandle = handle ∧ draw.envelope = envelope
  /-- A call that returns has stored its key. -/
  stores : call.returned = true →
    ∃ draw, service.drawn call = some draw ∧ after draw.keyHandle = some draw.envelope

section Run

variable {log : List (EnvelopeCall X)} {before after : Envelopes E} {call : EnvelopeCall X}

/-- A call that makes a key. -/
theorem advance_of_draw (hfresh : ∀ draw, service.drawn call = some draw → service.Fresh log draw)
    (hunwrap : ∀ draw, service.drawn call = some draw →
      service.unwrap draw.keyHandle draw.envelope = .ok draw.key)
    (herases : service.erases call = none)
    (hstores : after = before ∨ ∃ draw, service.drawn call = some draw ∧ Stores before after draw)
    (hreturned : call.returned = true →
      ∃ draw, service.drawn call = some draw ∧ Stores before after draw) :
    service.Advance log before call after where
  fresh := hfresh
  unwrap := hunwrap
  keeps := by
    intro handle hother
    rw [herases, erase_none]
    rcases hstores with hafter | ⟨draw, hdraw, hafter⟩
    · rw [hafter]
    · rw [hafter, Function.update_of_ne (hother draw hdraw).symm]
  writes := by
    intro handle envelope henvelope
    rcases hstores with rfl | ⟨draw, hdraw, rfl⟩
    · exact Or.inl henvelope
    · by_cases hhandle : handle = draw.keyHandle
      · rw [hhandle, Function.update_self] at henvelope
        exact Or.inr ⟨draw, hdraw, hhandle.symm, Option.some.inj henvelope⟩
      · rw [Function.update_of_ne hhandle] at henvelope
        exact Or.inl henvelope
  stores := by
    intro h
    obtain ⟨draw, hdraw, rfl⟩ := hreturned h
    exact ⟨draw, hdraw, Function.update_self _ _ _⟩

/-- A call that makes none. -/
theorem advance_of_erase (hdrawn : service.drawn call = none) (hreturned : call.returned = false)
    (hafter : after = service.erase (service.erases call) before) :
    service.Advance log before call after where
  fresh := by
    rw [hdrawn]
    exact fun _ h ↦ nomatch h
  unwrap := by
    rw [hdrawn]
    exact fun _ h ↦ nomatch h
  keeps _ _ := by rw [hafter]
  writes := by
    intro handle envelope henvelope
    rw [hafter, erase, Option.filter_eq_some_iff] at henvelope
    exact Or.inl henvelope.1
  stores := by
    rw [hreturned]
    exact fun h ↦ nomatch h

variable [Aesgcm]

/-- **Every call of a run advances the envelopes.** -/
theorem Run.advance (lawful : service.Lawful) (run : service.Run (call :: log) after) :
    ∃ before, service.Run log before ∧ service.Advance log before call after := by
  cases run with
  | protect run answers proposalIdentity canonicalPayload fresh keyService =>
    refine ⟨_, run, advance_of_draw fresh (fun _ hdraw ↦ lawful.unwrap keyService hdraw) rfl
      (lawful.stores _ _ _ _) fun hreturned ↦ ?_⟩
    obtain ⟨payload, hpayload⟩ := EnvelopeCall.exists_of_returned_protect hreturned
    obtain ⟨draw, _, hdraw, hstores, -⟩ := lawful.protects hpayload
    exact ⟨draw, hdraw, hstores⟩
  | create run answers proposalIdentity canonicalPayload fresh keyService =>
    refine ⟨_, run, advance_of_draw fresh (fun _ hdraw ↦ lawful.unwrap keyService hdraw) rfl
      (lawful.storesCommitment _ _ _ _) fun hreturned ↦ ?_⟩
    obtain ⟨commitment, hcommitment⟩ := EnvelopeCall.exists_of_returned_create hreturned
    obtain ⟨draw, _, hdraw, hstores, -⟩ := lawful.creates hcommitment
    exact ⟨draw, hdraw, hstores⟩
  | unprotect run proposalIdentity payload unforged =>
    exact ⟨_, run, advance_of_erase rfl rfl (erase_none _).symm⟩
  | verify run proposalIdentity canonicalPayload commitment unforged =>
    exact ⟨_, run, advance_of_erase rfl rfl (erase_none _).symm⟩
  | destroyPayload run proposalIdentity payload =>
    exact ⟨_, run, advance_of_erase rfl rfl (destroyPayloadFor_eq_erase _)⟩
  | destroyCommitment run proposalIdentity commitment =>
    exact ⟨_, run, advance_of_erase rfl rfl (destroyCommitmentFor_eq_erase _)⟩

/-! ## Whole runs -/

/-- Every part of a run is a run. -/
theorem Run.tail (lawful : service.Lawful) {newer : List (EnvelopeCall X)}
    (run : service.Run (newer ++ log) after) : ∃ before, service.Run log before := by
  induction newer generalizing after with
  | nil => exact ⟨_, run⟩
  | cons call newer ih =>
    obtain ⟨before, run, -⟩ := Run.advance lawful run
    exact ih run

/-- Keys that were drawn can be unwrapped. -/
theorem Run.unwrap (lawful : service.Lawful) (run : service.Run log after) (hcall : call ∈ log)
    {draw : Draw E} (hdraw : service.drawn call = some draw) :
    service.unwrap draw.keyHandle draw.envelope = .ok draw.key := by
  induction log generalizing after with
  | nil => cases hcall
  | cons first log ih =>
    obtain ⟨before, run, hadvance⟩ := Run.advance lawful run
    rcases List.mem_cons.mp hcall with rfl | hcall
    · exact hadvance.unwrap draw hdraw
    · exact ih run hcall

/-- No two calls draw one handle, or one key. -/
theorem Run.draws_once (lawful : service.Lawful) (run : service.Run log after)
    {call' : EnvelopeCall X} (hcall : call ∈ log) (hcall' : call' ∈ log) {draw draw' : Draw E}
    (hdraw : service.drawn call = some draw) (hdraw' : service.drawn call' = some draw')
    (hsame : draw'.keyHandle = draw.keyHandle ∨ draw'.key = draw.key) : call' = call := by
  induction log generalizing after with
  | nil => cases hcall
  | cons first log ih =>
    obtain ⟨before, run, hadvance⟩ := Run.advance lawful run
    rcases List.mem_cons.mp hcall with rfl | hold <;>
      rcases List.mem_cons.mp hcall' with rfl | hold'
    · rfl
    · obtain ⟨hhandle, hkey⟩ := hadvance.fresh draw hdraw call' hold' draw' hdraw'
      exact (hsame.elim hhandle hkey).elim
    · obtain ⟨hhandle, hkey⟩ := hadvance.fresh draw' hdraw' call hold draw hdraw
      exact (hsame.elim (hhandle ∘ Eq.symm) (hkey ∘ Eq.symm)).elim
    · exact ih run hold hold'

/-- What is stored was drawn. -/
theorem Run.stored (lawful : service.Lawful) (run : service.Run log after)
    {handle : SafeReference} {envelope : E} (henvelope : after handle = some envelope) :
    ∃ call ∈ log, ∃ draw, service.drawn call = some draw ∧ draw.keyHandle = handle ∧
      draw.envelope = envelope := by
  induction log generalizing after with
  | nil =>
    cases run
    cases henvelope
  | cons first log ih =>
    obtain ⟨before, run, hadvance⟩ := Run.advance lawful run
    rcases hadvance.writes handle envelope henvelope with hbefore | ⟨draw, hdraw, hhandle, rfl⟩
    · obtain ⟨call, hcall, hdrawn⟩ := ih run hbefore
      exact ⟨call, .tail _ hcall, hdrawn⟩
    · exact ⟨first, .head _, draw, hdraw, hhandle, rfl⟩

/-- **A key that was stored is held until a call destroys it.** -/
theorem Run.held (lawful : service.Lawful) {later earlier : List (EnvelopeCall X)}
    (run : service.Run (later ++ call :: earlier) after) (hreturned : call.returned = true)
    {draw : Draw E} (hdraw : service.drawn call = some draw) :
    (¬service.Destroyed later draw.keyHandle (service.binding draw.envelope) →
        after draw.keyHandle = some draw.envelope) ∧
      (service.Destroyed later draw.keyHandle (service.binding draw.envelope) →
        after draw.keyHandle = none) := by
  induction later generalizing after with
  | nil =>
    obtain ⟨before, -, hadvance⟩ := Run.advance lawful run
    obtain ⟨draw', hdraw', hstored⟩ := hadvance.stores hreturned
    cases hdraw.symm.trans hdraw'
    exact ⟨fun _ ↦ hstored, fun ⟨_, hcall, _⟩ ↦ nomatch hcall⟩
  | cons first later ih =>
    obtain ⟨before, run, hadvance⟩ := Run.advance lawful run
    obtain ⟨hheld, hgone⟩ := ih run
    have hafter := hadvance.keeps draw.keyHandle fun draw' hdraw' hhandle ↦
      (hadvance.fresh draw' hdraw' call (List.mem_append_right _ (.head _)) draw hdraw).1
        hhandle.symm
    rw [hafter, erase]
    constructor
    · intro hkept
      rw [hheld fun ⟨call, hcall, herases⟩ ↦ hkept ⟨call, .tail _ hcall, herases⟩,
        Option.filter_some, if_pos]
      exact decide_eq_true fun herases ↦ hkept ⟨first, .head _, herases⟩
    · rintro ⟨destroyer, hdestroyer, herases⟩
      by_cases hearlier : service.Destroyed later draw.keyHandle (service.binding draw.envelope)
      · rw [hgone hearlier]
        rfl
      · rcases List.mem_cons.mp hdestroyer with rfl | hdestroyer
        · rw [hheld hearlier, Option.filter_some, if_neg]
          rw [decide_eq_true_eq]
          exact not_not_intro herases
        · exact absurd ⟨destroyer, hdestroyer, herases⟩ hearlier

end Run

end EnvelopeService

end ThrevoActions
