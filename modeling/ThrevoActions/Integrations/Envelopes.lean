import Mathlib.Logic.Function.Basic
import ThrevoActions.Coding.Base64
import ThrevoActions.Hmac
import ThrevoActions.Integrations.EnvelopeMetadata
import ThrevoActions.Json.Fields

/-!
# Wrapped data keys

What the local-KEK and the AWS KMS provider have in common: every value gets a data key of its own,
the key is kept wrapped in an envelope under a random handle, and the envelope says which proposal,
purpose and key version it is for. The store of envelopes belongs to the host. What the host
answers, and what is drawn at random, are arguments of the calls.
-/

namespace ThrevoActions

/-- What a call of an envelope provider raises. -/
inductive EnvelopeExn
  | raised (exn : Exn)
  /-- `LocalWrappedKeyPersistenceOutcomeUnknownError`, or that of the AWS KMS provider. -/
  | persistenceOutcomeUnknown (proposalIdentity : ProposalIdentity) (keyHandle : SafeReference)
      (purpose : EnvelopePurpose)
  /-- `LocalWrappedKeyWriteRejectedError`. -/
  | writeRejected
  deriving DecidableEq, Repr

namespace EnvelopeExn

def valueError (message : String) : EnvelopeExn := .raised (.valueError message)

/-- `isinstance(failure, CancelledError)`. -/
def isCancelled : EnvelopeExn → Bool
  | .raised .cancelled => true
  | _ => false

/-- The errors that leave it open whether a key was written. -/
def leavesOpen : EnvelopeExn → Bool
  | .persistenceOutcomeUnknown _ _ _ => true
  | exn => exn.isCancelled

end EnvelopeExn

def orRaised {α : Type} : Except Exn α → Except EnvelopeExn α
  | .ok a => .ok a
  | .error exn => .error (.raised exn)

/-- Bytes of one length, as `secrets.token_bytes` draws them. -/
abbrev TokenBytes (length : ℕ) := {bytes : Bytes // bytes.length = length}

/-- Characters of ASCII references: a blank is a space, control characters are other. -/
@[reducible] def asciiReferences : ReferenceCharacters :=
  ⟨fun c ↦ c.val == 0x20, fun c ↦ c.val < 0x20⟩

/-! ## AES-GCM -/

/-- AES-256-GCM. Its output is as long as the data and a tag of 16 bytes, it decrypts what it
encrypted, and it decrypts nothing that encrypting the plaintext under the same key, nonce and
associated data would not give again. -/
class Aesgcm where
  encrypt : Bytes → Bytes → Bytes → Bytes → Bytes
  decrypt : Bytes → Bytes → Bytes → Bytes → Option Bytes
  length_encrypt : ∀ key nonce data associatedData,
    (encrypt key nonce data associatedData).length = data.length + 16
  decrypt_encrypt : ∀ key nonce data associatedData,
    decrypt key nonce (encrypt key nonce data associatedData) associatedData = some data
  encrypt_of_decrypt : ∀ {key nonce data associatedData plaintext},
    decrypt key nonce data associatedData = some plaintext →
      encrypt key nonce plaintext associatedData = data

/-- `AESGCM(key).encrypt(nonce, data, associated_data)`, which takes at most `2 ^ 31 - 1` bytes. -/
def aesgcmEncrypt [Aesgcm] (key nonce data associatedData : Bytes) : Except EnvelopeExn Bytes :=
  if 2 ^ 31 - 1 < data.length ∨ 2 ^ 31 - 1 < associatedData.length then
    .error (.raised (.host "OverflowError"))
  else .ok (Aesgcm.encrypt key nonce data associatedData)

/-- The tag of `taggedAesgcm`. -/
def digestTag (key nonce data associatedData : Bytes) : Bytes :=
  (Sha256.digestBytes ([key, nonce, associatedData, data].flatMap
    (Framing.frame (toBytesBig 4)))).take 16

theorem length_digestTag (key nonce data associatedData : Bytes) :
    (digestTag key nonce data associatedData).length = 16 := rfl

/-- A cipher to compute examples with: it authenticates like AES-GCM, but does not hide the data. -/
@[reducible] def taggedAesgcm : Aesgcm where
  encrypt key nonce data associatedData := data ++ digestTag key nonce data associatedData
  decrypt key nonce data associatedData :=
    let plaintext := data.take (data.length - 16)
    if data = plaintext ++ digestTag key nonce plaintext associatedData then some plaintext else none
  length_encrypt key nonce data associatedData := by rw [List.length_append, length_digestTag]
  decrypt_encrypt key nonce data associatedData := by
    have hplaintext : (data ++ digestTag key nonce data associatedData).take
        ((data ++ digestTag key nonce data associatedData).length - 16) = data := by
      rw [List.length_append, length_digestTag, Nat.add_sub_cancel, List.take_left]
    simp only [hplaintext, if_true]
  encrypt_of_decrypt := by
    intro key nonce data associatedData plaintext h
    dsimp only at h
    split_ifs at h with hdata
    rw [← Option.some.inj h]
    exact hdata.symm

/-! ## Envelopes and their store -/

/-- What an envelope is for. -/
structure KeyBinding where
  tenantReference : SafeReference
  proposalReference : SafeReference
  purpose : EnvelopePurpose
  keyVersion : SafeReference
  deriving DecidableEq, Repr

def KeyBinding.identity (binding : KeyBinding) : ProposalIdentity :=
  ⟨binding.tenantReference, binding.proposalReference⟩

/-- `_matches`. -/
def KeyBinding.matchesFor (binding : KeyBinding) (proposalIdentity : ProposalIdentity)
    (purpose : EnvelopePurpose) (keyVersion : SafeReference) : Bool :=
  binding.tenantReference == proposalIdentity.tenantReference &&
    binding.proposalReference == proposalIdentity.proposalReference &&
    binding.purpose == purpose && binding.keyVersion == keyVersion

/-- A store of envelopes. -/
abbrev Envelopes (E : Type) := SafeReference → Option E

/-- What becomes of a `put` that raises. -/
structure PutFailure where
  failure : EnvelopeExn
  /-- The envelope was written although the acknowledgement was lost. -/
  written : Bool
  /-- What the `get` raises that is to reconcile the write, if it does. -/
  reconciliation : Option EnvelopeExn
  /-- A store rejects a write only where it has proved that nothing was written. -/
  unwritten_of_rejected : failure = .writeRejected → written = false

inductive PutAnswer
  | completed
  | failed (failure : PutFailure)

/-- The envelopes after a `put`. A completed write is seen by the next `get`. -/
def PutAnswer.put {E : Type} (answer : PutAnswer) (envelopes : Envelopes E)
    (keyHandle : SafeReference) (envelope : E) : Envelopes E :=
  match answer with
  | .completed => Function.update envelopes keyHandle (some envelope)
  | .failed failure =>
    if failure.written then Function.update envelopes keyHandle (some envelope) else envelopes

/-- `_store_key`, after the envelope was made. Only the local-KEK provider knows rejected writes;
the message is that of a handle which holds another envelope. -/
def storeKey {E : Type} [DecidableEq E] (binding : E → KeyBinding) (knowsRejections : Bool)
    (alreadyBound : String) (answer : PutAnswer) (envelopes : Envelopes E)
    (keyHandle : SafeReference) (envelope : E) : Except EnvelopeExn Unit :=
  match answer with
  | .completed => .ok ()
  | .failed failure =>
    if knowsRejections && failure.failure == .writeRejected then .error failure.failure
    else
      match failure.reconciliation with
      | some _ =>
        if failure.failure.isCancelled then .error failure.failure
        else .error (.persistenceOutcomeUnknown (binding envelope).identity keyHandle
          (binding envelope).purpose)
      | none =>
        match answer.put envelopes keyHandle envelope keyHandle with
        | some persisted =>
          if persisted = envelope then
            if failure.failure.isCancelled then .error failure.failure else .ok ()
          else .error (.valueError alreadyBound)
        | none => .error failure.failure

inductive DeleteOutcome
  | deleted
  | alreadyAbsent
  | mismatch
  deriving DecidableEq, Repr

/-- `delete_if_matches` of the store. -/
def deleteIfMatches {E : Type} (binding : E → KeyBinding) (envelopes : Envelopes E)
    (keyHandle : SafeReference) (proposalIdentity : ProposalIdentity) (purpose : EnvelopePurpose)
    (keyVersion : SafeReference) : DeleteOutcome × Envelopes E :=
  match envelopes keyHandle with
  | none => (.alreadyAbsent, envelopes)
  | some envelope =>
    if (binding envelope).matchesFor proposalIdentity purpose keyVersion then
      (.deleted, Function.update envelopes keyHandle none)
    else (.mismatch, envelopes)

/-- `ProtectedPayload(…)`. The other fields are references of the provider's own making, only the
length of the ciphertext is left to validate. -/
def encodedPayload (codec keyHandle keyVersion : SafeReference) (ciphertext : Bytes) :
    Except EnvelopeExn ProtectedPayload :=
  let text := Base64.encode ciphertext
  if 1 ≤ text.length ∧ text.length ≤ 1048576 then
    .ok { codec, keyHandle, keyVersion, ciphertext := String.ofList text }
  else .error (.raised .validationError)

/-! ## Reading a key back -/

/-- What the two providers put differently into what they otherwise do alike. -/
structure EnvelopeProvider (E : Type) where
  codec : SafeReference
  algorithm : String
  binding : E → KeyBinding
  /-- `_unwrap`, `_decrypt_key`. -/
  unwrap : SafeReference → E → Except EnvelopeExn Bytes
  /-- `_metadata`, `_authenticated_metadata`. -/
  metadata : SafeReference → ProposalIdentity → EnvelopePurpose → E → Except Exn Bytes
  /-- What `unprotect_for` raises where there is no envelope. -/
  missing : EnvelopeExn
  /-- `verify_for` takes such a failure to unwrap the key for a refusal. -/
  refusesOn : EnvelopeExn → Bool

/-- A call of `AESGCM(key).decrypt`. -/
structure Opening where
  key : Bytes
  nonce : Bytes
  data : Bytes
  associatedData : Bytes
  deriving DecidableEq, Repr

namespace EnvelopeProvider

variable {E : Type} (provider : EnvelopeProvider E)

/-- `unprotect_for`, up to the decryption of the ciphertext. -/
def opening (envelopes : Envelopes E) (proposalIdentity : ProposalIdentity)
    (payload : ProtectedPayload) : Except EnvelopeExn Opening :=
  if payload.codec ≠ provider.codec then
    .error (.valueError "protected payload codec is not supported")
  else
    match envelopes payload.keyHandle with
    | none => .error provider.missing
    | some envelope =>
      if !(provider.binding envelope).matchesFor proposalIdentity .payload payload.keyVersion then
        .error (.valueError "protected payload metadata does not match its key envelope")
      else
        match Base64.decode payload.ciphertext.toList with
        | none => .error (.valueError "protected payload ciphertext is invalid")
        | some encoded =>
          if encoded.length < 12 + 16 then
            .error (.valueError "protected payload ciphertext is invalid")
          else do
            let key ← provider.unwrap payload.keyHandle envelope
            let associatedData ←
              orRaised (provider.metadata payload.keyHandle proposalIdentity .payload envelope)
            return { key, nonce := encoded.take 12, data := encoded.drop 12, associatedData }

def unprotectFor [Aesgcm] (envelopes : Envelopes E) (proposalIdentity : ProposalIdentity)
    (payload : ProtectedPayload) : Except EnvelopeExn Bytes := do
  let opened ← provider.opening envelopes proposalIdentity payload
  match Aesgcm.decrypt opened.key opened.nonce opened.data opened.associatedData with
  | none => .error (.valueError "protected payload authentication failed")
  | some plaintext => .ok plaintext

/-- The key and the message of the digest that `verify_for` expects; nothing where it refuses
before. -/
def verification (envelopes : Envelopes E) (proposalIdentity : ProposalIdentity)
    (canonicalPayload : Bytes) (commitment : KeyedCommitment) :
    Except EnvelopeExn (Option (Bytes × Bytes)) :=
  if commitment.algorithm ≠ provider.algorithm then .ok none
  else
    match envelopes commitment.keyHandle with
    | none => .ok none
    | some envelope =>
      if !(provider.binding envelope).matchesFor proposalIdentity .commitment
          commitment.keyVersion then .ok none
      else
        match provider.unwrap commitment.keyHandle envelope with
        | .error exn => if provider.refusesOn exn then .ok none else .error exn
        | .ok key => do
          let metadata ←
            orRaised (provider.metadata commitment.keyHandle proposalIdentity .commitment envelope)
          return some (key, metadata ++ canonicalPayload)

def verifyFor (envelopes : Envelopes E) (proposalIdentity : ProposalIdentity)
    (canonicalPayload : Bytes) (commitment : KeyedCommitment) : Except EnvelopeExn Bool := do
  match ← provider.verification envelopes proposalIdentity canonicalPayload commitment with
  | none => return false
  | some (key, message) => return Hmac.hexdigest key message == commitment.digest

/-! ## Destroying a key -/

/-- `_destroy`. -/
def destroy (envelopes : Envelopes E) (keyHandle : SafeReference)
    (proposalIdentity : ProposalIdentity) (purpose : EnvelopePurpose)
    (keyVersion : SafeReference) : Except EnvelopeExn Unit × Envelopes E :=
  match deleteIfMatches provider.binding envelopes keyHandle proposalIdentity purpose
      keyVersion with
  | (.deleted, envelopes) => (.ok (), envelopes)
  | (.alreadyAbsent, envelopes) => (.ok (), envelopes)
  | (.mismatch, envelopes) =>
    (.error (.valueError "key envelope metadata does not match the protected value"), envelopes)

def destroyPayloadFor (envelopes : Envelopes E) (proposalIdentity : ProposalIdentity)
    (payload : ProtectedPayload) : Except EnvelopeExn Unit × Envelopes E :=
  if payload.codec ≠ provider.codec then
    (.error (.valueError "protected payload codec is not supported"), envelopes)
  else
    provider.destroy envelopes payload.keyHandle proposalIdentity .payload payload.keyVersion

def destroyCommitmentFor (envelopes : Envelopes E) (proposalIdentity : ProposalIdentity)
    (commitment : KeyedCommitment) : Except EnvelopeExn Unit × Envelopes E :=
  if commitment.algorithm ≠ provider.algorithm then
    (.error (.valueError "commitment algorithm is not supported"), envelopes)
  else
    provider.destroy envelopes commitment.keyHandle proposalIdentity .commitment
      commitment.keyVersion

end EnvelopeProvider

/-! ## What a write leaves behind -/

section StoreKey

variable {E : Type} {answer : PutAnswer} {envelopes : Envelopes E} {keyHandle : SafeReference}
  {envelope : E}

/-- A write leaves the envelopes alone or adds the one envelope. -/
theorem put_cases : answer.put envelopes keyHandle envelope = envelopes ∨
    answer.put envelopes keyHandle envelope = Function.update envelopes keyHandle (some envelope) := by
  cases answer with
  | completed => exact Or.inr rfl
  | failed failure =>
    rw [PutAnswer.put]
    split_ifs
    · exact Or.inr rfl
    · exact Or.inl rfl

/-- What was written is read back. -/
theorem put_self_of_written {failure : PutFailure} (h : failure.written = true) :
    (PutAnswer.failed failure).put envelopes keyHandle envelope keyHandle = some envelope := by
  rw [PutAnswer.put, if_pos h, Function.update_self]

theorem put_of_unwritten {failure : PutFailure} (h : failure.written = false) :
    (PutAnswer.failed failure).put envelopes keyHandle envelope = envelopes := by
  rw [PutAnswer.put, h]
  rfl

/-- Whatever else the handle holds, the envelope was not written. -/
theorem put_of_other {failure : PutFailure} {held : Option E} (hheld : held ≠ some envelope)
    (h : (PutAnswer.failed failure).put envelopes keyHandle envelope keyHandle = held) :
    (PutAnswer.failed failure).put envelopes keyHandle envelope = envelopes := by
  refine put_of_unwritten (Bool.eq_false_iff.mpr fun hwritten ↦ hheld ?_)
  rw [← h, put_self_of_written hwritten]

variable [DecidableEq E] {binding : E → KeyBinding} {knowsRejections : Bool}
  {alreadyBound : String}

/-- How `_store_key` ends after a `put` that raised. -/
theorem storeKey_failed {failure : PutFailure} {result : Except EnvelopeExn Unit}
    (h : storeKey binding knowsRejections alreadyBound (.failed failure) envelopes keyHandle envelope =
      result) :
    (failure.failure = .writeRejected ∧ result = .error .writeRejected) ∨
      (∃ exn : EnvelopeExn, exn.leavesOpen = true ∧ result = .error exn) ∨
      ((PutAnswer.failed failure).put envelopes keyHandle envelope keyHandle = some envelope ∧
        result = .ok ()) ∨
      ((PutAnswer.failed failure).put envelopes keyHandle envelope keyHandle ≠ some envelope ∧
        ∃ exn, result = .error exn) := by
  have hcancelled : failure.failure.isCancelled = true → failure.failure.leavesOpen = true := by
    cases failure.failure <;> simp [EnvelopeExn.leavesOpen, EnvelopeExn.isCancelled]
  rw [storeKey] at h
  by_cases hrejected : (knowsRejections && failure.failure == .writeRejected) = true
  · rw [if_pos hrejected] at h
    rw [Bool.and_eq_true, beq_iff_eq] at hrejected
    exact Or.inl ⟨hrejected.2, by rw [← h, hrejected.2]⟩
  rw [if_neg hrejected] at h
  cases hreconciled : failure.reconciliation with
  | some exn =>
    rw [hreconciled] at h
    dsimp only at h
    split_ifs at h with hcancel
    · exact Or.inr (Or.inl ⟨_, hcancelled hcancel, h.symm⟩)
    · exact Or.inr (Or.inl ⟨_, rfl, h.symm⟩)
  | none =>
    rw [hreconciled] at h
    cases hheld : (PutAnswer.failed failure).put envelopes keyHandle envelope keyHandle with
    | none =>
      rw [hheld] at h
      exact Or.inr (Or.inr (Or.inr ⟨(Option.some_ne_none _).symm, _, h.symm⟩))
    | some persisted =>
      rw [hheld] at h
      dsimp only at h
      split_ifs at h with hsame hcancel
      · exact Or.inr (Or.inl ⟨_, hcancelled hcancel, h.symm⟩)
      · exact Or.inr (Or.inr (Or.inl ⟨congrArg some hsame, h.symm⟩))
      · exact Or.inr (Or.inr (Or.inr ⟨fun heq ↦ hsame (Option.some.inj heq), _, h.symm⟩))

/-- Where `_store_key` returns, the handle holds the envelope. -/
theorem put_of_storeKey
    (h : storeKey binding knowsRejections alreadyBound answer envelopes keyHandle envelope = .ok ()) :
    answer.put envelopes keyHandle envelope =
      Function.update envelopes keyHandle (some envelope) := by
  cases answer with
  | completed => rfl
  | failed failure =>
    rcases storeKey_failed h with ⟨-, h⟩ | ⟨_, -, h⟩ | ⟨hheld, -⟩ | ⟨-, _, h⟩
    · cases h
    · cases h
    · have hcases : PutAnswer.put (.failed failure) envelopes keyHandle envelope = envelopes ∨
          PutAnswer.put (.failed failure) envelopes keyHandle envelope =
            Function.update envelopes keyHandle (some envelope) := put_cases
      rcases hcases with hput | hput
      · rw [hput] at hheld ⊢
        rw [← hheld, Function.update_eq_self]
      · exact hput
    · cases h

/-- **A failed write leaves nothing**, if the failure does not leave it open. -/
theorem put_of_storeKey_error {exn : EnvelopeExn}
    (h : storeKey binding knowsRejections alreadyBound answer envelopes keyHandle envelope =
      .error exn) (hopen : exn.leavesOpen = false) :
    answer.put envelopes keyHandle envelope = envelopes := by
  cases answer with
  | completed => cases h
  | failed failure =>
    rcases storeKey_failed h with ⟨hrejected, -⟩ | ⟨exn', hopen', h⟩ | ⟨-, h⟩ | ⟨hheld, -⟩
    · exact put_of_unwritten (failure.unwritten_of_rejected hrejected)
    · cases h
      rw [hopen] at hopen'
      cases hopen'
    · cases h
    · exact put_of_other hheld rfl

end StoreKey

end ThrevoActions
