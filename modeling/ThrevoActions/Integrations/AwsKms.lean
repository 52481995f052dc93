import ThrevoActions.Integrations.Envelopes

/-!
# The AWS KMS provider

Data keys that AWS KMS generates and unwraps under an encryption context.
-/

namespace ThrevoActions

/-- `str.isprintable` of one character. -/
class PrintableCharacters where
  isPrintable : CodePoint → Bool

@[reducible] def asciiPrintable : PrintableCharacters := ⟨fun c ↦ 0x20 ≤ c.val⟩

/-- One plaintext data key and its KMS-wrapped representation. -/
structure GeneratedDataKey where
  plaintext : Bytes
  ciphertext : Bytes
  resolvedKeyId : String
  deriving DecidableEq, Repr

/-- `dict[str, str]`. -/
abbrev EncryptionContext := List (String × String)

/-- `decrypt_data_key` of the host's KMS client. What the client generates is an answer of each
call. -/
class KmsDataKeyClient where
  decryptDataKey : (keyId : String) → (ciphertext : Bytes) → EncryptionContext →
    Except EnvelopeExn Bytes

/-- Durable proposal binding for one KMS-wrapped data key. -/
structure WrappedDataKey where
  tenantReference : SafeReference
  proposalReference : SafeReference
  purpose : EnvelopePurpose
  keyId : String
  keyVersion : SafeReference
  ciphertext : Bytes
  deriving DecidableEq, Repr

namespace AwsKms

def codec : SafeReference := "aws-kms-envelope-aes256-gcm-v1"

def algorithm : String := "hmac-sha256"

def binding (envelope : WrappedDataKey) : KeyBinding where
  tenantReference := envelope.tenantReference
  proposalReference := envelope.proposalReference
  purpose := envelope.purpose
  keyVersion := envelope.keyVersion

/-- `_encryption_context`. -/
def encryptionContext (keyHandle : SafeReference) (proposalIdentity : ProposalIdentity)
    (purpose : EnvelopePurpose) : EncryptionContext :=
  [("threvo-actions:key-handle", keyHandle),
    ("threvo-actions:tenant", proposalIdentity.tenantReference),
    ("threvo-actions:proposal", proposalIdentity.proposalReference),
    ("threvo-actions:purpose", purpose.text)]

/-- `_key_version`. A text of the model has no surrogates, so it is encoded. -/
def keyVersion (resolvedKeyId : String) : Except Exn SafeReference := do
  return "aws-kms:" ++ Sha256.hexdigest (← encodeUtf8 (PyStr.ofString resolvedKeyId))

/-- What a call that makes a key draws and is answered. Only `protect_for` draws a nonce. -/
structure Answers where
  token : String
  generateDataKey : (keyId : String) → EncryptionContext → (numberOfBytes : ℕ) →
    Except EnvelopeExn GeneratedDataKey
  nonce : TokenBytes 12
  put : PutAnswer

def keyHandle (answers : Answers) : SafeReference := "kms-envelope:" ++ answers.token

section Keys

variable [ReferenceCharacters] [PrintableCharacters]

/-- `KmsKeyIdentifier`. -/
def isKmsKeyIdentifier (value : PyStr) : Bool :=
  decide (1 ≤ value.length ∧ value.length ≤ 2048) &&
    value.head?.all (fun c ↦ !ReferenceCharacters.isSpace c) &&
    value.getLast?.all (fun c ↦ !ReferenceCharacters.isSpace c) &&
    !value.any fun c ↦ ReferenceCharacters.isSpace c || !PrintableCharacters.isPrintable c

/-- `_generate_key`. -/
def generateKey (keyId : String) (answers : Answers) (proposalIdentity : ProposalIdentity)
    (purpose : EnvelopePurpose) : Except EnvelopeExn GeneratedDataKey := do
  let generated ← answers.generateDataKey keyId
    (encryptionContext (keyHandle answers) proposalIdentity purpose) 32
  if generated.plaintext.length ≠ 32 then
    .error (.valueError "KMS data key must contain exactly 32 plaintext bytes")
  else if !isKmsKeyIdentifier (PyStr.ofString generated.resolvedKeyId) then
    .error (.raised .validationError)
  else .ok generated

/-- `WrappedDataKey(…)`, of which only the ciphertext is left to validate. -/
def wrappedDataKey (proposalIdentity : ProposalIdentity) (purpose : EnvelopePurpose)
    (generated : GeneratedDataKey) : Except EnvelopeExn WrappedDataKey := do
  let keyVersion ← orRaised (keyVersion generated.resolvedKeyId)
  if generated.ciphertext.length < 1 then .error (.raised .validationError)
  else .ok ⟨proposalIdentity.tenantReference, proposalIdentity.proposalReference, purpose,
    generated.resolvedKeyId, keyVersion, generated.ciphertext⟩

/-- `_decrypt_key`. -/
def decryptKey [KmsDataKeyClient] (keyHandle : SafeReference) (envelope : WrappedDataKey) :
    Except EnvelopeExn Bytes := do
  let key ← KmsDataKeyClient.decryptDataKey envelope.keyId envelope.ciphertext
    (encryptionContext keyHandle ⟨envelope.tenantReference, envelope.proposalReference⟩
      envelope.purpose)
  if key.length ≠ 32 then
    .error (.valueError "KMS data key must contain exactly 32 plaintext bytes")
  else .ok key

def provider [KmsDataKeyClient] : EnvelopeProvider WrappedDataKey where
  codec := codec
  algorithm := algorithm
  binding := binding
  unwrap := decryptKey
  metadata keyHandle proposalIdentity purpose envelope :=
    authenticatedMetadata keyHandle proposalIdentity purpose envelope.keyId envelope.keyVersion
  missing := .raised .keyError
  refusesOn _ := false

/-- `_store_key` of an envelope that was made. -/
def storeKey (answers : Answers) (envelopes : Envelopes WrappedDataKey)
    (keyHandle : SafeReference) (envelope : WrappedDataKey) : Except EnvelopeExn Unit :=
  ThrevoActions.storeKey binding false "wrapped data-key handle is already bound" answers.put
    envelopes keyHandle envelope

/-- `create_for`, up to the write of the envelope, which `_store_key` makes first. -/
def commitmentFor (keyId : String) (answers : Answers) (proposalIdentity : ProposalIdentity)
    (canonicalPayload : Bytes) : Except EnvelopeExn (WrappedDataKey × KeyedCommitment) := do
  let generated ← generateKey keyId answers proposalIdentity .commitment
  let keyVersion ← orRaised (keyVersion generated.resolvedKeyId)
  let metadata ← orRaised (authenticatedMetadata (keyHandle answers) proposalIdentity .commitment
    generated.resolvedKeyId keyVersion)
  let digest := Hmac.hexdigest generated.plaintext (metadata ++ canonicalPayload)
  let envelope ← wrappedDataKey proposalIdentity .commitment generated
  return (envelope, ⟨algorithm, keyHandle answers, keyVersion, digest⟩)

def createFor (keyId : String) (answers : Answers) (envelopes : Envelopes WrappedDataKey)
    (proposalIdentity : ProposalIdentity) (canonicalPayload : Bytes) :
    Except EnvelopeExn KeyedCommitment × Envelopes WrappedDataKey :=
  match commitmentFor keyId answers proposalIdentity canonicalPayload with
  | .error exn => (.error exn, envelopes)
  | .ok (envelope, commitment) =>
    (do
      storeKey answers envelopes (keyHandle answers) envelope
      return commitment,
      answers.put.put envelopes (keyHandle answers) envelope)

section Protect

variable [Aesgcm]

/-- `protect_for`, up to the write of the envelope, which `_store_key` makes first. -/
def encryptFor (keyId : String) (answers : Answers) (proposalIdentity : ProposalIdentity)
    (canonicalPayload : Bytes) : Except EnvelopeExn (WrappedDataKey × ProtectedPayload) := do
  let generated ← generateKey keyId answers proposalIdentity .payload
  let keyVersion ← orRaised (keyVersion generated.resolvedKeyId)
  let metadata ← orRaised (authenticatedMetadata (keyHandle answers) proposalIdentity .payload
    generated.resolvedKeyId keyVersion)
  let encrypted ← aesgcmEncrypt generated.plaintext answers.nonce canonicalPayload metadata
  let payload ← encodedPayload codec (keyHandle answers) keyVersion (answers.nonce ++ encrypted)
  let envelope ← wrappedDataKey proposalIdentity .payload generated
  return (envelope, payload)

/-- The payload is validated before the key is stored. -/
def protectFor (keyId : String) (answers : Answers) (envelopes : Envelopes WrappedDataKey)
    (proposalIdentity : ProposalIdentity) (canonicalPayload : Bytes) :
    Except EnvelopeExn ProtectedPayload × Envelopes WrappedDataKey :=
  match encryptFor keyId answers proposalIdentity canonicalPayload with
  | .error exn => (.error exn, envelopes)
  | .ok (envelope, payload) =>
    (do
      storeKey answers envelopes (keyHandle answers) envelope
      return payload,
      answers.put.put envelopes (keyHandle answers) envelope)

end Protect

end Keys

end AwsKms

end ThrevoActions
