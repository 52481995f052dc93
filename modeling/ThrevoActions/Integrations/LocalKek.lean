import ThrevoActions.Integrations.Envelopes

/-!
# The local-KEK provider

Data keys wrapped by a versioned key encryption key that the host keeps.
-/

namespace ThrevoActions

/-- One copy of a key encryption key. -/
structure LocalKekMaterial where
  version : SafeReference
  key : Bytes
  deriving DecidableEq, Repr

/-- Resolves an earlier version of the key encryption key. Which one is current is an answer of each
call. -/
class LocalKekProvider where
  resolve : SafeReference → Except EnvelopeExn (Option LocalKekMaterial)

/-- Durable proposal binding for a locally wrapped data key. -/
structure LocalWrappedDataKey where
  tenantReference : SafeReference
  proposalReference : SafeReference
  purpose : EnvelopePurpose
  kekVersion : SafeReference
  ciphertext : Bytes
  deriving DecidableEq, Repr

namespace LocalKek

def codec : SafeReference := "local-kek-envelope-aes256-gcm-v1"

def algorithm : String := "hmac-sha256"

def binding (envelope : LocalWrappedDataKey) : KeyBinding where
  tenantReference := envelope.tenantReference
  proposalReference := envelope.proposalReference
  purpose := envelope.purpose
  keyVersion := envelope.kekVersion

/-- What a call that makes a key draws and is answered. Only `protect_for` draws the nonce of its
ciphertext. -/
structure Answers where
  token : String
  dataKey : TokenBytes 32
  current : Except EnvelopeExn LocalKekMaterial
  wrapNonce : TokenBytes 12
  nonce : TokenBytes 12
  put : PutAnswer

/-- A call in which nothing goes wrong. -/
def smoothAnswers : Answers where
  token := "0123456789abcdef0123456789abcdef"
  dataKey := ⟨List.replicate 32 0x64, rfl⟩
  current := .ok ⟨"kek-v1", List.replicate 32 0x6b⟩
  wrapNonce := ⟨List.replicate 12 0x77, rfl⟩
  nonce := ⟨List.replicate 12 0x6e, rfl⟩
  put := .completed

section Keys

variable [ReferenceCharacters]

/-- `_validate_kek`. -/
def validateKek (kek : LocalKekMaterial) (expectedVersion : Option SafeReference) :
    Except EnvelopeExn Unit :=
  if ¬IsReference kek.version then .error (.raised .validationError)
  else if expectedVersion.any (kek.version != ·) then
    .error (.valueError "KEK provider returned a different version")
  else if kek.key.length ≠ 32 then
    .error (.valueError "local KEK must contain exactly 32 bytes")
  else .ok ()

/-- `LocalWrappedDataKey(…)`, of which only the ciphertext is left to validate. -/
def localWrappedDataKey (proposalIdentity : ProposalIdentity) (purpose : EnvelopePurpose)
    (kekVersion : SafeReference) (ciphertext : Bytes) : Except EnvelopeExn LocalWrappedDataKey :=
  if ciphertext.length < 12 + 16 then .error (.raised .validationError)
  else .ok ⟨proposalIdentity.tenantReference, proposalIdentity.proposalReference, purpose, kekVersion,
    ciphertext⟩

variable [Aesgcm]

def keyHandle (answers : Answers) : SafeReference := "local-envelope:" ++ answers.token

/-- `_new_key`: the envelope of the data key that was drawn. -/
def newKey (answers : Answers) (proposalIdentity : ProposalIdentity) (purpose : EnvelopePurpose) :
    Except EnvelopeExn LocalWrappedDataKey := do
  let kek ← answers.current
  validateKek kek none
  let metadata ← orRaised (metadata (keyHandle answers) proposalIdentity purpose kek.version)
  let wrapped ← aesgcmEncrypt kek.key answers.wrapNonce answers.dataKey metadata
  localWrappedDataKey proposalIdentity purpose kek.version (answers.wrapNonce ++ wrapped)

/-- `_unwrap`. -/
def unwrap [LocalKekProvider] (keyHandle : SafeReference) (envelope : LocalWrappedDataKey) :
    Except EnvelopeExn Bytes := do
  match ← LocalKekProvider.resolve envelope.kekVersion with
  | none => .error (.raised .keyError)
  | some kek =>
    validateKek kek (some envelope.kekVersion)
    let metadata ← orRaised (metadata keyHandle
      ⟨envelope.tenantReference, envelope.proposalReference⟩ envelope.purpose envelope.kekVersion)
    match Aesgcm.decrypt kek.key (envelope.ciphertext.take 12) (envelope.ciphertext.drop 12)
        metadata with
    | none => .error (.valueError "wrapped data key authentication failed")
    | some dataKey =>
      if dataKey.length ≠ 32 then
        .error (.valueError "unwrapped data key must contain exactly 32 bytes")
      else .ok dataKey

/-- `(KeyError, ValueError)`. -/
def isKeyOrValueError : EnvelopeExn → Bool
  | .raised exn => exn.isKeyOrValueError
  | _ => false

def provider [LocalKekProvider] : EnvelopeProvider LocalWrappedDataKey where
  codec := codec
  algorithm := algorithm
  binding := binding
  unwrap := unwrap
  metadata keyHandle proposalIdentity purpose envelope :=
    metadata keyHandle proposalIdentity purpose envelope.kekVersion
  missing := .valueError "protected payload metadata does not match its key envelope"
  refusesOn := isKeyOrValueError

def storeKey (answers : Answers) (envelopes : Envelopes LocalWrappedDataKey)
    (keyHandle : SafeReference) (envelope : LocalWrappedDataKey) : Except EnvelopeExn Unit :=
  ThrevoActions.storeKey binding true "wrapped-key handle is already bound" answers.put envelopes
    keyHandle envelope

/-- `create_for`, up to the storing of the key: the envelope and the digest. -/
def digestFor (answers : Answers) (proposalIdentity : ProposalIdentity)
    (canonicalPayload : Bytes) : Except EnvelopeExn (LocalWrappedDataKey × String) := do
  let envelope ← newKey answers proposalIdentity .commitment
  let metadata ←
    orRaised (metadata (keyHandle answers) proposalIdentity .commitment envelope.kekVersion)
  return (envelope, Hmac.hexdigest answers.dataKey (metadata ++ canonicalPayload))

def createFor (answers : Answers) (envelopes : Envelopes LocalWrappedDataKey)
    (proposalIdentity : ProposalIdentity) (canonicalPayload : Bytes) :
    Except EnvelopeExn KeyedCommitment × Envelopes LocalWrappedDataKey :=
  match digestFor answers proposalIdentity canonicalPayload with
  | .error exn => (.error exn, envelopes)
  | .ok (envelope, digest) =>
    (do
      storeKey answers envelopes (keyHandle answers) envelope
      return ⟨algorithm, keyHandle answers, envelope.kekVersion, digest⟩,
      answers.put.put envelopes (keyHandle answers) envelope)

/-- `protect_for`, up to the storing of the key: the envelope and the ciphertext. -/
def encryptFor (answers : Answers) (proposalIdentity : ProposalIdentity)
    (canonicalPayload : Bytes) : Except EnvelopeExn (LocalWrappedDataKey × Bytes) := do
  let envelope ← newKey answers proposalIdentity .payload
  let metadata ←
    orRaised (metadata (keyHandle answers) proposalIdentity .payload envelope.kekVersion)
  let encrypted ← aesgcmEncrypt answers.dataKey answers.nonce canonicalPayload metadata
  return (envelope, answers.nonce ++ encrypted)

/-- The key is stored before the payload is validated. -/
def protectFor (answers : Answers) (envelopes : Envelopes LocalWrappedDataKey)
    (proposalIdentity : ProposalIdentity) (canonicalPayload : Bytes) :
    Except EnvelopeExn ProtectedPayload × Envelopes LocalWrappedDataKey :=
  match encryptFor answers proposalIdentity canonicalPayload with
  | .error exn => (.error exn, envelopes)
  | .ok (envelope, ciphertext) =>
    (do
      storeKey answers envelopes (keyHandle answers) envelope
      encodedPayload codec (keyHandle answers) envelope.kekVersion ciphertext,
      answers.put.put envelopes (keyHandle answers) envelope)

end Keys

end LocalKek

end ThrevoActions
