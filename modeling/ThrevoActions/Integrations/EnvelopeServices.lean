import ThrevoActions.Integrations.EnvelopeGuarantees

/-!
# The two providers are lawful

The local-KEK provider relies on the key encryption key of a version to stay resolvable, the AWS KMS
provider on KMS to decrypt what it generated under the same context.
-/

namespace ThrevoActions

theorem toOption_eq_some {ε α : Type} {x : Except ε α} {a : α} :
    x.toOption = some a ↔ x = .ok a := by
  cases x <;> simp [Except.toOption]

theorem encodedPayload_eq_ok {codec keyHandle keyVersion : SafeReference} {ciphertext : Bytes}
    {payload : ProtectedPayload}
    (h : encodedPayload codec keyHandle keyVersion ciphertext = .ok payload) :
    payload.codec = codec ∧ payload.keyHandle = keyHandle ∧ payload.keyVersion = keyVersion ∧
      Base64.decode payload.ciphertext.toList = some ciphertext := by
  rw [encodedPayload] at h
  split_ifs at h
  cases h
  exact ⟨rfl, rfl, rfl, by rw [String.toList_ofList, Base64.decode_encode]⟩

theorem aesgcmEncrypt_eq_of_ok [Aesgcm] {key nonce data associatedData encrypted : Bytes}
    (h : aesgcmEncrypt key nonce data associatedData = .ok encrypted) :
    encrypted = Aesgcm.encrypt key nonce data associatedData := by
  rw [aesgcmEncrypt] at h
  split_ifs at h
  exact (Except.ok.inj h).symm

/-! ## The local-KEK provider -/

namespace LocalKek

variable [ReferenceCharacters] [Aesgcm] [LocalKekProvider]

@[reducible] def service : EnvelopeService LocalWrappedDataKey Answers where
  toEnvelopeProvider := provider
  protectFor := protectFor
  createFor := createFor
  draw answers proposalIdentity purpose :=
    (newKey answers proposalIdentity purpose).toOption.map
      fun envelope ↦ ⟨keyHandle answers, answers.dataKey, envelope⟩
  nonce answers := answers.nonce
  KeyService answers := ∀ kek, answers.current = .ok kek →
    LocalKekProvider.resolve kek.version = .ok (some kek)

variable {answers : Answers} {proposalIdentity : ProposalIdentity} {purpose : EnvelopePurpose}
  {envelope : LocalWrappedDataKey}

omit [LocalKekProvider] in
/-- The envelope of a new key. -/
theorem newKey_eq_ok (h : newKey answers proposalIdentity purpose = .ok envelope) :
    ∃ kek data, answers.current = .ok kek ∧ validateKek kek none = .ok () ∧
      metadata (keyHandle answers) proposalIdentity purpose kek.version = .ok data ∧
      envelope = ⟨proposalIdentity.tenantReference, proposalIdentity.proposalReference, purpose,
        kek.version, answers.wrapNonce ++
          Aesgcm.encrypt kek.key answers.wrapNonce answers.dataKey data⟩ := by
  obtain ⟨kek, hcurrent, h⟩ := Except.bind_eq_ok.mp h
  obtain ⟨⟨⟩, hvalid, h⟩ := Except.bind_eq_ok.mp h
  obtain ⟨data, hdata, h⟩ := Except.bind_eq_ok.mp h
  obtain ⟨wrapped, hwrapped, h⟩ := Except.bind_eq_ok.mp h
  rw [localWrappedDataKey] at h
  split_ifs at h
  rw [aesgcmEncrypt_eq_of_ok hwrapped] at h
  exact ⟨kek, data, hcurrent, hvalid, EnvelopeService.orRaised_eq_ok.mp hdata,
    (Except.ok.inj h).symm⟩

omit [Aesgcm] [LocalKekProvider] in
/-- A key encryption key is valid for its own version. -/
theorem validateKek_self {kek : LocalKekMaterial} (h : validateKek kek none = .ok ()) :
    validateKek kek (some kek.version) = .ok () := by
  rw [validateKek] at h ⊢
  simp only [Option.any_some, Option.any_none, bne_self_eq_false] at h ⊢
  exact h

theorem draw_eq_some {draw : Draw LocalWrappedDataKey} :
    service.draw answers proposalIdentity purpose = some draw ↔
      newKey answers proposalIdentity purpose = .ok draw.envelope ∧
        draw.keyHandle = keyHandle answers ∧ draw.key = answers.dataKey := by
  rw [Option.map_eq_some_iff]
  constructor
  · rintro ⟨envelope, henvelope, rfl⟩
    exact ⟨toOption_eq_some.mp henvelope, rfl, rfl⟩
  · rintro ⟨henvelope, hhandle, hkey⟩
    refine ⟨draw.envelope, toOption_eq_some.mpr henvelope, ?_⟩
    cases draw
    cases hhandle
    cases hkey
    rfl

theorem unwrap_newKey (hservice : service.KeyService answers)
    (h : newKey answers proposalIdentity purpose = .ok envelope) :
    unwrap (keyHandle answers) envelope = .ok answers.dataKey := by
  obtain ⟨kek, data, hcurrent, hvalid, hdata, rfl⟩ := newKey_eq_ok h
  have hnonce : ((answers.wrapNonce : Bytes) ++
      Aesgcm.encrypt kek.key answers.wrapNonce answers.dataKey data).take 12 =
        answers.wrapNonce := List.take_left' answers.wrapNonce.property
  have hwrapped : ((answers.wrapNonce : Bytes) ++
      Aesgcm.encrypt kek.key answers.wrapNonce answers.dataKey data).drop 12 =
        Aesgcm.encrypt kek.key answers.wrapNonce answers.dataKey data :=
    List.drop_left' answers.wrapNonce.property
  refine Except.bind_eq_ok.mpr ⟨some kek, hservice kek hcurrent, ?_⟩
  refine Except.bind_eq_ok.mpr ⟨(), validateKek_self hvalid, ?_⟩
  refine Except.bind_eq_ok.mpr ⟨data, EnvelopeService.orRaised_eq_ok.mpr hdata, ?_⟩
  dsimp only
  rw [hnonce, hwrapped, Aesgcm.decrypt_encrypt]
  dsimp only
  rw [if_neg (not_not_intro answers.dataKey.property)]

omit [LocalKekProvider] in
/-- What `protect_for` encrypts is the payload under the key that it draws. -/
theorem encryptFor_eq_ok {canonicalPayload : Bytes} {ciphertext : Bytes}
    (h : encryptFor answers proposalIdentity canonicalPayload = .ok (envelope, ciphertext)) :
    ∃ data, newKey answers proposalIdentity .payload = .ok envelope ∧
      metadata (keyHandle answers) proposalIdentity .payload envelope.kekVersion = .ok data ∧
      ciphertext = answers.nonce ++
        Aesgcm.encrypt answers.dataKey answers.nonce canonicalPayload data := by
  obtain ⟨_, henvelope, h⟩ := Except.bind_eq_ok.mp h
  obtain ⟨data, hdata, h⟩ := Except.bind_eq_ok.mp h
  obtain ⟨_, hencrypted, h⟩ := Except.bind_eq_ok.mp h
  cases h
  rw [aesgcmEncrypt_eq_of_ok hencrypted]
  exact ⟨data, henvelope, EnvelopeService.orRaised_eq_ok.mp hdata, rfl⟩

omit [LocalKekProvider] in
/-- What `create_for` makes the digest of is the payload, under the key that it draws. -/
theorem digestFor_eq_ok {canonicalPayload : Bytes} {digest : String}
    (h : digestFor answers proposalIdentity canonicalPayload = .ok (envelope, digest)) :
    ∃ data, newKey answers proposalIdentity .commitment = .ok envelope ∧
      metadata (keyHandle answers) proposalIdentity .commitment envelope.kekVersion = .ok data ∧
      digest = Hmac.hexdigest answers.dataKey (data ++ canonicalPayload) := by
  obtain ⟨_, henvelope, h⟩ := Except.bind_eq_ok.mp h
  obtain ⟨data, hdata, h⟩ := Except.bind_eq_ok.mp h
  cases h
  exact ⟨data, henvelope, EnvelopeService.orRaised_eq_ok.mp hdata, rfl⟩

theorem lawful : service.Lawful where
  unwrap := by
    intro answers proposalIdentity purpose draw hservice hdraw
    obtain ⟨henvelope, hhandle, hkey⟩ := draw_eq_some.mp hdraw
    rw [hhandle, hkey]
    exact unwrap_newKey hservice henvelope
  binding := by
    intro answers proposalIdentity purpose draw hdraw
    obtain ⟨kek, data, -, -, -, henvelope⟩ := newKey_eq_ok (draw_eq_some.mp hdraw).1
    rw [henvelope]
    exact ⟨rfl, rfl⟩
  length_nonce answers := answers.nonce.property
  stores := by
    intro answers envelopes proposalIdentity canonicalPayload
    dsimp only
    rw [protectFor]
    cases hmade : encryptFor answers proposalIdentity canonicalPayload with
    | error exn => exact Or.inl rfl
    | ok made =>
      obtain ⟨-, henvelope, -⟩ := encryptFor_eq_ok hmade
      refine put_cases.imp_right fun hput ↦ ?_
      exact ⟨⟨keyHandle answers, answers.dataKey, made.1⟩,
        draw_eq_some.mpr ⟨henvelope, rfl, rfl⟩, hput⟩
  protects := by
    intro answers envelopes proposalIdentity canonicalPayload payload hresult
    dsimp only at hresult ⊢
    rw [protectFor] at hresult ⊢
    cases hmade : encryptFor answers proposalIdentity canonicalPayload with
    | error exn =>
      rw [hmade] at hresult
      cases hresult
    | ok made =>
      rw [hmade] at hresult
      obtain ⟨⟨⟩, hstored, hpayload⟩ := Except.bind_eq_ok.mp hresult
      obtain ⟨data, henvelope, hdata, hciphertext⟩ := encryptFor_eq_ok hmade
      obtain ⟨hcodec, hhandle, hversion, hdecoded⟩ := encodedPayload_eq_ok hpayload
      rw [hciphertext] at hdecoded
      exact ⟨⟨keyHandle answers, answers.dataKey, made.1⟩, data,
        draw_eq_some.mpr ⟨henvelope, rfl, rfl⟩, put_of_storeKey hstored, hdata, hcodec, hhandle,
        hversion, hdecoded⟩
  storesCommitment := by
    intro answers envelopes proposalIdentity canonicalPayload
    dsimp only
    rw [createFor]
    cases hmade : digestFor answers proposalIdentity canonicalPayload with
    | error exn => exact Or.inl rfl
    | ok made =>
      obtain ⟨-, henvelope, -⟩ := digestFor_eq_ok hmade
      refine put_cases.imp_right fun hput ↦ ?_
      exact ⟨⟨keyHandle answers, answers.dataKey, made.1⟩,
        draw_eq_some.mpr ⟨henvelope, rfl, rfl⟩, hput⟩
  creates := by
    intro answers envelopes proposalIdentity canonicalPayload commitment hresult
    dsimp only at hresult ⊢
    rw [createFor] at hresult ⊢
    cases hmade : digestFor answers proposalIdentity canonicalPayload with
    | error exn =>
      rw [hmade] at hresult
      cases hresult
    | ok made =>
      rw [hmade] at hresult
      obtain ⟨⟨⟩, hstored, hcommitment⟩ := Except.bind_eq_ok.mp hresult
      obtain ⟨data, henvelope, hdata, hdigest⟩ := digestFor_eq_ok hmade
      rw [hdigest] at hcommitment
      exact ⟨⟨keyHandle answers, answers.dataKey, made.1⟩, data,
        draw_eq_some.mpr ⟨henvelope, rfl, rfl⟩, put_of_storeKey hstored, hdata,
        (Except.ok.inj hcommitment).symm⟩

end LocalKek

/-! ## The AWS KMS provider -/

namespace AwsKms

variable [ReferenceCharacters] [PrintableCharacters] [Aesgcm] [KmsDataKeyClient]

@[reducible] def service (keyId : String) : EnvelopeService WrappedDataKey Answers where
  toEnvelopeProvider := provider
  protectFor := protectFor keyId
  createFor := createFor keyId
  draw answers proposalIdentity purpose := do
    let generated ← (generateKey keyId answers proposalIdentity purpose).toOption
    let envelope ← (wrappedDataKey proposalIdentity purpose generated).toOption
    return ⟨keyHandle answers, generated.plaintext, envelope⟩
  nonce answers := answers.nonce
  KeyService answers := ∀ context generated,
    answers.generateDataKey keyId context 32 = .ok generated →
      KmsDataKeyClient.decryptDataKey generated.resolvedKeyId generated.ciphertext context =
        .ok generated.plaintext

variable {keyId : String} {answers : Answers} {proposalIdentity : ProposalIdentity}
  {purpose : EnvelopePurpose} {generated : GeneratedDataKey} {envelope : WrappedDataKey}

omit [Aesgcm] [KmsDataKeyClient] in
theorem generateKey_eq_ok (h : generateKey keyId answers proposalIdentity purpose = .ok generated) :
    answers.generateDataKey keyId (encryptionContext (keyHandle answers) proposalIdentity purpose)
      32 = .ok generated ∧ generated.plaintext.length = 32 := by
  obtain ⟨generated', hgenerated, h⟩ := Except.bind_eq_ok.mp h
  split_ifs at h with hlength hidentifier
  cases h
  exact ⟨hgenerated, not_not.mp hlength⟩

omit [Aesgcm] [KmsDataKeyClient] [ReferenceCharacters] [PrintableCharacters] in
theorem wrappedDataKey_eq_ok
    (h : wrappedDataKey proposalIdentity purpose generated = .ok envelope) :
    ∃ version, keyVersion generated.resolvedKeyId = .ok version ∧
      envelope = ⟨proposalIdentity.tenantReference, proposalIdentity.proposalReference, purpose,
        generated.resolvedKeyId, version, generated.ciphertext⟩ := by
  obtain ⟨version, hversion, h⟩ := Except.bind_eq_ok.mp h
  split_ifs at h
  exact ⟨version, EnvelopeService.orRaised_eq_ok.mp hversion, (Except.ok.inj h).symm⟩

theorem draw_eq_some {draw : Draw WrappedDataKey} :
    (service keyId).draw answers proposalIdentity purpose = some draw ↔
      ∃ generated, generateKey keyId answers proposalIdentity purpose = .ok generated ∧
        wrappedDataKey proposalIdentity purpose generated = .ok draw.envelope ∧
        draw.keyHandle = keyHandle answers ∧ draw.key = generated.plaintext := by
  simp only [Option.bind_eq_bind, Option.bind_eq_some_iff, toOption_eq_some]
  refine exists_congr fun generated ↦ and_congr_right fun _ ↦ ?_
  constructor
  · rintro ⟨envelope, henvelope, hdraw⟩
    cases hdraw
    exact ⟨henvelope, rfl, rfl⟩
  · rintro ⟨henvelope, hhandle, hkey⟩
    refine ⟨draw.envelope, henvelope, ?_⟩
    cases draw
    cases hhandle
    cases hkey
    rfl

theorem decryptKey_generated (hservice : (service keyId).KeyService answers)
    (hgenerated : generateKey keyId answers proposalIdentity purpose = .ok generated)
    (h : wrappedDataKey proposalIdentity purpose generated = .ok envelope) :
    decryptKey (keyHandle answers) envelope = .ok generated.plaintext := by
  obtain ⟨hanswer, hlength⟩ := generateKey_eq_ok hgenerated
  obtain ⟨version, -, rfl⟩ := wrappedDataKey_eq_ok h
  refine Except.bind_eq_ok.mpr ⟨generated.plaintext, hservice _ _ hanswer, ?_⟩
  rw [if_neg (not_not_intro hlength)]

omit [KmsDataKeyClient] in
/-- What `protect_for` encrypts is the payload under the key that was generated. -/
theorem encryptFor_eq_ok {canonicalPayload : Bytes} {payload : ProtectedPayload}
    (h : encryptFor keyId answers proposalIdentity canonicalPayload = .ok (envelope, payload)) :
    ∃ generated data, generateKey keyId answers proposalIdentity .payload = .ok generated ∧
      wrappedDataKey proposalIdentity .payload generated = .ok envelope ∧
      authenticatedMetadata (keyHandle answers) proposalIdentity .payload envelope.keyId
        envelope.keyVersion = .ok data ∧
      payload.codec = codec ∧ payload.keyHandle = keyHandle answers ∧
      payload.keyVersion = envelope.keyVersion ∧
      Base64.decode payload.ciphertext.toList = some (answers.nonce ++
        Aesgcm.encrypt generated.plaintext answers.nonce canonicalPayload data) := by
  obtain ⟨generated, hgenerated, h⟩ := Except.bind_eq_ok.mp h
  obtain ⟨version, hversion, h⟩ := Except.bind_eq_ok.mp h
  obtain ⟨data, hdata, h⟩ := Except.bind_eq_ok.mp h
  obtain ⟨_, hencrypted, h⟩ := Except.bind_eq_ok.mp h
  obtain ⟨_, hpayload, h⟩ := Except.bind_eq_ok.mp h
  obtain ⟨_, henvelope, h⟩ := Except.bind_eq_ok.mp h
  cases h
  obtain ⟨version', hversion', rfl⟩ := wrappedDataKey_eq_ok henvelope
  cases (EnvelopeService.orRaised_eq_ok.mp hversion).symm.trans hversion'
  rw [aesgcmEncrypt_eq_of_ok hencrypted] at hpayload
  obtain ⟨hcodec, hhandle, hkeyVersion, hdecoded⟩ := encodedPayload_eq_ok hpayload
  exact ⟨generated, data, hgenerated, henvelope, EnvelopeService.orRaised_eq_ok.mp hdata, hcodec,
    hhandle, hkeyVersion, hdecoded⟩

omit [KmsDataKeyClient] [Aesgcm] in
/-- What `create_for` makes the digest of is the payload, under the key that was generated. -/
theorem commitmentFor_eq_ok {canonicalPayload : Bytes} {commitment : KeyedCommitment}
    (h : commitmentFor keyId answers proposalIdentity canonicalPayload =
      .ok (envelope, commitment)) :
    ∃ generated data, generateKey keyId answers proposalIdentity .commitment = .ok generated ∧
      wrappedDataKey proposalIdentity .commitment generated = .ok envelope ∧
      authenticatedMetadata (keyHandle answers) proposalIdentity .commitment envelope.keyId
        envelope.keyVersion = .ok data ∧
      commitment = ⟨algorithm, keyHandle answers, envelope.keyVersion,
        Hmac.hexdigest generated.plaintext (data ++ canonicalPayload)⟩ := by
  obtain ⟨generated, hgenerated, h⟩ := Except.bind_eq_ok.mp h
  obtain ⟨version, hversion, h⟩ := Except.bind_eq_ok.mp h
  obtain ⟨data, hdata, h⟩ := Except.bind_eq_ok.mp h
  obtain ⟨_, henvelope, h⟩ := Except.bind_eq_ok.mp h
  cases h
  obtain ⟨version', hversion', rfl⟩ := wrappedDataKey_eq_ok henvelope
  cases (EnvelopeService.orRaised_eq_ok.mp hversion).symm.trans hversion'
  exact ⟨generated, data, hgenerated, henvelope, EnvelopeService.orRaised_eq_ok.mp hdata, rfl⟩

theorem lawful : (service keyId).Lawful where
  unwrap := by
    intro answers proposalIdentity purpose draw hservice hdraw
    obtain ⟨generated, hgenerated, henvelope, hhandle, hkey⟩ := draw_eq_some.mp hdraw
    rw [hhandle, hkey]
    exact decryptKey_generated hservice hgenerated henvelope
  binding := by
    intro answers proposalIdentity purpose draw hdraw
    obtain ⟨generated, -, henvelope, -⟩ := draw_eq_some.mp hdraw
    obtain ⟨version, -, henvelope⟩ := wrappedDataKey_eq_ok henvelope
    rw [henvelope]
    exact ⟨rfl, rfl⟩
  length_nonce answers := answers.nonce.property
  stores := by
    intro answers envelopes proposalIdentity canonicalPayload
    dsimp only
    rw [protectFor]
    cases hmade : encryptFor keyId answers proposalIdentity canonicalPayload with
    | error exn => exact Or.inl rfl
    | ok made =>
      obtain ⟨generated, -, hgenerated, henvelope, -⟩ := encryptFor_eq_ok hmade
      refine put_cases.imp_right fun hput ↦ ?_
      exact ⟨⟨keyHandle answers, generated.plaintext, made.1⟩,
        draw_eq_some.mpr ⟨generated, hgenerated, henvelope, rfl, rfl⟩, hput⟩
  protects := by
    intro answers envelopes proposalIdentity canonicalPayload payload hresult
    dsimp only at hresult ⊢
    rw [protectFor] at hresult ⊢
    cases hmade : encryptFor keyId answers proposalIdentity canonicalPayload with
    | error exn =>
      rw [hmade] at hresult
      cases hresult
    | ok made =>
      rw [hmade] at hresult
      obtain ⟨⟨⟩, hstored, hpayload⟩ := Except.bind_eq_ok.mp hresult
      cases hpayload
      obtain ⟨generated, data, hgenerated, henvelope, hdata, hpayload⟩ := encryptFor_eq_ok hmade
      exact ⟨⟨keyHandle answers, generated.plaintext, made.1⟩, data,
        draw_eq_some.mpr ⟨generated, hgenerated, henvelope, rfl, rfl⟩, put_of_storeKey hstored,
        hdata, hpayload⟩
  storesCommitment := by
    intro answers envelopes proposalIdentity canonicalPayload
    dsimp only
    rw [createFor]
    cases hmade : commitmentFor keyId answers proposalIdentity canonicalPayload with
    | error exn => exact Or.inl rfl
    | ok made =>
      obtain ⟨generated, -, hgenerated, henvelope, -⟩ := commitmentFor_eq_ok hmade
      refine put_cases.imp_right fun hput ↦ ?_
      exact ⟨⟨keyHandle answers, generated.plaintext, made.1⟩,
        draw_eq_some.mpr ⟨generated, hgenerated, henvelope, rfl, rfl⟩, hput⟩
  creates := by
    intro answers envelopes proposalIdentity canonicalPayload commitment hresult
    dsimp only at hresult ⊢
    rw [createFor] at hresult ⊢
    cases hmade : commitmentFor keyId answers proposalIdentity canonicalPayload with
    | error exn =>
      rw [hmade] at hresult
      cases hresult
    | ok made =>
      rw [hmade] at hresult
      obtain ⟨⟨⟩, hstored, hcommitment⟩ := Except.bind_eq_ok.mp hresult
      cases hcommitment
      obtain ⟨generated, data, hgenerated, henvelope, hdata, hcommitment⟩ :=
        commitmentFor_eq_ok hmade
      exact ⟨⟨keyHandle answers, generated.plaintext, made.1⟩, data,
        draw_eq_some.mpr ⟨generated, hgenerated, henvelope, rfl, rfl⟩, put_of_storeKey hstored,
        hdata, hcommitment⟩

end AwsKms

section Sample

@[reducible] def sampleKeks : LocalKekProvider :=
  ⟨fun version ↦ .ok (if version = "kek-v1" then some ⟨"kek-v1", List.replicate 32 0x6b⟩ else none)⟩

attribute [local instance] asciiReferences taggedAesgcm sampleKeks

namespace LocalKek

/-- An empty payload, protected. -/
def samplePayload : ProtectedPayload where
  codec := codec
  keyHandle := "local-envelope:0123456789abcdef0123456789abcdef"
  keyVersion := "kek-v1"
  ciphertext := "bm5ubm5ubm5ubm5usyyQWw3vfN+xvS/4pCSWsA=="

/-- The bits that the padding leaves over are ones. -/
def alteredPayload : ProtectedPayload where
  codec := codec
  keyHandle := "local-envelope:0123456789abcdef0123456789abcdef"
  keyVersion := "kek-v1"
  ciphertext := "bm5ubm5ubm5ubm5usyyQWw3vfN+xvS/4pCSWsP=="

def sampleOpening : Opening where
  key := List.replicate 32 0x64
  nonce := List.replicate 12 0x6e
  data := [0xb3, 0x2c, 0x90, 0x5b, 0x0d, 0xef, 0x7c, 0xdf, 0xb1, 0xbd, 0x2f, 0xf8, 0xa4, 0x24, 0x96,
    0xb0]
  associatedData := (metadata samplePayload.keyHandle ⟨"tenant:one", "proposal:one"⟩ .payload
    "kek-v1").toOption.getD []

/-- The envelopes after the payload was protected. -/
def sampleEnvelopes : Envelopes LocalWrappedDataKey :=
  (protectFor smoothAnswers (fun _ ↦ none) ⟨"tenant:one", "proposal:one"⟩ []).2

theorem opening_altered :
    service.opening sampleEnvelopes ⟨"tenant:one", "proposal:one"⟩ alteredPayload =
      .ok sampleOpening := by
  decide +kernel

theorem decrypt_sample : Aesgcm.decrypt sampleOpening.key sampleOpening.nonce sampleOpening.data
    sampleOpening.associatedData = some [] := by
  decide +kernel

end LocalKek

end Sample

end ThrevoActions
