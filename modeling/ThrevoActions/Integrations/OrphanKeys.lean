import ThrevoActions.Integrations.AwsKms
import ThrevoActions.Integrations.LocalKek

/-!
# Keys of payloads that were never returned

A call of `protect_for` that fails should not leave a key behind. The AWS KMS provider validates the
payload before it stores the key. The local-KEK provider does so afterwards, and the limit on the
text of a ciphertext is the one validation that can still fail then.
-/

namespace ThrevoActions

/-- A failed call left the envelopes as they were, unless its error leaves that open. -/
def LeavesNoOrphan {E α : Type} (outcome : Except EnvelopeExn α × Envelopes E)
    (before : Envelopes E) : Prop :=
  ∀ exn, outcome.1 = .error exn → exn.leavesOpen = false → outcome.2 = before

/-- The length of a payload whose ciphertext is not too long: behind a nonce of 12 bytes, with a tag
of 16 bytes, in base64. -/
theorem encodedPayload_isOk_iff {codec keyHandle keyVersion : SafeReference} {ciphertext : Bytes} :
    (∃ payload, encodedPayload codec keyHandle keyVersion ciphertext = .ok payload) ↔
      1 ≤ ciphertext.length ∧ ciphertext.length ≤ 786432 := by
  rw [encodedPayload, Base64.length_encode]
  split_ifs with hfits
  · exact iff_of_true ⟨_, rfl⟩ (by omega)
  · exact iff_of_false (fun ⟨_, h⟩ ↦ nomatch h) (by omega)

namespace AwsKms

variable [ReferenceCharacters] [PrintableCharacters] [Aesgcm]

/-- Nothing fails after the key was stored. -/
theorem protectFor_leavesNoOrphan (keyId : String) (answers : Answers)
    (envelopes : Envelopes WrappedDataKey) (proposalIdentity : ProposalIdentity)
    (canonicalPayload : Bytes) :
    LeavesNoOrphan (protectFor keyId answers envelopes proposalIdentity canonicalPayload)
      envelopes := by
  intro exn herror hopen
  rw [protectFor] at herror ⊢
  cases hmade : encryptFor keyId answers proposalIdentity canonicalPayload with
  | error failure => rfl
  | ok made =>
    rw [hmade] at herror
    cases hstored : storeKey answers envelopes (keyHandle answers) made.1 with
    | ok =>
      dsimp only at herror
      rw [hstored] at herror
      cases herror
    | error failure =>
      dsimp only at herror
      rw [hstored] at herror
      cases herror
      exact put_of_storeKey_error hstored hopen

end AwsKms

namespace LocalKek

theorem metadata_smooth (purpose : EnvelopePurpose) :
    ∃ bytes, metadata (keyHandle smoothAnswers) ⟨"tenant:one", "proposal:one"⟩ purpose "kek-v1" =
      .ok bytes ∧ bytes.length ≤ 2 ^ 31 - 1 := by
  have hlength : ((metadata (keyHandle smoothAnswers) ⟨"tenant:one", "proposal:one"⟩ purpose
      "kek-v1").toOption.map List.length).any (· ≤ 2 ^ 31 - 1) = true := by
    cases purpose <;> decide +kernel
  cases hbytes : metadata (keyHandle smoothAnswers) ⟨"tenant:one", "proposal:one"⟩ purpose
      "kek-v1" with
  | error exn =>
    rw [hbytes] at hlength
    cases hlength
  | ok bytes =>
    rw [hbytes] at hlength
    exact ⟨bytes, rfl, of_decide_eq_true hlength⟩

section Protect

variable [Aesgcm]

theorem aesgcmEncrypt_eq_ok {key nonce data associatedData : Bytes}
    (hdata : data.length ≤ 2 ^ 31 - 1) (hassociated : associatedData.length ≤ 2 ^ 31 - 1) :
    aesgcmEncrypt key nonce data associatedData =
      .ok (Aesgcm.encrypt key nonce data associatedData) := by
  rw [aesgcmEncrypt, if_neg (by omega)]

variable [ReferenceCharacters]

/-- The ciphertext is the nonce and what AES-GCM makes of a payload that it takes. -/
theorem length_of_encryptFor {answers : Answers} {proposalIdentity : ProposalIdentity}
    {canonicalPayload ciphertext : Bytes} {envelope : LocalWrappedDataKey}
    (h : encryptFor answers proposalIdentity canonicalPayload = .ok (envelope, ciphertext)) :
    canonicalPayload.length ≤ 2 ^ 31 - 1 ∧ ciphertext.length = canonicalPayload.length + 28 := by
  obtain ⟨_, -, h⟩ := Except.bind_eq_ok.mp h
  obtain ⟨_, -, h⟩ := Except.bind_eq_ok.mp h
  obtain ⟨encrypted, hencrypted, h⟩ := Except.bind_eq_ok.mp h
  cases h
  rw [aesgcmEncrypt] at hencrypted
  split_ifs at hencrypted with hlong
  rw [← Except.ok.inj hencrypted, List.length_append, Aesgcm.length_encrypt, answers.nonce.property]
  omega

/-- A payload whose ciphertext is short enough is returned where its key is stored. -/
theorem protectFor_leavesNoOrphan {answers : Answers} {envelopes : Envelopes LocalWrappedDataKey}
    {proposalIdentity : ProposalIdentity} {canonicalPayload : Bytes}
    (h : canonicalPayload.length ≤ 786404 ∨ 2 ^ 31 - 1 < canonicalPayload.length) :
    LeavesNoOrphan (protectFor answers envelopes proposalIdentity canonicalPayload) envelopes := by
  intro exn herror hopen
  rw [protectFor] at herror ⊢
  cases hmade : encryptFor answers proposalIdentity canonicalPayload with
  | error failure => rfl
  | ok made =>
    rw [hmade] at herror
    dsimp only at herror
    cases hstored : storeKey answers envelopes (keyHandle answers) made.1 with
    | ok =>
      obtain ⟨htaken, hlength⟩ := length_of_encryptFor hmade
      obtain ⟨payload, hpayload⟩ := encodedPayload_isOk_iff.mpr
        (show 1 ≤ made.2.length ∧ made.2.length ≤ 786432 by omega)
      rw [hstored] at herror
      exact absurd (hpayload.symm.trans herror) (by simp)
    | error failure =>
      rw [hstored] at herror
      cases herror
      exact put_of_storeKey_error hstored hopen

theorem newKey_smooth (hversion : IsReference "kek-v1") (purpose : EnvelopePurpose) :
    ∃ envelope, newKey smoothAnswers ⟨"tenant:one", "proposal:one"⟩ purpose = .ok envelope ∧
      envelope.kekVersion = "kek-v1" := by
  have hvalid : validateKek ⟨"kek-v1", List.replicate 32 0x6b⟩ none = .ok () := by
    rw [validateKek, if_neg (not_not_intro hversion)]
    rfl
  obtain ⟨bytes, hbytes, hshort⟩ := metadata_smooth purpose
  have hwrapped : aesgcmEncrypt (List.replicate 32 0x6b) smoothAnswers.wrapNonce
      smoothAnswers.dataKey bytes =
        .ok (Aesgcm.encrypt (List.replicate 32 0x6b) smoothAnswers.wrapNonce
          smoothAnswers.dataKey bytes) :=
    aesgcmEncrypt_eq_ok (by rw [smoothAnswers.dataKey.property]; omega) hshort
  refine ⟨⟨"tenant:one", "proposal:one", purpose, "kek-v1", smoothAnswers.wrapNonce ++
    Aesgcm.encrypt (List.replicate 32 0x6b) smoothAnswers.wrapNonce smoothAnswers.dataKey bytes⟩,
    ?_, rfl⟩
  have hlength : ¬((smoothAnswers.wrapNonce : Bytes) ++ Aesgcm.encrypt (List.replicate 32 0x6b)
      smoothAnswers.wrapNonce smoothAnswers.dataKey bytes).length < 12 + 16 := by
    rw [List.length_append, Aesgcm.length_encrypt, smoothAnswers.wrapNonce.property]
    omega
  refine Except.bind_eq_ok.mpr ⟨⟨"kek-v1", List.replicate 32 0x6b⟩, rfl, ?_⟩
  refine Except.bind_eq_ok.mpr ⟨(), hvalid, ?_⟩
  refine Except.bind_eq_ok.mpr ⟨bytes, by rw [hbytes]; rfl, ?_⟩
  refine Except.bind_eq_ok.mpr ⟨_, hwrapped, ?_⟩
  rw [localWrappedDataKey, if_neg hlength]

/-- **An orphan.** The key is stored, and the payload is refused. -/
theorem protectFor_orphans (hversion : IsReference "kek-v1") {canonicalPayload : Bytes}
    (hlong : 786404 < canonicalPayload.length) (htaken : canonicalPayload.length ≤ 2 ^ 31 - 1) :
    ∃ envelope, protectFor smoothAnswers (fun _ ↦ none) ⟨"tenant:one", "proposal:one"⟩
        canonicalPayload =
      (.error (.raised .validationError),
        Function.update (fun _ ↦ none) (keyHandle smoothAnswers) (some envelope)) := by
  obtain ⟨envelope, henvelope, hkek⟩ := newKey_smooth hversion .payload
  obtain ⟨bytes, hbytes, hshort⟩ := metadata_smooth .payload
  have hmade : encryptFor smoothAnswers ⟨"tenant:one", "proposal:one"⟩ canonicalPayload =
      .ok (envelope, smoothAnswers.nonce ++
        Aesgcm.encrypt smoothAnswers.dataKey smoothAnswers.nonce canonicalPayload bytes) := by
    refine Except.bind_eq_ok.mpr ⟨envelope, henvelope, ?_⟩
    refine Except.bind_eq_ok.mpr ⟨bytes, by rw [hkek, hbytes]; rfl, ?_⟩
    exact Except.bind_eq_ok.mpr ⟨_, aesgcmEncrypt_eq_ok htaken hshort, rfl⟩
  obtain ⟨-, hlength⟩ := length_of_encryptFor hmade
  have hrefused : encodedPayload codec (keyHandle smoothAnswers) envelope.kekVersion
      (smoothAnswers.nonce ++ Aesgcm.encrypt smoothAnswers.dataKey smoothAnswers.nonce
        canonicalPayload bytes) = .error (.raised .validationError) := by
    rw [encodedPayload, Base64.length_encode, hlength, if_neg (by omega)]
  refine ⟨envelope, ?_⟩
  rw [protectFor, hmade]
  exact Prod.ext hrefused rfl

theorem not_leavesNoOrphan (hversion : IsReference "kek-v1") {canonicalPayload : Bytes}
    (hlong : 786404 < canonicalPayload.length) (htaken : canonicalPayload.length ≤ 2 ^ 31 - 1) :
    ¬LeavesNoOrphan (protectFor smoothAnswers (fun _ ↦ none) ⟨"tenant:one", "proposal:one"⟩
      canonicalPayload) fun _ ↦ none := by
  obtain ⟨envelope, horphan⟩ := protectFor_orphans hversion hlong htaken
  intro hleft
  rw [horphan] at hleft
  have hsame := congrFun (hleft _ rfl rfl) (keyHandle smoothAnswers)
  dsimp only at hsame
  rw [Function.update_self] at hsame
  cases hsame

end Protect

end LocalKek

section Sample

attribute [local instance] asciiReferences asciiPrintable taggedAesgcm

end Sample

end ThrevoActions
