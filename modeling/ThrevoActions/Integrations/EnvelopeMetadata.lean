import ThrevoActions.Coding.Framing
import ThrevoActions.FrozenJson
import ThrevoActions.Json.Utf8

/-!
# What binds a data key to its proposal

Both envelope providers authenticate a data key, and the ciphertext under it, together with the
identity it was made for. The identity goes in as bytes: each part in UTF-8 behind its length in
four bytes.
-/

namespace ThrevoActions

/-- What a data key is for. -/
inductive EnvelopePurpose
  | commitment
  | payload
  deriving DecidableEq, Repr

def EnvelopePurpose.text : EnvelopePurpose → String
  | .commitment => "commitment"
  | .payload => "payload"

/-- A bytes literal, of ASCII characters. -/
def bytesLiteral (s : String) : Bytes := s.toList.map fun c ↦ c.toNat.toUInt8

/-- `len(part).to_bytes(4, "big") + part`. -/
def framePart (part : Bytes) : Except Exn Bytes := do
  let length ← toBytes 4 part.length
  return length ++ part

/-- The frames of the parts in UTF-8, joined. -/
def lengthPrefixed (parts : List String) : Except Exn Bytes := do
  let encoded ← parts.mapM fun part ↦ encodeUtf8 (PyStr.ofString part)
  let framed ← encoded.mapM framePart
  return framed.flatten

namespace LocalKek

/-- `_metadata` of the local-KEK provider. -/
def metadata (keyHandle : SafeReference) (proposalIdentity : ProposalIdentity)
    (purpose : EnvelopePurpose) (kekVersion : SafeReference) : Except Exn Bytes := do
  let parts ← lengthPrefixed [keyHandle, proposalIdentity.tenantReference,
    proposalIdentity.proposalReference, purpose.text, kekVersion]
  return bytesLiteral "threvo-actions:local-kek-envelope:v1" ++ parts

end LocalKek

namespace AwsKms

/-- `_authenticated_metadata` of the AWS KMS provider. -/
def authenticatedMetadata (keyHandle : SafeReference) (proposalIdentity : ProposalIdentity)
    (purpose : EnvelopePurpose) (keyId : String) (keyVersion : SafeReference) :
    Except Exn Bytes := do
  let parts ← lengthPrefixed [keyHandle, proposalIdentity.tenantReference,
    proposalIdentity.proposalReference, purpose.text, keyId, keyVersion]
  return bytesLiteral "threvo-actions:aws-kms-envelope:v1" ++ parts

end AwsKms

/-! ## Injectivity -/

theorem toBytesBig_length (width n : ℕ) : (toBytesBig width n).length = width := by
  induction width generalizing n with
  | zero => rfl
  | succ width ih => rw [toBytesBig, List.length_append, ih, List.length_singleton]

theorem toBytesBig_inj {width m n : ℕ} (hm : m < 256 ^ width) (hn : n < 256 ^ width)
    (h : toBytesBig width m = toBytesBig width n) : m = n := by
  induction width generalizing m n with
  | zero =>
    rw [Nat.pow_zero] at hm hn
    omega
  | succ width ih =>
    rw [Nat.pow_succ] at hm hn
    rw [toBytesBig, toBytesBig] at h
    obtain ⟨hhigh, hlow⟩ := List.append_inj h (by rw [toBytesBig_length, toBytesBig_length])
    have hquotient : m / 256 = n / 256 := ih (by omega) (by omega) hhigh
    have hremainder : m % 256 = n % 256 := by
      have h := congrArg UInt8.toNat (List.singleton_inj.mp hlow)
      rw [toNat_toUInt8, toNat_toUInt8] at h
      omega
    omega

theorem prefixFree_toBytesBig (width : ℕ) :
    Framing.PrefixFree {n | n < 256 ^ width} (toBytesBig width) :=
  Framing.prefixFree_of_length (toBytesBig_length width) fun _ hm _ hn h ↦ toBytesBig_inj hm hn h

theorem toBytes_eq_ok {width n : ℕ} {bytes : Bytes} :
    toBytes width n = .ok bytes ↔ n < 256 ^ width ∧ bytes = toBytesBig width n := by
  rw [toBytes]
  split_ifs with h
  · simp [h, eq_comm]
  · simp [h]

/-- A text has one encoding, and the encoding has one text. -/
theorem encodeUtf8_inj {s t : PyStr} {bytes : Bytes} (hs : encodeUtf8 s = .ok bytes)
    (ht : encodeUtf8 t = .ok bytes) : s = t :=
  Option.some.inj ((decodeUtf8_encode hs).symm.trans (decodeUtf8_encode ht))

theorem framePart_eq_ok {part bytes : Bytes} :
    framePart part = .ok bytes ↔
      part.length < 256 ^ 4 ∧ Framing.frame (toBytesBig 4) part = bytes := by
  rw [framePart, Except.bind_eq_ok]
  constructor
  · rintro ⟨length, hlength, hbytes⟩
    obtain ⟨hfits, rfl⟩ := toBytes_eq_ok.mp hlength
    exact ⟨hfits, Except.ok.inj hbytes⟩
  · rintro ⟨hfits, rfl⟩
    exact ⟨_, toBytes_eq_ok.mpr ⟨hfits, rfl⟩, rfl⟩

theorem framedParts_eq_ok {encoded framed : List Bytes} :
    encoded.mapM framePart = .ok framed ↔
      (∀ data ∈ encoded, data.length < 256 ^ 4) ∧
        encoded.map (Framing.frame (toBytesBig 4)) = framed := by
  rw [mapM_eq_ok]
  simp only [framePart_eq_ok]
  rw [List.forall₂_and_left, ← List.forall₂_map_left_iff, List.forall₂_eq_eq_eq]

/-- The parts are framed by their lengths, which have to fit into four bytes. -/
theorem lengthPrefixed_eq_ok {parts : List String} {bytes : Bytes} :
    lengthPrefixed parts = .ok bytes ↔
      ∃ encoded, List.Forall₂ (fun part data ↦ encodeUtf8 (PyStr.ofString part) = .ok data) parts
          encoded ∧ (∀ data ∈ encoded, data.length < 256 ^ 4) ∧
        bytes = Framing.frames (toBytesBig 4) encoded := by
  rw [lengthPrefixed, Except.bind_eq_ok]
  constructor
  · rintro ⟨encoded, hencoded, hbytes⟩
    obtain ⟨framed, hframed, hbytes⟩ := Except.bind_eq_ok.mp hbytes
    obtain ⟨hfits, rfl⟩ := framedParts_eq_ok.mp hframed
    exact ⟨encoded, mapM_eq_ok.mp hencoded, hfits, (Except.ok.inj hbytes).symm⟩
  · rintro ⟨encoded, hencoded, hfits, rfl⟩
    refine ⟨encoded, mapM_eq_ok.mpr hencoded, Except.bind_eq_ok.mpr ⟨_, ?_, rfl⟩⟩
    exact framedParts_eq_ok.mpr ⟨hfits, rfl⟩

theorem eq_of_encoded {parts parts' : List String} {encoded : List Bytes}
    (h : List.Forall₂ (fun part data ↦ encodeUtf8 (PyStr.ofString part) = .ok data) parts encoded)
    (h' : List.Forall₂ (fun part data ↦ encodeUtf8 (PyStr.ofString part) = .ok data) parts'
      encoded) : parts = parts' := by
  induction h generalizing parts' with
  | nil => exact (List.forall₂_nil_right_iff.mp h').symm
  | cons hpart _ ih =>
    obtain ⟨part', rest', hpart', hrest', rfl⟩ := List.forall₂_cons_right_iff.mp h'
    rw [ofString_injective (encodeUtf8_inj hpart hpart'), ih hrest']

/-- As many parts are encoded alike only if they are the same. -/
theorem lengthPrefixed_inj {parts parts' : List String} {bytes : Bytes}
    (hlength : parts.length = parts'.length) (h : lengthPrefixed parts = .ok bytes)
    (h' : lengthPrefixed parts' = .ok bytes) : parts = parts' := by
  obtain ⟨encoded, hencoded, hfits, hbytes⟩ := lengthPrefixed_eq_ok.mp h
  obtain ⟨encoded', hencoded', hfits', hbytes'⟩ := lengthPrefixed_eq_ok.mp h'
  have hsame : encoded = encoded' := by
    refine Framing.frames_inj (prefixFree_toBytesBig 4) ?_ hfits hfits' (hbytes.symm.trans hbytes')
    rw [← hencoded.length_eq, ← hencoded'.length_eq, hlength]
  subst hsame
  exact eq_of_encoded hencoded hencoded'

theorem EnvelopePurpose.text_injective : Function.Injective EnvelopePurpose.text := by
  intro a b h
  cases a <;> cases b <;> first | rfl | exact absurd h (by decide)

theorem ProposalIdentity.ext {identity identity' : ProposalIdentity}
    (htenant : identity.tenantReference = identity'.tenantReference)
    (hproposal : identity.proposalReference = identity'.proposalReference) :
    identity = identity' := by
  cases identity
  cases identity'
  cases htenant
  cases hproposal
  rfl

/-- **Different identities are encoded differently** by the local-KEK provider. -/
theorem LocalKek.metadata_inj {keyHandle keyHandle' kekVersion kekVersion' : SafeReference}
    {identity identity' : ProposalIdentity} {purpose purpose' : EnvelopePurpose} {bytes : Bytes}
    (h : metadata keyHandle identity purpose kekVersion = .ok bytes)
    (h' : metadata keyHandle' identity' purpose' kekVersion' = .ok bytes) :
    keyHandle = keyHandle' ∧ identity = identity' ∧ purpose = purpose' ∧
      kekVersion = kekVersion' := by
  obtain ⟨parts, hparts, hbytes⟩ := Except.bind_eq_ok.mp h
  obtain ⟨parts', hparts', hbytes'⟩ := Except.bind_eq_ok.mp h'
  have hsame := (Except.ok.inj hbytes).trans (Except.ok.inj hbytes').symm
  obtain rfl := List.append_cancel_left hsame
  have heq := lengthPrefixed_inj (by simp only [List.length_cons]) hparts hparts'
  simp only [List.cons.injEq, and_true] at heq
  obtain ⟨hhandle, htenant, hproposal, hpurpose, hversion⟩ := heq
  exact ⟨hhandle, ProposalIdentity.ext htenant hproposal, EnvelopePurpose.text_injective hpurpose,
    hversion⟩

/-- And by the AWS KMS provider. -/
theorem AwsKms.authenticatedMetadata_inj
    {keyHandle keyHandle' keyVersion keyVersion' : SafeReference} {keyId keyId' : String}
    {identity identity' : ProposalIdentity} {purpose purpose' : EnvelopePurpose} {bytes : Bytes}
    (h : authenticatedMetadata keyHandle identity purpose keyId keyVersion = .ok bytes)
    (h' : authenticatedMetadata keyHandle' identity' purpose' keyId' keyVersion' = .ok bytes) :
    keyHandle = keyHandle' ∧ identity = identity' ∧ purpose = purpose' ∧ keyId = keyId' ∧
      keyVersion = keyVersion' := by
  obtain ⟨parts, hparts, hbytes⟩ := Except.bind_eq_ok.mp h
  obtain ⟨parts', hparts', hbytes'⟩ := Except.bind_eq_ok.mp h'
  have hsame := (Except.ok.inj hbytes).trans (Except.ok.inj hbytes').symm
  obtain rfl := List.append_cancel_left hsame
  have heq := lengthPrefixed_inj (by simp only [List.length_cons]) hparts hparts'
  simp only [List.cons.injEq, and_true] at heq
  obtain ⟨hhandle, htenant, hproposal, hpurpose, hid, hversion⟩ := heq
  exact ⟨hhandle, ProposalIdentity.ext htenant hproposal, EnvelopePurpose.text_injective hpurpose,
    hid, hversion⟩

end ThrevoActions
