import ThrevoActions.Store.EffectIdentity

/-!
# Identity encodings

Whatever is committed to, encrypted under or claimed is encoded so that its fields can be read back
from the bytes. Fields may contain digits, colons and length bytes, as nothing is ever searched for
in them.
-/

namespace ThrevoActions

section Commitment

variable [UnicodeNormalization]

open UnicodeNormalization (nfc)

/-- A commitment payload is the domain and two frames. -/
theorem commitmentPayloadV1_eq_ok {reference : SafeReference} {payload bytes : Bytes} :
    commitmentPayloadV1 reference payload = .ok bytes ↔
      ∃ domain encoded, encodeUtf8 (PyStr.ofString "threvo-actions:proposal-commitment:v1") =
          .ok domain ∧
        encodeUtf8 (nfc (PyStr.ofString reference)) = .ok encoded ∧ encoded.length < 256 ^ 4 ∧
        payload.length < 256 ^ 8 ∧
        domain ++ (Framing.frame (toBytesBig 4) encoded ++
          Framing.frame (toBytesBig 8) payload) = bytes := by
  simp only [commitmentPayloadV1, Except.bind_eq_ok, toBytes_eq_ok, Framing.frame]
  constructor
  · rintro ⟨domain, hdomain, encoded, hencoded, _, ⟨hshort, rfl⟩, _, ⟨hfits, rfl⟩, hbytes⟩
    refine ⟨domain, encoded, hdomain, hencoded, hshort, hfits, ?_⟩
    rw [← Except.ok.inj hbytes]
    simp only [List.append_assoc]
  · rintro ⟨domain, encoded, hdomain, hencoded, hshort, hfits, rfl⟩
    refine ⟨domain, hdomain, encoded, hencoded, _, ⟨hshort, rfl⟩, _, ⟨hfits, rfl⟩, ?_⟩
    simp only [List.append_assoc]
    rfl

/-- **A commitment determines what was committed to**, the reference up to normalization. -/
theorem commitmentPayloadV1_inj {reference reference' : SafeReference}
    {payload payload' bytes : Bytes} (h : commitmentPayloadV1 reference payload = .ok bytes)
    (h' : commitmentPayloadV1 reference' payload' = .ok bytes) :
    nfc (PyStr.ofString reference) = nfc (PyStr.ofString reference') ∧ payload = payload' := by
  obtain ⟨domain, encoded, hdomain, hencoded, hshort, hfits, hbytes⟩ :=
    commitmentPayloadV1_eq_ok.mp h
  obtain ⟨domain', encoded', hdomain', hencoded', hshort', hfits', hbytes'⟩ :=
    commitmentPayloadV1_eq_ok.mp h'
  obtain rfl := Except.ok.inj (hdomain.symm.trans hdomain')
  have hframes := List.append_cancel_left (hbytes.trans hbytes'.symm)
  obtain ⟨hsame, hrest⟩ := Framing.frame_append_inj (prefixFree_toBytesBig 4) hshort hshort' hframes
  refine ⟨encodeUtf8_inj hencoded (hsame ▸ hencoded'), ?_⟩
  exact (Framing.frame_append_inj (prefixFree_toBytesBig 8) hfits hfits'
    (congrArg (· ++ []) hrest)).1

/-- **No two identities are encoded alike.** A commitment payload determines the normalized
reference and the payload, envelope metadata every field it authenticates, and the bytes that are
hashed into an effect identity the effect. The generated column of the proposal table hashes the
same bytes as the adapter, and holds the same identity for every effect that the adapter admits. -/
theorem identityEncodings_injective :
    (∀ (reference reference' : SafeReference) (payload payload' bytes : Bytes),
      commitmentPayloadV1 reference payload = .ok bytes →
      commitmentPayloadV1 reference' payload' = .ok bytes →
      nfc (PyStr.ofString reference) = nfc (PyStr.ofString reference') ∧ payload = payload') ∧
    (∀ (keyHandle keyHandle' kekVersion kekVersion' : SafeReference)
      (identity identity' : ProposalIdentity) (purpose purpose' : EnvelopePurpose) (bytes : Bytes),
      LocalKek.metadata keyHandle identity purpose kekVersion = .ok bytes →
      LocalKek.metadata keyHandle' identity' purpose' kekVersion' = .ok bytes →
      keyHandle = keyHandle' ∧ identity = identity' ∧ purpose = purpose' ∧
        kekVersion = kekVersion') ∧
    (∀ (actionType actionType' : ActionType) (reference reference' : SafeReference)
      (bytes : Bytes), MySql.effectIdentityInput actionType reference = .ok bytes →
      MySql.effectIdentityInput actionType' reference' = .ok bytes →
      actionType = actionType' ∧ reference = reference') ∧
    ∀ (actionType : ActionType) (reference : SafeReference) (identity : Bytes),
      MySql.effectIdentity actionType reference = .ok identity →
      MySql.effectIdentityInput actionType reference =
          .ok (octets (MySql.concat (MySql.effectRow actionType reference)
            MySql.effectIdentityArguments)) ∧
        MySql.effectIdentityColumn (MySql.effectRow actionType reference) = some identity := by
  refine ⟨?_, ?_, ?_, ?_⟩
  · intro reference reference' payload payload' bytes h h'
    exact commitmentPayloadV1_inj h h'
  · intro keyHandle keyHandle' kekVersion kekVersion' identity identity' purpose purpose' bytes h h'
    exact LocalKek.metadata_inj h h'
  · intro actionType actionType' reference reference' bytes h h'
    exact MySql.effectIdentityInput_inj h h'
  · intro actionType reference identity h
    exact ⟨MySql.octets_concat actionType reference, MySql.effectIdentityColumn_eq h⟩

end Commitment

/-- Two effects whose fields run together to the same text, and what the column holds for the
first. -/
theorem identityEncodings_injective_of_split :
    MySql.effectIdentityInput ⟨"billing", "1:refund", 1, le_rfl⟩ "order:1" ≠
        MySql.effectIdentityInput ⟨"billing1:", "refund", 1, le_rfl⟩ "order:1" ∧
      ∃ identity, MySql.effectIdentity ⟨"billing", "1:refund", 1, le_rfl⟩ "order:1" = .ok identity ∧
        MySql.effectIdentityColumn
          (MySql.effectRow ⟨"billing", "1:refund", 1, le_rfl⟩ "order:1") = some identity := by
  obtain ⟨-, -, hinput, hcolumn⟩ := @identityEncodings_injective normalizedTexts
  constructor
  · intro h
    have hsame := hinput _ _ _ _ _ (MySql.octets_concat _ _) (h ▸ MySql.octets_concat _ _)
    exact absurd hsame (by decide)
  · have hvalid : MySql.validateEffectIdentity ⟨"billing", "1:refund", 1, le_rfl⟩ = .ok () := by
      decide
    have hidentity : MySql.effectIdentity ⟨"billing", "1:refund", 1, le_rfl⟩ "order:1" =
        .ok (Sha256.digestBytes (octets (MySql.concat
          (MySql.effectRow ⟨"billing", "1:refund", 1, le_rfl⟩ "order:1")
            MySql.effectIdentityArguments))) := by
      rw [MySql.effectIdentity, hvalid, MySql.octets_concat]
      rfl
    exact ⟨_, hidentity, (hcolumn _ _ _ hidentity).2⟩

end ThrevoActions
