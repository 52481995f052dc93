import ThrevoActions.Integrations.AwsKms
import ThrevoActions.Integrations.EnvelopeRuns
import ThrevoActions.Integrations.LocalKek

/-!
# What the envelope providers guarantee

Over every run: material can be used for the proposal it was made for, and only as it was made, until
it is destroyed; destroying it affects nothing else.
-/

namespace ThrevoActions

namespace EnvelopeService

variable {E X : Type}

/-- The guarantee of a provider with which envelopes are looked up by handle. Calls of a run are in
reverse order, and every call of a run ends a part of it, so the last call stands for any. -/
structure Guarantee [Aesgcm] (service : EnvelopeService E X) : Prop where
  /-- A payload under the handle of one that was returned is read for the same proposal, with the
  same key version and bytes, until the key is destroyed, and gives the payload that was protected.
  Everything else is refused. -/
  unprotects : ∀ {later earlier envelopes answers proposalIdentity canonicalPayload payload
      proposalIdentity' payload' result},
    service.Run (.unprotect proposalIdentity' payload' result ::
      (later ++ .protect answers proposalIdentity canonicalPayload (.ok payload) :: earlier))
      envelopes → payload'.keyHandle = payload.keyHandle →
    ∀ plaintext, result = .ok plaintext ↔
      proposalIdentity' = proposalIdentity ∧ payload'.codec = payload.codec ∧
      payload'.keyVersion = payload.keyVersion ∧
      Base64.decode payload'.ciphertext.toList = Base64.decode payload.ciphertext.toList ∧
      plaintext = canonicalPayload ∧
      ¬service.Destroyed later payload.keyHandle (payloadBinding proposalIdentity payload)
  /-- A commitment under the handle of one that was returned is accepted for the same proposal and
  the committed payload, if it is the one that was returned, until its key is destroyed. -/
  verifies : ∀ {later earlier envelopes answers proposalIdentity canonicalPayload commitment
      proposalIdentity' canonicalPayload' commitment' result},
    service.Run (.verify proposalIdentity' canonicalPayload' commitment' result ::
      (later ++ .create answers proposalIdentity canonicalPayload (.ok commitment) :: earlier))
      envelopes → commitment'.keyHandle = commitment.keyHandle →
    (result = .ok true ↔ proposalIdentity' = proposalIdentity ∧ commitment' = commitment ∧
      canonicalPayload' = canonicalPayload ∧
      ¬service.Destroyed later commitment.keyHandle
        (commitmentBinding proposalIdentity commitment))
  /-- The key of a commitment does not open payloads. -/
  keepsPurpose : ∀ {log envelopes answers proposalIdentity canonicalPayload commitment
      proposalIdentity' payload' result},
    service.Run (.unprotect proposalIdentity' payload' result :: log) envelopes →
    .create answers proposalIdentity canonicalPayload (.ok commitment) ∈ log →
    payload'.keyHandle = commitment.keyHandle → ∀ plaintext, result ≠ .ok plaintext
  /-- The key of a payload does not verify commitments. -/
  keepsPurpose' : ∀ {log envelopes answers proposalIdentity canonicalPayload payload
      proposalIdentity' canonicalPayload' commitment' result},
    service.Run (.verify proposalIdentity' canonicalPayload' commitment' result :: log) envelopes →
    .protect answers proposalIdentity canonicalPayload (.ok payload) ∈ log →
    commitment'.keyHandle = payload.keyHandle → result ≠ .ok true
  /-- Destroying once more succeeds and changes nothing. -/
  destroysOnce : ∀ (envelopes after : Envelopes E) proposalIdentity payload,
    service.destroyPayloadFor envelopes proposalIdentity payload = (.ok (), after) →
      service.destroyPayloadFor after proposalIdentity payload = (.ok (), after)
  destroysOnce' : ∀ (envelopes after : Envelopes E) proposalIdentity commitment,
    service.destroyCommitmentFor envelopes proposalIdentity commitment = (.ok (), after) →
      service.destroyCommitmentFor after proposalIdentity commitment = (.ok (), after)
  /-- Material is destroyed for its own proposal, purpose and key version, or not at all. -/
  keepsMismatch : ∀ {log envelopes answers proposalIdentity canonicalPayload payload},
    service.Run log envelopes →
    .protect answers proposalIdentity canonicalPayload (.ok payload) ∈ log →
    (∀ proposalIdentity' payload', payload'.keyHandle = payload.keyHandle →
      (proposalIdentity' ≠ proposalIdentity ∨ payload'.keyVersion ≠ payload.keyVersion) →
      (service.destroyPayloadFor envelopes proposalIdentity' payload').2 = envelopes) ∧
    ∀ proposalIdentity' commitment', commitment'.keyHandle = payload.keyHandle →
      (service.destroyCommitmentFor envelopes proposalIdentity' commitment').2 = envelopes
  keepsMismatch' : ∀ {log envelopes answers proposalIdentity canonicalPayload commitment},
    service.Run log envelopes →
    .create answers proposalIdentity canonicalPayload (.ok commitment) ∈ log →
    (∀ proposalIdentity' commitment', commitment'.keyHandle = commitment.keyHandle →
      (proposalIdentity' ≠ proposalIdentity ∨ commitment'.keyVersion ≠ commitment.keyVersion) →
      (service.destroyCommitmentFor envelopes proposalIdentity' commitment').2 = envelopes) ∧
    ∀ proposalIdentity' payload', payload'.keyHandle = commitment.keyHandle →
      (service.destroyPayloadFor envelopes proposalIdentity' payload').2 = envelopes

variable {service : EnvelopeService E X} {log later earlier : List (EnvelopeCall X)}
  {envelopes : Envelopes E} {answers : X} {proposalIdentity : ProposalIdentity}
  {canonicalPayload : Bytes}

/-! ## Bindings -/

theorem payloadBinding_eq {binding : KeyBinding} {payload : ProtectedPayload}
    (hidentity : binding.identity = proposalIdentity) (hpurpose : binding.purpose = .payload)
    (hversion : payload.keyVersion = binding.keyVersion) :
    binding = payloadBinding proposalIdentity payload := by
  subst hidentity
  cases binding
  cases hpurpose
  rw [payloadBinding, hversion]
  rfl

theorem commitmentBinding_eq {binding : KeyBinding} {commitment : KeyedCommitment}
    (hidentity : binding.identity = proposalIdentity) (hpurpose : binding.purpose = .commitment)
    (hversion : commitment.keyVersion = binding.keyVersion) :
    binding = commitmentBinding proposalIdentity commitment := by
  subst hidentity
  cases binding
  cases hpurpose
  rw [commitmentBinding, hversion]
  rfl

theorem payloadBinding_inj {proposalIdentity' : ProposalIdentity}
    {payload payload' : ProtectedPayload} :
    payloadBinding proposalIdentity' payload' = payloadBinding proposalIdentity payload ↔
      proposalIdentity' = proposalIdentity ∧ payload'.keyVersion = payload.keyVersion := by
  cases proposalIdentity
  cases proposalIdentity'
  simp [payloadBinding, and_assoc]

theorem commitmentBinding_inj {proposalIdentity' : ProposalIdentity}
    {commitment commitment' : KeyedCommitment} :
    commitmentBinding proposalIdentity' commitment' =
        commitmentBinding proposalIdentity commitment ↔
      proposalIdentity' = proposalIdentity ∧ commitment'.keyVersion = commitment.keyVersion := by
  cases proposalIdentity
  cases proposalIdentity'
  simp [commitmentBinding, and_assoc]

theorem drawn_of_sealing {call : EnvelopeCall X} {sealed : Sealing}
    (h : service.sealing call = some sealed) :
    ∃ draw, service.drawn call = some draw ∧ draw.key = sealed.key := by
  cases call with
  | protect answers proposalIdentity canonicalPayload result =>
    obtain ⟨draw, hdraw, h⟩ := Option.bind_eq_some_iff.mp h
    obtain ⟨_, -, h⟩ := Option.bind_eq_some_iff.mp h
    cases h
    exact ⟨draw, hdraw, rfl⟩
  | _ => cases h

theorem drawn_of_digested {call : EnvelopeCall X} {key message : Bytes}
    (h : service.digested call = some (key, message)) :
    ∃ draw, service.drawn call = some draw ∧ draw.key = key := by
  cases call with
  | create answers proposalIdentity canonicalPayload result =>
    obtain ⟨draw, hdraw, h⟩ := Option.bind_eq_some_iff.mp h
    obtain ⟨_, -, h⟩ := Option.bind_eq_some_iff.mp h
    cases h
    exact ⟨draw, hdraw, rfl⟩
  | _ => cases h

variable [Aesgcm]

/-! ## What was called -/

theorem Run.unprotect_inv {payload : ProtectedPayload} {result : Except EnvelopeExn Bytes}
    (run : service.Run (.unprotect proposalIdentity payload result :: log) envelopes) :
    service.Run log envelopes ∧
      result = service.unprotectFor envelopes proposalIdentity payload ∧
      ∀ opened, service.opening envelopes proposalIdentity payload = .ok opened →
        service.OpensOnlySealed log opened := by
  cases run with
  | unprotect run _ _ unforged => exact ⟨run, rfl, unforged⟩

theorem Run.verify_inv {commitment : KeyedCommitment} {result : Except EnvelopeExn Bool}
    (run : service.Run (.verify proposalIdentity canonicalPayload commitment result :: log)
      envelopes) :
    service.Run log envelopes ∧
      result = service.verifyFor envelopes proposalIdentity canonicalPayload commitment ∧
      ∀ key message, service.verification envelopes proposalIdentity canonicalPayload commitment =
          .ok (some (key, message)) →
        service.AgreesOnlyDigested log key message commitment.digest := by
  cases run with
  | verify run _ _ _ unforged => exact ⟨run, rfl, unforged⟩

theorem Run.protect_inv {result : Except EnvelopeExn ProtectedPayload}
    (run : service.Run (.protect answers proposalIdentity canonicalPayload result :: log)
      envelopes) :
    ∃ before, result =
      (service.protectFor answers before proposalIdentity canonicalPayload).1 := by
  cases run with
  | protect run => exact ⟨_, rfl⟩

theorem Run.create_inv {result : Except EnvelopeExn KeyedCommitment}
    (run : service.Run (.create answers proposalIdentity canonicalPayload result :: log)
      envelopes) :
    ∃ before, result =
      (service.createFor answers before proposalIdentity canonicalPayload).1 := by
  cases run with
  | create run => exact ⟨_, rfl⟩

/-- The material of a payload that was returned. -/
theorem Run.protected (lawful : service.Lawful) {payload : ProtectedPayload}
    (run : service.Run
      (later ++ .protect answers proposalIdentity canonicalPayload (.ok payload) :: earlier)
      envelopes) :
    ∃ draw associatedData, service.draw answers proposalIdentity .payload = some draw ∧
      service.unwrap draw.keyHandle draw.envelope = .ok draw.key ∧
      service.metadata draw.keyHandle proposalIdentity .payload draw.envelope =
        .ok associatedData ∧
      service.binding draw.envelope = payloadBinding proposalIdentity payload ∧
      payload.codec = service.codec ∧ payload.keyHandle = draw.keyHandle ∧
      Base64.decode payload.ciphertext.toList = some (service.nonce answers ++
        Aesgcm.encrypt draw.key (service.nonce answers) canonicalPayload associatedData) := by
  obtain ⟨_, hrun⟩ := Run.tail lawful run
  obtain ⟨_, hresult⟩ := hrun.protect_inv
  obtain ⟨draw, associatedData, hdraw, -, hmetadata, hcodec, hhandle, hversion, hdecoded⟩ :=
    lawful.protects hresult.symm
  obtain ⟨hidentity, hpurpose⟩ := lawful.binding hdraw
  exact ⟨draw, associatedData, hdraw,
    run.unwrap lawful (List.mem_append_right _ (.head _)) hdraw, hmetadata,
    payloadBinding_eq hidentity hpurpose hversion, hcodec, hhandle, hdecoded⟩

/-- The material of a commitment that was returned. -/
theorem Run.committed (lawful : service.Lawful) {commitment : KeyedCommitment}
    (run : service.Run
      (later ++ .create answers proposalIdentity canonicalPayload (.ok commitment) :: earlier)
      envelopes) :
    ∃ draw metadata, service.draw answers proposalIdentity .commitment = some draw ∧
      service.unwrap draw.keyHandle draw.envelope = .ok draw.key ∧
      service.metadata draw.keyHandle proposalIdentity .commitment draw.envelope = .ok metadata ∧
      service.binding draw.envelope = commitmentBinding proposalIdentity commitment ∧
      commitment.algorithm = service.algorithm ∧ commitment.keyHandle = draw.keyHandle ∧
      commitment.digest = Hmac.hexdigest draw.key (metadata ++ canonicalPayload) := by
  obtain ⟨_, hrun⟩ := Run.tail lawful run
  obtain ⟨_, hresult⟩ := hrun.create_inv
  obtain ⟨draw, metadata, hdraw, -, hmetadata, rfl⟩ := lawful.creates hresult.symm
  obtain ⟨hidentity, hpurpose⟩ := lawful.binding hdraw
  exact ⟨draw, metadata, hdraw, run.unwrap lawful (List.mem_append_right _ (.head _)) hdraw,
    hmetadata, commitmentBinding_eq hidentity hpurpose rfl, rfl, rfl, rfl⟩

/-! ## The guarantee -/

theorem unprotects_iff (lawful : service.Lawful) {payload payload' : ProtectedPayload}
    {proposalIdentity' : ProposalIdentity} {result : Except EnvelopeExn Bytes}
    (run : service.Run (.unprotect proposalIdentity' payload' result ::
      (later ++ .protect answers proposalIdentity canonicalPayload (.ok payload) :: earlier))
      envelopes) (hhandle' : payload'.keyHandle = payload.keyHandle) (plaintext : Bytes) :
    result = .ok plaintext ↔
      proposalIdentity' = proposalIdentity ∧ payload'.codec = payload.codec ∧
      payload'.keyVersion = payload.keyVersion ∧
      Base64.decode payload'.ciphertext.toList = Base64.decode payload.ciphertext.toList ∧
      plaintext = canonicalPayload ∧
      ¬service.Destroyed later payload.keyHandle (payloadBinding proposalIdentity payload) := by
  obtain ⟨hrun, rfl, unforged⟩ := run.unprotect_inv
  obtain ⟨draw, associatedData, hdraw, hunwrap, hmetadata, hbinding, hcodec, hhandle, hdecoded⟩ :=
    hrun.protected lawful
  obtain ⟨hheld, hgone⟩ := hrun.held lawful rfl hdraw
  rw [hbinding] at hheld hgone
  have hlength := lawful.length_nonce answers
  rw [unprotectFor_eq_ok, hhandle]
  constructor
  · rintro ⟨opened, hopened, hplaintext⟩
    obtain ⟨hcodec', envelope, henvelope, hbinding', encoded, hencoded, -, key, hkey, data, hdata,
      rfl⟩ := opening_eq_ok.mp hopened
    rw [hhandle', hhandle] at henvelope hkey hdata
    have hkept : ¬service.Destroyed later draw.keyHandle
        (payloadBinding proposalIdentity payload) := by
      intro hdestroyed
      rw [hgone hdestroyed] at henvelope
      cases henvelope
    cases henvelope.symm.trans (hheld hkept)
    obtain ⟨rfl, hversion⟩ := payloadBinding_inj.mp (hbinding'.symm.trans hbinding)
    cases hkey.symm.trans hunwrap
    cases hdata.symm.trans hmetadata
    -- what opens was sealed, and only this call has sealed under the key
    obtain ⟨call, hcall, hsealing⟩ := unforged _ hopened plaintext hplaintext
    obtain ⟨draw', hdraw', hkey'⟩ := drawn_of_sealing hsealing
    obtain rfl := hrun.draws_once lawful (List.mem_append_right _ (.head _)) hcall hdraw hdraw'
      (Or.inr hkey')
    rw [sealing, hdraw, Option.bind_eq_bind, Option.bind_some, hmetadata] at hsealing
    obtain ⟨hnonce, hsame⟩ : service.nonce answers = encoded.take 12 ∧
        canonicalPayload = plaintext := by
      have hsealed := Option.some.inj hsealing
      simp only [Sealing.mk.injEq] at hsealed
      exact ⟨hsealed.2.1, hsealed.2.2.1⟩
    have hdata := Aesgcm.encrypt_of_decrypt hplaintext
    refine ⟨rfl, hcodec'.trans hcodec.symm, hversion, ?_, hsame.symm, hkept⟩
    rw [hencoded, hdecoded, hnonce, hsame, hdata, List.take_append_drop]
  · rintro ⟨rfl, hcodec', hversion, hencoded, rfl, hkept⟩
    refine ⟨⟨draw.key, service.nonce answers, Aesgcm.encrypt draw.key (service.nonce answers)
      plaintext associatedData, associatedData⟩, opening_eq_ok.mpr ⟨hcodec'.trans hcodec,
      draw.envelope, ?_, ?_, _, hencoded.trans hdecoded, ?_, draw.key, ?_, associatedData, ?_, ?_⟩,
      Aesgcm.decrypt_encrypt _ _ _ _⟩
    · rw [hhandle', hhandle]
      exact hheld hkept
    · rw [hbinding]
      exact payloadBinding_inj.mpr ⟨rfl, hversion.symm⟩
    · rw [List.length_append, hlength, Aesgcm.length_encrypt]
      omega
    · rw [hhandle', hhandle]
      exact hunwrap
    · rw [hhandle', hhandle]
      exact hmetadata
    · rw [← hlength, List.take_left, List.drop_left]

theorem verifies_iff (lawful : service.Lawful) {commitment commitment' : KeyedCommitment}
    {proposalIdentity' : ProposalIdentity} {canonicalPayload' : Bytes}
    {result : Except EnvelopeExn Bool}
    (run : service.Run (.verify proposalIdentity' canonicalPayload' commitment' result ::
      (later ++ .create answers proposalIdentity canonicalPayload (.ok commitment) :: earlier))
      envelopes) (hhandle' : commitment'.keyHandle = commitment.keyHandle) :
    result = .ok true ↔ proposalIdentity' = proposalIdentity ∧ commitment' = commitment ∧
      canonicalPayload' = canonicalPayload ∧
      ¬service.Destroyed later commitment.keyHandle
        (commitmentBinding proposalIdentity commitment) := by
  obtain ⟨hrun, rfl, unforged⟩ := run.verify_inv
  obtain ⟨draw, metadata, hdraw, hunwrap, hmetadata, hbinding, halgorithm, hhandle, hdigest⟩ :=
    hrun.committed lawful
  obtain ⟨hheld, hgone⟩ := hrun.held lawful rfl hdraw
  rw [hbinding] at hheld hgone
  rw [verifyFor_eq_true, hhandle]
  constructor
  · rintro ⟨key, message, hverified, hagrees⟩
    obtain ⟨halgorithm', envelope, henvelope, hbinding', hkey, data, hdata, rfl⟩ :=
      verification_eq_some.mp hverified
    rw [hhandle', hhandle] at henvelope hkey hdata
    have hkept : ¬service.Destroyed later draw.keyHandle
        (commitmentBinding proposalIdentity commitment) := by
      intro hdestroyed
      rw [hgone hdestroyed] at henvelope
      cases henvelope
    cases henvelope.symm.trans (hheld hkept)
    obtain ⟨rfl, hversion⟩ := commitmentBinding_inj.mp (hbinding'.symm.trans hbinding)
    cases hkey.symm.trans hunwrap
    cases hdata.symm.trans hmetadata
    -- a digest agrees with what was digested, and only this call has digested under the key
    obtain ⟨call, hcall, hdigested⟩ := unforged _ _ hverified hagrees
    obtain ⟨draw', hdraw', hkey'⟩ := drawn_of_digested hdigested
    obtain rfl := hrun.draws_once lawful (List.mem_append_right _ (.head _)) hcall hdraw hdraw'
      (Or.inr hkey')
    rw [digested, hdraw, Option.bind_eq_bind, Option.bind_some, hmetadata] at hdigested
    have hsame : canonicalPayload = canonicalPayload' :=
      List.append_cancel_left (Prod.ext_iff.mp (Option.some.inj hdigested)).2
    refine ⟨rfl, ?_, hsame.symm, hkept⟩
    rw [← hsame, ← hdigest] at hagrees
    cases commitment
    cases commitment'
    cases halgorithm'.trans halgorithm.symm
    cases hhandle'
    cases hversion
    cases hagrees
    rfl
  · rintro ⟨rfl, rfl, rfl, hkept⟩
    refine ⟨draw.key, metadata ++ canonicalPayload', verification_eq_some.mpr ⟨halgorithm,
      draw.envelope, ?_, hbinding, ?_, metadata, ?_, rfl⟩, hdigest.symm⟩
    · rw [hhandle]
      exact hheld hkept
    · rw [hhandle]
      exact hunwrap
    · rw [hhandle]
      exact hmetadata

/-- What is held under the handle of a key that was drawn is its own envelope. -/
theorem Run.eq_envelope (lawful : service.Lawful) (run : service.Run log envelopes)
    {call : EnvelopeCall X} (hcall : call ∈ log) {draw : Draw E}
    (hdraw : service.drawn call = some draw) {envelope : E}
    (henvelope : envelopes draw.keyHandle = some envelope) : envelope = draw.envelope := by
  obtain ⟨call', hcall', draw', hdraw', hhandle, rfl⟩ := run.stored lawful henvelope
  obtain rfl := run.draws_once lawful hcall hcall' hdraw hdraw' (Or.inl hhandle)
  cases hdraw.symm.trans hdraw'
  rfl

/-- **A key that is asked for with another binding stays.** -/
theorem Run.erase_of_ne (lawful : service.Lawful) (run : service.Run log envelopes)
    {call : EnvelopeCall X} (hcall : call ∈ log) {draw : Draw E}
    (hdraw : service.drawn call = some draw) {binding : KeyBinding}
    (hbinding : binding ≠ service.binding draw.envelope) :
    service.erase (some (draw.keyHandle, binding)) envelopes = envelopes := by
  funext handle
  rw [erase]
  cases henvelope : envelopes handle with
  | none => rfl
  | some envelope =>
    rw [Option.filter_some, if_pos]
    refine decide_eq_true fun hsame ↦ ?_
    rw [Option.some.injEq, Prod.mk.injEq] at hsame
    obtain ⟨rfl, rfl⟩ := hsame
    exact hbinding (by rw [run.eq_envelope lawful hcall hdraw henvelope])

theorem destroyPayloadFor_of_ne (lawful : service.Lawful) (run : service.Run log envelopes)
    {call : EnvelopeCall X} (hcall : call ∈ log) {draw : Draw E}
    (hdraw : service.drawn call = some draw) {payload : ProtectedPayload}
    (hhandle : payload.keyHandle = draw.keyHandle)
    (hbinding : payloadBinding proposalIdentity payload ≠ service.binding draw.envelope) :
    (service.destroyPayloadFor envelopes proposalIdentity payload).2 = envelopes := by
  rw [destroyPayloadFor_eq_erase (.ok ()), erases]
  split_ifs
  · rw [hhandle]
    exact run.erase_of_ne lawful hcall hdraw hbinding
  · exact erase_none _

theorem destroyCommitmentFor_of_ne (lawful : service.Lawful) (run : service.Run log envelopes)
    {call : EnvelopeCall X} (hcall : call ∈ log) {draw : Draw E}
    (hdraw : service.drawn call = some draw) {commitment : KeyedCommitment}
    (hhandle : commitment.keyHandle = draw.keyHandle)
    (hbinding : commitmentBinding proposalIdentity commitment ≠ service.binding draw.envelope) :
    (service.destroyCommitmentFor envelopes proposalIdentity commitment).2 = envelopes := by
  rw [destroyCommitmentFor_eq_erase (.ok ()), erases]
  split_ifs
  · rw [hhandle]
    exact run.erase_of_ne lawful hcall hdraw hbinding
  · exact erase_none _

omit [Aesgcm] in
/-- Deleting once more finds nothing. -/
theorem destroy_again {after : Envelopes E} {keyHandle : SafeReference}
    {purpose : EnvelopePurpose} {keyVersion : SafeReference}
    (h : service.destroy envelopes keyHandle proposalIdentity purpose keyVersion =
      (.ok (), after)) :
    service.destroy after keyHandle proposalIdentity purpose keyVersion = (.ok (), after) := by
  rw [EnvelopeProvider.destroy, deleteIfMatches] at h
  have hgone : after keyHandle = none := by
    cases henvelope : envelopes keyHandle with
    | none =>
      rw [henvelope] at h
      cases h
      exact henvelope
    | some envelope =>
      rw [henvelope] at h
      dsimp only at h
      by_cases hmatches : (service.binding envelope).matchesFor proposalIdentity purpose
          keyVersion = true
      · rw [if_pos hmatches] at h
        cases h
        exact Function.update_self _ _ _
      · rw [if_neg hmatches] at h
        cases h
  rw [EnvelopeProvider.destroy, deleteIfMatches, hgone]

/-- **Lawful providers keep the guarantee.** -/
theorem Lawful.guarantee (lawful : service.Lawful) : service.Guarantee where
  unprotects run hhandle plaintext := unprotects_iff lawful run hhandle plaintext
  verifies run hhandle := verifies_iff lawful run hhandle
  keepsPurpose := by
    intro log envelopes answers proposalIdentity canonicalPayload commitment proposalIdentity'
      payload' result run hcall hhandle' plaintext hresult
    obtain ⟨hrun, rfl, -⟩ := run.unprotect_inv
    obtain ⟨later, earlier, rfl⟩ := List.append_of_mem hcall
    obtain ⟨draw, -, hdraw, -, -, hbinding, -, hhandle, -⟩ := hrun.committed lawful
    obtain ⟨opened, hopened, -⟩ := unprotectFor_eq_ok.mp hresult
    obtain ⟨-, envelope, henvelope, hbinding', -⟩ := opening_eq_ok.mp hopened
    rw [hhandle', hhandle] at henvelope
    rw [hrun.eq_envelope lawful hcall hdraw henvelope, hbinding] at hbinding'
    cases congrArg KeyBinding.purpose hbinding'
  keepsPurpose' := by
    intro log envelopes answers proposalIdentity canonicalPayload payload proposalIdentity'
      canonicalPayload' commitment' result run hcall hhandle' hresult
    obtain ⟨hrun, rfl, -⟩ := run.verify_inv
    obtain ⟨later, earlier, rfl⟩ := List.append_of_mem hcall
    obtain ⟨draw, -, hdraw, -, -, hbinding, -, hhandle, -⟩ := hrun.protected lawful
    obtain ⟨key, message, hverified, -⟩ := verifyFor_eq_true.mp hresult
    obtain ⟨-, envelope, henvelope, hbinding', -⟩ := verification_eq_some.mp hverified
    rw [hhandle', hhandle] at henvelope
    rw [hrun.eq_envelope lawful hcall hdraw henvelope, hbinding] at hbinding'
    cases congrArg KeyBinding.purpose hbinding'
  destroysOnce := by
    intro envelopes after proposalIdentity payload h
    rw [EnvelopeProvider.destroyPayloadFor] at h ⊢
    split_ifs at h ⊢ with hcodec
    · cases h
    · exact destroy_again h
  destroysOnce' := by
    intro envelopes after proposalIdentity commitment h
    rw [EnvelopeProvider.destroyCommitmentFor] at h ⊢
    split_ifs at h ⊢ with halgorithm
    · cases h
    · exact destroy_again h
  keepsMismatch := by
    intro log envelopes answers proposalIdentity canonicalPayload payload run hcall
    obtain ⟨later, earlier, rfl⟩ := List.append_of_mem hcall
    obtain ⟨draw, -, hdraw, -, -, hbinding, -, hhandle, -⟩ := run.protected lawful
    constructor
    · intro proposalIdentity' payload' hhandle' hdiffers
      refine destroyPayloadFor_of_ne lawful run hcall hdraw (hhandle'.trans hhandle) fun hsame ↦ ?_
      obtain ⟨hidentity, hversion⟩ := payloadBinding_inj.mp (hsame.trans hbinding)
      exact hdiffers.elim (· hidentity) (· hversion)
    · intro proposalIdentity' commitment' hhandle'
      refine destroyCommitmentFor_of_ne lawful run hcall hdraw (hhandle'.trans hhandle)
        fun hsame ↦ ?_
      cases congrArg KeyBinding.purpose (hsame.trans hbinding)
  keepsMismatch' := by
    intro log envelopes answers proposalIdentity canonicalPayload commitment run hcall
    obtain ⟨later, earlier, rfl⟩ := List.append_of_mem hcall
    obtain ⟨draw, -, hdraw, -, -, hbinding, -, hhandle, -⟩ := run.committed lawful
    constructor
    · intro proposalIdentity' commitment' hhandle' hdiffers
      refine destroyCommitmentFor_of_ne lawful run hcall hdraw (hhandle'.trans hhandle)
        fun hsame ↦ ?_
      obtain ⟨hidentity, hversion⟩ := commitmentBinding_inj.mp (hsame.trans hbinding)
      exact hdiffers.elim (· hidentity) (· hversion)
    · intro proposalIdentity' payload' hhandle'
      refine destroyPayloadFor_of_ne lawful run hcall hdraw (hhandle'.trans hhandle) fun hsame ↦ ?_
      cases congrArg KeyBinding.purpose (hsame.trans hbinding)

end EnvelopeService

end ThrevoActions
