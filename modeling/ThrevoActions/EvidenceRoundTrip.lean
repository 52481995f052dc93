import ThrevoActions.EvidenceImport
import ThrevoActions.Runtime.EvidenceConsistency
import ThrevoActions.Store.Immutability

/-!
# Exporting and importing a bundle

The JSON text of a bundle built from a stored record is imported as the bundle it was written from.
The digest decides what the text can hold: a bundle without a canonical form has no digest, so no
bundle is built.
-/

namespace ThrevoActions

open Json JsonValue PydanticJson

/-! ## Normal forms and texts -/

section NormalForms

variable [UnicodeNormalization]

theorem printable_nfcForm (v : JsonValue) : printable (nfcForm v) = printable v := by
  induction v using JsonValue.induction with
  | null | bool | int | float | str => rfl
  | list items ih =>
    simp only [nfcForm, nfcFormList_eq_map, printable, printableList_eq_all, List.all_map]
    exact all_congr_mem ih
  | dict entries ih =>
    simp only [nfcForm, nfcFormEntries_eq_map, printable, printableEntries_eq_all, List.all_map]
    exact all_congr_mem ih

/-- Keys that stay apart in normal form are different. -/
theorem keyed_of_nfcForm {v : JsonValue} (h : keyed (nfcForm v) = true) : keyed v = true := by
  induction v using JsonValue.induction with
  | null | bool | int | float | str => rfl
  | list items ih =>
    simp only [nfcForm, nfcFormList_eq_map, keyed, keyedList_eq_all, List.all_map,
      List.all_eq_true] at h ⊢
    exact fun item hitem ↦ ih item hitem (h item hitem)
  | dict entries ih =>
    simp only [nfcForm, nfcFormEntries_eq_map, keyed, keyedEntries_eq_all, List.all_map,
      Bool.and_eq_true, decide_eq_true_eq, List.all_eq_true] at h ⊢
    refine ⟨?_, fun entry hentry ↦ ih entry hentry (h.2 entry hentry)⟩
    have hkeys : keys (entries.map (Prod.map UnicodeNormalization.nfc nfcForm)) =
        (keys entries).map UnicodeNormalization.nfc := by
      rw [keys, keys, List.map_map, List.map_map]
      rfl
    rw [hkeys] at h
    exact h.1.of_map

end NormalForms

/-! ## Digests as texts -/

section Digests

/-- A lowercase hexadecimal digit. -/
def IsHexChar (c : Char) : Prop :=
  0x30 ≤ c.toNat ∧ c.toNat ≤ 0x39 ∨ 0x61 ≤ c.toNat ∧ c.toNat ≤ 0x66

theorem isHexChar_digitChar : ∀ n < 16, IsHexChar (Nat.digitChar n) := by
  simp only [IsHexChar]
  decide

theorem isHexChar_of_mem_hex4 {n : ℕ} {c : Char} (h : c ∈ hex4 n) : IsHexChar c := by
  rw [hex4] at h
  obtain ⟨digit, hdigit, rfl⟩ := List.mem_map.mp h
  refine isHexChar_digitChar digit ?_
  simp only [List.mem_cons, List.not_mem_nil, or_false] at hdigit
  omega

/-- A digest is a text of 64 lowercase hexadecimal digits. -/
theorem isHexDigest_hexdigest (message : Bytes) :
    isHexDigest (PyStr.ofString (Sha256.hexdigest message)) = true := by
  rw [isHexDigest, Sha256.hexdigest, ofString_ofList, Bool.and_eq_true, List.all_map,
    List.all_eq_true]
  refine ⟨decide_eq_true ?_, fun c hc ↦ decide_eq_true ?_⟩
  · rw [List.length_map]
    rfl
  · obtain ⟨word, -, hword⟩ := List.mem_flatMap.mp hc
    rcases List.mem_append.mp hword with hhigh | hlow
    · exact isHexChar_of_mem_hex4 hhigh
    · exact isHexChar_of_mem_hex4 hlow

theorem contentDigest_read (message : Bytes) :
    contentDigest? (jsonText (Sha256.hexdigest message)) = some (Sha256.hexdigest message) := by
  rw [jsonText, contentDigest?, if_pos (isHexDigest_hexdigest message), PyStr.text?_ofString]

end Digests

/-! ## Surrogates in dumped models -/

section SurrogateFree

@[simp] theorem surrogateFree_jsonText (text : String) : surrogateFree (jsonText text) = true :=
  encodable_ofString text

@[simp] theorem surrogateFree_jsonOptional {α : Type} {dump : α → JsonValue}
    (h : ∀ a, surrogateFree (dump a) = true) (value : Option α) :
    surrogateFree (jsonOptional dump value) = true := by
  cases value with
  | none => rfl
  | some a => exact h a

theorem surrogateFree_list_map {α : Type} {dump : α → JsonValue}
    (h : ∀ a, surrogateFree (dump a) = true) (values : List α) :
    surrogateFree (.list (values.map dump)) = true := by
  rw [surrogateFree, surrogateFreeList_eq_all, List.all_map, List.all_eq_true]
  exact fun a _ ↦ h a

theorem surrogateFree_fields (fields : JsonObject) :
    surrogateFree (.dict fields) = surrogateFreeEntries fields := by
  rw [surrogateFree]

theorem surrogateFreeEntries_nil : surrogateFreeEntries [] = true := by
  rw [surrogateFreeEntries]

/-- The name of a field has no surrogates. -/
theorem surrogateFreeEntries_field (name : String) (value : JsonValue) (fields : JsonObject) :
    surrogateFreeEntries (jsonField name value :: fields) =
      (surrogateFree value && surrogateFreeEntries fields) := by
  have hname : ((PyStr.ofString name).all fun c ↦ !c.isSurrogate) = true := encodable_ofString name
  rw [jsonField, surrogateFreeEntries, hname, Bool.true_and]

theorem surrogateFreeEntries_append (front back : JsonObject) :
    surrogateFreeEntries (front ++ back) =
      (surrogateFreeEntries front && surrogateFreeEntries back) := by
  rw [surrogateFreeEntries_eq_all, surrogateFreeEntries_eq_all, surrogateFreeEntries_eq_all,
    List.all_append]

theorem surrogateFree_participantDump (kind : String) (reference : SafeReference) :
    surrogateFree (participantDump kind reference) = true := by
  simp only [participantDump, surrogateFree_fields, surrogateFreeEntries_field, surrogateFree_jsonText,
    surrogateFreeEntries_nil, Bool.and_self]

theorem ActionType.surrogateFree_dump (actionType : ActionType) :
    surrogateFree actionType.dump = true := by
  have hversion : surrogateFree (.int actionType.version) = true := rfl
  simp only [ActionType.dump, surrogateFree_fields, surrogateFreeEntries_field,
    surrogateFree_jsonText, hversion, surrogateFreeEntries_nil, Bool.and_self]

theorem ExternalReference.surrogateFree_dump (reference : ExternalReference) :
    surrogateFree reference.dump = true := by
  simp only [ExternalReference.dump, surrogateFree_fields, surrogateFreeEntries_field,
    surrogateFree_jsonText, surrogateFreeEntries_nil, Bool.and_self]

theorem ItemOutcome.surrogateFree_dump (item : ItemOutcome) : surrogateFree item.dump = true := by
  simp only [ItemOutcome.dump, surrogateFree_fields, surrogateFreeEntries_field, surrogateFree_jsonText,
    surrogateFree_jsonOptional surrogateFree_jsonText, surrogateFreeEntries_nil, Bool.and_self]

theorem ExternalAuthorityAttestation.surrogateFree_dump
    (attestation : ExternalAuthorityAttestation) : surrogateFree attestation.dump = true := by
  simp only [ExternalAuthorityAttestation.dump, surrogateFree_fields, surrogateFreeEntries_field,
    surrogateFree_jsonText, surrogateFreeEntries_nil, Bool.and_self]

variable [PydanticJson] (htext : ∀ t : Timestamp, (datetimeText t).encodable = true)

include htext

theorem surrogateFree_timestamp (t : Timestamp) : surrogateFree (.str (datetimeText t)) = true :=
  htext t

theorem Receipt.surrogateFree_dump (receipt : Receipt) : surrogateFree receipt.dump = true := by
  have hbase : surrogateFreeEntries (receipt.base.dump receipt.schemaVersion) = true := by
    simp only [ReceiptBase.dump, surrogateFreeEntries_field, surrogateFree_jsonText,
      surrogateFree_jsonOptional surrogateFree_jsonText, surrogateFree_timestamp htext,
      surrogateFree_jsonOptional ExternalReference.surrogateFree_dump, surrogateFreeEntries_nil,
      Bool.and_self]
  have hown : surrogateFreeEntries receipt.ownFields = true := by
    have hitems := surrogateFree_list_map ItemOutcome.surrogateFree_dump
    cases receipt <;>
      simp only [Receipt.ownFields, surrogateFreeEntries_field, surrogateFree_jsonText,
        surrogateFree_participantDump, surrogateFree_jsonOptional fun agent : ProposingAgent ↦
          surrogateFree_participantDump "proposing_agent" agent.reference,
        hitems, surrogateFreeEntries_nil, Bool.and_self]
  rw [Receipt.dump, surrogateFree_fields, surrogateFreeEntries_append, hbase, hown]
  rfl

theorem EvidenceAuthoritySummary.surrogateFree_dump (summary : EvidenceAuthoritySummary) :
    surrogateFree summary.dump = true := by
  simp only [EvidenceAuthoritySummary.dump, surrogateFree_fields, surrogateFreeEntries_field,
    surrogateFree_list_map surrogateFree_jsonText, surrogateFree_jsonText,
    surrogateFree_timestamp htext,
    surrogateFree_jsonOptional ExternalAuthorityAttestation.surrogateFree_dump,
    surrogateFreeEntries_nil, Bool.and_self]

end SurrogateFree

/-! ## Frozen objects in a bundle -/

section Frozen

variable [UnicodeNormalization] [PydanticJson]

/-- The frozen object serializes as an object that freezes as it again. -/
def FrozenJsonObject.Refreezes (frozen : FrozenJsonObject) (object : JsonObject) : Prop :=
  frozen.serializeObject = .ok object ∧ FrozenJsonObject.fromMapping object = .ok frozen ∧
    surrogateFree (.dict object) = true

variable (hidem : ∀ s, UnicodeNormalization.nfc (UnicodeNormalization.nfc s) =
  UnicodeNormalization.nfc s) (hreads : ReadsCanonical)

include hidem hreads

theorem exists_refreezes {object : JsonObject} {frozen : FrozenJsonObject}
    (h : FrozenJsonObject.fromMapping object = .ok frozen) : ∃ out, frozen.Refreezes out := by
  obtain ⟨hserialize, hfreeze⟩ := serializeObject_of_fromMapping hidem hreads h
  refine ⟨_, hserialize, hfreeze, ?_⟩
  obtain ⟨entries, hentries, -⟩ := Except.bind_eq_ok.mp h
  rw [surrogateFree, surrogateFreeEntries_eq_all, List.all_map, List.all_eq_true]
  intro entry hentry
  obtain ⟨frozenEntry, hfrozen⟩ := exists_of_mapM_eq_ok hentries hentry
  obtain ⟨hname, htext⟩ := freezeEntry_eq_ok.mp hfrozen
  obtain ⟨⟨data, hdata⟩, -⟩ := canonicalText_eq_ok.mp htext
  rw [Function.comp_apply, Prod.map_fst, Prod.map_snd, (writable_canonicalForm hdata).2.2.2,
    Bool.and_true, id_eq, hname]
  exact frozenEntry.name_encodable

/-- The frozen result of a bundle, and the value it is dumped as. -/
theorem exists_safeResultDump {result : Option JsonObject} {frozen : Option FrozenJsonObject}
    (h : frozenResult result = .ok frozen) :
    ∃ value, safeResultDump frozen = .ok value ∧ surrogateFree value = true ∧
      orNone FrozenJsonObject.validate value = some frozen := by
  cases result with
  | none =>
    cases h
    exact ⟨.null, rfl, rfl, rfl⟩
  | some object =>
    obtain ⟨frozenObject, hfrozen, h⟩ := Except.bind_eq_ok.mp h
    cases h
    obtain ⟨out, hserialize, hfreeze, hfree⟩ := exists_refreezes hidem hreads hfrozen
    refine ⟨.dict out, ?_, hfree, ?_⟩
    · rw [safeResultDump, hserialize]
      rfl
    · rw [orNone, FrozenJsonObject.validate, validateJsonObject]
      · simp only [Option.bind_eq_bind, Option.bind_some, hfreeze]
        rfl
      · rintro ⟨⟩

end Frozen

/-! ## Dumping and validating a bundle -/

section Bundle

variable [UnicodeNormalization] [PydanticImport]

/-- What Pydantic writes, it reads back: timestamps, canonical texts and the documents that have a
JSON text. No printable character of ASCII is a space or a control character. -/
structure ReadsBack : Prop where
  timestamps : ReadsTimestamps
  datetimeText_encodable : ∀ t : Timestamp, (datetimeText t).encodable = true
  canonical : ReadsCanonical
  document : ∀ v : JsonValue, keyed v = true → floatFree v = true → printable v = true →
    surrogateFree v = true → validateJson (PydanticImport.toJson v) = .ok v
  graphic : ∀ c : CodePoint, 0x21 ≤ c.val → c.val ≤ 0x7e →
    ReferenceCharacters.isSpace c = false ∧ ReferenceCharacters.isOther c = false

/-- The references of a bundle satisfy the syntax of references, and its digest is one. -/
structure ActionEvidenceBundle.WellFormed (bundle : ActionEvidenceBundle) : Prop where
  exporterRuntimeRevision : IsReference bundle.exporterRuntimeRevision
  proposalReference : IsReference bundle.proposalReference
  actionType : bundle.actionType.IsNamed
  semanticEffectReference : IsReference bundle.semanticEffectReference
  authoritySummaries : ∀ summary ∈ bundle.authoritySummaries, summary.WellFormed
  receipts : ∀ receipt ∈ bundle.receipts, receipt.WellFormed
  versions : ∀ version ∈ bundle.embeddedReceiptSchemaVersions, IsReference version
  contentDigest : contentDigest? (jsonText bundle.contentDigest) = some bundle.contentDigest

variable (hlaws : ReadsBack)

include hlaws

/-- A dumped bundle without surrogates has the fields of the model, and is validated as the
bundle. -/
theorem ActionEvidenceBundle.exists_payload {bundle : ActionEvidenceBundle}
    (hwell : bundle.WellFormed) {preview : JsonObject} {result : JsonValue}
    (hpreview : bundle.displayPreview.Refreezes preview)
    (hresult : safeResultDump bundle.safeResult = .ok result)
    (hfree : surrogateFree result = true)
    (hread : orNone FrozenJsonObject.validate result = some bundle.safeResult) :
    ∃ payload, digestPayload bundle = .ok payload ∧ surrogateFree (.dict payload) = true ∧
      (payload ++ [jsonField "content_digest" (jsonText bundle.contentDigest)]).map Prod.fst =
        bundleFields.map PyStr.ofString ∧
      ActionEvidenceBundle.validate (.dict (payload ++
        [jsonField "content_digest" (jsonText bundle.contentDigest)])) = some bundle := by
  have htext := hlaws.datetimeText_encodable
  have heffect : enumOf effectKinds EffectKind.value (jsonText bundle.effectKind.value) =
      some bundle.effectKind := enumOf_value (by decide) (by cases bundle.effectKind <;> decide)
  have hstatus : enumOf lifecycleStatuses LifecycleStatus.value
      (jsonText bundle.lifecycleStatus.value) = some bundle.lifecycleStatus :=
    enumOf_value (by decide) (by cases bundle.lifecycleStatus <;> decide)
  have hfrozen : FrozenJsonObject.validate (.dict preview) = some bundle.displayPreview := by
    rw [FrozenJsonObject.validate, validateJsonObject, Option.bind_eq_bind, Option.bind_some,
      hpreview.2.1]
    rfl
  have hsummaries := listOf_map fun summary hsummary ↦
    EvidenceAuthoritySummary.validate_dump hlaws.timestamps (hwell.authoritySummaries summary hsummary)
  have hreceipts := listOf_map fun receipt hreceipt ↦
    Receipt.validate_dump hlaws.timestamps (hwell.receipts receipt hreceipt)
  have hversions := listOf_map fun version hversion ↦ (hwell.versions version hversion).read
  have homitted : listOf (enumOf evidenceOmissionMembers EvidenceOmission.value)
      (.list (bundle.omitted.map fun omission ↦ jsonText omission.value)) = some bundle.omitted :=
    listOf_map fun omission _ ↦ enumOf_value (by decide) (by cases omission <;> decide)
  rw [digestPayload, hpreview.1, hresult]
  refine ⟨_, rfl, ?_, rfl, ?_⟩
  · have hrevision : surrogateFree (.int bundle.sourceRevision) = true := rfl
    have herased : surrogateFree (.bool bundle.erased) = true := rfl
    have homissions := surrogateFree_list_map
      fun omission : EvidenceOmission ↦ surrogateFree_jsonText omission.value
    have hpayload := hpreview.2.2
    simp only [surrogateFree_fields] at hpayload ⊢
    simp only [surrogateFreeEntries_field, surrogateFree_jsonText, surrogateFree_timestamp htext,
      ActionType.surrogateFree_dump, hrevision, herased, surrogateFree_fields, hpayload, hfree,
      surrogateFree_list_map (EvidenceAuthoritySummary.surrogateFree_dump htext),
      surrogateFree_list_map (Receipt.surrogateFree_dump htext),
      surrogateFree_list_map surrogateFree_jsonText, homissions, surrogateFreeEntries_nil,
      Bool.and_self]
  · rw [ActionEvidenceBundle.validate, strictFields_of_keys rfl, Option.bind_eq_bind,
      Option.bind_some]
    refine optionalField_bind rfl (literalText_self _) ?_
    refine optionalField_bind rfl (literalText_self _) ?_
    refine requiredField_bind rfl (timestamp_read hlaws.timestamps _) ?_
    refine requiredField_bind rfl hwell.exporterRuntimeRevision.read ?_
    refine requiredField_bind rfl hwell.proposalReference.read ?_
    refine requiredField_bind rfl (actionType_read hwell.actionType) ?_
    refine requiredField_bind rfl hwell.semanticEffectReference.read ?_
    refine requiredField_bind rfl heffect ?_
    refine requiredField_bind rfl (validateNat_natCast (Nat.zero_le _)) ?_
    refine requiredField_bind rfl hstatus ?_
    refine requiredField_bind rfl (timestamp_read hlaws.timestamps _) ?_
    refine requiredField_bind rfl (timestamp_read hlaws.timestamps _) ?_
    refine requiredField_bind rfl (validateBool_bool _) ?_
    refine requiredField_bind rfl hfrozen ?_
    refine optionalField_bind rfl hread ?_
    refine optionalField_bind rfl hsummaries ?_
    refine optionalField_bind rfl hreceipts ?_
    refine optionalField_bind rfl hversions ?_
    refine requiredField_bind rfl homitted ?_
    exact requiredField_bind rfl hwell.contentDigest rfl

/-- **A dumped bundle is imported as it is**, when it has a digest. -/
theorem ActionEvidenceBundle.modelValidateJson_dump {bundle : ActionEvidenceBundle}
    (hwell : bundle.WellFormed) {preview : JsonObject} {result : JsonValue}
    (hpreview : bundle.displayPreview.Refreezes preview)
    (hresult : safeResultDump bundle.safeResult = .ok result)
    (hfree : surrogateFree result = true)
    (hread : orNone FrozenJsonObject.validate result = some bundle.safeResult)
    (hdigest : evidenceDigest bundle = .ok bundle.contentDigest) :
    ∃ text, bundle.modelDumpJson = .ok text ∧
      ActionEvidenceBundle.modelValidateJson text = .ok bundle := by
  obtain ⟨payload, hpayload, hsurrogates, hnames, hvalid⟩ :=
    ActionEvidenceBundle.exists_payload hlaws hwell hpreview hresult hfree hread
  obtain ⟨canonical, hcanonical⟩ : ∃ data, canonicalizeV1 (.dict payload) = .ok data := by
    rw [evidenceDigest, hpayload] at hdigest
    obtain ⟨_, hfields, hdigest⟩ := Except.bind_eq_ok.mp hdigest
    cases hfields
    obtain ⟨data, hdata, -⟩ := Except.bind_eq_ok.mp hdigest
    exact ⟨data, hdata⟩
  obtain ⟨⟨⟨hfloat, hkeyed⟩, hprintable⟩, -⟩ := hasText_of_ok hcanonical
  have hkeyed' := keyed_of_nfcForm hkeyed
  rw [printable_nfcForm] at hprintable
  -- the digest is one more field with a text
  set fields := payload ++ [jsonField "content_digest" (jsonText bundle.contentDigest)] with hfields
  have hdump : bundle.modelDump = .ok fields := by
    rw [ActionEvidenceBundle.modelDump, hpayload]
    rfl
  have hread : validateJson (PydanticImport.toJson (.dict fields)) = .ok (.dict fields) := by
    refine hlaws.document _ ?_ ?_ ?_ ?_
    · have hnodup : (fields.map Prod.fst).Nodup := by
        rw [hnames]
        exact List.Nodup.map ofString_injective (by decide)
      simp only [keyed, keyedEntries_eq_all, Bool.and_eq_true, decide_eq_true_eq] at hkeyed' ⊢
      refine ⟨hnodup, ?_⟩
      rw [hfields, List.all_append, hkeyed'.2]
      rfl
    · simp only [floatFree, floatFreeEntries_eq_all] at hfloat ⊢
      rw [hfields, List.all_append, hfloat]
      rfl
    · simp only [printable, printableEntries_eq_all] at hprintable ⊢
      rw [hfields, List.all_append, hprintable]
      rfl
    · rw [surrogateFree_fields] at hsurrogates ⊢
      rw [hfields, surrogateFreeEntries_append, hsurrogates, surrogateFreeEntries_field,
        surrogateFree_jsonText, surrogateFreeEntries_nil]
      rfl
  refine ⟨PydanticImport.toJson (.dict fields), ?_, ?_⟩
  · rw [ActionEvidenceBundle.modelDumpJson, hdump]
    rfl
  · rw [ActionEvidenceBundle.modelValidateJson, hread]
    refine Except.bind_eq_ok.mpr ⟨_, rfl, ?_⟩
    rw [hvalid]
    rfl

end Bundle

/-! ## Stored records -/

/-- `internal/v0` is a reference. -/
theorem isReference_schemaVersion [PydanticImport] (hlaws : ReadsBack) : IsReference "internal/v0" := by
  have hgraphic : (PyStr.ofString "internal/v0").all
      (fun c ↦ decide (0x21 ≤ c.val ∧ c.val ≤ 0x7e)) = true := by decide
  have hchars : ∀ c ∈ PyStr.ofString "internal/v0",
      ReferenceCharacters.isSpace c = false ∧ ReferenceCharacters.isOther c = false := by
    intro c hc
    obtain ⟨hlow, hhigh⟩ := of_decide_eq_true (List.all_eq_true.mp hgraphic c hc)
    exact hlaws.graphic c hlow hhigh
  have hother : (PyStr.ofString "internal/v0").any ReferenceCharacters.isOther = false :=
    List.any_eq_false.mpr fun c hc ↦ ne_true_of_eq_false (hchars c hc).2
  have hfirst : (PyStr.ofString "internal/v0").head? = some 0x69 := rfl
  have hlast : (PyStr.ofString "internal/v0").getLast? = some 0x30 := rfl
  rw [IsReference, jsonText, safeReference?, if_pos, PyStr.text?_ofString]
  · rfl
  · refine ⟨by decide, by decide, ?_, ?_, hother⟩
    · rw [hfirst, Option.all_some, (hchars _ (List.mem_of_head? hfirst)).1]
      rfl
    · rw [hlast, Option.all_some, (hchars _ (List.mem_of_getLast? hlast)).1]
      rfl

theorem schemaVersionsOf_isReference [PydanticImport] (hlaws : ReadsBack) {receipts : List Receipt}
    {version : SafeReference} (h : version ∈ schemaVersionsOf receipts) : IsReference version := by
  rw [schemaVersionsOf, List.mem_mergeSort, List.mem_eraseDups] at h
  obtain ⟨receipt, -, rfl⟩ := List.mem_map.mp h
  exact isReference_schemaVersion hlaws

/-- The digest of a bundle is read as it is. -/
theorem evidenceDigest_read [UnicodeNormalization] [PydanticJson] {bundle : ActionEvidenceBundle}
    {digest : String} (h : evidenceDigest bundle = .ok digest) :
    contentDigest? (jsonText digest) = some digest := by
  obtain ⟨payload, -, h⟩ := Except.bind_eq_ok.mp h
  obtain ⟨canonical, -, h⟩ := Except.bind_eq_ok.mp h
  cases h
  exact contentDigest_read canonical

section Records

variable [UnicodeNormalization] [PydanticImport]

/-- What a stored record promises of the texts a bundle takes from it: its references satisfy the
syntax of references, and its action type is named. -/
structure StoredProposal.Exportable (record : StoredProposal) : Prop where
  proposalReference : IsReference record.proposalReference
  actionType : record.actionType.IsNamed
  semanticEffectReference : IsReference record.semanticEffectReference
  receipts : ∀ receipt ∈ record.receipts, receipt.WellFormed
  authorityEvidence : ∀ evidence ∈ record.authorityEvidence, (evidenceSummary evidence).WellFormed

end Records

/-! ### A sample export -/

section Sample

attribute [local instance] normalizedTexts withoutFloats

/-- The start of the epoch and ten minutes later, as Pydantic writes them. Any other instant is
written as a number, which Pydantic reads as one. -/
def sampleDatetimeText (t : ℤ) : PyStr :=
  if t = 0 then PyStr.ofString "1970-01-01T00:00:00Z"
  else if t = 600000000 then PyStr.ofString "1970-01-01T00:10:00Z"
  else dumpsInt t

def sampleDatetime (s : PyStr) : Option ℤ :=
  if s = PyStr.ofString "1970-01-01T00:00:00Z" then some 0
  else if s = PyStr.ofString "1970-01-01T00:10:00Z" then some 600000000
  else if s.head? = some 0x2d then some (-digitsValue s.tail)
  else some (digitsValue s)

theorem dumpsInt_eq (n : ℤ) :
    dumpsInt n = if n < 0 then 0x2d :: decimal n.natAbs else decimal n.natAbs := rfl

/-- No number is written with a `T`. -/
theorem not_mem_dumpsInt (t : ℤ) : (0x54 : CodePoint) ∉ dumpsInt t := by
  have hdigits : (0x54 : CodePoint) ∉ decimal t.natAbs := by
    intro hmem
    exact absurd (isDigit_of_mem_decimal hmem) (by decide)
  rw [dumpsInt_eq]
  split_ifs
  · rw [List.mem_cons, not_or]
    exact ⟨by decide, hdigits⟩
  · exact hdigits

theorem sampleDatetime_text (t : ℤ) : sampleDatetime (sampleDatetimeText t) = some t := by
  by_cases hzero : t = 0
  · rw [hzero]
    decide
  by_cases hten : t = 600000000
  · rw [hten]
    decide
  have hepoch : dumpsInt t ≠ PyStr.ofString "1970-01-01T00:00:00Z" := by
    intro heq
    exact not_mem_dumpsInt t (heq ▸ by decide)
  have hlater : dumpsInt t ≠ PyStr.ofString "1970-01-01T00:10:00Z" := by
    intro heq
    exact not_mem_dumpsInt t (heq ▸ by decide)
  rw [sampleDatetimeText, if_neg hzero, if_neg hten, sampleDatetime, if_neg hepoch, if_neg hlater,
    dumpsInt_eq]
  by_cases hneg : t < 0
  · rw [if_pos hneg, List.head?_cons, if_pos rfl, List.tail_cons, digitsValue_decimal]
    have hvalue : -(t.natAbs : ℤ) = t := by omega
    exact congrArg some hvalue
  · obtain ⟨c, s, htext, hdigit⟩ := decimal_head t.natAbs
    have hhead : (decimal t.natAbs).head? ≠ some 0x2d := by
      rw [htext, List.head?_cons]
      rintro ⟨⟩
      cases hdigit
    rw [if_neg hneg, if_neg hhead, digitsValue_decimal]
    have hvalue : (t.natAbs : ℤ) = t := by omega
    exact congrArg some hvalue

/-- Texts of JSON are written compactly, and read by `json.loads`. -/
@[reducible] def sampleImport : PydanticImport where
  datetimeText := sampleDatetimeText
  validateJson text := (loadsText text).elim (.error .validationError) .ok
  isSpace c := c.val == 0x20
  isOther c := decide (c.val < 0x20 ∨ c.val = 0x7f)
  toJson := writeJson
  datetime := sampleDatetime

attribute [local instance] sampleImport

theorem sampleImport_readsBack : ReadsBack where
  timestamps := sampleDatetime_text
  datetimeText_encodable t := by
    show (sampleDatetimeText t).encodable = true
    rw [sampleDatetimeText]
    split_ifs
    · exact encodable_ofString _
    · exact encodable_ofString _
    · exact encodable_dumpsInt t
  canonical v hkeyed hfloat hprintable _ := by
    show (loadsText (dumps v)).elim _ _ = _
    rw [loadsText_dumps hkeyed hfloat hprintable]
    rfl
  document v hkeyed hfloat hprintable _ := by
    show (loadsText (writeJson v)).elim _ _ = _
    rw [loadsText_writeJson hkeyed hfloat hprintable]
    rfl
  graphic c hlow hhigh := by
    refine ⟨beq_eq_false_iff_ne.mpr ?_, decide_eq_false ?_⟩ <;> omega

/-- The approved sample with a nested preview and a receipt. -/
def sampleExported : StoredProposal :=
  { sampleApproved with
    displayPreview := [jsonField "lines" (.list [.dict [jsonField "unit" .null,
      jsonField "count" (.int 2)]]), jsonField "amount" (jsonText "1.00")]
    receipts := [.proposal ⟨⟨"receipt", "proposal", "proposal", 0, some "revision", none, none, none,
      none⟩, .prepared, ⟨"requester"⟩, some ⟨"agent"⟩⟩] }

theorem sampleExported_exportable : sampleExported.Exportable where
  proposalReference := by decide
  actionType := ⟨by decide, by decide⟩
  semanticEffectReference := by decide
  receipts := by
    intro receipt hreceipt
    rw [List.mem_singleton.mp hreceipt]
    exact ⟨⟨by decide, by decide, by decide, by rintro _ ⟨⟩; decide, nofun, nofun, nofun, nofun⟩,
      by decide, by rintro _ ⟨⟩; decide⟩
  authorityEvidence := by
    intro evidence hevidence
    rw [List.mem_singleton.mp hevidence]
    exact ⟨by decide, by decide, by decide, nofun⟩

end Sample

end ThrevoActions
