import ThrevoActions.Evidence
import ThrevoActions.Json.CanonicalForms

/-!
# Frozen objects

A frozen JSON object serializes as the object with every value in canonical form, and freezing what
it serializes as gives the same frozen object.
-/

namespace ThrevoActions

open JsonValue

/-! ## Canonical forms -/

section CanonicalForm

variable [UnicodeNormalization]

/-- The canonical form of a document: every text in NFC and every key in its place, at every
depth. -/
def canonicalForm (v : JsonValue) : JsonValue := sorted (nfcForm v)

omit [UnicodeNormalization] in
theorem surrogateFree_sorted {v : JsonValue} (h : surrogateFree v = true) :
    surrogateFree (sorted v) = true := by
  induction v using JsonValue.induction with
  | null | bool | int | float => rfl
  | str => exact h
  | list items ih =>
    simp only [surrogateFree, surrogateFreeList_eq_all, List.all_eq_true] at h
    simp only [sorted, sortedList_eq_map, surrogateFree, surrogateFreeList_eq_all, List.all_map,
      List.all_eq_true]
    exact fun item hitem ↦ ih item hitem (h item hitem)
  | dict entries ih =>
    simp only [surrogateFree, surrogateFreeEntries_eq_all, List.all_eq_true] at h
    simp only [sorted, sortedEntries_eq_map, surrogateFree, surrogateFreeEntries_eq_all,
      List.all_eq_true]
    intro entry hentry
    obtain ⟨other, hother, rfl⟩ := mem_sortEntries_map.mp hentry
    have hpair := h other hother
    rw [Bool.and_eq_true] at hpair ⊢
    exact ⟨hpair.1, ih other hother hpair.2⟩

/-- A text that has bytes has no surrogates. -/
theorem surrogateFree_of_ok {v : JsonValue} {data : Bytes} (h : canonicalizeV1 v = .ok data) :
    surrogateFree (nfcForm v) = true := by
  obtain ⟨htext, -⟩ := hasText_of_ok h
  exact (returnsOrRefuses_iff v).mp (Or.inl ⟨data, h⟩) htext

/-- A canonical form can be written as JSON text. -/
theorem writable_canonicalForm {v : JsonValue} {data : Bytes} (h : canonicalizeV1 v = .ok data) :
    keyed (canonicalForm v) = true ∧ floatFree (canonicalForm v) = true ∧
      printable (canonicalForm v) = true ∧ surrogateFree (canonicalForm v) = true := by
  obtain ⟨⟨⟨hfloat, hkeyed⟩, hprintable⟩, -⟩ := hasText_of_ok h
  exact ⟨keyed_sorted hkeyed, floatFree_sorted ((floatFree_nfcForm v).trans hfloat),
    printable_sorted hprintable, surrogateFree_sorted (surrogateFree_of_ok h)⟩

/-- What is normalized is the normal form. -/
theorem eq_nfcForm_of_normalize {v normalized : JsonValue} (h : normalize v = .ok normalized) :
    normalized = nfcForm v := by
  by_cases hnormal : Normalizable v
  · rw [normalize_ok hnormal] at h
    exact (Except.ok.inj h).symm
  · obtain ⟨message, herror⟩ := normalize_refuses hnormal
    rw [herror] at h
    cases h

theorem canonicalText_eq (v : JsonValue) :
    canonicalText v = (canonicalizeV1 v).map fun _ ↦ dumps (nfcForm v) := by
  rw [canonicalText, canonicalizeV1]
  cases hnormalized : normalize v with
  | error e => rfl
  | ok normalized =>
    obtain rfl := eq_nfcForm_of_normalize hnormalized
    simp only [bind, Except.bind]
    cases printable (nfcForm v) with
    | false => rfl
    | true => cases encodeUtf8 (dumps (nfcForm v)) <;> rfl

/-- The canonical text of a value is the printed normal form of a value with canonical bytes. -/
theorem canonicalText_eq_ok {v : JsonValue} {text : PyStr} :
    canonicalText v = .ok text ↔ (∃ data, canonicalizeV1 v = .ok data) ∧ dumps (nfcForm v) = text := by
  rw [canonicalText_eq]
  cases canonicalizeV1 v with
  | error e => simp [Except.map]
  | ok data => simp [Except.map]

/-- The canonical form has the canonical text of the value. -/
theorem canonicalText_canonicalForm
    (hidem : ∀ s, UnicodeNormalization.nfc (UnicodeNormalization.nfc s) = UnicodeNormalization.nfc s)
    {v : JsonValue} {text : PyStr} (h : canonicalText v = .ok text) :
    canonicalText (canonicalForm v) = .ok text := by
  obtain ⟨⟨data, hdata⟩, rfl⟩ := canonicalText_eq_ok.mp h
  have hnormal : nfcForm (canonicalForm v) = canonicalForm v := nfcForm_sorted (nfcForm_idem hidem v)
  refine canonicalText_eq_ok.mpr ⟨⟨data, canonicalizeV1_sorted hidem hdata⟩, ?_⟩
  rw [hnormal, canonicalForm, dumps_sorted]

end CanonicalForm

/-! ## Freezing -/

theorem mapM_eq_ok {α β ε : Type} {f : α → Except ε β} {xs : List α} {ys : List β} :
    xs.mapM f = .ok ys ↔ List.Forall₂ (fun x y ↦ f x = .ok y) xs ys := by
  induction xs generalizing ys with
  | nil =>
    rw [List.mapM_nil, List.forall₂_nil_left_iff]
    exact ⟨fun h ↦ (Except.ok.inj h).symm, fun h ↦ h ▸ rfl⟩
  | cons x xs ih =>
    rw [List.mapM_cons, List.forall₂_cons_left_iff]
    constructor
    · intro h
      obtain ⟨y, hy, h⟩ := Except.bind_eq_ok.mp h
      obtain ⟨rest, hrest, h⟩ := Except.bind_eq_ok.mp h
      exact ⟨y, rest, hy, ih.mp hrest, (Except.ok.inj h).symm⟩
    · rintro ⟨y, rest, hy, hrest, rfl⟩
      exact Except.bind_eq_ok.mpr ⟨y, hy, Except.bind_eq_ok.mpr ⟨rest, ih.mpr hrest, rfl⟩⟩

theorem exists_of_mapM_eq_ok {α β ε : Type} {f : α → Except ε β} {xs : List α} {ys : List β}
    (h : xs.mapM f = .ok ys) {x : α} (hx : x ∈ xs) : ∃ y, f x = .ok y := by
  rw [mapM_eq_ok] at h
  induction h with
  | nil => cases hx
  | cons hy _ ih =>
    rcases List.mem_cons.mp hx with rfl | hx
    · exact ⟨_, hy⟩
    · exact ih hx

section Freezing

variable [UnicodeNormalization]

theorem freezeEntry_eq_ok {entry : PyStr × JsonValue} {frozen : FrozenJsonEntry} :
    freezeEntry entry = .ok frozen ↔
      entry.1 = frozen.name ∧ canonicalText entry.2 = .ok frozen.canonicalValue := by
  rw [freezeEntry]
  constructor
  · intro h
    split at h
    · cases h
    · rename_i text htext
      split_ifs at h
      cases h
      exact ⟨rfl, htext⟩
  · rintro ⟨hname, htext⟩
    rw [htext]
    dsimp only
    rw [dif_pos (hname ▸ frozen.name_encodable), dif_pos (hname ▸ frozen.name_length),
      dif_pos frozen.canonicalValue_length]
    cases frozen
    cases hname
    rfl

/-- What Pydantic reads canonical texts as. -/
def ReadsCanonical [PydanticJson] : Prop :=
  ∀ v : JsonValue, keyed v = true → floatFree v = true → printable v = true →
    surrogateFree v = true → PydanticJson.validateJson (dumps v) = .ok (sorted v)

variable (hidem : ∀ s, UnicodeNormalization.nfc (UnicodeNormalization.nfc s) =
  UnicodeNormalization.nfc s)

include hidem

/-- **Freezing and serializing.** A frozen object serializes as the object with every value in
canonical form, and freezing that again gives the same frozen object. -/
theorem serializeObject_of_fromMapping [PydanticJson] (hreads : ReadsCanonical)
    {object : JsonObject} {frozen : FrozenJsonObject}
    (h : FrozenJsonObject.fromMapping object = .ok frozen) :
    frozen.serializeObject = .ok ((sortEntries object).map (Prod.map id canonicalForm)) ∧
      FrozenJsonObject.fromMapping ((sortEntries object).map (Prod.map id canonicalForm)) =
        .ok frozen := by
  obtain ⟨entries, hentries, h⟩ := Except.bind_eq_ok.mp h
  cases h
  rw [mapM_eq_ok] at hentries
  constructor
  · rw [FrozenJsonObject.serializeObject, mapM_eq_ok]
    refine List.forall₂_map_right_iff.mpr ?_
    refine hentries.flip.imp fun frozen entry hfrozen ↦ ?_
    obtain ⟨hname, htext⟩ := freezeEntry_eq_ok.mp hfrozen
    obtain ⟨⟨data, hdata⟩, hvalue⟩ := canonicalText_eq_ok.mp htext
    obtain ⟨⟨⟨hfloat, hkeyed⟩, hprintable⟩, -⟩ := hasText_of_ok hdata
    rw [← hvalue, hreads (nfcForm entry.2) hkeyed ((floatFree_nfcForm _).trans hfloat) hprintable
      (surrogateFree_of_ok hdata), ← hname]
    rfl
  · have hsorted : sortEntries ((sortEntries object).map (Prod.map id canonicalForm)) =
        (sortEntries object).map (Prod.map id canonicalForm) := by
      rw [sortEntries_map, sortEntries_idem]
    refine Except.bind_eq_ok.mpr ⟨entries, ?_, rfl⟩
    rw [hsorted, mapM_eq_ok]
    refine List.forall₂_map_left_iff.mpr (hentries.imp fun entry frozen hfrozen ↦ ?_)
    obtain ⟨hname, htext⟩ := freezeEntry_eq_ok.mp hfrozen
    exact freezeEntry_eq_ok.mpr ⟨hname, canonicalText_canonicalForm hidem htext⟩

end Freezing

end ThrevoActions
