import ThrevoActions.Json.RoundTrip

/-!
# Canonical texts and normal forms

What the bytes of `canonicalize_v1` say about a document: exactly its normal form. Two accepted
documents have one canonical text when their normal forms are the same document, the parser reads
the normal form back, and a document so read has that canonical text again.

The sorted form of a document carries the argument. A document and its sorted form are printed
alike, and the parser returns the sorted form.
-/

namespace ThrevoActions

open Json JsonValue

/-! ## Sorted forms -/

section Sorted

theorem sortEntries_idem {β : Type} (entries : List (PyStr × β)) :
    sortEntries (sortEntries entries) = sortEntries entries :=
  (sortEntries_sorted entries).insertionSort_eq

/-- A document and its sorted form are printed alike. -/
theorem dumps_sorted (v : JsonValue) : dumps (sorted v) = dumps v := by
  induction v using JsonValue.induction with
  | null | bool | int | float | str => rfl
  | list items ih =>
    have hitems : (items.map sorted).map dumps = items.map dumps := by
      rw [List.map_map]
      exact List.map_congr_left ih
    rw [sorted, dumps, dumps, dumpsList_eq_map, dumpsList_eq_map, sortedList_eq_map, hitems]
  | dict entries ih =>
    have hentries : (entries.map (Prod.map id sorted)).map (Prod.map id dumps) =
        entries.map (Prod.map id dumps) := by
      rw [List.map_map]
      exact List.map_congr_left fun entry hentry ↦ Prod.ext rfl (ih entry hentry)
    rw [sorted, dumps, dumps, sortEntries_dumpsEntries, sortEntries_idem, sortEntries_dumpsEntries,
      ← sortEntries_dumpsEntries, ← sortEntries_dumpsEntries, dumpsEntries_eq_map,
      dumpsEntries_eq_map, sortedEntries_eq_map, hentries]

theorem sorted_idem (v : JsonValue) : sorted (sorted v) = sorted v := by
  induction v using JsonValue.induction with
  | null | bool | int | float | str => rfl
  | list items ih =>
    rw [sorted, sorted, sortedList_eq_map, sortedList_eq_map, List.map_map]
    exact congrArg JsonValue.list (List.map_congr_left ih)
  | dict entries ih =>
    have hentries : (entries.map (Prod.map id sorted)).map (Prod.map id sorted) =
        entries.map (Prod.map id sorted) := by
      rw [List.map_map]
      exact List.map_congr_left fun entry hentry ↦ Prod.ext rfl (ih entry hentry)
    rw [sorted, sorted, sortedEntries_eq_map, sortedEntries_eq_map, ← sortEntries_map,
      sortEntries_idem, hentries]

/-- The entries of a sorted dictionary are the sorted entries of the dictionary. -/
theorem mem_sortEntries_map {entries : List (PyStr × JsonValue)} {entry : PyStr × JsonValue} :
    entry ∈ sortEntries (entries.map (Prod.map id sorted)) ↔
      ∃ other ∈ entries, Prod.map id sorted other = entry := by
  rw [(sortEntries_perm _).mem_iff, List.mem_map]

theorem keyed_sorted {v : JsonValue} (h : keyed v = true) : keyed (sorted v) = true := by
  induction v using JsonValue.induction with
  | null | bool | int | float | str => rfl
  | list items ih =>
    simp only [keyed, keyedList_eq_all, List.all_eq_true] at h
    simp only [sorted, sortedList_eq_map, keyed, keyedList_eq_all, List.all_map, List.all_eq_true]
    exact fun item hitem ↦ ih item hitem (h item hitem)
  | dict entries ih =>
    simp only [keyed, keyedEntries_eq_all, Bool.and_eq_true, decide_eq_true_eq,
      List.all_eq_true] at h
    simp only [sorted, sortedEntries_eq_map, keyed, keyedEntries_eq_all, Bool.and_eq_true,
      decide_eq_true_eq, List.all_eq_true]
    constructor
    · have hperm := (sortEntries_perm (entries.map (Prod.map id sorted))).map Prod.fst
      rw [keys, hperm.nodup_iff, keys_map_sorted]
      exact h.1
    · intro entry hentry
      obtain ⟨other, hother, rfl⟩ := mem_sortEntries_map.mp hentry
      exact ih other hother (h.2 other hother)

theorem floatFree_sorted {v : JsonValue} (h : floatFree v = true) : floatFree (sorted v) = true := by
  induction v using JsonValue.induction with
  | null | bool | int | str => rfl
  | float => cases h
  | list items ih =>
    simp only [floatFree, floatFreeList_eq_all, List.all_eq_true] at h
    simp only [sorted, sortedList_eq_map, floatFree, floatFreeList_eq_all, List.all_map,
      List.all_eq_true]
    exact fun item hitem ↦ ih item hitem (h item hitem)
  | dict entries ih =>
    simp only [floatFree, floatFreeEntries_eq_all, List.all_eq_true] at h
    simp only [sorted, sortedEntries_eq_map, floatFree, floatFreeEntries_eq_all, List.all_eq_true]
    intro entry hentry
    obtain ⟨other, hother, rfl⟩ := mem_sortEntries_map.mp hentry
    exact ih other hother (h other hother)

theorem printable_sorted {v : JsonValue} (h : printable v = true) : printable (sorted v) = true := by
  induction v using JsonValue.induction with
  | null | bool | float | str => rfl
  | int => exact h
  | list items ih =>
    simp only [printable, printableList_eq_all, List.all_eq_true] at h
    simp only [sorted, sortedList_eq_map, printable, printableList_eq_all, List.all_map,
      List.all_eq_true]
    exact fun item hitem ↦ ih item hitem (h item hitem)
  | dict entries ih =>
    simp only [printable, printableEntries_eq_all, List.all_eq_true] at h
    simp only [sorted, sortedEntries_eq_map, printable, printableEntries_eq_all, List.all_eq_true]
    intro entry hentry
    obtain ⟨other, hother, rfl⟩ := mem_sortEntries_map.mp hentry
    exact ih other hother (h other hother)

/-- A document with distinct keys is the same as its sorted form. -/
theorem same_sorted {v : JsonValue} (h : keyed v = true) : same (sorted v) v = true := by
  rw [same_iff_sorted_eq (keyed_sorted h) h, sorted_idem]

end Sorted

/-! ## Shapes -/

section Shapes

mutual

/-- A document without its leaves: its keys and its nesting. -/
def shape : JsonValue → JsonValue
  | .list items => .list (shapeList items)
  | .dict entries => .dict (shapeEntries entries)
  | .null | .bool _ | .int _ | .float _ | .str _ => .null

def shapeList : List JsonValue → List JsonValue
  | [] => []
  | item :: items => shape item :: shapeList items

def shapeEntries : List (PyStr × JsonValue) → List (PyStr × JsonValue)
  | [] => []
  | (key, item) :: entries => (key, shape item) :: shapeEntries entries

end

@[simp] theorem shapeList_eq_map (items : List JsonValue) : shapeList items = items.map shape := by
  induction items with
  | nil => rfl
  | cons item items ih => rw [shapeList, ih, List.map_cons]

@[simp] theorem shapeEntries_eq_map (entries : List (PyStr × JsonValue)) :
    shapeEntries entries = entries.map (Prod.map id shape) := by
  induction entries with
  | nil => rfl
  | cons entry entries ih => rw [shapeEntries, ih, List.map_cons]; rfl

/-- Entries under the same distinct keys in the same order are not a mere rearrangement. -/
theorem eq_of_perm_of_keys {β : Type} {a b : List (PyStr × β)} (hperm : a.Perm b)
    (hkeys : a.map Prod.fst = b.map Prod.fst) (hnodup : (a.map Prod.fst).Nodup) : a = b := by
  induction a generalizing b with
  | nil => exact hperm.nil_eq
  | cons entry entries ih =>
    cases b with
    | nil => cases hkeys
    | cons other others =>
      rw [List.map_cons, List.map_cons, List.cons.injEq] at hkeys
      rw [List.map_cons, List.nodup_cons] at hnodup
      have hentry : entry = other := by
        rcases List.mem_cons.mp (hperm.subset List.mem_cons_self) with h | h
        · exact h
        · exact absurd (hkeys.2 ▸ List.mem_map_of_mem h) hnodup.1
      subst hentry
      rw [ih hperm.cons_inv hkeys.2 hnodup.2]

theorem eq_of_maps_eq {β γ δ : Type} {f : β → γ} {g : β → δ} {xs ys : List β}
    (h : ∀ x ∈ xs, ∀ y, f x = f y → g x = g y → x = y) (hf : xs.map f = ys.map f)
    (hg : xs.map g = ys.map g) : xs = ys := by
  induction xs generalizing ys with
  | nil => exact (List.map_eq_nil_iff.mp hf.symm).symm
  | cons x xs ih =>
    cases ys with
    | nil => cases hf
    | cons y ys =>
      rw [List.forall_mem_cons] at h
      rw [List.map_cons, List.map_cons, List.cons.injEq] at hf hg
      rw [h.1 y hf.1 hg.1, ih h.2 hf.2 hg.2]

/-- Sorting loses only the order of the keys: documents of one shape with one sorted form are
equal. -/
theorem eq_of_sorted_eq {a b : JsonValue} (hshape : shape a = shape b) (hkeyed : keyed a = true)
    (hsorted : sorted a = sorted b) : a = b := by
  induction a using JsonValue.induction generalizing b with
  | null | bool | int | float | str => cases b <;> first | exact hsorted | cases hshape
  | list items ih =>
    cases b with
    | list others =>
      simp only [keyed, keyedList_eq_all, List.all_eq_true] at hkeyed
      simp only [shape, shapeList_eq_map, list.injEq] at hshape
      simp only [sorted, sortedList_eq_map, list.injEq] at hsorted
      exact congrArg JsonValue.list (eq_of_maps_eq (fun item hitem other hshape hsorted ↦
        ih item hitem hshape (hkeyed item hitem) hsorted) hshape hsorted)
    | _ => cases hshape
  | dict entries ih =>
    cases b with
    | dict others =>
      simp only [keyed, keyedEntries_eq_all, Bool.and_eq_true, decide_eq_true_eq,
        List.all_eq_true] at hkeyed
      simp only [shape, shapeEntries_eq_map, dict.injEq] at hshape
      simp only [sorted, sortedEntries_eq_map, dict.injEq] at hsorted
      have hkeys : entries.map Prod.fst = others.map Prod.fst := by
        have hmap := congrArg (List.map Prod.fst) hshape
        rwa [List.map_map, List.map_map] at hmap
      have hentries : entries.map (Prod.map id sorted) = others.map (Prod.map id sorted) := by
        refine eq_of_perm_of_keys ?_ ?_ ?_
        · refine (sortEntries_perm _).symm.trans ?_
          rw [hsorted]
          exact sortEntries_perm _
        · rw [keys_map_sorted, keys_map_sorted, hkeys]
        · rw [keys_map_sorted]
          exact hkeyed.1
      refine congrArg JsonValue.dict (eq_of_maps_eq (fun entry hentry other hshape hsorted ↦ ?_)
        hshape hentries)
      obtain ⟨hkey, hvalue⟩ := Prod.ext_iff.mp hsorted
      exact Prod.ext hkey (ih entry hentry (Prod.ext_iff.mp hshape).2 (hkeyed.2 entry hentry) hvalue)
    | _ => cases hshape

end Shapes

/-! ## Normal forms -/

section NormalForms

variable [UnicodeNormalization]

open UnicodeNormalization (nfc)

theorem nfcForm_idem (hidem : ∀ s, nfc (nfc s) = nfc s) (v : JsonValue) :
    nfcForm (nfcForm v) = nfcForm v := by
  induction v using JsonValue.induction with
  | null | bool | int | float => rfl
  | str s => rw [nfcForm, nfcForm, hidem]
  | list items ih =>
    rw [nfcForm, nfcForm, nfcFormList_eq_map, nfcFormList_eq_map, List.map_map]
    exact congrArg JsonValue.list (List.map_congr_left ih)
  | dict entries ih =>
    rw [nfcForm, nfcForm, nfcFormEntries_eq_map, nfcFormEntries_eq_map, List.map_map]
    refine congrArg JsonValue.dict (List.map_congr_left fun entry hentry ↦ ?_)
    exact Prod.ext (hidem entry.1) (ih entry hentry)

theorem floatFree_nfcForm (v : JsonValue) : floatFree (nfcForm v) = floatFree v := by
  induction v using JsonValue.induction with
  | null | bool | int | float | str => rfl
  | list items ih =>
    rw [nfcForm, floatFree, floatFree, floatFreeList_eq_all, floatFreeList_eq_all,
      nfcFormList_eq_map, List.all_map]
    exact all_congr_mem ih
  | dict entries ih =>
    rw [nfcForm, floatFree, floatFree, floatFreeEntries_eq_all, floatFreeEntries_eq_all,
      nfcFormEntries_eq_map, List.all_map]
    exact all_congr_mem ih

omit [UnicodeNormalization] in
theorem map_eq_self_iff {β : Type} {f : β → β} {xs : List β} :
    xs.map f = xs ↔ ∀ x ∈ xs, f x = x := by
  conv_lhs => rhs; rw [← List.map_id xs]
  exact List.map_inj_left

/-- Sorting keeps a document in normal form. -/
theorem nfcForm_sorted {v : JsonValue} (h : nfcForm v = v) : nfcForm (sorted v) = sorted v := by
  induction v using JsonValue.induction with
  | null | bool | int | float => rfl
  | str => exact h
  | list items ih =>
    rw [nfcForm, nfcFormList_eq_map, list.injEq, map_eq_self_iff] at h
    rw [sorted, nfcForm, nfcFormList_eq_map, sortedList_eq_map, list.injEq, map_eq_self_iff]
    intro item hitem
    obtain ⟨other, hother, rfl⟩ := List.mem_map.mp hitem
    exact ih other hother (h other hother)
  | dict entries ih =>
    rw [nfcForm, nfcFormEntries_eq_map, dict.injEq, map_eq_self_iff] at h
    rw [sorted, nfcForm, nfcFormEntries_eq_map, sortedEntries_eq_map, dict.injEq, map_eq_self_iff]
    intro entry hentry
    obtain ⟨other, hother, rfl⟩ := mem_sortEntries_map.mp hentry
    obtain ⟨hkey, hvalue⟩ := Prod.ext_iff.mp (h other hother)
    exact Prod.ext hkey (ih other hother hvalue)

/-! ## Canonical texts -/

/-- The parsing of texts in which no float is written. -/
@[reducible] def withoutFloats : PythonFloat := ⟨fun _ ↦ 0⟩

/-- The canonical text of an accepted document is its printed normal form. -/
theorem hasText_of_ok {v : JsonValue} {data : Bytes} (h : canonicalizeV1 v = .ok data) :
    HasText v ∧ encodeUtf8 (dumps (nfcForm v)) = .ok data := by
  by_cases htext : HasText v
  · rw [canonicalizeV1_of_hasText htext] at h
    exact ⟨htext, h⟩
  · obtain ⟨message, herror⟩ := canonicalizeV1_refuses htext
    rw [herror] at h
    cases h

/-- The canonical text depends on the normal form only. -/
theorem canonicalizeV1_congr {a b : JsonValue} {data : Bytes} (hform : nfcForm a = nfcForm b)
    (h : canonicalizeV1 a = .ok data) : canonicalizeV1 b = .ok data := by
  obtain ⟨⟨⟨hfloat, hkeyed⟩, hprintable⟩, hdata⟩ := hasText_of_ok h
  rw [hform] at hkeyed hprintable hdata
  rw [← floatFree_nfcForm, hform, floatFree_nfcForm] at hfloat
  rw [canonicalizeV1_of_hasText ⟨⟨hfloat, hkeyed⟩, hprintable⟩, hdata]

/-- **The canonical text is read back** as the sorted normal form. -/
theorem loads_canonicalizeV1 [PythonFloat] {v : JsonValue} {data : Bytes}
    (h : canonicalizeV1 v = .ok data) : loads data = some (sorted (nfcForm v)) := by
  obtain ⟨⟨⟨hfloat, hkeyed⟩, hprintable⟩, hdata⟩ := hasText_of_ok h
  rw [loads, decodeUtf8_encode hdata, Option.bind_some]
  exact loadsText_dumps hkeyed ((floatFree_nfcForm v).trans hfloat) hprintable

/-- **The sorted normal form has the same canonical text.** -/
theorem canonicalizeV1_sorted (hidem : ∀ s, nfc (nfc s) = nfc s) {v : JsonValue} {data : Bytes}
    (h : canonicalizeV1 v = .ok data) : canonicalizeV1 (sorted (nfcForm v)) = .ok data := by
  obtain ⟨⟨⟨hfloat, hkeyed⟩, hprintable⟩, hdata⟩ := hasText_of_ok h
  have hnormal : nfcForm (sorted (nfcForm v)) = sorted (nfcForm v) :=
    nfcForm_sorted (nfcForm_idem hidem v)
  have htext : HasText (sorted (nfcForm v)) := by
    refine ⟨⟨floatFree_sorted ((floatFree_nfcForm v).trans hfloat), ?_⟩, ?_⟩
    · rw [hnormal]
      exact keyed_sorted hkeyed
    · rw [hnormal]
      exact printable_sorted hprintable
  rw [canonicalizeV1_of_hasText htext, hnormal, dumps_sorted, hdata]

/-- Two accepted documents have one canonical text exactly when their normal forms are the same. -/
theorem canonicalizeV1_eq_iff {a b : JsonValue} {x y : Bytes} (ha : canonicalizeV1 a = .ok x)
    (hb : canonicalizeV1 b = .ok y) : x = y ↔ same (nfcForm a) (nfcForm b) = true := by
  obtain ⟨⟨⟨-, hkeyedA⟩, -⟩, hdataA⟩ := hasText_of_ok ha
  obtain ⟨⟨⟨-, hkeyedB⟩, -⟩, hdataB⟩ := hasText_of_ok hb
  rw [same_iff_sorted_eq hkeyedA hkeyedB]
  constructor
  · rintro rfl
    -- both sorted forms are what one text is read as
    let : PythonFloat := withoutFloats
    have hread := loads_canonicalizeV1 ha
    rw [loads_canonicalizeV1 hb, Option.some.injEq] at hread
    exact hread.symm
  · intro hsorted
    rw [← dumps_sorted, hsorted, dumps_sorted, hdataB, Except.ok.injEq] at hdataA
    exact hdataA.symm

/-- Normalization works on keys and leaves one by one. -/
theorem shape_nfcForm (v : JsonValue) : shape (nfcForm v) = nfcForm (shape v) := by
  induction v using JsonValue.induction with
  | null | bool | int | float | str => rfl
  | list items ih =>
    rw [nfcForm, shape, shape, nfcForm, nfcFormList_eq_map, shapeList_eq_map, shapeList_eq_map,
      nfcFormList_eq_map, List.map_map, List.map_map]
    exact congrArg JsonValue.list (List.map_congr_left ih)
  | dict entries ih =>
    rw [nfcForm, shape, shape, nfcForm, nfcFormEntries_eq_map, shapeEntries_eq_map,
      shapeEntries_eq_map, nfcFormEntries_eq_map, List.map_map, List.map_map]
    exact congrArg JsonValue.dict
      (List.map_congr_left fun entry hentry ↦ Prod.ext rfl (ih entry hentry))

/-- Two accepted documents of one shape have one canonical text exactly when their normal forms
are equal. -/
theorem canonicalizeV1_eq_iff_of_shape {a b : JsonValue} {x y : Bytes} (hshape : shape a = shape b)
    (ha : canonicalizeV1 a = .ok x) (hb : canonicalizeV1 b = .ok y) :
    x = y ↔ nfcForm a = nfcForm b := by
  obtain ⟨⟨⟨-, hkeyedA⟩, -⟩, -⟩ := hasText_of_ok ha
  obtain ⟨⟨⟨-, hkeyedB⟩, -⟩, -⟩ := hasText_of_ok hb
  rw [canonicalizeV1_eq_iff ha hb, same_iff_sorted_eq hkeyedA hkeyedB]
  constructor
  · refine eq_of_sorted_eq ?_ hkeyedA
    rw [shape_nfcForm, shape_nfcForm, hshape]
  · intro hform
    rw [hform]

/-- **Canonical texts are faithful to normal forms**, and are read back and reproduced. -/
theorem canonicalizeV1_faithful [PythonFloat] (hidem : ∀ s, nfc (nfc s) = nfc s)
    {a b : JsonValue} {x y : Bytes} (ha : canonicalizeV1 a = .ok x)
    (hb : canonicalizeV1 b = .ok y) :
    (x = y ↔ same (nfcForm a) (nfcForm b) = true) ∧
      ∃ v, loads x = some v ∧ same v (nfcForm a) = true ∧ canonicalizeV1 v = .ok x :=
  ⟨canonicalizeV1_eq_iff ha hb, sorted (nfcForm a), loads_canonicalizeV1 ha,
    same_sorted (hasText_of_ok ha).1.1.2, canonicalizeV1_sorted hidem ha⟩

end NormalForms

section Sample

attribute [local instance] normalizedTexts withoutFloats

/-- A dictionary with two keys in descending order, and the same dictionary with them ascending. -/
def sampleDocument : JsonValue :=
  .dict [jsonField "b" (.bool true), jsonField "a" (.list [.int 1, .null])]

def sampleReordered : JsonValue :=
  .dict [jsonField "a" (.list [.int 1, .null]), jsonField "b" (.bool true)]

/-- The text `{"a":[1,null],"b":true}`. -/
def sampleText : Bytes :=
  [0x7b, 0x22, 0x61, 0x22, 0x3a, 0x5b, 0x31, 0x2c, 0x6e, 0x75, 0x6c, 0x6c, 0x5d, 0x2c, 0x22, 0x62,
    0x22, 0x3a, 0x74, 0x72, 0x75, 0x65, 0x7d]

theorem canonicalizeV1_sampleDocument : canonicalizeV1 sampleDocument = .ok sampleText := by
  decide

theorem canonicalizeV1_sampleReordered : canonicalizeV1 sampleReordered = .ok sampleText := by
  decide

theorem canonicalizeV1_faithful_sample :
    (sampleText = sampleText ↔ same (nfcForm sampleDocument) (nfcForm sampleReordered) = true) ∧
      ∃ v, loads sampleText = some v ∧ same v (nfcForm sampleDocument) = true ∧
        canonicalizeV1 v = .ok sampleText :=
  canonicalizeV1_faithful (fun _ ↦ rfl) canonicalizeV1_sampleDocument canonicalizeV1_sampleReordered

end Sample

end ThrevoActions
