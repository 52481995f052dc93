import ThrevoActions.Json.Document
import ThrevoActions.Json.Utf8

/-!
# What canonicalization refuses

`canonicalize_v1` guards its normalization and its call of `json.dumps`, and encodes the text
outside of the guarded block. A text with a surrogate has no encoding, so a document whose normal
form contains a surrogate makes the encoding itself fail, with an exception that is not
`CanonicalizationError`. Every other document is canonicalized or refused.
-/

namespace ThrevoActions

namespace JsonValue

mutual

/-- No string and no key contains a surrogate. -/
def surrogateFree : JsonValue → Bool
  | .str s => s.all fun c ↦ !c.isSurrogate
  | .list items => surrogateFreeList items
  | .dict entries => surrogateFreeEntries entries
  | .null | .bool _ | .int _ | .float _ => true

def surrogateFreeList : List JsonValue → Bool
  | [] => true
  | item :: items => surrogateFree item && surrogateFreeList items

def surrogateFreeEntries : List (PyStr × JsonValue) → Bool
  | [] => true
  | (key, item) :: entries =>
    (key.all fun c ↦ !c.isSurrogate) && surrogateFree item && surrogateFreeEntries entries

end

@[simp] theorem surrogateFreeList_eq_all (items : List JsonValue) :
    surrogateFreeList items = items.all surrogateFree := by
  induction items with
  | nil => rfl
  | cons item items ih => rw [surrogateFreeList, ih, List.all_cons]

@[simp] theorem surrogateFreeEntries_eq_all (entries : List (PyStr × JsonValue)) :
    surrogateFreeEntries entries =
      entries.all fun entry ↦ (entry.1.all fun c ↦ !c.isSurrogate) && surrogateFree entry.2 := by
  induction entries with
  | nil => rfl
  | cons entry entries ih => rw [surrogateFreeEntries, ih, List.all_cons]

end JsonValue

/-! ## Surrogates in texts -/

theorem ofString_injective : Function.Injective PyStr.ofString := by
  intro a b h
  have hmap : Function.Injective fun c : Char ↦
      (⟨c.toNat, Char.toNat_lt_codePoints c⟩ : CodePoint) :=
    fun c d hcd ↦ Char.toNat_inj.mp (Fin.mk.inj hcd)
  exact String.toList_inj.mp (List.map_injective_iff.mpr hmap h)

/-- The text has an encoding. -/
def PyStr.encodable (s : PyStr) : Bool := s.all fun c ↦ !c.isSurrogate

theorem encodable_append (s t : PyStr) :
    PyStr.encodable (s ++ t) = (s.encodable && t.encodable) := List.all_append

/-- A Lean string has no surrogates. -/
theorem encodable_ofString (text : String) : (PyStr.ofString text).encodable = true := by
  rw [PyStr.encodable, PyStr.ofString, List.all_map, List.all_eq_true]
  intro c _
  have hvalid := c.valid
  simp only [UInt32.isValidChar, Nat.isValidChar] at hvalid
  rw [Function.comp_apply, Bool.not_eq_true', CodePoint.isSurrogate, decide_eq_false_iff_not]
  show ¬(_ ≤ c.val.toNat ∧ c.val.toNat ≤ _)
  omega

theorem encodable_escapeChar (c : CodePoint) :
    (escapeChar c).encodable = !c.isSurrogate := by
  have hfree : c.val < 0xd800 → ∀ text : String,
      (PyStr.ofString text).encodable = !c.isSurrogate := by
    intro hc text
    rw [encodable_ofString, eq_comm, Bool.not_eq_true', CodePoint.isSurrogate,
      decide_eq_false_iff_not]
    omega
  rw [escapeChar]
  split_ifs with hquote hbackslash hnewline hreturn htab hbackspace hfeed hcontrol
  · exact hfree (by omega) _
  · exact hfree (by omega) _
  · exact hfree (by omega) _
  · exact hfree (by omega) _
  · exact hfree (by omega) _
  · exact hfree (by omega) _
  · exact hfree (by omega) _
  · exact hfree (by omega) _
  · exact Bool.and_true _

theorem encodable_dumpsStr (s : PyStr) : (dumpsStr s).encodable = s.encodable := by
  have hbody : PyStr.encodable (s.flatMap escapeChar) = s.encodable := by
    induction s with
    | nil => rfl
    | cons c s ih =>
      rw [List.flatMap_cons, encodable_append, encodable_escapeChar, ih]
      rfl
  rw [dumpsStr, encodable_append, encodable_append, encodable_ofString, hbody, Bool.true_and, Bool.and_true]

theorem encodable_dumpsInt (n : ℤ) : (dumpsInt n).encodable = true := by
  rw [dumpsInt]
  split_ifs
  · rw [encodable_append, encodable_ofString, encodable_ofString]
    rfl
  · exact encodable_ofString _

theorem encodable_joinStr {separator : PyStr} (h : separator.encodable = true)
    (parts : List PyStr) : (joinStr separator parts).encodable = parts.all PyStr.encodable := by
  induction parts with
  | nil => rfl
  | cons part parts ih =>
    cases parts with
    | nil => exact (Bool.and_true _).symm
    | cons other parts =>
      rw [joinStr, encodable_append, encodable_append, h, ih, Bool.and_true, List.all_cons]
      · rfl
      · exact fun hnil ↦ absurd hnil (List.cons_ne_nil _ _)

theorem all_congr_mem {β : Type} {p q : β → Bool} {xs : List β} (h : ∀ x ∈ xs, p x = q x) :
    xs.all p = xs.all q := by
  rw [Bool.eq_iff_iff, List.all_eq_true, List.all_eq_true]
  exact forall₂_congr fun x hx ↦ by rw [h x hx]

open JsonValue

theorem dumpsList_eq_map (items : List JsonValue) : dumpsList items = items.map dumps := by
  induction items with
  | nil => rfl
  | cons item items ih => rw [dumpsList, ih, List.map_cons]

theorem dumpsEntries_eq_map (entries : List (PyStr × JsonValue)) :
    dumpsEntries entries = entries.map (Prod.map id dumps) := by
  induction entries with
  | nil => rfl
  | cons entry entries ih => rw [dumpsEntries, ih, List.map_cons]; rfl

/-- The printed entries of a dictionary, in ascending order of their keys. -/
theorem sortEntries_dumpsEntries (entries : List (PyStr × JsonValue)) :
    sortEntries (dumpsEntries entries) = dumpsEntries (sortEntries entries) := by
  rw [dumpsEntries_eq_map, dumpsEntries_eq_map, sortEntries_map]

/-- **A printed document is encodable exactly when it contains no surrogate.** -/
theorem encodable_dumps (v : JsonValue) : (dumps v).encodable = surrogateFree v := by
  induction v using JsonValue.induction with
  | null => exact encodable_ofString _
  | bool b => cases b <;> exact encodable_ofString _
  | int n => exact encodable_dumpsInt n
  | float => rfl
  | str s => exact encodable_dumpsStr s
  | list items ih =>
    rw [dumps, encodable_append, encodable_append, encodable_ofString,
      encodable_ofString, encodable_joinStr (encodable_ofString _), dumpsList_eq_map, List.all_map,
      surrogateFree, surrogateFreeList_eq_all, Bool.true_and, Bool.and_true]
    exact all_congr_mem ih
  | dict entries ih =>
    rw [dumps, encodable_append, encodable_append, encodable_ofString,
      encodable_ofString, encodable_joinStr (encodable_ofString _), sortEntries_dumpsEntries,
      dumpsEntries_eq_map, List.map_map, List.all_map, surrogateFree, surrogateFreeEntries_eq_all,
      Bool.true_and, Bool.and_true, (sortEntries_perm entries).all_eq]
    refine all_congr_mem fun entry hentry ↦ ?_
    simp only [Function.comp_apply, Prod.map_fst, Prod.map_snd, id_eq, encodable_append,
      encodable_dumpsStr, encodable_ofString, ih entry hentry, Bool.and_true]
    rfl

/-! ## Which exceptions escape -/

section Canonicalize

variable [UnicodeNormalization]

/-- The document has a canonical text: a normal form, whose integers can be printed. -/
def HasText (v : JsonValue) : Prop := Normalizable v ∧ printable (nfcForm v) = true

/-- `canonicalize_v1` returns bytes or raises `CanonicalizationError`. -/
def ReturnsOrRefuses (v : JsonValue) : Prop :=
  (∃ data, canonicalizeV1 v = .ok data) ∨ Refuses (canonicalizeV1 v)

theorem canonicalizeV1_of_hasText {v : JsonValue} (h : HasText v) :
    canonicalizeV1 v = encodeUtf8 (dumps (nfcForm v)) := by
  rw [canonicalizeV1, normalize_ok h.1]
  simp only [bind, Except.bind, h.2, Bool.not_true, Bool.false_eq_true, if_false]

theorem canonicalizeV1_refuses {v : JsonValue} (h : ¬HasText v) : Refuses (canonicalizeV1 v) := by
  rw [canonicalizeV1]
  by_cases hnormal : Normalizable v
  · have hprintable : printable (nfcForm v) = false := by
      rw [← Bool.not_eq_true]
      exact fun hprintable ↦ h ⟨hnormal, hprintable⟩
    rw [normalize_ok hnormal]
    simp only [bind, Except.bind, hprintable, Bool.not_false, if_true]
    exact ⟨_, rfl⟩
  · exact (normalize_refuses hnormal).bind _

/-- **When no other exception escapes**: the document is refused before it is encoded, or nothing in
its normal form is a surrogate. -/
theorem returnsOrRefuses_iff (v : JsonValue) :
    ReturnsOrRefuses v ↔ (HasText v → surrogateFree (nfcForm v) = true) := by
  by_cases htext : HasText v
  · rw [ReturnsOrRefuses, canonicalizeV1_of_hasText htext, ← encodable_dumps]
    constructor
    · intro hreturns _
      by_contra hsurrogate
      rw [PyStr.encodable, List.all_eq_true] at hsurrogate
      push Not at hsurrogate
      obtain ⟨c, hc, hbad⟩ := hsurrogate
      have herror := encodeUtf8_of_surrogate ⟨c, hc, by simpa using hbad⟩
      rw [herror] at hreturns
      rcases hreturns with ⟨data, hdata⟩ | ⟨message, hmessage⟩
      · cases hdata
      · cases hmessage
    · intro hfree
      refine Or.inl (exists_encodeUtf8 fun c hc ↦ ?_)
      have hall := List.all_eq_true.mp (hfree htext) c hc
      simpa using hall
  · exact iff_of_true (Or.inr (canonicalizeV1_refuses htext)) fun h ↦ absurd h htext

end Canonicalize

section Sample

attribute [local instance] normalizedTexts

/-- The text of one lone surrogate is neither canonicalized nor refused. -/
theorem surrogate_escapes : ¬ReturnsOrRefuses (.str [⟨0xd800, by decide⟩]) := by
  have htext : HasText (.str [⟨0xd800, by decide⟩]) := ⟨⟨rfl, rfl⟩, rfl⟩
  have herror := canonicalizeV1_of_hasText htext
  rw [encodeUtf8_of_surrogate ⟨⟨0xd800, by decide⟩, by decide, by decide⟩] at herror
  rw [ReturnsOrRefuses, Refuses, herror]
  rintro (⟨data, hdata⟩ | ⟨message, hmessage⟩)
  · cases hdata
  · cases hmessage

end Sample

end ThrevoActions
