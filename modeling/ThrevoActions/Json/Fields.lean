import ThrevoActions.Json.Refusals
import ThrevoActions.Models

/-!
# Strict validation of JSON values

What Pydantic's strict models ask of the JSON values of their fields: the syntax of references and
names, integers with a lower bound, optional values, fields with and without a default, and no other
fields than the declared ones.
-/

namespace ThrevoActions

/-! ## Texts -/

/-- What the syntax of references asks of a character. -/
class ReferenceCharacters where
  /-- `str.strip` removes it. -/
  isSpace : CodePoint → Bool
  /-- Its Unicode category starts with `C`. -/
  isOther : CodePoint → Bool

/-- The text with these code points, if none of them is a surrogate. -/
def PyStr.text? (s : PyStr) : Option String :=
  if s.all fun c ↦ decide (c.val < 0xd800 ∨ 0xdfff < c.val) then
    some (String.ofList (s.map fun c ↦ Char.ofNat c.val))
  else none

theorem PyStr.text?_ofString (text : String) : (PyStr.ofString text).text? = some text := by
  have hscalar : ((PyStr.ofString text).all fun c ↦
      decide (c.val < 0xd800 ∨ 0xdfff < c.val)) = true := by
    rw [PyStr.ofString, List.all_map, List.all_eq_true]
    intro c _
    have hvalid := c.valid
    simp only [UInt32.isValidChar, Nat.isValidChar] at hvalid
    refine decide_eq_true ?_
    show c.val.toNat < _ ∨ _ < c.val.toNat
    omega
  have hchars : (PyStr.ofString text).map (fun c ↦ Char.ofNat c.val) = text.toList := by
    rw [PyStr.ofString, List.map_map]
    conv_rhs => rw [← List.map_id text.toList]
    exact List.map_congr_left fun c _ ↦ Char.ofNat_toNat c
  rw [PyStr.text?, if_pos hscalar, hchars, String.ofList_toList]

/-- `SafeReference`. A surrogate is a character of category `Cs`. -/
def safeReference? [ReferenceCharacters] : JsonValue → Option SafeReference
  | .str s =>
    if 1 ≤ s.length ∧ s.length ≤ 255 ∧
        s.head?.all (fun c ↦ !ReferenceCharacters.isSpace c) = true ∧
        s.getLast?.all (fun c ↦ !ReferenceCharacters.isSpace c) = true ∧
        s.any ReferenceCharacters.isOther = false then PyStr.text? s
    else none
  | _ => none

/-- The text satisfies the syntax of references. -/
def IsReference [ReferenceCharacters] (text : SafeReference) : Prop :=
  (safeReference? (jsonText text)).isSome = true

instance [ReferenceCharacters] (text : SafeReference) : Decidable (IsReference text) :=
  inferInstanceAs (Decidable (_ = true))

theorem IsReference.read [ReferenceCharacters] {text : SafeReference} (h : IsReference text) :
    safeReference? (jsonText text) = some text := by
  rw [IsReference, jsonText, safeReference?] at h
  rw [jsonText, safeReference?]
  split_ifs at h ⊢
  · exact PyStr.text?_ofString text
  · cases h

/-- `^[a-z][a-z0-9_]*$`. -/
def isActionName : PyStr → Bool
  | [] => false
  | c :: s =>
    let isLower (c : CodePoint) : Bool := decide (0x61 ≤ c.val ∧ c.val ≤ 0x7a)
    isLower c && s.all fun c ↦ isLower c || decide (0x30 ≤ c.val ∧ c.val ≤ 0x39) || c.val == 0x5f

/-- `^[a-z][a-z0-9_]*(?:\.[a-z][a-z0-9_]*)+$`. -/
def isActionNamespace (s : PyStr) : Bool :=
  decide (2 ≤ (s.splitOn (0x2e : CodePoint)).length) &&
    (s.splitOn (0x2e : CodePoint)).all isActionName

/-! ## Fields -/

/-- The entries of a dictionary with no keys but `names`. -/
def strictFields (names : List String) : JsonValue → Option JsonObject
  | .dict entries =>
    if entries.all fun entry ↦ names.any fun name ↦ PyStr.ofString name == entry.1 then some entries
    else none
  | _ => none

/-- The value of a required field. -/
def metadataField (entries : JsonObject) (name : String) : Option JsonValue :=
  entries.lookup (PyStr.ofString name)

/-- `T | None`. -/
def orNone {α : Type} (validate : JsonValue → Option α) : JsonValue → Option (Option α)
  | .null => some none
  | value => (validate value).map some

/-- `dict[str, JsonValue]`. -/
def validateJsonObject : JsonValue → Option JsonObject
  | .dict entries => some entries
  | _ => none

/-- `int` with a lower bound. Validation is strict. -/
def validateNat (least : ℕ) : JsonValue → Option ℕ
  | .int n => if (least : ℤ) ≤ n then some n.toNat else none
  | _ => none

/-- A field without a default. -/
def requiredField {α : Type} (data : JsonObject) (name : String)
    (validate : JsonValue → Option α) : Option α :=
  (data.lookup (PyStr.ofString name)).bind validate

/-- A field with a default. -/
def optionalField {α : Type} (data : JsonObject) (name : String) (default : α)
    (validate : JsonValue → Option α) : Option α :=
  (data.lookup (PyStr.ofString name)).elim (some default) validate

theorem requiredField_of_lookup {α : Type} {data data' : JsonObject} {name : String}
    {validate : JsonValue → Option α}
    (h : data'.lookup (PyStr.ofString name) = data.lookup (PyStr.ofString name)) :
    requiredField data' name validate = requiredField data name validate := by
  rw [requiredField, h, requiredField]

theorem optionalField_of_lookup {α : Type} {data data' : JsonObject} {name : String} {default : α}
    {validate : JsonValue → Option α}
    (h : data'.lookup (PyStr.ofString name) = data.lookup (PyStr.ofString name)) :
    optionalField data' name default validate = optionalField data name default validate := by
  rw [optionalField, h, optionalField]

theorem requiredField_of_lookup_eq_some {α : Type} {data : JsonObject} {name : String}
    {validate : JsonValue → Option α} {value : JsonValue}
    (h : data.lookup (PyStr.ofString name) = some value) :
    requiredField data name validate = validate value := by
  rw [requiredField, h, Option.bind_some]

theorem optionalField_of_lookup_eq_some {α : Type} {data : JsonObject} {name : String} {default : α}
    {validate : JsonValue → Option α} {value : JsonValue}
    (h : data.lookup (PyStr.ofString name) = some value) :
    optionalField data name default validate = validate value := by
  rw [optionalField, h, Option.elim_some]

/-- A validator goes on after a field that is present and valid. -/
theorem requiredField_bind {α β : Type} {data : JsonObject} {name : String}
    {validate : JsonValue → Option α} {value : JsonValue} {a : α} {next : α → Option β} {b : β}
    (hlookup : data.lookup (PyStr.ofString name) = some value) (hvalid : validate value = some a)
    (hnext : next a = some b) : (requiredField data name validate >>= next) = some b := by
  rw [requiredField_of_lookup_eq_some hlookup, hvalid, Option.bind_eq_bind, Option.bind_some, hnext]

theorem optionalField_bind {α β : Type} {data : JsonObject} {name : String} {default : α}
    {validate : JsonValue → Option α} {value : JsonValue} {a : α} {next : α → Option β} {b : β}
    (hlookup : data.lookup (PyStr.ofString name) = some value) (hvalid : validate value = some a)
    (hnext : next a = some b) : (optionalField data name default validate >>= next) = some b := by
  rw [optionalField_of_lookup_eq_some hlookup, hvalid, Option.bind_eq_bind, Option.bind_some, hnext]

/-- A list of values. -/
def listOf {α : Type} (validate : JsonValue → Option α) : JsonValue → Option (List α)
  | .list items => items.mapM validate
  | _ => none

/-- A literal text. -/
def literalText (text : String) (value : JsonValue) : Option Unit :=
  if value = jsonText text then some () else none

/-- A member of an enumeration, by its value. -/
def enumOf {α : Type} (members : List α) (text : α → String) (value : JsonValue) : Option α :=
  members.find? fun member ↦ decide (value = jsonText (text member))

/-! ### Reading dumped values -/

/-- A field of a dumped model. -/
theorem lookup_jsonField_cons (name other : String) (value : JsonValue) (fields : JsonObject) :
    (jsonField other value :: fields).lookup (PyStr.ofString name) =
      if name = other then some value else fields.lookup (PyStr.ofString name) := by
  rw [jsonField, List.lookup_cons]
  split_ifs with hname
  · rw [hname, beq_self_eq_true]
  · rw [beq_eq_false_iff_ne.mpr fun heq ↦ hname (ofString_injective heq)]

/-- A dumped model has its declared fields and no others. -/
theorem strictFields_of_keys {names : List String} {fields : JsonObject}
    (h : fields.map Prod.fst = names.map PyStr.ofString) :
    strictFields names (.dict fields) = some fields := by
  have hall : (fields.all fun entry ↦
      names.any fun name ↦ PyStr.ofString name == entry.1) = true := by
    rw [List.all_eq_true]
    intro entry hentry
    have hkey : entry.1 ∈ names.map PyStr.ofString := h ▸ List.mem_map_of_mem hentry
    obtain ⟨name, hname, heq⟩ := List.mem_map.mp hkey
    exact List.any_eq_true.mpr ⟨name, hname, beq_iff_eq.mpr heq⟩
  rw [strictFields, if_pos hall]

theorem orNone_jsonOptional {α : Type} {validate : JsonValue → Option α} {dump : α → JsonValue}
    {value : Option α} (hnull : ∀ a, dump a ≠ .null)
    (h : ∀ a ∈ value, validate (dump a) = some a) :
    orNone validate (jsonOptional dump value) = some value := by
  cases value with
  | none => rfl
  | some a =>
    rw [jsonOptional, orNone, h a rfl]
    · rfl
    · exact hnull a

theorem listOf_map {α : Type} {validate : JsonValue → Option α} {dump : α → JsonValue}
    {values : List α} (h : ∀ a ∈ values, validate (dump a) = some a) :
    listOf validate (.list (values.map dump)) = some values := by
  rw [listOf]
  induction values with
  | nil => rfl
  | cons a values ih =>
    rw [List.forall_mem_cons] at h
    rw [List.map_cons, List.mapM_cons, h.1, ih h.2]
    rfl

theorem validateNat_natCast {least n : ℕ} (h : least ≤ n) : validateNat least (.int n) = some n := by
  rw [validateNat, if_pos (Int.ofNat_le.mpr h), Int.toNat_natCast]

theorem literalText_self (text : String) : literalText text (jsonText text) = some () := if_pos rfl

/-- `ActionType`. -/
def actionType? (value : JsonValue) : Option ActionType := do
  let entries ← strictFields ["namespace", "name", "version"] value
  match ← metadataField entries "namespace", ← metadataField entries "name",
      ← metadataField entries "version" with
  | .str actionNamespace, .str name, .int version =>
    if isActionNamespace actionNamespace = true ∧ isActionName name = true then
      if hversion : 1 ≤ version.toNat then
        return ⟨← PyStr.text? actionNamespace, ← PyStr.text? name, version.toNat, hversion⟩
      else none
    else none
  | _, _, _ => none

/-- The name of the action type satisfies the syntax of names. -/
def ActionType.IsNamed (actionType : ActionType) : Prop :=
  isActionNamespace (PyStr.ofString actionType.actionNamespace) = true ∧
    isActionName (PyStr.ofString actionType.name) = true

end ThrevoActions
