import Mathlib.Logic.Relation
import ThrevoActions.Boundary.Annotations
import ThrevoActions.Integrations.PydanticAi
import ThrevoActions.Json.Document

/-!
# JSON floats for `Decimal` arguments

Before the arguments of a tool call are validated, `_contains_json_float_for_decimal` goes through
the annotation and the JSON value together, and refuses a float that stands where a `Decimal` is
declared. Validation is what Pydantic does with the same pair. It is a relation here: of the members
of a union that accept a value, any may be the one that is taken.

`BuildsFromFloat` tells the Decimals that validation builds along steps the check follows from those
behind a root model, a type alias, another container, or a field that is read under another name.
-/

namespace ThrevoActions

variable {Model Alias Other : Type}

/-! ## The check -/

mutual

/-- What the check tells of an annotation. -/
def AnnotationTree.form : AnnotationTree Model Alias Other → AnnotationForm Model
  | .decimal => .decimal
  | .model m => .model m
  | .ellipsis => .ellipsis
  | .generic origin arguments =>
    match origin with
    | .list | .set | .frozenset | .sequence => .sequence (AnnotationTree.forms arguments)
    | .tuple => .tuple (AnnotationTree.forms arguments)
    | .dict | .mapping => .mapping (AnnotationTree.forms arguments)
    | _ => .other (AnnotationTree.forms arguments)
  | _ => .other []

def AnnotationTree.forms : List (AnnotationTree Model Alias Other) → List (AnnotationForm Model)
  | [] => []
  | argument :: arguments => argument.form :: AnnotationTree.forms arguments

end

theorem AnnotationTree.forms_eq_map (arguments : List (AnnotationTree Model Alias Other)) :
    AnnotationTree.forms arguments = arguments.map AnnotationTree.form := by
  induction arguments with
  | nil => rfl
  | cons argument arguments ih => rw [AnnotationTree.forms, ih, List.map_cons]

/-- What the check tells of a field: a validation alias that is not a text is none to it. -/
def FieldInfo.checked (field : FieldInfo (AnnotationTree Model Alias Other)) : ModelField Model where
  name := field.name
  fieldAlias := field.aliasName
  validationAlias :=
    match field.validationAlias with
    | some (.name name) => some name
    | _ => none
  annotation := field.annotationTree.form

def Declarations.checkedFields (env : Declarations Model Alias Other) (m : Model) :
    List (ModelField Model) :=
  (env.modelFields m).map FieldInfo.checked

/-- The value under the first of the names of a field that is there. -/
def FieldInfo.inputValue (field : FieldInfo (AnnotationTree Model Alias Other))
    (entries : JsonObject) : Option JsonValue :=
  field.checked.inputNames.findSome? fun name ↦ entries.lookup name

/-- `origin in {list, set, frozenset, Sequence}`. -/
def Origin.isSequence : Origin Other → Bool
  | .list | .set | .frozenset | .sequence => true
  | _ => false

/-- `origin in {dict, Mapping}`. -/
def Origin.isMapping : Origin Other → Bool
  | .dict | .mapping => true
  | _ => false

/-- The annotations and values the check goes on to from a generic alias. -/
def argumentParts (origin : Origin Other) (value : JsonValue) :
    List (AnnotationTree Model Alias Other) → List (AnnotationTree Model Alias Other × JsonValue)
  | [] => []
  | a :: rest =>
    if origin.isSequence then
      match value with
      | .list items => items.map fun item ↦ (a, item)
      | _ => []
    else
      match origin, value, rest with
      | .tuple, .list items, [.ellipsis] => items.map fun item ↦ (a, item)
      | .tuple, .list items, rest => (a :: rest).zip items
      | .dict, .dict entries, [b] | .mapping, .dict entries, [b] =>
        entries.map fun entry ↦ (b, entry.2)
      | _, value, rest => (a :: rest).map fun argument ↦ (argument, value)

/-- The annotations and values the check goes on to. -/
def checkedParts (env : Declarations Model Alias Other) :
    AnnotationTree Model Alias Other → JsonValue → List (AnnotationTree Model Alias Other × JsonValue)
  | .model m, .dict entries =>
    (env.modelFields m).filterMap fun field ↦
      (field.inputValue entries).map fun item ↦ (field.annotationTree, item)
  | .generic origin arguments, value => argumentParts origin value arguments
  | _, _ => []

theorem checkedParts_model {env : Declarations Model Alias Other} {m : Model} {value : JsonValue}
    {part : AnnotationTree Model Alias Other × JsonValue} :
    part ∈ checkedParts env (.model m) value ↔
      ∃ entries, value = .dict entries ∧ ∃ field ∈ env.modelFields m,
        field.inputValue entries = some part.2 ∧ part.1 = field.annotationTree := by
  constructor
  · intro hpart
    unfold checkedParts at hpart
    split at hpart
    · next m' entries hm =>
      obtain rfl := AnnotationTree.model.inj hm
      obtain ⟨field, hfield, hvalue⟩ := List.mem_filterMap.mp hpart
      obtain ⟨item, hitem, rfl⟩ := Option.map_eq_some_iff.mp hvalue
      exact ⟨entries, rfl, field, hfield, hitem, rfl⟩
    · next hm => cases hm
    · cases hpart
  · rintro ⟨entries, rfl, field, hfield, hvalue, htree⟩
    refine List.mem_filterMap.mpr ⟨field, hfield, Option.map_eq_some_iff.mpr ⟨part.2, hvalue, ?_⟩⟩
    rw [← htree]

/-! ### One step -/

variable {env : Declarations Model Alias Other}

theorem floatForSome_eq_any (value : ValueParts Model) (arguments : List (AnnotationForm Model)) :
    floatForSome env.checkedFields value arguments =
      arguments.any (floatForDecimal env.checkedFields value) := by
  induction arguments with
  | nil => rfl
  | cons argument arguments ih => rw [floatForSome, ih, List.any_cons]

theorem itemParts_eq_map (items : List JsonValue) :
    itemParts env.checkedFields items =
      items.map (containsJsonFloatForDecimal env.checkedFields) := by
  induction items with
  | nil => rfl
  | cons item items ih => rw [itemParts, ih, List.map_cons]

theorem entryParts_eq_map (entries : JsonObject) :
    entryParts env.checkedFields entries =
      entries.map fun entry ↦
        (entry.1, containsJsonFloatForDecimal env.checkedFields entry.2) := by
  induction entries with
  | nil => rfl
  | cons entry entries ih => rw [entryParts, ih, List.map_cons]

/-- What the check tells of a value. -/
def valueParts (env : Declarations Model Alias Other) : JsonValue → ValueParts Model
  | .float _ => .float
  | .list items => .sequence (items.map (containsJsonFloatForDecimal env.checkedFields))
  | .dict entries => .mapping (entries.map fun entry ↦
    (entry.1, containsJsonFloatForDecimal env.checkedFields entry.2))
  | .null | .bool _ | .int _ | .str _ => .other

theorem containsJsonFloatForDecimal_eq (value : JsonValue) :
    containsJsonFloatForDecimal env.checkedFields value =
      floatForDecimal env.checkedFields (valueParts env value) := by
  cases value with
  | list items => rw [containsJsonFloatForDecimal, itemParts_eq_map, valueParts]
  | dict entries => rw [containsJsonFloatForDecimal, entryParts_eq_map, valueParts]
  | _ => rfl

/-- The check goes on from an annotation and a value. -/
def anyPart (env : Declarations Model Alias Other)
    (parts : List (AnnotationTree Model Alias Other × JsonValue)) : Bool :=
  parts.any fun part ↦ containsJsonFloatForDecimal env.checkedFields part.2 part.1.form

theorem anyPart_same (value : JsonValue) (arguments : List (AnnotationTree Model Alias Other)) :
    anyPart env (arguments.map fun argument ↦ (argument, value)) =
      floatForSome env.checkedFields (valueParts env value) (AnnotationTree.forms arguments) := by
  rw [anyPart, List.any_map, floatForSome_eq_any, AnnotationTree.forms_eq_map, List.any_map]
  simp only [Function.comp_def, containsJsonFloatForDecimal_eq]

theorem anyPart_items (a : AnnotationTree Model Alias Other) (items : List JsonValue) :
    anyPart env (items.map fun item ↦ (a, item)) =
      (items.map (containsJsonFloatForDecimal env.checkedFields)).any (· a.form) := by
  rw [anyPart, List.any_map, List.any_map]
  rfl

theorem anyPart_zip (arguments : List (AnnotationTree Model Alias Other)) (items : List JsonValue) :
    anyPart env (arguments.zip items) =
      ((AnnotationTree.forms arguments).zip
        (items.map (containsJsonFloatForDecimal env.checkedFields))).any fun part ↦
          part.2 part.1 := by
  rw [anyPart, AnnotationTree.forms_eq_map, List.zip_map, List.any_map]
  rfl

theorem anyPart_entries (a : AnnotationTree Model Alias Other) (entries : JsonObject) :
    anyPart env (entries.map fun entry ↦ (a, entry.2)) =
      (entries.map fun entry ↦
        (entry.1, containsJsonFloatForDecimal env.checkedFields entry.2)).any fun entry ↦
          entry.2 a.form := by
  rw [anyPart, List.any_map, List.any_map]
  rfl

theorem anyPart_sequence {origin : Origin Other} (horigin : origin.isSequence = true)
    (value : JsonValue) (arguments : List (AnnotationTree Model Alias Other)) :
    anyPart env (argumentParts origin value arguments) =
      floatForDecimal env.checkedFields (valueParts env value)
        (.sequence (AnnotationTree.forms arguments)) := by
  rcases arguments with _ | ⟨a, rest⟩
  · cases value <;> rfl
  · rw [argumentParts.eq_def]
    dsimp only
    rw [if_pos horigin]
    cases value with
    | list items => exact anyPart_items a items
    | _ => rfl

theorem anyPart_tuple (value : JsonValue) (arguments : List (AnnotationTree Model Alias Other)) :
    anyPart env (argumentParts .tuple value arguments) =
      floatForDecimal env.checkedFields (valueParts env value)
        (.tuple (AnnotationTree.forms arguments)) := by
  rcases arguments with _ | ⟨a, _ | ⟨b, _ | ⟨c, rest⟩⟩⟩
  · cases value <;> rfl
  · cases value with
    | list items => exact anyPart_zip [a] items
    | _ => exact anyPart_same _ [a]
  · cases value with
    | list items =>
      cases b with
      | ellipsis => exact anyPart_items a items
      | generic origin arguments =>
        cases origin <;> exact anyPart_zip [a, .generic _ arguments] items
      | _ => exact anyPart_zip [a, _] items
    | _ => exact anyPart_same _ [a, b]
  · cases value with
    | list items =>
      cases b with
      | generic origin arguments =>
        cases origin <;> exact anyPart_zip (a :: .generic _ arguments :: c :: rest) items
      | _ => exact anyPart_zip (a :: _ :: c :: rest) items
    | _ => exact anyPart_same _ (a :: b :: c :: rest)

theorem anyPart_mapping {origin : Origin Other} (horigin : origin = .dict ∨ origin = .mapping)
    (value : JsonValue) (arguments : List (AnnotationTree Model Alias Other)) :
    anyPart env (argumentParts origin value arguments) =
      floatForDecimal env.checkedFields (valueParts env value)
        (.mapping (AnnotationTree.forms arguments)) := by
  rcases arguments with _ | ⟨a, _ | ⟨b, _ | ⟨c, rest⟩⟩⟩
  · rcases horigin with rfl | rfl <;> cases value <;> rfl
  · rcases horigin with rfl | rfl <;> cases value <;> exact anyPart_same _ [a]
  · cases value with
    | dict entries => rcases horigin with rfl | rfl <;> exact anyPart_entries b entries
    | _ => rcases horigin with rfl | rfl <;> exact anyPart_same _ [a, b]
  · rcases horigin with rfl | rfl <;> cases value <;> exact anyPart_same _ (a :: b :: c :: rest)

theorem anyPart_generic (origin : Origin Other) (value : JsonValue)
    (arguments : List (AnnotationTree Model Alias Other)) :
    anyPart env (argumentParts origin value arguments) =
      containsJsonFloatForDecimal env.checkedFields value
        (AnnotationTree.generic origin arguments).form := by
  rw [containsJsonFloatForDecimal_eq]
  cases origin with
  | list | set | frozenset | sequence => exact anyPart_sequence rfl value arguments
  | tuple => exact anyPart_tuple value arguments
  | dict => exact anyPart_mapping (Or.inl rfl) value arguments
  | mapping => exact anyPart_mapping (Or.inr rfl) value arguments
  | _ =>
    rcases arguments with _ | ⟨a, rest⟩
    · cases value <;> rfl
    · exact anyPart_same value (a :: rest)

theorem lookup_map_snd {β γ : Type} (f : β → γ) (entries : List (PyStr × β)) (name : PyStr) :
    (entries.map fun entry ↦ (entry.1, f entry.2)).lookup name = (entries.lookup name).map f := by
  induction entries with
  | nil => rfl
  | cons entry entries ih =>
    rw [List.map_cons, List.lookup_cons, List.lookup_cons, ih]
    split <;> rfl

theorem containsJsonFloatForDecimal_model {m : Model} {value : JsonValue} :
    containsJsonFloatForDecimal env.checkedFields value
        (.model m : AnnotationTree Model Alias Other).form = true ↔
      ∃ entries, value = .dict entries ∧ ∃ field ∈ env.modelFields m, ∃ item,
        field.inputValue entries = some item ∧
          containsJsonFloatForDecimal env.checkedFields item field.annotationTree.form = true := by
  rw [containsJsonFloatForDecimal_eq, AnnotationTree.form]
  cases value with
  | dict entries =>
    have hvalue : ∀ field : FieldInfo (AnnotationTree Model Alias Other),
        (field.checked.inputNames.findSome? fun name ↦ (entries.map fun entry ↦
          (entry.1, containsJsonFloatForDecimal env.checkedFields entry.2)).lookup name) =
          (field.inputValue entries).map (containsJsonFloatForDecimal env.checkedFields) := by
      intro field
      simp only [lookup_map_snd]
      exact (List.map_findSome? ..).symm
    rw [valueParts, floatForDecimal, Declarations.checkedFields, List.any_map, List.any_eq_true]
    constructor
    · rintro ⟨field, hfield, hcontains⟩
      rw [Function.comp_apply, hvalue, Option.map_map] at hcontains
      rcases hitem : field.inputValue entries with _ | item
      · simp [hitem] at hcontains
      · rw [hitem] at hcontains
        exact ⟨entries, rfl, field, hfield, item, hitem, hcontains⟩
    · rintro ⟨_, hentries, field, hfield, item, hitem, hcontains⟩
      obtain rfl := JsonValue.dict.inj hentries
      refine ⟨field, hfield, ?_⟩
      rw [Function.comp_apply, hvalue, hitem]
      exact hcontains
  | _ =>
    constructor
    · intro hcontains
      cases hcontains
    · rintro ⟨entries, hentries, -⟩
      cases hentries

/-- The check looks at one annotation and one value, and goes on to their parts. -/
theorem containsJsonFloatForDecimal_eq_true {annotationTree : AnnotationTree Model Alias Other}
    {value : JsonValue} :
    containsJsonFloatForDecimal env.checkedFields value annotationTree.form = true ↔
      (annotationTree = .decimal ∧ ∃ bits, value = .float bits) ∨
        ∃ part ∈ checkedParts env annotationTree value,
          containsJsonFloatForDecimal env.checkedFields part.2 part.1.form = true := by
  cases annotationTree with
  | generic origin arguments =>
    rw [← anyPart_generic, anyPart, List.any_eq_true]
    simp [checkedParts]
  | model m =>
    rw [containsJsonFloatForDecimal_model]
    simp only [reduceCtorEq, false_and, false_or, checkedParts_model]
    constructor
    · rintro ⟨entries, rfl, field, hfield, item, hitem, hcontains⟩
      exact ⟨(field.annotationTree, item), ⟨entries, rfl, field, hfield, hitem, rfl⟩, hcontains⟩
    · rintro ⟨⟨a, item⟩, ⟨entries, rfl, field, hfield, hitem, rfl⟩, hcontains⟩
      exact ⟨entries, rfl, field, hfield, item, hitem, hcontains⟩
  | decimal => cases value <;> simp [AnnotationTree.form, checkedParts, containsJsonFloatForDecimal,
      floatForDecimal]
  | _ => cases value <;> simp [AnnotationTree.form, checkedParts, containsJsonFloatForDecimal,
      floatForDecimal, floatForSome]

/-! ### Everywhere it looks -/

/-- A value is taken apart no further than to its items and its entries. -/
inductive PartOf : JsonValue → JsonValue → Prop
  | same (value : JsonValue) : PartOf value value
  | item {items : List JsonValue} {item : JsonValue} (h : item ∈ items) : PartOf item (.list items)
  | entry {entries : JsonObject} {entry : PyStr × JsonValue} (h : entry ∈ entries) :
    PartOf entry.2 (.dict entries)

theorem sizeOf_partOf {item value : JsonValue} (h : PartOf item value) :
    sizeOf item ≤ sizeOf value := by
  cases h with
  | same value => exact le_rfl
  | item h =>
    have := List.sizeOf_lt_of_mem h
    rw [JsonValue.list.sizeOf_spec]
    omega
  | @entry entries entry h =>
    have := List.sizeOf_lt_of_mem h
    have hentry : sizeOf entry = 1 + sizeOf entry.1 + sizeOf entry.2 := rfl
    rw [JsonValue.dict.sizeOf_spec]
    omega

theorem argumentParts_mem {origin : Origin Other} {value : JsonValue}
    {arguments : List (AnnotationTree Model Alias Other)}
    {part : AnnotationTree Model Alias Other × JsonValue}
    (hpart : part ∈ argumentParts origin value arguments) :
    part.1 ∈ arguments ∧ PartOf part.2 value := by
  unfold argumentParts at hpart
  split at hpart
  · cases hpart
  · next a rest =>
    split_ifs at hpart
    · split at hpart
      · obtain ⟨item, hitem, rfl⟩ := List.mem_map.mp hpart
        exact ⟨.head _, .item hitem⟩
      · cases hpart
    · split at hpart
      · obtain ⟨item, hitem, rfl⟩ := List.mem_map.mp hpart
        exact ⟨.head _, .item hitem⟩
      · obtain ⟨hargument, hitem⟩ := List.of_mem_zip hpart
        exact ⟨hargument, .item hitem⟩
      · obtain ⟨entry, hentry, rfl⟩ := List.mem_map.mp hpart
        exact ⟨.tail _ (.head _), .entry hentry⟩
      · obtain ⟨entry, hentry, rfl⟩ := List.mem_map.mp hpart
        exact ⟨.tail _ (.head _), .entry hentry⟩
      · obtain ⟨argument, hargument, rfl⟩ := List.mem_map.mp hpart
        exact ⟨hargument, .same _⟩

theorem inputValue_mem {field : FieldInfo (AnnotationTree Model Alias Other)} {entries : JsonObject}
    {item : JsonValue} (h : field.inputValue entries = some item) :
    ∃ name, (name, item) ∈ entries := by
  rw [FieldInfo.inputValue] at h
  obtain ⟨name, -, hlookup⟩ := List.exists_of_findSome?_eq_some h
  exact ⟨name, mem_of_lookup hlookup⟩

/-- The check goes on to a smaller value, or to an argument with no larger a value. -/
theorem checkedParts_decreasing {annotationTree : AnnotationTree Model Alias Other} {value : JsonValue}
    {part : AnnotationTree Model Alias Other × JsonValue}
    (hpart : part ∈ checkedParts env annotationTree value) :
    sizeOf part.2 < sizeOf value ∨
      sizeOf part.2 = sizeOf value ∧ sizeOf part.1 < sizeOf annotationTree := by
  cases annotationTree with
  | model m =>
    obtain ⟨entries, rfl, field, -, hvalue, -⟩ := checkedParts_model.mp hpart
    obtain ⟨name, hmem⟩ := inputValue_mem hvalue
    have := List.sizeOf_lt_of_mem hmem
    have hentry : sizeOf (name, part.2) = 1 + sizeOf name + sizeOf part.2 := rfl
    rw [JsonValue.dict.sizeOf_spec]
    omega
  | generic origin arguments =>
    obtain ⟨hargument, hpartOf⟩ := argumentParts_mem hpart
    have hvalue := sizeOf_partOf hpartOf
    have := List.sizeOf_lt_of_mem hargument
    rw [AnnotationTree.generic.sizeOf_spec]
    omega
  | _ => cases hpart

/-- The check calls itself. -/
def Checks (env : Declarations Model Alias Other)
    (a b : AnnotationTree Model Alias Other × JsonValue) : Prop := b ∈ checkedParts env a.1 a.2

/-- A float stands at a `Decimal` where the check looks. -/
def Meets (env : Declarations Model Alias Other) (annotationTree : AnnotationTree Model Alias Other)
    (value : JsonValue) : Prop :=
  ∃ bits, Relation.ReflTransGen (Checks env) (annotationTree, value) (.decimal, .float bits)

theorem Meets.of_part {annotationTree a : AnnotationTree Model Alias Other} {value item : JsonValue}
    (hpart : (a, item) ∈ checkedParts env annotationTree value) (h : Meets env a item) :
    Meets env annotationTree value := by
  obtain ⟨bits, hreaches⟩ := h
  exact ⟨bits, .head hpart hreaches⟩

/-- **The check answers True just where a float stands at a `Decimal` it looks at.** -/
theorem containsJsonFloatForDecimal_iff_meets {annotationTree : AnnotationTree Model Alias Other}
    {value : JsonValue} :
    containsJsonFloatForDecimal env.checkedFields value annotationTree.form = true ↔
      Meets env annotationTree value := by
  constructor
  · intro h
    induction hvalue : sizeOf value using Nat.strong_induction_on
      generalizing annotationTree value with
    | _ bound ihValue =>
    induction htree : sizeOf annotationTree using Nat.strong_induction_on
      generalizing annotationTree value with
    | _ size ihTree =>
    rcases containsJsonFloatForDecimal_eq_true.mp h with ⟨rfl, bits, rfl⟩ | ⟨part, hpart, h⟩
    · exact ⟨bits, .refl⟩
    · rcases checkedParts_decreasing hpart with hlt | ⟨heq, hlt⟩
      · exact .of_part hpart (ihValue _ (hvalue ▸ hlt) h rfl)
      · exact .of_part hpart (ihTree _ (htree ▸ hlt) h (heq.trans hvalue) rfl)
  · rintro ⟨bits, hreaches⟩
    generalize hstart : (annotationTree, value) = start at hreaches
    induction hreaches using Relation.ReflTransGen.head_induction_on
      generalizing annotationTree value with
    | refl =>
      obtain ⟨rfl, rfl⟩ := Prod.mk.inj hstart
      exact containsJsonFloatForDecimal_eq_true.mpr (Or.inl ⟨rfl, bits, rfl⟩)
    | @head start part hpart _ ih =>
      subst hstart
      exact containsJsonFloatForDecimal_eq_true.mpr (Or.inr ⟨part, hpart, ih rfl⟩)

/-! ## Validation -/

/-- The settings of a model that decide what it reads of an object. -/
structure ValidationConfig where
  validateByAlias : Bool := true
  validateByName : Bool := false
  forbidsExtra : Bool := true

/-- One step of an `AliasPath`; a negative index counts from the end. -/
def PathItem.step : PathItem → JsonValue → Option JsonValue
  | .key name, .dict entries => entries.lookup name
  | .index (.ofNat n), .list items => items[n]?
  | .index (.negSucc n), .list items => items.reverse[n]?
  | _, _ => none

def readPath (entries : JsonObject) (path : PyStr × List PathItem) : Option JsonValue := do
  let value ← entries.lookup path.1
  path.2.foldlM (fun value item ↦ item.step value) value

def ValidationAlias.paths : ValidationAlias → List (PyStr × List PathItem)
  | .name key => [(key, [])]
  | .path first rest => [(first, rest)]
  | .choices paths => paths

/-- The places at which a field is looked for, in order. -/
def FieldInfo.readPaths {A : Type} (config : ValidationConfig) (field : FieldInfo A) :
    List (PyStr × List PathItem) :=
  match field.validationAlias with
  | none => [(field.name, [])]
  | some validationAlias =>
    (if config.validateByAlias then validationAlias.paths else []) ++
      if config.validateByName then [(field.name, [])] else []

def FieldInfo.read {A : Type} (config : ValidationConfig) (field : FieldInfo A)
    (entries : JsonObject) : Option JsonValue :=
  (field.readPaths config).findSome? (readPath entries)

/-- An entry that no field reads is refused where extra values are forbidden. -/
def KeysAllowed {A : Type} (config : ValidationConfig) (fields : List (FieldInfo A))
    (entries : JsonObject) : Prop :=
  config.forbidsExtra = true → ∀ entry ∈ entries,
    ∃ field ∈ fields, entry.1 ∈ (field.readPaths config).map Prod.fst

section Validation

variable (env : Declarations Model Alias Other) (config : Model → ValidationConfig)
  (decimalText : PyStr → Prop) (otherAccepts : Other → JsonValue → Prop)

/-- The validator of the annotation accepts the JSON value. -/
inductive Accepts : AnnotationTree Model Alias Other → JsonValue → Prop
  | decimalInt (n : ℤ) : Accepts .decimal (.int n)
  | decimalFloat (bits : BitVec 64) : Accepts .decimal (.float bits)
  | decimalText {text : PyStr} (h : decimalText text) : Accepts .decimal (.str text)
  | float (bits : BitVec 64) : Accepts .float (.float bits)
  | floatInt (n : ℤ) : Accepts .float (.int n)
  | jsonValue (v : JsonValue) : Accepts .jsonValue v
  | other {t : Other} {v : JsonValue} (h : otherAccepts t v) : Accepts (.other t) v
  | typeAlias {a : Alias} {v : JsonValue} (h : Accepts (env.target a) v) : Accepts (.typeAlias a) v
  | root {m : Model} {a : AnnotationTree Model Alias Other} {v : JsonValue}
    (hclass : env.modelClass m = .root a) (h : Accepts a v) : Accepts (.model m) v
  | fields {m : Model} {fields : List (FieldInfo (AnnotationTree Model Alias Other))}
    {entries : JsonObject} (hclass : env.modelClass m = .fields fields)
    (hkeys : KeysAllowed (config m) fields entries)
    (hrequired : ∀ field ∈ fields, field.isRequired = true → field.read (config m) entries ≠ none)
    (h : ∀ field ∈ fields, ∀ v, field.read (config m) entries = some v →
      Accepts field.annotationTree v) : Accepts (.model m) (.dict entries)
  | union {arguments : List (AnnotationTree Model Alias Other)} {a : AnnotationTree Model Alias Other}
    {v : JsonValue} (hmem : a ∈ arguments) (h : Accepts a v) : Accepts (.generic .union arguments) v
  | annotated {a : AnnotationTree Model Alias Other} {metadata : List (AnnotationTree Model Alias Other)}
    {v : JsonValue} (h : Accepts a v) : Accepts (.generic .annotated (a :: metadata)) v
  | literal {arguments : List (AnnotationTree Model Alias Other)} {constant : Constant}
    (hmem : .value constant ∈ arguments) : Accepts (.generic .literal arguments) constant.json
  | items {origin : Origin Other} {a : AnnotationTree Model Alias Other} {items : List JsonValue}
    (horigin : origin.isSequence = true ∨ origin = .array) (h : ∀ item ∈ items, Accepts a item) :
    Accepts (.generic origin [a]) (.list items)
  | variadic {a : AnnotationTree Model Alias Other} {items : List JsonValue}
    (h : ∀ item ∈ items, Accepts a item) : Accepts (.generic .tuple [a, .ellipsis]) (.list items)
  | tuple {arguments : List (AnnotationTree Model Alias Other)} {items : List JsonValue}
    (hellipsis : ∀ a, arguments ≠ [a, .ellipsis]) (hlength : items.length = arguments.length)
    (h : ∀ pair ∈ arguments.zip items, Accepts pair.1 pair.2) :
    Accepts (.generic .tuple arguments) (.list items)
  | mapping {origin : Origin Other} {key a : AnnotationTree Model Alias Other} {entries : JsonObject}
    (horigin : origin.isMapping = true ∨ origin = .object)
    (hkeys : ∀ entry ∈ entries, Accepts key (.str entry.1))
    (h : ∀ entry ∈ entries, Accepts a entry.2) : Accepts (.generic origin [key, a]) (.dict entries)
  | generic {t : Other} {arguments : List (AnnotationTree Model Alias Other)} {v : JsonValue}
    (h : otherAccepts t v) : Accepts (.generic (.other t) arguments) v

/-- Validating a value that is accepted builds a `Decimal` from a JSON float; the flag says whether
the check follows every step on the way to it. -/
inductive BuildsFromFloat : AnnotationTree Model Alias Other → JsonValue → Bool → Prop
  | decimal (bits : BitVec 64) : BuildsFromFloat .decimal (.float bits) true
  | typeAlias {a : Alias} {v : JsonValue} {followed : Bool}
    (h : BuildsFromFloat (env.target a) v followed) : BuildsFromFloat (.typeAlias a) v false
  | root {m : Model} {a : AnnotationTree Model Alias Other} {v : JsonValue} {followed : Bool}
    (hclass : env.modelClass m = .root a) (h : BuildsFromFloat a v followed) :
    BuildsFromFloat (.model m) v false
  | field {m : Model} {fields : List (FieldInfo (AnnotationTree Model Alias Other))}
    {entries : JsonObject} {field : FieldInfo (AnnotationTree Model Alias Other)} {v : JsonValue}
    {followed : Bool} (hclass : env.modelClass m = .fields fields)
    (haccepts : Accepts env config decimalText otherAccepts (.model m) (.dict entries))
    (hmem : field ∈ fields) (hread : field.read (config m) entries = some v)
    (h : BuildsFromFloat field.annotationTree v followed) :
    BuildsFromFloat (.model m) (.dict entries)
      (followed && decide (field.inputValue entries = some v))
  | union {arguments : List (AnnotationTree Model Alias Other)} {a : AnnotationTree Model Alias Other}
    {v : JsonValue} {followed : Bool} (hmem : a ∈ arguments) (h : BuildsFromFloat a v followed) :
    BuildsFromFloat (.generic .union arguments) v followed
  | annotated {a : AnnotationTree Model Alias Other} {metadata : List (AnnotationTree Model Alias Other)}
    {v : JsonValue} {followed : Bool} (h : BuildsFromFloat a v followed) :
    BuildsFromFloat (.generic .annotated (a :: metadata)) v followed
  | items {origin : Origin Other} {a : AnnotationTree Model Alias Other} {items : List JsonValue}
    {item : JsonValue} {followed : Bool} (horigin : origin.isSequence = true ∨ origin = .array)
    (haccepts : ∀ item ∈ items, Accepts env config decimalText otherAccepts a item)
    (hitem : item ∈ items) (h : BuildsFromFloat a item followed) :
    BuildsFromFloat (.generic origin [a]) (.list items) (followed && origin.isSequence)
  | variadic {a : AnnotationTree Model Alias Other} {items : List JsonValue} {item : JsonValue}
    {followed : Bool}
    (haccepts : ∀ item ∈ items, Accepts env config decimalText otherAccepts a item)
    (hitem : item ∈ items) (h : BuildsFromFloat a item followed) :
    BuildsFromFloat (.generic .tuple [a, .ellipsis]) (.list items) followed
  | tuple {arguments : List (AnnotationTree Model Alias Other)} {items : List JsonValue}
    {pair : AnnotationTree Model Alias Other × JsonValue} {followed : Bool}
    (haccepts : Accepts env config decimalText otherAccepts (.generic .tuple arguments)
      (.list items))
    (hellipsis : ∀ a, arguments ≠ [a, .ellipsis]) (hpair : pair ∈ arguments.zip items)
    (h : BuildsFromFloat pair.1 pair.2 followed) :
    BuildsFromFloat (.generic .tuple arguments) (.list items) followed
  | mapping {origin : Origin Other} {key a : AnnotationTree Model Alias Other} {entries : JsonObject}
    {entry : PyStr × JsonValue} {followed : Bool}
    (horigin : origin.isMapping = true ∨ origin = .object)
    (haccepts : Accepts env config decimalText otherAccepts (.generic origin [key, a])
      (.dict entries))
    (hentry : entry ∈ entries) (h : BuildsFromFloat a entry.2 followed) :
    BuildsFromFloat (.generic origin [key, a]) (.dict entries) (followed && origin.isMapping)

end Validation

section Correctness

variable {config : Model → ValidationConfig} {decimalText : PyStr → Prop}
  {otherAccepts : Other → JsonValue → Prop}

theorem checkedParts_generic {origin : Origin Other}
    {arguments : List (AnnotationTree Model Alias Other)} {value : JsonValue} :
    checkedParts env (.generic origin arguments) value = argumentParts origin value arguments := rfl

theorem argumentParts_union {arguments : List (AnnotationTree Model Alias Other)} {value : JsonValue} :
    argumentParts .union value arguments = arguments.map fun argument ↦ (argument, value) := by
  cases arguments <;> rfl

theorem argumentParts_annotated {arguments : List (AnnotationTree Model Alias Other)}
    {value : JsonValue} :
    argumentParts .annotated value arguments = arguments.map fun argument ↦ (argument, value) := by
  cases arguments <;> rfl

theorem argumentParts_sequence {origin : Origin Other} (horigin : origin.isSequence = true)
    {a : AnnotationTree Model Alias Other} {items : List JsonValue} :
    argumentParts origin (.list items) [a] = items.map fun item ↦ (a, item) := by
  rw [argumentParts.eq_def]
  exact if_pos horigin

theorem argumentParts_mapping {origin : Origin Other} (horigin : origin.isMapping = true)
    {key a : AnnotationTree Model Alias Other} {entries : JsonObject} :
    argumentParts origin (.dict entries) [key, a] = entries.map fun entry ↦ (a, entry.2) := by
  cases origin with
  | dict | mapping => rfl
  | _ => cases horigin

theorem argumentParts_tuple {arguments : List (AnnotationTree Model Alias Other)}
    {items : List JsonValue} (hellipsis : ∀ a, arguments ≠ [a, .ellipsis]) :
    argumentParts .tuple (.list items) arguments = arguments.zip items := by
  unfold argumentParts
  split
  · rfl
  · next a rest =>
    rw [if_neg (by simp [Origin.isSequence])]
    rcases rest with _ | ⟨b, _ | ⟨c, rest⟩⟩
    · rfl
    · cases b with
      | ellipsis => exact absurd rfl (hellipsis a)
      | _ => rfl
    · cases b <;> rfl

/-- A Decimal that is built along steps the check follows stands where the check looks. -/
theorem BuildsFromFloat.meets {annotationTree : AnnotationTree Model Alias Other} {value : JsonValue}
    {followed : Bool}
    (h : BuildsFromFloat env config decimalText otherAccepts annotationTree value followed)
    (hfollowed : followed = true) : Meets env annotationTree value := by
  induction h with
  | decimal bits => exact ⟨bits, .refl⟩
  | typeAlias | root => cases hfollowed
  | @field m fields entries field v followed hclass _ hmem hread h ih =>
    rw [Bool.and_eq_true, decide_eq_true_eq] at hfollowed
    refine .of_part (checkedParts_model.mpr ?_) (ih hfollowed.1)
    refine ⟨entries, rfl, field, ?_, hfollowed.2, rfl⟩
    rwa [Declarations.modelFields, hclass]
  | @union arguments a v followed hmem h ih =>
    refine .of_part ?_ (ih hfollowed)
    rw [checkedParts_generic, argumentParts_union]
    exact List.mem_map_of_mem hmem
  | @annotated a metadata v followed h ih =>
    refine .of_part ?_ (ih hfollowed)
    rw [checkedParts_generic, argumentParts_annotated]
    exact List.mem_map_of_mem (.head _)
  | @items origin a items item followed _ _ hitem h ih =>
    rw [Bool.and_eq_true] at hfollowed
    refine .of_part ?_ (ih hfollowed.1)
    rw [checkedParts_generic, argumentParts_sequence hfollowed.2]
    exact List.mem_map_of_mem hitem
  | variadic _ hitem h ih =>
    exact .of_part (List.mem_map_of_mem hitem) (ih hfollowed)
  | @tuple arguments items pair followed _ hellipsis hpair h ih =>
    refine .of_part ?_ (ih hfollowed)
    rw [checkedParts_generic, argumentParts_tuple hellipsis]
    exact hpair
  | @mapping origin key a entries entry followed _ _ hentry h ih =>
    rw [Bool.and_eq_true] at hfollowed
    refine .of_part ?_ (ih hfollowed.1)
    rw [checkedParts_generic, argumentParts_mapping hfollowed.2]
    exact List.mem_map_of_mem (f := fun entry : PyStr × JsonValue ↦ (a, entry.2)) hentry

variable (env config decimalText otherAccepts)

end Correctness

/-- A command with the one field `amount: RootModel[Decimal]`. -/
def rootedAmount : Declarations Bool Empty Empty where
  modelClass
    | true => .fields [{ name := PyStr.ofString "amount", annotationTree := .model false }]
    | false => .root .decimal
  target a := nomatch a

end ThrevoActions
