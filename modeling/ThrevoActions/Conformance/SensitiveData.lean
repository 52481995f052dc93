import ThrevoActions.Json.Utf8
import ThrevoActions.Search.DepthFirst

/-!
# Locating seeded secrets in an object graph

`find_sensitive_data` walks whatever it is given: models, exceptions, dataclasses, mappings,
sequences and sets, each once, by its identity. Texts are searched for the seeded literals, string
keys and field names for the forbidden fragments.

An object may be of several kinds at once (a dataclass that extends `dict`, for example). The
function asks for one kind after another and returns at the first, so an object is inspected as one
kind only. The interpreter's recursion limit is left out.
-/

namespace ThrevoActions

/-! ## Objects -/

/-- What an object is, as one of the kinds the function asks for, and what it holds as that. -/
inductive PyKind (Ident : Type)
  /-- A `str`, or the text of a `bytes`. -/
  | text (s : PyStr)
  /-- `None`, or a `bool`, an `int` or a `float`. -/
  | scalar
  | model (fields : List (PyStr × Ident))
  /-- An exception with its `args` and the dictionary of its attributes. -/
  | exception (args attributes : Ident)
  | dataclass (fields : List (PyStr × Ident))
  | mapping (items : List (Ident × Ident))
  | sequence (items : List Ident)
  | set (items : List Ident)
deriving DecidableEq

/-- An object, with what it holds as each of the kinds it is of. -/
structure PyObject (Ident : Type) where
  str : Option PyStr := none
  bytes : Option Bytes := none
  isScalar : Bool := false
  model : Option (List (PyStr × Ident)) := none
  exception : Option (Ident × Ident) := none
  dataclass : Option (List (PyStr × Ident)) := none
  mapping : Option (List (Ident × Ident)) := none
  sequence : Option (List Ident) := none
  set : Option (List Ident) := none

/-! ## Texts -/

/-- The byte may follow the leading byte of a longer form. -/
def allowsSecond (b₀ b₁ : UInt8) : Bool :=
  if b₀.toNat = 0xe0 then decide (0xa0 ≤ b₁.toNat ∧ b₁.toNat < 0xc0)
  else if b₀.toNat = 0xed then decide (0x80 ≤ b₁.toNat ∧ b₁.toNat < 0xa0)
  else if b₀.toNat = 0xf0 then decide (0x90 ≤ b₁.toNat ∧ b₁.toNat < 0xc0)
  else if b₀.toNat = 0xf4 then decide (0x80 ≤ b₁.toNat ∧ b₁.toNat < 0x90)
  else decide (0x80 ≤ b₁.toNat ∧ b₁.toNat < 0xc0)

/-- How many bytes are to follow a leading byte. -/
def tailsAfter (b₀ : UInt8) : ℕ :=
  if 0xc2 ≤ b₀.toNat ∧ b₀.toNat < 0xe0 then 1
  else if 0xe0 ≤ b₀.toNat ∧ b₀.toNat < 0xf0 then 2
  else if 0xf0 ≤ b₀.toNat ∧ b₀.toNat < 0xf5 then 3
  else 0

/-- The bytes that belong to the leading byte, as far as they are well formed. -/
def tailsOf (b₀ : UInt8) : Bytes → Bytes
  | [] => []
  | b₁ :: rest =>
    if tailsAfter b₀ ≠ 0 ∧ allowsSecond b₀ b₁ = true then
      b₁ :: (rest.take (tailsAfter b₀ - 1)).takeWhile fun b ↦ (tailBits? b).isSome
    else []

/-- The text of the bytes, of at most `fuel` code points; a part that is not well formed is read as
U+FFFD. -/
def decodeReplaceUpto : ℕ → Bytes → PyStr
  | 0, _ => []
  | _, [] => []
  | fuel + 1, b₀ :: rest =>
    let c := match decodeUtf8Char (b₀ :: tailsOf b₀ rest) with
      | some (c, []) => c
      | _ => 0xfffd
    c :: decodeReplaceUpto fuel (rest.drop (tailsOf b₀ rest).length)

/-- `data.decode("utf-8", errors="replace")`. -/
def decodeReplace (data : Bytes) : PyStr := decodeReplaceUpto data.length data

/-! ## The function -/

section Inspection

variable {Ident : Type}

/-- The kinds of an object, in the order in which `inspect_value` asks for them. -/
def PyObject.kinds (o : PyObject Ident) : List (PyKind Ident) :=
  (o.str.map .text).toList ++ (o.bytes.map fun data ↦ .text (decodeReplace data)).toList ++
    (if o.isScalar then [.scalar] else []) ++ (o.model.map .model).toList ++
    (o.exception.map fun e ↦ .exception e.1 e.2).toList ++ (o.dataclass.map .dataclass).toList ++
    (o.mapping.map .mapping).toList ++ (o.sequence.map .sequence).toList ++
    (o.set.map .set).toList

/-- What `inspect_value` takes an object for: it returns at the first kind that fits. -/
def PyObject.inspectedAs (o : PyObject Ident) : Option (PyKind Ident) := o.kinds.head?

/-- A call of one of the two inner functions; `inspect_key` is given a field name or an object. -/
inductive Inspection (Ident : Type)
  | value (current : Ident)
  | name (field : PyStr)
  | key (key : Ident)

def fieldPath (name path : PyStr) : PyStr := path ++ PyStr.ofString "." ++ name

def indexPath (index : ℕ) (path : PyStr) : PyStr :=
  path ++ PyStr.ofString "[" ++ PyStr.ofString (toString index) ++ PyStr.ofString "]"

def inspectFields (fields : List (PyStr × Ident)) : List (Inspection Ident × (PyStr → PyStr)) :=
  fields.flatMap fun field ↦
    [(.name field.1, fieldPath field.1), (.value field.2, fieldPath field.1)]

/-- Texts and scalars are looked at each time they are met; they hold nothing. -/
def PyKind.isLeaf : PyKind Ident → Bool
  | .text _ | .scalar => true
  | _ => false

/-- The calls `inspect_value` makes for a kind, in order, with the step of the path to each. -/
def PyKind.inspections : PyKind Ident → List (Inspection Ident × (PyStr → PyStr))
  | .text _ | .scalar => []
  | .model fields | .dataclass fields => inspectFields fields
  | .exception args attributes =>
    [(.value args, fieldPath (PyStr.ofString "args")),
      (.value attributes, fieldPath (PyStr.ofString "attributes"))]
  | .mapping items => items.zipIdx.flatMap fun entry ↦
    [(.key entry.1.1, fun path ↦ fieldPath (PyStr.ofString "key") (indexPath entry.2 path)),
      (.value entry.1.1, fun path ↦ fieldPath (PyStr.ofString "key") (indexPath entry.2 path)),
      (.value entry.1.2, fun path ↦ fieldPath (PyStr.ofString "value") (indexPath entry.2 path))]
  | .sequence items => items.zipIdx.map fun entry ↦ (.value entry.1, indexPath entry.2)
  | .set items => items.map fun item ↦ (.value item, (· ++ PyStr.ofString "[set-item]"))

end Inspection

inductive LeakageKind
  | literal
  | key
deriving DecidableEq

def LeakageKind.text : LeakageKind → PyStr
  | .literal => PyStr.ofString "literal"
  | .key => PyStr.ofString "key"

structure LeakageFinding where
  path : PyStr
  label : PyStr
  kind : LeakageKind
deriving DecidableEq

/-- Findings are sorted by path, then by label, then by kind. -/
def LeakageFinding.le (a b : LeakageFinding) : Bool :=
  decide (a.path < b.path ∨ a.path = b.path ∧ (a.label < b.label ∨
    a.label = b.label ∧ a.kind.text ≤ b.kind.text))

section FindSensitiveData

variable {Ident : Type} (heap : Ident → PyObject Ident) (casefold : PyStr → PyStr)
  (forbiddenLiterals : List (PyStr × PyStr)) (forbiddenKeyFragments : List PyStr)

/-- The literals found in a text. -/
def literalFindings (text : PyStr) : List (PyStr → LeakageFinding) :=
  (forbiddenLiterals.filter fun entry ↦ entry.2 ≠ [] ∧ entry.2 <:+: text).map
    fun entry path ↦ ⟨path, entry.1, .literal⟩

/-- `inspect_key`: the fragments found in a name, both without case. -/
def keyFindings (name : PyStr) : List (PyStr → LeakageFinding) :=
  ((forbiddenKeyFragments.map casefold).filter (· <:+: casefold name)).map
    fun fragment path ↦ ⟨path, PyStr.ofString "key:" ++ fragment, .key⟩

/-- The recursion of `inspect_value`. Texts and scalars are not entered into the visited set. -/
def inspection : DepthFirst.Search (Inspection Ident) Ident PyStr LeakageFinding where
  mark
    | .value current =>
      if (heap current).inspectedAs.any PyKind.isLeaf then none else some current
    | .name _ | .key _ => none
  found
    | .value current =>
      match (heap current).inspectedAs with
      | some (.text text) => literalFindings forbiddenLiterals text
      | _ => []
    | .name field => keyFindings casefold forbiddenKeyFragments field
    | .key key =>
      match (heap key).str with
      | some name => keyFindings casefold forbiddenKeyFragments name
      | none => []
  next
    | .value current =>
      match (heap current).inspectedAs with
      | some kind => kind.inspections
      | none => []
    | .name _ | .key _ => []
  mark_inj := by
    have hvalue : ∀ {call : Inspection Ident} {m : Ident}, (match call with
        | .value current =>
          if (heap current).inspectedAs.any PyKind.isLeaf then none else some current
        | .name _ | .key _ => none) = some m → call = .value m := by
      rintro (current | _ | _) m hmark
      · dsimp only at hmark
        split_ifs at hmark
        rw [Option.some.inj hmark]
      · cases hmark
      · cases hmark
    intro a b m ha hb
    rw [hvalue ha, hvalue hb]
  exists_rank := by
    refine ⟨fun _ ↦ 0, ?_⟩
    rintro (current | _ | _) hmark child hchild
    · dsimp only at hmark hchild
      rcases hkind : (heap current).inspectedAs with _ | kind
      · simp [hkind] at hmark
      · rw [hkind] at hmark hchild
        cases kind <;> simp [PyKind.isLeaf, PyKind.inspections] at hmark hchild
    · cases hchild
    · cases hchild

/-- `find_sensitive_data`, with a bound on the depth of its recursion. -/
def findSensitiveData [DecidableEq Ident] (fuel : ℕ) (value : Ident) :
    Option (List LeakageFinding) :=
  ((inspection heap casefold forbiddenLiterals forbiddenKeyFragments).run fuel (.value value)
    (PyStr.ofString "$")).map fun findings ↦ findings.mergeSort LeakageFinding.le

end FindSensitiveData

/-! ## What is sensitive -/

section Sensitive

variable {Ident : Type}

/-- As a thing of this kind, an object holds the other. -/
inductive PyKind.Holds : PyKind Ident → Ident → Prop
  | modelField {fields : List (PyStr × Ident)} {name : PyStr} {value : Ident}
    (h : (name, value) ∈ fields) : Holds (.model fields) value
  | args {args attributes : Ident} : Holds (.exception args attributes) args
  | attributes {args attributes : Ident} : Holds (.exception args attributes) attributes
  | dataclassField {fields : List (PyStr × Ident)} {name : PyStr} {value : Ident}
    (h : (name, value) ∈ fields) : Holds (.dataclass fields) value
  | key {items : List (Ident × Ident)} {key item : Ident} (h : (key, item) ∈ items) :
    Holds (.mapping items) key
  | item {items : List (Ident × Ident)} {key item : Ident} (h : (key, item) ∈ items) :
    Holds (.mapping items) item
  | element {items : List Ident} {item : Ident} (h : item ∈ items) : Holds (.sequence items) item
  | member {items : List Ident} {item : Ident} (h : item ∈ items) : Holds (.set items) item

/-- As a thing of this kind, an object has a field or a mapping key of that name. -/
inductive PyKind.Names (keyText : Ident → Option PyStr) : PyKind Ident → PyStr → Prop
  | modelField {fields : List (PyStr × Ident)} {name : PyStr} {value : Ident}
    (h : (name, value) ∈ fields) : Names keyText (.model fields) name
  | dataclassField {fields : List (PyStr × Ident)} {name : PyStr} {value : Ident}
    (h : (name, value) ∈ fields) : Names keyText (.dataclass fields) name
  | key {items : List (Ident × Ident)} {key item : Ident} {name : PyStr} (h : (key, item) ∈ items)
    (htext : keyText key = some name) : Names keyText (.mapping items) name

variable (kindsOf : Ident → List (PyKind Ident)) (keyText : Ident → Option PyStr)

/-- An object holds another, as one of the kinds it is of. -/
def HoldsIn (a b : Ident) : Prop := ∃ kind ∈ kindsOf a, kind.Holds b

/-- An object that can be reached holds a text with one of the non-empty literals in it, or has a
field or a key with one of the fragments in its name, in either case. -/
def Sensitive (casefold : PyStr → PyStr) (literals : List (PyStr × PyStr)) (fragments : List PyStr)
    (root : Ident) : Prop :=
  ∃ reached, Relation.ReflTransGen (HoldsIn kindsOf) root reached ∧ ∃ kind ∈ kindsOf reached,
    (∃ text, kind = .text text ∧ ∃ entry ∈ literals, entry.2 ≠ [] ∧ entry.2 <:+: text) ∨
    ∃ name, kind.Names keyText name ∧ ∃ fragment ∈ fragments, casefold fragment <:+: casefold name

end Sensitive

/-- The text of a `str` or of a `bytes`. -/
def PyObject.anyText {Ident : Type} (o : PyObject Ident) : Option PyStr :=
  o.str <|> o.bytes.map decodeReplace

section Correctness

variable {Ident : Type} {heap : Ident → PyObject Ident} {casefold : PyStr → PyStr}
  {forbiddenLiterals : List (PyStr × PyStr)} {forbiddenKeyFragments : List PyStr}

theorem exists_mem_zipIdx {α : Type} {items : List α} {item : α} :
    (∃ index, (item, index) ∈ items.zipIdx) ↔ item ∈ items := by
  conv_rhs => rw [← List.zipIdx_map_fst 0 items, List.mem_map]
  constructor
  · rintro ⟨index, hindex⟩
    exact ⟨(item, index), hindex, rfl⟩
  · rintro ⟨⟨_, index⟩, hindex, rfl⟩
    exact ⟨index, hindex⟩

theorem mem_inspectFields {fields : List (PyStr × Ident)} {call : Inspection Ident} :
    (∃ step, (call, step) ∈ inspectFields fields) ↔
      ∃ field ∈ fields, call = .name field.1 ∨ call = .value field.2 := by
  constructor
  · rintro ⟨step, hstep⟩
    obtain ⟨field, hfield, hcall⟩ := List.mem_flatMap.mp hstep
    simp only [List.mem_cons, List.not_mem_nil, or_false, Prod.mk.injEq] at hcall
    exact ⟨field, hfield, hcall.imp And.left And.left⟩
  · rintro ⟨field, hfield, hcall⟩
    refine ⟨fieldPath field.1, List.mem_flatMap.mpr ⟨field, hfield, ?_⟩⟩
    simpa using hcall

theorem mem_inspections_mapping {items : List (Ident × Ident)} {call : Inspection Ident} :
    (∃ step, (call, step) ∈ (PyKind.mapping items).inspections) ↔
      ∃ entry ∈ items, call = .key entry.1 ∨ call = .value entry.1 ∨ call = .value entry.2 := by
  constructor
  · rintro ⟨step, hstep⟩
    obtain ⟨⟨entry, index⟩, hentry, hcall⟩ := List.mem_flatMap.mp hstep
    simp only [List.mem_cons, List.not_mem_nil, or_false, Prod.mk.injEq] at hcall
    exact ⟨entry, exists_mem_zipIdx.mp ⟨index, hentry⟩,
      hcall.imp And.left fun h ↦ h.imp And.left And.left⟩
  · rintro ⟨entry, hentry, hcall⟩
    obtain ⟨index, hindex⟩ := exists_mem_zipIdx.mpr hentry
    rcases hcall with rfl | rfl | rfl
    · exact ⟨_, List.mem_flatMap.mpr ⟨_, hindex, .head _⟩⟩
    · exact ⟨_, List.mem_flatMap.mpr ⟨_, hindex, .tail _ (.head _)⟩⟩
    · exact ⟨_, List.mem_flatMap.mpr ⟨_, hindex, .tail _ (.tail _ (.head _))⟩⟩

theorem mem_inspections_sequence {items : List Ident} {call : Inspection Ident} :
    (∃ step, (call, step) ∈ (PyKind.sequence items).inspections) ↔
      ∃ item ∈ items, call = .value item := by
  constructor
  · rintro ⟨step, hstep⟩
    obtain ⟨⟨item, index⟩, hentry, hcall⟩ := List.mem_map.mp hstep
    exact ⟨item, exists_mem_zipIdx.mp ⟨index, hentry⟩, (congrArg Prod.fst hcall).symm⟩
  · rintro ⟨item, hitem, rfl⟩
    obtain ⟨index, hindex⟩ := exists_mem_zipIdx.mpr hitem
    exact ⟨_, List.mem_map.mpr ⟨_, hindex, rfl⟩⟩

/-- The calls on values are those on what the kind holds. -/
theorem PyKind.value_mem_inspections {kind : PyKind Ident} {value : Ident} :
    (∃ step, (.value value, step) ∈ kind.inspections) ↔ kind.Holds value := by
  constructor
  · intro h
    cases kind with
    | text s => simp [inspections] at h
    | scalar => simp [inspections] at h
    | model fields =>
      obtain ⟨⟨name, _⟩, hfield, hcall⟩ := mem_inspectFields.mp h
      simp only [reduceCtorEq, Inspection.value.injEq, false_or] at hcall
      exact hcall ▸ .modelField hfield
    | exception args attributes =>
      simp only [inspections, List.mem_cons, Prod.mk.injEq, Inspection.value.injEq,
        List.not_mem_nil, or_false] at h
      obtain ⟨step, ⟨rfl, -⟩ | ⟨rfl, -⟩⟩ := h
      · exact .args
      · exact .attributes
    | dataclass fields =>
      obtain ⟨⟨name, _⟩, hfield, hcall⟩ := mem_inspectFields.mp h
      simp only [reduceCtorEq, Inspection.value.injEq, false_or] at hcall
      exact hcall ▸ .dataclassField hfield
    | mapping items =>
      obtain ⟨⟨key, item⟩, hentry, hcall⟩ := mem_inspections_mapping.mp h
      simp only [reduceCtorEq, Inspection.value.injEq, false_or] at hcall
      rcases hcall with rfl | rfl
      · exact .key hentry
      · exact .item hentry
    | sequence items =>
      obtain ⟨item, hitem, hcall⟩ := mem_inspections_sequence.mp h
      rw [Inspection.value.inj hcall]
      exact .element hitem
    | set items =>
      obtain ⟨step, hstep⟩ := h
      obtain ⟨item, hitem, hcall⟩ := List.mem_map.mp hstep
      rw [← Inspection.value.inj (congrArg Prod.fst hcall)]
      exact .member hitem
  · rintro (h | _ | _ | h | h | h | h | h)
    · exact mem_inspectFields.mpr ⟨_, h, Or.inr rfl⟩
    · exact ⟨_, .head _⟩
    · exact ⟨_, .tail _ (.head _)⟩
    · exact mem_inspectFields.mpr ⟨_, h, Or.inr rfl⟩
    · exact mem_inspections_mapping.mpr ⟨_, h, Or.inr (Or.inl rfl)⟩
    · exact mem_inspections_mapping.mpr ⟨_, h, Or.inr (Or.inr rfl)⟩
    · exact mem_inspections_sequence.mpr ⟨_, h, rfl⟩
    · exact ⟨_, List.mem_map.mpr ⟨_, h, rfl⟩⟩

/-- The calls on names and string keys are those the kind has. -/
theorem PyKind.name_mem_inspections {kind : PyKind Ident} {name : PyStr} :
    ((∃ step, (.name name, step) ∈ kind.inspections) ∨
      ∃ key step, (.key key, step) ∈ kind.inspections ∧ (heap key).str = some name) ↔
      kind.Names (fun key ↦ (heap key).str) name := by
  constructor
  · intro h
    cases kind with
    | text s => simp [inspections] at h
    | scalar => simp [inspections] at h
    | model fields =>
      rcases h with h | ⟨key, step, h, -⟩
      · obtain ⟨⟨_, value⟩, hfield, hcall⟩ := mem_inspectFields.mp h
        simp only [reduceCtorEq, Inspection.name.injEq, or_false] at hcall
        exact hcall ▸ .modelField hfield
      · obtain ⟨field, -, hcall⟩ := mem_inspectFields.mp ⟨step, h⟩
        simp at hcall
    | exception args attributes => simp [inspections] at h
    | dataclass fields =>
      rcases h with h | ⟨key, step, h, -⟩
      · obtain ⟨⟨_, value⟩, hfield, hcall⟩ := mem_inspectFields.mp h
        simp only [reduceCtorEq, Inspection.name.injEq, or_false] at hcall
        exact hcall ▸ .dataclassField hfield
      · obtain ⟨field, -, hcall⟩ := mem_inspectFields.mp ⟨step, h⟩
        simp at hcall
    | mapping items =>
      rcases h with h | ⟨key, step, h, htext⟩
      · obtain ⟨entry, -, hcall⟩ := mem_inspections_mapping.mp h
        simp at hcall
      · obtain ⟨⟨_, item⟩, hentry, hcall⟩ := mem_inspections_mapping.mp ⟨step, h⟩
        simp only [reduceCtorEq, Inspection.key.injEq, or_false] at hcall
        exact .key (hcall ▸ hentry) htext
    | sequence items => simp [inspections] at h
    | set items => simp [inspections] at h
  · rintro (h | h | ⟨h, htext⟩)
    · exact Or.inl (mem_inspectFields.mpr ⟨_, h, Or.inl rfl⟩)
    · exact Or.inl (mem_inspectFields.mpr ⟨_, h, Or.inl rfl⟩)
    · obtain ⟨step, hstep⟩ := mem_inspections_mapping.mpr ⟨_, h, Or.inl rfl⟩
      exact Or.inr ⟨_, step, hstep, htext⟩

/-! ### What is reached and what is found -/

theorem follows_value {current : Ident} {call : Inspection Ident} :
    (inspection heap casefold forbiddenLiterals forbiddenKeyFragments).Follows (.value current)
      call ↔
      ∃ kind ∈ (heap current).inspectedAs, ∃ step, (call, step) ∈ kind.inspections := by
  rw [DepthFirst.Search.Follows, inspection]
  dsimp only
  rcases (heap current).inspectedAs with _ | kind <;> simp

/-- Only calls on values lead to other calls. -/
theorem value_of_follows {call call' : Inspection Ident}
    (h : (inspection heap casefold forbiddenLiterals forbiddenKeyFragments).Follows call call') :
    ∃ current, call = .value current := by
  obtain ⟨step, hstep⟩ := h
  cases call with
  | value current => exact ⟨current, rfl⟩
  | name field => cases hstep
  | key key => cases hstep

theorem holdsIn_inspectedAs {a b : Ident} :
    (inspection heap casefold forbiddenLiterals forbiddenKeyFragments).Follows (.value a)
      (.value b) ↔ HoldsIn (fun x ↦ (heap x).inspectedAs.toList) a b := by
  rw [follows_value, HoldsIn]
  simp only [PyKind.value_mem_inspections, Option.mem_toList, Option.mem_def]

/-- The objects a search inspects are those that can be reached. -/
theorem reaches_value_iff {root current : Ident} :
    (inspection heap casefold forbiddenLiterals forbiddenKeyFragments).Reaches (.value root)
      (.value current) ↔
      Relation.ReflTransGen (HoldsIn fun x ↦ (heap x).inspectedAs.toList) root current := by
  constructor
  · intro h
    generalize hcall : Inspection.value current = call at h
    induction h generalizing current with
    | refl =>
      rw [Inspection.value.inj hcall]
    | tail hreaches hfollows ih =>
      obtain ⟨mid, rfl⟩ := value_of_follows hfollows
      subst hcall
      exact (ih rfl).tail (holdsIn_inspectedAs.mp hfollows)
  · intro h
    induction h with
    | refl => exact .refl
    | tail _ hholds ih => exact ih.tail (holdsIn_inspectedAs.mpr hholds)

theorem literalFindings_ne_nil {text : PyStr} :
    literalFindings forbiddenLiterals text ≠ [] ↔
      ∃ entry ∈ forbiddenLiterals, entry.2 ≠ [] ∧ entry.2 <:+: text := by
  rw [literalFindings, ne_eq, List.map_eq_nil_iff, List.filter_eq_nil_iff]
  simp

theorem keyFindings_ne_nil {name : PyStr} :
    keyFindings casefold forbiddenKeyFragments name ≠ [] ↔
      ∃ fragment ∈ forbiddenKeyFragments, casefold fragment <:+: casefold name := by
  rw [keyFindings, ne_eq, List.map_eq_nil_iff, List.filter_eq_nil_iff]
  simp

theorem found_text {current : Ident} {text : PyStr}
    (hkind : (heap current).inspectedAs = some (.text text)) :
    (inspection heap casefold forbiddenLiterals forbiddenKeyFragments).found (.value current) =
      literalFindings forbiddenLiterals text := by
  rw [inspection]
  dsimp only
  rw [hkind]

theorem found_key {key : Ident} {name : PyStr} (hname : (heap key).str = some name) :
    (inspection heap casefold forbiddenLiterals forbiddenKeyFragments).found (.key key) =
      keyFindings casefold forbiddenKeyFragments name := by
  rw [inspection]
  dsimp only
  rw [hname]

/-- A call on a name is reached from a value of a kind that has the name. -/
theorem exists_value_of_reaches {root : Ident} {call : Inspection Ident}
    (hcall : ∀ current, call ≠ .value current)
    (hreaches : (inspection heap casefold forbiddenLiterals forbiddenKeyFragments).Reaches
      (.value root) call) :
    ∃ current, Relation.ReflTransGen (HoldsIn fun x ↦ (heap x).inspectedAs.toList) root current ∧
      ∃ kind ∈ (heap current).inspectedAs, ∃ step, (call, step) ∈ kind.inspections := by
  rcases hreaches.cases_tail with hsame | ⟨mid, hmid, hfollows⟩
  · exact absurd hsame (hcall root)
  · obtain ⟨current, rfl⟩ := value_of_follows hfollows
    exact ⟨current, reaches_value_iff.mp hmid, follows_value.mp hfollows⟩

/-- Something is found at a call the search reaches just when the object graph is sensitive. -/
theorem exists_found_iff {root : Ident} :
    (∃ call, (inspection heap casefold forbiddenLiterals forbiddenKeyFragments).Reaches
        (.value root) call ∧
      (inspection heap casefold forbiddenLiterals forbiddenKeyFragments).found call ≠ []) ↔
      Sensitive (fun x ↦ (heap x).inspectedAs.toList) (fun key ↦ (heap key).str) casefold
        forbiddenLiterals forbiddenKeyFragments root := by
  constructor
  · rintro ⟨call, hreaches, hfound⟩
    rw [inspection] at hfound
    cases call with
    | value current =>
      dsimp only at hfound
      split at hfound
      · next text hkind =>
        refine ⟨current, reaches_value_iff.mp hreaches, .text text, ?_, Or.inl ⟨text, rfl, ?_⟩⟩
        · rw [Option.mem_toList, hkind]
        · exact literalFindings_ne_nil.mp hfound
      · exact absurd rfl hfound
    | name field =>
      obtain ⟨current, hcurrent, kind, hkind, hstep⟩ := exists_value_of_reaches (by simp) hreaches
      refine ⟨current, hcurrent, kind, Option.mem_toList.mpr hkind, Or.inr ⟨field, ?_, ?_⟩⟩
      · exact PyKind.name_mem_inspections.mp (Or.inl hstep)
      · exact keyFindings_ne_nil.mp hfound
    | key key =>
      obtain ⟨current, hcurrent, kind, hkind, step, hstep⟩ :=
        exists_value_of_reaches (by simp) hreaches
      dsimp only at hfound
      split at hfound
      · next name hname =>
        refine ⟨current, hcurrent, kind, Option.mem_toList.mpr hkind, Or.inr ⟨name, ?_, ?_⟩⟩
        · exact PyKind.name_mem_inspections.mp (Or.inr ⟨key, step, hstep, hname⟩)
        · exact keyFindings_ne_nil.mp hfound
      · exact absurd rfl hfound
  · rintro ⟨reached, hreached, kind, hkind, ⟨text, rfl, hliteral⟩ | ⟨name, hname, hfragment⟩⟩
    · refine ⟨.value reached, reaches_value_iff.mpr hreached, ?_⟩
      rw [found_text (Option.mem_toList.mp hkind)]
      exact literalFindings_ne_nil.mpr hliteral
    · have hnames := keyFindings_ne_nil.mpr hfragment
      have hfollows : ∀ call step, (call, step) ∈ kind.inspections →
          (inspection heap casefold forbiddenLiterals forbiddenKeyFragments).Reaches
            (.value root) call := fun call step hstep ↦
        (reaches_value_iff.mpr hreached).tail
          (follows_value.mpr ⟨kind, Option.mem_toList.mp hkind, step, hstep⟩)
      rcases PyKind.name_mem_inspections.mpr hname with ⟨step, hstep⟩ | ⟨key, step, hstep, htext⟩
      · exact ⟨.name name, hfollows _ step hstep, hnames⟩
      · refine ⟨.key key, hfollows _ step hstep, ?_⟩
        rwa [found_key htext]

variable (heap casefold forbiddenLiterals forbiddenKeyFragments)

end Correctness

/-! ### What is not inspected -/

/-- `{b"Password": None}`. -/
def bytesKeyed : Fin 3 → PyObject (Fin 3)
  | 0 => { mapping := some [(1, 2)] }
  | 1 => { bytes := some [0x50, 0x61, 0x73, 0x73, 0x77, 0x6f, 0x72, 0x64] }
  | 2 => { isScalar := true }

/-- An instance, with one entry, of a dataclass without fields that extends `dict`. -/
def dataclassDict : Fin 3 → PyObject (Fin 3)
  | 0 => { dataclass := some [], mapping := some [(1, 2)] }
  | 1 => { str := some (PyStr.ofString "note") }
  | 2 => { str := some (PyStr.ofString "sk_seeded") }

/-- ASCII letters without case. -/
def asciiFold (s : PyStr) : PyStr :=
  s.map fun c ↦ if h : 0x41 ≤ c.val ∧ c.val ≤ 0x5a then ⟨c.val + 0x20, by omega⟩ else c

theorem not_reports_of_run_eq_nil {Ident : Type} [DecidableEq Ident] {heap : Ident → PyObject Ident}
    {casefold : PyStr → PyStr} {literals : List (PyStr × PyStr)} {fragments : List PyStr}
    {root : Ident} {P : Prop} (bound : ℕ)
    (hnil : (inspection heap casefold literals fragments).run bound (.value root)
      (PyStr.ofString "$") = some []) (hP : P) :
    ¬ ∃ fuel findings,
      (∀ fuel', fuel ≤ fuel' →
        findSensitiveData heap casefold literals fragments fuel' root = some findings) ∧
      (findings ≠ [] ↔ P) := by
  rintro ⟨fuel, findings, hrun, hiff⟩
  have hrun := hrun (fuel + bound) (by omega)
  rw [findSensitiveData, DepthFirst.Search.run_mono (by omega) hnil, Option.map_some,
    List.mergeSort_nil] at hrun
  exact hiff.mpr hP (Option.some.inj hrun).symm

end ThrevoActions
