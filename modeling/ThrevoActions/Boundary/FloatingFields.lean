import ThrevoActions.Boundary.Annotations
import ThrevoActions.Json.Document
import ThrevoActions.Search.DepthFirst

/-!
# Floating-point fields of a private snapshot

A definition is refused if its private snapshot model declares a `float`: canonicalization would
meet it. The check follows fields and the arguments of generic aliases. What it does not follow is
everything else that may hold a float: a type alias, `JsonValue`, any other annotation, and a model
that is not dumped field by field.
-/

namespace ThrevoActions

open JsonValue

variable {Model Alias Other : Type}

/-! ## The check -/

/-- `f"{path}.{field_name}" if path else field_name`. -/
def childPath (fieldName path : PyStr) : PyStr :=
  if path = [] then fieldName else path ++ PyStr.ofString "." ++ fieldName

/-- `annotation is float or isinstance(annotation, float)`. -/
def AnnotationTree.isFloat : AnnotationTree Model Alias Other → Bool
  | .float | .value (.float _) => true
  | _ => false

/-- The recursion of `inspect`: a model is entered once, a generic alias each time it is met. -/
def floatingInspection (env : Declarations Model Alias Other) :
    DepthFirst.Search (AnnotationTree Model Alias Other) Model PyStr PyStr where
  mark
    | .model m => some m
    | _ => none
  found annotationTree := if annotationTree.isFloat then [id] else []
  next
    | .model m => (env.modelFields m).map fun field ↦ (field.annotationTree, childPath field.name)
    | .generic _ arguments => arguments.map fun argument ↦ (argument, id)
    | _ => []
  mark_inj := by
    intro a b m ha hb
    cases a <;> cases b <;> simp_all
  exists_rank := by
    refine ⟨sizeOf, fun {a} hmark b hb ↦ ?_⟩
    cases a with
    | model m => simp at hmark
    | generic origin arguments =>
      obtain ⟨argument, hargument, rfl⟩ := List.mem_map.mp hb
      have hlt := List.sizeOf_lt_of_mem hargument
      simp only [AnnotationTree.generic.sizeOf_spec]
      omega
    | _ => simp at hb

/-- `_floating_point_field_paths`, with a bound on the depth of its recursion. -/
def floatingPointFieldPaths [DecidableEq Model] (env : Declarations Model Alias Other) (fuel : ℕ)
    (model : Model) : Option (List PyStr) :=
  ((floatingInspection env).run fuel (.model model) []).map fun paths ↦
    paths.eraseDups.mergeSort fun a b ↦ decide (a ≤ b)

/-- The settings of a model's `model_config` that a boundary has to fix. -/
structure BoundaryConfig where
  qualname : String
  extra : Option String
  strict : Option Bool
  frozen : Option Bool

/-- `repr` of a setting. -/
def reprSetting : Option String → String
  | none => "None"
  | some text => "'" ++ text ++ "'"

def reprFlag : Option Bool → String
  | none => "None"
  | some true => "True"
  | some false => "False"

/-- `_assert_boundary_model_config`: the message of the first setting that is not as required. -/
def assertBoundaryModelConfig (role : String) (config : BoundaryConfig) : Except PyStr Unit := do
  let requirements := [("extra", "'forbid'", reprSetting config.extra),
    ("strict", "True", reprFlag config.strict), ("frozen", "True", reprFlag config.frozen)]
  for (setting, expected, actual) in requirements do
    if actual ≠ expected then
      throw (PyStr.ofString
        s!"{role} {config.qualname} must configure {setting}={expected}; got {actual}")

/-- `assert_boundary_models_conform`, with the models in the order in which they are checked. -/
def assertBoundaryModelsConform [DecidableEq Model] (env : Declarations Model Alias Other)
    (config : Model → BoundaryConfig) (fuel : ℕ)
    (commandModel privateSnapshotModel displayPreviewModel resultModel : Model) :
    Option (Except PyStr Unit) :=
  (floatingPointFieldPaths env fuel privateSnapshotModel).map fun paths ↦ do
    assertBoundaryModelConfig "command model" (config commandModel)
    assertBoundaryModelConfig "private snapshot model" (config privateSnapshotModel)
    assertBoundaryModelConfig "display preview model" (config displayPreviewModel)
    assertBoundaryModelConfig "result model" (config resultModel)
    if paths ≠ [] then
      throw (PyStr.ofString "private snapshot model permits floating-point values at " ++
        joinStr (PyStr.ofString ", ") paths)

/-! ## JSON forms -/

section Forms

variable (env : Declarations Model Alias Other) (ownForms : Model → Option (JsonValue → Prop))
  (otherForms : Other → JsonValue → Prop)

/-- `model_dump(mode="json")` of a value of the annotation. A model may have forms of its own: with
a serializer, with computed fields or with extra values it is not dumped field by field. -/
inductive Form : AnnotationTree Model Alias Other → JsonValue → Prop
  | decimal (text : PyStr) : Form .decimal (.str text)
  | float (bits : BitVec 64) : Form .float (.float bits)
  | jsonValue (v : JsonValue) : Form .jsonValue v
  | other {t : Other} {v : JsonValue} (h : otherForms t v) : Form (.other t) v
  | typeAlias {a : Alias} {v : JsonValue} (h : Form (env.target a) v) : Form (.typeAlias a) v
  | own {m : Model} {forms : JsonValue → Prop} {v : JsonValue} (hown : ownForms m = some forms)
    (h : forms v) : Form (.model m) v
  | root {m : Model} {a : AnnotationTree Model Alias Other} {v : JsonValue} (hown : ownForms m = none)
    (hclass : env.modelClass m = .root a) (h : Form a v) : Form (.model m) v
  | fields {m : Model} {fields : List (FieldInfo (AnnotationTree Model Alias Other))}
    {entries : JsonObject} (hown : ownForms m = none) (hclass : env.modelClass m = .fields fields)
    (hlength : entries.length = fields.length)
    (h : ∀ pair ∈ fields.zip entries, Form pair.1.annotationTree pair.2.2) :
    Form (.model m) (.dict entries)
  | union {arguments : List (AnnotationTree Model Alias Other)} {a : AnnotationTree Model Alias Other}
    {v : JsonValue} (hmem : a ∈ arguments) (h : Form a v) : Form (.generic .union arguments) v
  | annotated {a : AnnotationTree Model Alias Other} {metadata : List (AnnotationTree Model Alias Other)}
    {v : JsonValue} (h : Form a v) : Form (.generic .annotated (a :: metadata)) v
  | literal {arguments : List (AnnotationTree Model Alias Other)} {constant : Constant}
    (hmem : .value constant ∈ arguments) : Form (.generic .literal arguments) constant.json
  | member {arguments : List (AnnotationTree Model Alias Other)} {t : Other} {v : JsonValue}
    (hmem : .other t ∈ arguments) (h : otherForms t v) : Form (.generic .literal arguments) v
  | array {origin : Origin Other} {a : AnnotationTree Model Alias Other} {items : List JsonValue}
    (horigin : origin ∈ [.list, .set, .frozenset, .sequence, .array])
    (h : ∀ item ∈ items, Form a item) : Form (.generic origin [a]) (.list items)
  | variadic {a : AnnotationTree Model Alias Other} {items : List JsonValue}
    (h : ∀ item ∈ items, Form a item) : Form (.generic .tuple [a, .ellipsis]) (.list items)
  | tuple {arguments : List (AnnotationTree Model Alias Other)} {items : List JsonValue}
    (hellipsis : ∀ a, arguments ≠ [a, .ellipsis]) (hlength : items.length = arguments.length)
    (h : ∀ pair ∈ arguments.zip items, Form pair.1 pair.2) :
    Form (.generic .tuple arguments) (.list items)
  | empty {origin : Origin Other} {key a : AnnotationTree Model Alias Other}
    (horigin : origin ∈ [.dict, .mapping, .object]) : Form (.generic origin [key, a]) (.dict [])
  | mapping {origin : Origin Other} {key a : AnnotationTree Model Alias Other} {entries : JsonObject}
    {keyForm : JsonValue} (horigin : origin ∈ [.dict, .mapping, .object]) (hkey : Form key keyForm)
    (h : ∀ entry ∈ entries, Form a entry.2) : Form (.generic origin [key, a]) (.dict entries)
  | generic {t : Other} {arguments : List (AnnotationTree Model Alias Other)} {v : JsonValue}
    (h : otherForms t v) : Form (.generic (.other t) arguments) v

/-- Some value of the annotation is dumped. -/
def Occupied (a : AnnotationTree Model Alias Other) : Prop := ∃ v, Form env ownForms otherForms a v

/-- A float is declared where the check looks: by the annotation itself, by a field or by an
argument. -/
inductive Declares : AnnotationTree Model Alias Other → Prop
  | here {a : AnnotationTree Model Alias Other} (h : a.isFloat = true) : Declares a
  | field {m : Model} {field : FieldInfo (AnnotationTree Model Alias Other)}
    (hmem : field ∈ env.modelFields m) (h : Declares field.annotationTree) : Declares (.model m)
  | argument {origin : Origin Other} {arguments : List (AnnotationTree Model Alias Other)}
    {a : AnnotationTree Model Alias Other} (hmem : a ∈ arguments) (h : Declares a) :
    Declares (.generic origin arguments)

/-- A float may stand where the check does not look. -/
inductive Hides : AnnotationTree Model Alias Other → Prop
  | jsonValue : Hides .jsonValue
  | typeAlias {a : Alias} {v : JsonValue} (h : Form env ownForms otherForms (env.target a) v)
    (hfloat : floatFree v = false) : Hides (.typeAlias a)
  | other {t : Other} {v : JsonValue} (h : otherForms t v) (hfloat : floatFree v = false) :
    Hides (.other t)
  | own {m : Model} {forms : JsonValue → Prop} {v : JsonValue} (hown : ownForms m = some forms)
    (h : forms v) (hfloat : floatFree v = false) : Hides (.model m)
  | root {m : Model} {a : AnnotationTree Model Alias Other} (hown : ownForms m = none)
    (hclass : env.modelClass m = .root a) (h : Hides a) : Hides (.model m)
  | field {m : Model} {fields : List (FieldInfo (AnnotationTree Model Alias Other))}
    {field : FieldInfo (AnnotationTree Model Alias Other)} (hown : ownForms m = none)
    (hclass : env.modelClass m = .fields fields) (hmem : field ∈ fields)
    (hothers : ∀ field ∈ fields, Occupied env ownForms otherForms field.annotationTree)
    (h : Hides field.annotationTree) : Hides (.model m)
  | union {arguments : List (AnnotationTree Model Alias Other)} {a : AnnotationTree Model Alias Other}
    (hmem : a ∈ arguments) (h : Hides a) : Hides (.generic .union arguments)
  | annotated {a : AnnotationTree Model Alias Other} {metadata : List (AnnotationTree Model Alias Other)}
    (h : Hides a) : Hides (.generic .annotated (a :: metadata))
  | member {arguments : List (AnnotationTree Model Alias Other)} {t : Other} {v : JsonValue}
    (hmem : .other t ∈ arguments) (h : otherForms t v) (hfloat : floatFree v = false) :
    Hides (.generic .literal arguments)
  | array {origin : Origin Other} {a : AnnotationTree Model Alias Other}
    (horigin : origin ∈ [.list, .set, .frozenset, .sequence, .array]) (h : Hides a) :
    Hides (.generic origin [a])
  | variadic {a : AnnotationTree Model Alias Other} (h : Hides a) :
    Hides (.generic .tuple [a, .ellipsis])
  | tuple {arguments : List (AnnotationTree Model Alias Other)} {a : AnnotationTree Model Alias Other}
    (hellipsis : ∀ a, arguments ≠ [a, .ellipsis]) (hmem : a ∈ arguments)
    (hothers : ∀ a ∈ arguments, Occupied env ownForms otherForms a) (h : Hides a) :
    Hides (.generic .tuple arguments)
  | mapping {origin : Origin Other} {key a : AnnotationTree Model Alias Other}
    (horigin : origin ∈ [.dict, .mapping, .object])
    (hkey : Occupied env ownForms otherForms key) (h : Hides a) : Hides (.generic origin [key, a])
  | generic {t : Other} {arguments : List (AnnotationTree Model Alias Other)} {v : JsonValue}
    (h : otherForms t v) (hfloat : floatFree v = false) : Hides (.generic (.other t) arguments)

end Forms

section Correctness

variable {env : Declarations Model Alias Other} {ownForms : Model → Option (JsonValue → Prop)}
  {otherForms : Other → JsonValue → Prop}

theorem follows_model {m : Model} {a : AnnotationTree Model Alias Other} :
    (floatingInspection env).Follows (.model m) a ↔
      ∃ field ∈ env.modelFields m, a = field.annotationTree := by
  rw [DepthFirst.Search.Follows, floatingInspection]
  simp only [List.mem_map, Prod.mk.injEq]
  constructor
  · rintro ⟨_, field, hfield, rfl, -⟩
    exact ⟨field, hfield, rfl⟩
  · rintro ⟨field, hfield, rfl⟩
    exact ⟨_, field, hfield, rfl, rfl⟩

theorem follows_generic {origin : Origin Other} {arguments : List (AnnotationTree Model Alias Other)}
    {a : AnnotationTree Model Alias Other} :
    (floatingInspection env).Follows (.generic origin arguments) a ↔ a ∈ arguments := by
  rw [DepthFirst.Search.Follows, floatingInspection]
  simp only [List.mem_map, Prod.mk.injEq]
  constructor
  · rintro ⟨_, argument, hargument, rfl, -⟩
    exact hargument
  · intro ha
    exact ⟨_, a, ha, rfl, rfl⟩

/-- The check finds something just where a float is declared. -/
theorem exists_found_iff_declares {a : AnnotationTree Model Alias Other} :
    (∃ b, (floatingInspection env).Reaches a b ∧ (floatingInspection env).found b ≠ []) ↔
      Declares env a := by
  constructor
  · rintro ⟨b, hreaches, hfound⟩
    induction hreaches using Relation.ReflTransGen.head_induction_on with
    | refl =>
      refine .here ?_
      by_contra hnot
      exact hfound (if_neg hnot)
    | @head a c hfollows _ ih =>
      cases a with
      | model m =>
        obtain ⟨field, hfield, rfl⟩ := follows_model.mp hfollows
        exact .field hfield ih
      | generic origin arguments => exact .argument (follows_generic.mp hfollows) ih
      | _ =>
        obtain ⟨step, hstep⟩ := hfollows
        simp [floatingInspection] at hstep
  · intro h
    induction h with
    | here h => exact ⟨_, .refl, by simp [floatingInspection, h]⟩
    | field hmem _ ih =>
      obtain ⟨b, hreaches, hfound⟩ := ih
      exact ⟨b, .head (follows_model.mpr ⟨_, hmem, rfl⟩) hreaches, hfound⟩
    | argument hmem _ ih =>
      obtain ⟨b, hreaches, hfound⟩ := ih
      exact ⟨b, .head (follows_generic.mpr hmem) hreaches, hfound⟩

section Zip

variable {α β : Type} {P : α → β → Prop}

theorem exists_mem_zip {xs : List α} {ys : List β} (hlength : ys.length = xs.length) {y : β}
    (hy : y ∈ ys) : ∃ x ∈ xs, (x, y) ∈ xs.zip ys := by
  obtain ⟨i, hi, rfl⟩ := List.mem_iff_getElem.mp hy
  refine ⟨xs[i], List.getElem_mem _, List.mem_iff_getElem.mpr ⟨i, ?_, ?_⟩⟩
  · rw [List.length_zip]
    omega
  · rw [List.getElem_zip]

theorem exists_mem_zip_left {xs : List α} {ys : List β} (hlength : ys.length = xs.length) {x : α}
    (hx : x ∈ xs) : ∃ y, (x, y) ∈ xs.zip ys := by
  obtain ⟨i, hi, rfl⟩ := List.mem_iff_getElem.mp hx
  refine ⟨ys[i], List.mem_iff_getElem.mpr ⟨i, ?_, ?_⟩⟩
  · rw [List.length_zip]
    omega
  · rw [List.getElem_zip]

theorem exists_zip {xs : List α} (h : ∀ x ∈ xs, ∃ y, P x y) :
    ∃ ys : List β, ys.length = xs.length ∧ ∀ pair ∈ xs.zip ys, P pair.1 pair.2 := by
  induction xs with
  | nil => exact ⟨[], rfl, by simp⟩
  | cons x xs ih =>
    obtain ⟨y, hy⟩ := h x (.head _)
    obtain ⟨ys, hlength, hys⟩ := ih fun x hx ↦ h x (.tail _ hx)
    exact ⟨y :: ys, by simp [hlength], by simpa using ⟨hy, fun a b hab ↦ hys (a, b) hab⟩⟩

/-- The partner of one element may be chosen. -/
theorem exists_zip_mem {xs : List α} (h : ∀ x ∈ xs, ∃ y, P x y) {x : α} (hx : x ∈ xs) {y : β}
    (hy : P x y) :
    ∃ ys : List β, ys.length = xs.length ∧ (∀ pair ∈ xs.zip ys, P pair.1 pair.2) ∧ y ∈ ys := by
  induction xs with
  | nil => cases hx
  | cons x' xs ih =>
    rcases List.mem_cons.mp hx with rfl | hx
    · obtain ⟨ys, hlength, hys⟩ := exists_zip fun x hx ↦ h x (.tail _ hx)
      refine ⟨y :: ys, by simp [hlength], ?_, .head _⟩
      simpa using ⟨hy, fun a b hab ↦ hys (a, b) hab⟩
    · obtain ⟨y', hy'⟩ := h x' (.head _)
      obtain ⟨ys, hlength, hys, hmem⟩ := ih (fun x hx ↦ h x (.tail _ hx)) hx
      refine ⟨y' :: ys, by simp [hlength], ?_, .tail _ hmem⟩
      simpa using ⟨hy', fun a b hab ↦ hys (a, b) hab⟩

end Zip

theorem Constant.isFloat_of_json {constant : Constant} (hfloat : floatFree constant.json = false) :
    ∃ bits, constant = .float bits := by
  cases constant with
  | float bits => exact ⟨bits, rfl⟩
  | _ => simp [Constant.json, floatFree] at hfloat

/-- A float in a JSON form is one that is declared, or that the check does not see. -/
theorem Form.declares_or_hides {a : AnnotationTree Model Alias Other} {v : JsonValue}
    (hform : Form env ownForms otherForms a v) (hfloat : floatFree v = false) :
    Declares env a ∨ Hides env ownForms otherForms a := by
  induction hform with
  | decimal text => simp [floatFree] at hfloat
  | float bits => exact Or.inl (.here rfl)
  | jsonValue v => exact Or.inr .jsonValue
  | other h => exact Or.inr (.other h hfloat)
  | typeAlias h => exact Or.inr (.typeAlias h hfloat)
  | own hown h => exact Or.inr (.own hown h hfloat)
  | @root m a _ hown hclass h ih =>
    refine (ih hfloat).imp (fun hdeclares ↦ ?_) (.root hown hclass)
    have hmem : ({ name := PyStr.ofString "root", annotationTree := a } :
        FieldInfo (AnnotationTree Model Alias Other)) ∈ env.modelFields m := by
      rw [Declarations.modelFields, hclass]
      exact .head _
    exact .field hmem hdeclares
  | @fields m fields entries hown hclass hlength h ih =>
    simp only [floatFree, floatFreeEntries_eq_all, List.all_eq_false, Bool.not_eq_true] at hfloat
    obtain ⟨entry, hentry, hfloat⟩ := hfloat
    obtain ⟨field, hfield, hpair⟩ := exists_mem_zip hlength hentry
    have hothers : ∀ field ∈ fields, Occupied env ownForms otherForms field.annotationTree := by
      intro field hfield
      obtain ⟨entry, hpair⟩ := exists_mem_zip_left hlength hfield
      exact ⟨entry.2, h _ hpair⟩
    refine (ih _ hpair hfloat).imp (fun hdeclares ↦ .field ?_ hdeclares)
      (.field hown hclass hfield hothers)
    rwa [Declarations.modelFields, hclass]
  | union hmem h ih => exact (ih hfloat).imp (.argument hmem) (.union hmem)
  | annotated h ih => exact (ih hfloat).imp (.argument (.head _)) .annotated
  | literal hmem =>
    obtain ⟨bits, rfl⟩ := Constant.isFloat_of_json hfloat
    exact Or.inl (.argument hmem (.here rfl))
  | member hmem h => exact Or.inr (.member hmem h hfloat)
  | array horigin h ih =>
    simp only [floatFree, floatFreeList_eq_all, List.all_eq_false, Bool.not_eq_true] at hfloat
    obtain ⟨item, hitem, hfloat⟩ := hfloat
    exact (ih item hitem hfloat).imp (.argument (.head _)) (.array horigin)
  | variadic h ih =>
    simp only [floatFree, floatFreeList_eq_all, List.all_eq_false, Bool.not_eq_true] at hfloat
    obtain ⟨item, hitem, hfloat⟩ := hfloat
    exact (ih item hitem hfloat).imp (.argument (.head _)) .variadic
  | @tuple arguments items hellipsis hlength h ih =>
    simp only [floatFree, floatFreeList_eq_all, List.all_eq_false, Bool.not_eq_true] at hfloat
    obtain ⟨item, hitem, hfloat⟩ := hfloat
    obtain ⟨argument, hargument, hpair⟩ := exists_mem_zip hlength hitem
    have hothers : ∀ a ∈ arguments, Occupied env ownForms otherForms a := by
      intro a ha
      obtain ⟨item, hpair⟩ := exists_mem_zip_left hlength ha
      exact ⟨item, h _ hpair⟩
    exact (ih _ hpair hfloat).imp (.argument hargument) (.tuple hellipsis hargument hothers)
  | empty horigin => simp [floatFree] at hfloat
  | mapping horigin hkey h _ ih =>
    simp only [floatFree, floatFreeEntries_eq_all, List.all_eq_false, Bool.not_eq_true] at hfloat
    obtain ⟨entry, hentry, hfloat⟩ := hfloat
    exact (ih entry hentry hfloat).imp (.argument (.tail _ (.head _)))
      (.mapping horigin ⟨_, hkey⟩)
  | generic h => exact Or.inr (.generic h hfloat)

/-- Where the check does not look, a float does stand in some form. -/
theorem Hides.exists_form {a : AnnotationTree Model Alias Other}
    (h : Hides env ownForms otherForms a) :
    ∃ v, Form env ownForms otherForms a v ∧ floatFree v = false := by
  induction h with
  | jsonValue => exact ⟨.float 0, .jsonValue _, rfl⟩
  | typeAlias h hfloat => exact ⟨_, .typeAlias h, hfloat⟩
  | other h hfloat => exact ⟨_, .other h, hfloat⟩
  | own hown h hfloat => exact ⟨_, .own hown h, hfloat⟩
  | root hown hclass _ ih =>
    obtain ⟨v, hv, hfloat⟩ := ih
    exact ⟨v, .root hown hclass hv, hfloat⟩
  | @field m fields field hown hclass hmem hothers _ ih =>
    obtain ⟨v, hv, hfloat⟩ := ih
    have hall : ∀ field ∈ fields, ∃ entry : PyStr × JsonValue,
        Form env ownForms otherForms field.annotationTree entry.2 := by
      intro field hfield
      obtain ⟨v, hv⟩ := hothers field hfield
      exact ⟨([], v), hv⟩
    obtain ⟨entries, hlength, hentries, hentry⟩ := exists_zip_mem hall hmem (y := ([], v)) hv
    refine ⟨.dict entries, .fields hown hclass hlength hentries, ?_⟩
    simp only [floatFree, floatFreeEntries_eq_all, List.all_eq_false, Bool.not_eq_true]
    exact ⟨_, hentry, hfloat⟩
  | union hmem _ ih =>
    obtain ⟨v, hv, hfloat⟩ := ih
    exact ⟨v, .union hmem hv, hfloat⟩
  | annotated _ ih =>
    obtain ⟨v, hv, hfloat⟩ := ih
    exact ⟨v, .annotated hv, hfloat⟩
  | member hmem h hfloat => exact ⟨_, .member hmem h, hfloat⟩
  | array horigin _ ih =>
    obtain ⟨v, hv, hfloat⟩ := ih
    exact ⟨.list [v], .array horigin (by simpa using hv), by simp [floatFree, hfloat]⟩
  | variadic _ ih =>
    obtain ⟨v, hv, hfloat⟩ := ih
    exact ⟨.list [v], .variadic (by simpa using hv), by simp [floatFree, hfloat]⟩
  | tuple hellipsis hmem hothers _ ih =>
    obtain ⟨v, hv, hfloat⟩ := ih
    obtain ⟨items, hlength, hitems, hitem⟩ := exists_zip_mem hothers hmem hv
    refine ⟨.list items, .tuple hellipsis hlength hitems, ?_⟩
    simp only [floatFree, floatFreeList_eq_all, List.all_eq_false, Bool.not_eq_true]
    exact ⟨v, hitem, hfloat⟩
  | mapping horigin hkey _ ih =>
    obtain ⟨v, hv, hfloat⟩ := ih
    obtain ⟨keyForm, hkeyForm⟩ := hkey
    refine ⟨.dict [([], v)], .mapping horigin hkeyForm ?_, by simp [floatFree, hfloat]⟩
    simpa using hv
  | generic h hfloat => exact ⟨_, .generic h, hfloat⟩

theorem sortedPaths_eq_nil {paths : List PyStr} :
    (paths.eraseDups.mergeSort fun a b ↦ decide (a ≤ b)) = [] ↔ paths = [] := by
  simp only [List.eq_nil_iff_forall_not_mem, List.mem_mergeSort, List.mem_eraseDups]

/-- The instances are free of floats where nothing hidden admits one. -/
theorem forall_floatFree_iff {a : AnnotationTree Model Alias Other} (hdeclares : ¬ Declares env a) :
    (∀ v, Form env ownForms otherForms a v → floatFree v = true) ↔
      ¬ Hides env ownForms otherForms a := by
  constructor
  · intro hfree hhides
    obtain ⟨v, hv, hfloat⟩ := hhides.exists_form
    rw [hfree v hv] at hfloat
    exact Bool.noConfusion hfloat
  · intro hhides v hv
    by_contra hfloat
    rw [Bool.not_eq_true] at hfloat
    exact (hv.declares_or_hides hfloat).elim hdeclares hhides

variable (env ownForms otherForms)

omit ownForms otherForms in
theorem nil_of_accepted [DecidableEq Model] {config : Model → BoundaryConfig} {fuel : ℕ}
    {commandModel privateSnapshotModel displayPreviewModel resultModel : Model}
    (haccepted : assertBoundaryModelsConform env config fuel commandModel privateSnapshotModel
      displayPreviewModel resultModel = some (.ok ())) :
    floatingPointFieldPaths env fuel privateSnapshotModel = some [] := by
  rw [assertBoundaryModelsConform, Option.map_eq_some_iff] at haccepted
  obtain ⟨paths, hpaths, haccepted⟩ := haccepted
  obtain ⟨_, _, haccepted⟩ := Except.bind_eq_ok.mp haccepted
  obtain ⟨_, _, haccepted⟩ := Except.bind_eq_ok.mp haccepted
  obtain ⟨_, _, haccepted⟩ := Except.bind_eq_ok.mp haccepted
  obtain ⟨_, _, haccepted⟩ := Except.bind_eq_ok.mp haccepted
  by_cases hnil : paths = []
  · rw [hpaths, hnil]
  · rw [if_pos hnil] at haccepted
    cases haccepted

/-- A definition that is accepted keeps floats away from canonicalization, unless something the
check does not follow admits one. -/
theorem floatFree_of_accepted [DecidableEq Model] {config : Model → BoundaryConfig} {fuel : ℕ}
    {commandModel privateSnapshotModel displayPreviewModel resultModel : Model}
    (haccepted : assertBoundaryModelsConform env config fuel commandModel privateSnapshotModel
      displayPreviewModel resultModel = some (.ok ()))
    (hhides : ¬ Hides env ownForms otherForms (.model privateSnapshotModel)) {v : JsonValue}
    (hform : Form env ownForms otherForms (.model privateSnapshotModel) v) : floatFree v = true := by
  have hnil := nil_of_accepted env haccepted
  rw [floatingPointFieldPaths, Option.map_eq_some_iff] at hnil
  obtain ⟨found, hrun, hsorted⟩ := hnil
  refine (forall_floatFree_iff fun hdeclares ↦ ?_).mpr hhides v hform
  refine (DepthFirst.Search.findings_ne_nil_iff hrun).mpr ?_ (sortedPaths_eq_nil.mp hsorted)
  exact exists_found_iff_declares.mpr hdeclares

end Correctness

/-- `Price = TypeAliasType("Price", float)`, and a model with the one field `price: Price`. -/
def aliasedPrice : Declarations Unit Unit Empty where
  modelClass _ := .fields [{ name := PyStr.ofString "price", annotationTree := .typeAlias () }]
  target _ := .float

end ThrevoActions
