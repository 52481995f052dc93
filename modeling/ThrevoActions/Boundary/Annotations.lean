import ThrevoActions.Canonical

/-!
# Annotations of model fields

What `typing` and Pydantic show of a field: the annotation object, and the classes and aliases it
names. A generic alias shows its origin (`get_origin`) and its arguments (`get_args`); anything
else shows only what it is.

Classes and type aliases are named, so that they may refer to each other. `Other` are the
annotations of which nothing else is known: scalar types, `Any`, bare containers and the like.
-/

namespace ThrevoActions

/-- `get_origin` of a generic alias. -/
inductive Origin (Other : Type)
  /-- `Union`, and `Optional` with it. -/
  | union
  | annotated
  | literal
  | list
  | set
  | frozenset
  /-- `collections.abc.Sequence`. -/
  | sequence
  | tuple
  | dict
  /-- `collections.abc.Mapping`. -/
  | mapping
  /-- Another container whose values are JSON arrays, such as `deque` or `Iterable`. -/
  | array
  /-- Another container whose values are JSON objects, such as `defaultdict`. -/
  | object
  /-- Anything else that takes arguments, such as `Callable`. -/
  | other (t : Other)

/-- A value among the arguments of a generic alias. -/
inductive Constant
  | none
  | bool (b : Bool)
  | int (n : ℤ)
  | float (bits : BitVec 64)
  | str (s : PyStr)

def Constant.json : Constant → JsonValue
  | .none => .null
  | .bool b => .bool b
  | .int n => .int n
  | .float bits => .float bits
  | .str s => .str s

/-- An annotation, or what stands among the arguments of a generic alias. -/
inductive AnnotationTree (Model Alias Other : Type)
  | decimal
  | float
  /-- `pydantic.JsonValue`. -/
  | jsonValue
  /-- A class that extends `BaseModel`. -/
  | model (m : Model)
  /-- A type alias (`TypeAliasType`). -/
  | typeAlias (a : Alias)
  | other (t : Other)
  | generic (origin : Origin Other) (arguments : List (AnnotationTree Model Alias Other))
  /-- Not a type but a value: an argument of `Literal`, or metadata of `Annotated`. -/
  | value (constant : Constant)
  | ellipsis

/-- A step of an `AliasPath`. -/
inductive PathItem
  | key (name : PyStr)
  | index (n : ℤ)

/-- What `validation_alias` may be; an `AliasChoices` holds names and paths. -/
inductive ValidationAlias
  | name (name : PyStr)
  | path (first : PyStr) (rest : List PathItem)
  | choices (choices : List (PyStr × List PathItem))

/-- What `model_fields` shows of a field. -/
structure FieldInfo (A : Type) where
  name : PyStr
  annotationTree : A
  aliasName : Option PyStr := none
  validationAlias : Option ValidationAlias := none
  isRequired : Bool := true

/-- A class that extends `BaseModel`, with its own fields or, as a `RootModel`, with one value. -/
inductive DeclaredModel (A : Type)
  | fields (fields : List (FieldInfo A))
  | root (annotationTree : A)

/-- `model_fields`; the value of a `RootModel` is its field `root`. -/
def DeclaredModel.modelFields {A : Type} : DeclaredModel A → List (FieldInfo A)
  | .fields declared => declared
  | .root annotationTree => [{ name := PyStr.ofString "root", annotationTree }]

/-- The classes and the aliases that annotations name. -/
structure Declarations (Model Alias Other : Type) where
  modelClass : Model → DeclaredModel (AnnotationTree Model Alias Other)
  target : Alias → AnnotationTree Model Alias Other

/-- The fields of a class. -/
def Declarations.modelFields {Model Alias Other : Type} (env : Declarations Model Alias Other)
    (m : Model) : List (FieldInfo (AnnotationTree Model Alias Other)) :=
  (env.modelClass m).modelFields

end ThrevoActions
