import Mathlib.Algebra.Ring.Nat
import Mathlib.Data.List.Sort
import Mathlib.Data.List.Lex
import ThrevoActions.Errors

/-!
# Versioned canonical JSON and protected payloads

`canonicalize_v1`, the commitment framing, and the records that hold protected material. JSON
documents are Python values: a string is its sequence of code points (lone surrogates included),
a dictionary is its list of entries in insertion order, a float is its binary64 pattern.

Unicode NFC is not computed here. `unicodedata.normalize` enters as the class
`UnicodeNormalization`, and what a result needs of it is a hypothesis of that result.
-/

namespace ThrevoActions

/-! ## Python strings and JSON documents -/

/-- A Unicode code point, surrogates included. -/
abbrev CodePoint := Fin 0x110000

instance neZeroCodePoints : NeZero 0x110000 := ⟨by decide⟩

/-- A Python `str`. -/
abbrev PyStr := List CodePoint

instance lawfulBEqPyStr : LawfulBEq PyStr := inferInstance

/-- A Python `bytes`. -/
abbrev Bytes := List UInt8

theorem Char.toNat_lt_codePoints (c : Char) : c.toNat < 0x110000 := by
  have hvalid := c.valid
  simp only [UInt32.isValidChar, Nat.isValidChar] at hvalid
  show c.val.toNat < _
  omega

/-- The code points of a text. -/
def PyStr.ofString (s : String) : PyStr :=
  s.toList.map fun c ↦ ⟨c.toNat, Char.toNat_lt_codePoints c⟩

/-- A JSON-valued Python document. -/
inductive JsonValue
  | null
  | bool (b : Bool)
  | int (n : ℤ)
  | float (bits : BitVec 64)
  | str (s : PyStr)
  | list (items : List JsonValue)
  | dict (entries : List (PyStr × JsonValue))

/-- A JSON object, as the entries of its dictionary. -/
abbrev JsonObject := List (PyStr × JsonValue)

mutual

/-- Structural equality of documents, entries of a dictionary taken in order. -/
def JsonValue.decEq : (a b : JsonValue) → Decidable (a = b)
  | .null, .null => isTrue rfl
  | .bool a, .bool b => decidable_of_iff (a = b) (by simp)
  | .int a, .int b => decidable_of_iff (a = b) (by simp)
  | .float a, .float b => decidable_of_iff (a = b) (by simp)
  | .str a, .str b => decidable_of_iff (a = b) (by simp)
  | .list a, .list b =>
    haveI := JsonValue.decEqList a b
    decidable_of_iff (a = b) (by simp)
  | .dict a, .dict b =>
    haveI := JsonValue.decEqEntries a b
    decidable_of_iff (a = b) (by simp)
  | .null, .bool _ | .null, .int _ | .null, .float _ | .null, .str _ | .null, .list _
  | .null, .dict _ | .bool _, .null | .bool _, .int _ | .bool _, .float _ | .bool _, .str _
  | .bool _, .list _ | .bool _, .dict _ | .int _, .null | .int _, .bool _ | .int _, .float _
  | .int _, .str _ | .int _, .list _ | .int _, .dict _ | .float _, .null | .float _, .bool _
  | .float _, .int _ | .float _, .str _ | .float _, .list _ | .float _, .dict _ | .str _, .null
  | .str _, .bool _ | .str _, .int _ | .str _, .float _ | .str _, .list _ | .str _, .dict _
  | .list _, .null | .list _, .bool _ | .list _, .int _ | .list _, .float _ | .list _, .str _
  | .list _, .dict _ | .dict _, .null | .dict _, .bool _ | .dict _, .int _ | .dict _, .float _
  | .dict _, .str _ | .dict _, .list _ => isFalse (by simp)

def JsonValue.decEqList : (a b : List JsonValue) → Decidable (a = b)
  | [], [] => isTrue rfl
  | [], _ :: _ | _ :: _, [] => isFalse (by simp)
  | x :: xs, y :: ys =>
    haveI := JsonValue.decEq x y
    haveI := JsonValue.decEqList xs ys
    decidable_of_iff (x = y ∧ xs = ys) (by simp)

def JsonValue.decEqEntries : (a b : List (PyStr × JsonValue)) → Decidable (a = b)
  | [], [] => isTrue rfl
  | [], _ :: _ | _ :: _, [] => isFalse (by simp)
  | (k, x) :: xs, (l, y) :: ys =>
    haveI := JsonValue.decEq x y
    haveI := JsonValue.decEqEntries xs ys
    decidable_of_iff (k = l ∧ x = y ∧ xs = ys) (by simp [and_assoc])

end

instance : DecidableEq JsonValue := JsonValue.decEq

/-! ## Normalization -/

/-- `unicodedata.normalize("NFC", ·)`. -/
class UnicodeNormalization where
  nfc : PyStr → PyStr

/-- Normalization of texts that are normalized already, such as ASCII texts. -/
@[reducible] def normalizedTexts : UnicodeNormalization := ⟨id⟩

/-- `math.isfinite`: the exponent field is not all ones. -/
def isFinite (bits : BitVec 64) : Bool := bits.extractLsb 62 52 != BitVec.allOnes 11

section Normalize

variable [UnicodeNormalization]

open UnicodeNormalization (nfc)

mutual

/-- `_normalize`: NFC on every string and key, no floats, no colliding keys. -/
def normalize : JsonValue → Except Exn JsonValue
  | .str s => .ok (.str (nfc s))
  | .float bits =>
    if !isFinite bits then .error (.canonicalization "non-finite numbers are forbidden")
    else .error (.canonicalization "floating-point values are forbidden")
  | .list items => do return .list (← normalizeList items)
  | .dict entries => do return .dict (← normalizeEntries [] entries)
  | .null => .ok .null
  | .bool b => .ok (.bool b)
  | .int n => .ok (.int n)

def normalizeList : List JsonValue → Except Exn (List JsonValue)
  | [] => .ok []
  | item :: items => do
    let item ← normalize item
    let items ← normalizeList items
    return item :: items

/-- The entries of one dictionary; `seen` are the normalized keys already present. -/
def normalizeEntries (seen : List PyStr) :
    List (PyStr × JsonValue) → Except Exn (List (PyStr × JsonValue))
  | [] => .ok []
  | (key, item) :: entries =>
    if nfc key ∈ seen then
      .error (.canonicalization "keys collide after Unicode normalization")
    else do
      let item ← normalize item
      let entries ← normalizeEntries (nfc key :: seen) entries
      return (nfc key, item) :: entries

end

end Normalize

/-! ## Encoding

`json.dumps` with `ensure_ascii=False`, compact separators and sorted keys, then UTF-8. A float
never reaches the encoder: normalization refuses it. -/

/-- Four lowercase hexadecimal digits. -/
def hex4 (n : ℕ) : List Char :=
  [n / 4096 % 16, n / 256 % 16, n / 16 % 16, n % 16].map Nat.digitChar

/-- The escape sequence of a character that JSON does not allow raw in a string. -/
def escapeChar (c : CodePoint) : PyStr :=
  if c.val = 0x22 then PyStr.ofString "\\\""
  else if c.val = 0x5c then PyStr.ofString "\\\\"
  else if c.val = 0x0a then PyStr.ofString "\\n"
  else if c.val = 0x0d then PyStr.ofString "\\r"
  else if c.val = 0x09 then PyStr.ofString "\\t"
  else if c.val = 0x08 then PyStr.ofString "\\b"
  else if c.val = 0x0c then PyStr.ofString "\\f"
  else if c.val < 0x20 then PyStr.ofString (String.ofList ('\\' :: 'u' :: hex4 c.val))
  else [c]

def dumpsStr (s : PyStr) : PyStr :=
  PyStr.ofString "\"" ++ s.flatMap escapeChar ++ PyStr.ofString "\""

def dumpsInt (n : ℤ) : PyStr :=
  if n < 0 then PyStr.ofString "-" ++ PyStr.ofString (String.ofList (Nat.toDigits 10 n.natAbs))
  else PyStr.ofString (String.ofList (Nat.toDigits 10 n.natAbs))

/-- `separator.join(parts)`. -/
def joinStr (separator : PyStr) : List PyStr → PyStr
  | [] => []
  | [part] => part
  | part :: parts => part ++ separator ++ joinStr separator parts

/-- `sorted(entries)`: the keys of a dictionary are distinct, so values are never compared. -/
def sortEntries {β : Type} (entries : List (PyStr × β)) : List (PyStr × β) :=
  entries.insertionSort fun a b ↦ a.1 ≤ b.1

mutual

def dumps : JsonValue → PyStr
  | .null => PyStr.ofString "null"
  | .bool true => PyStr.ofString "true"
  | .bool false => PyStr.ofString "false"
  | .int n => dumpsInt n
  | .float _ => []
  | .str s => dumpsStr s
  | .list items =>
    PyStr.ofString "[" ++ joinStr (PyStr.ofString ",") (dumpsList items) ++ PyStr.ofString "]"
  | .dict entries =>
    PyStr.ofString "\x7b" ++
      joinStr (PyStr.ofString ",") ((sortEntries (dumpsEntries entries)).map fun entry ↦
        dumpsStr entry.1 ++ PyStr.ofString ":" ++ entry.2) ++ PyStr.ofString "\x7d"

def dumpsList : List JsonValue → List PyStr
  | [] => []
  | item :: items => dumps item :: dumpsList items

def dumpsEntries : List (PyStr × JsonValue) → List (PyStr × PyStr)
  | [] => []
  | (key, item) :: entries => (key, dumps item) :: dumpsEntries entries

end

/-- `sys.get_int_max_str_digits()`, at its default: an integer with more decimal digits is not
converted to text, nor text to such an integer. -/
def maxStrDigits : ℕ := 4300

mutual

/-- `dumps` does not raise: no integer of the document exceeds the digit limit. -/
def printable : JsonValue → Bool
  | .int n => decide ((Nat.toDigits 10 n.natAbs).length ≤ maxStrDigits)
  | .list items => printableList items
  | .dict entries => printableEntries entries
  | .null | .bool _ | .float _ | .str _ => true

def printableList : List JsonValue → Bool
  | [] => true
  | item :: items => printable item && printableList items

def printableEntries : List (PyStr × JsonValue) → Bool
  | [] => true
  | (_, item) :: entries => printable item && printableEntries entries

end

/-- The UTF-8 bytes of one code point; a surrogate has none. -/
def encodeUtf8Char (c : CodePoint) : Option Bytes :=
  let n := c.val
  if n < 0x80 then some [n.toUInt8]
  else if n < 0x800 then some [(0xc0 + n / 64).toUInt8, (0x80 + n % 64).toUInt8]
  else if 0xd800 ≤ n ∧ n ≤ 0xdfff then none
  else if n < 0x10000 then
    some [(0xe0 + n / 4096).toUInt8, (0x80 + n / 64 % 64).toUInt8, (0x80 + n % 64).toUInt8]
  else
    some [(0xf0 + n / 262144).toUInt8, (0x80 + n / 4096 % 64).toUInt8,
      (0x80 + n / 64 % 64).toUInt8, (0x80 + n % 64).toUInt8]

/-- `text.encode("utf-8")`. -/
def encodeUtf8 : PyStr → Except Exn Bytes
  | [] => .ok []
  | c :: s =>
    match encodeUtf8Char c with
    | none => .error .unicodeEncode
    | some bytes => do return bytes ++ (← encodeUtf8 s)

/-- Produce deterministic UTF-8 JSON for the internal canonical v1 profile. -/
def canonicalizeV1 [UnicodeNormalization] (document : JsonValue) : Except Exn Bytes := do
  let normalized ← normalize document
  if !printable normalized then throw (.canonicalization "document is not canonical JSON")
  encodeUtf8 (dumps normalized)

/-- The big-endian bytes of `n.to_bytes(width, "big")`, for `n` below `256 ^ width`. -/
def toBytesBig : ℕ → ℕ → Bytes
  | 0, _ => []
  | width + 1, n => toBytesBig width (n / 256) ++ [(n % 256).toUInt8]

/-- `n.to_bytes(width, "big")`. -/
def toBytes (width n : ℕ) : Except Exn Bytes :=
  if n < 256 ^ width then .ok (toBytesBig width n) else .error (.host "OverflowError")

/-- Domain-separate a private snapshot commitment from every other digest. -/
def commitmentPayloadV1 [UnicodeNormalization] (proposalReference : SafeReference)
    (canonicalPayload : Bytes) : Except Exn Bytes := do
  let domain ← encodeUtf8 (PyStr.ofString "threvo-actions:proposal-commitment:v1")
  let reference ← encodeUtf8 (UnicodeNormalization.nfc (PyStr.ofString proposalReference))
  let referenceLength ← toBytes 4 reference.length
  let payloadLength ← toBytes 8 canonicalPayload.length
  return domain ++ referenceLength ++ reference ++ payloadLength ++ canonicalPayload

/-! ## Dumped models

The parts from which the JSON form of a model is put together. -/

/-- A string of the model's own vocabulary as a JSON value. -/
def jsonText (s : String) : JsonValue := .str (PyStr.ofString s)

/-- `None` is `null`. -/
def jsonOptional {α : Type} (dump : α → JsonValue) : Option α → JsonValue
  | none => .null
  | some value => dump value

/-- One field of a dumped model. -/
def jsonField (name : String) (value : JsonValue) : PyStr × JsonValue :=
  (PyStr.ofString name, value)

/-! ## Protected material -/

/-- Opaque commitment metadata; key material remains with the host. -/
structure KeyedCommitment where
  algorithm : String
  keyHandle : SafeReference
  keyVersion : SafeReference
  digest : SafeReference
  deriving DecidableEq, Repr

/-- A private snapshot protected before it reaches an action store. -/
structure ProtectedPayload where
  codec : SafeReference
  keyHandle : SafeReference
  keyVersion : SafeReference
  ciphertext : String
  deriving DecidableEq, Repr

end ThrevoActions
