import ThrevoActions.Canonical

/-!
# JSON in ASCII, and Python's equality of documents

`json.dumps(…, separators=(",", ":"), sort_keys=True)` with its default `ensure_ascii`, floats
included, and `==` of what `json.loads` returns: booleans are numbers, and numbers are compared by
their values.
-/

namespace ThrevoActions

namespace Json

/-- `float.__repr__` of a finite number. -/
class PythonFloatText where
  repr : BitVec 64 → PyStr

/-! ## Encoding -/

/-- `\uxxxx`. -/
def unicodeEscape (n : ℕ) : PyStr := PyStr.ofString (String.ofList ('\\' :: 'u' :: hex4 n))

/-- A character of a string; one outside of the basic plane is written as a surrogate pair. -/
def asciiChar (c : CodePoint) : PyStr :=
  if c.val < 0x7f then escapeChar c
  else if c.val < 0x10000 then unicodeEscape c.val
  else
    unicodeEscape (0xd800 + (c.val - 0x10000) / 1024) ++
      unicodeEscape (0xdc00 + (c.val - 0x10000) % 1024)

def asciiStr (s : PyStr) : PyStr :=
  PyStr.ofString "\"" ++ s.flatMap asciiChar ++ PyStr.ofString "\""

def asciiFloat [PythonFloatText] (bits : BitVec 64) : PyStr :=
  if isFinite bits then PythonFloatText.repr bits
  else if bits.extractLsb 51 0 ≠ 0 then PyStr.ofString "NaN"
  else if bits.msb then PyStr.ofString "-Infinity"
  else PyStr.ofString "Infinity"

section Dumps

variable [PythonFloatText]

mutual

def asciiDumps : JsonValue → PyStr
  | .null => PyStr.ofString "null"
  | .bool true => PyStr.ofString "true"
  | .bool false => PyStr.ofString "false"
  | .int n => dumpsInt n
  | .float bits => asciiFloat bits
  | .str s => asciiStr s
  | .list items =>
    PyStr.ofString "[" ++ joinStr (PyStr.ofString ",") (asciiDumpsList items) ++
      PyStr.ofString "]"
  | .dict entries =>
    PyStr.ofString "\x7b" ++
      joinStr (PyStr.ofString ",") ((sortEntries (asciiDumpsEntries entries)).map fun entry ↦
        asciiStr entry.1 ++ PyStr.ofString ":" ++ entry.2) ++ PyStr.ofString "\x7d"

def asciiDumpsList : List JsonValue → List PyStr
  | [] => []
  | item :: items => asciiDumps item :: asciiDumpsList items

def asciiDumpsEntries : List (PyStr × JsonValue) → List (PyStr × PyStr)
  | [] => []
  | (key, item) :: entries => (key, asciiDumps item) :: asciiDumpsEntries entries

end

/-- `json.dumps(value, …).encode()`. -/
def asciiBytes (value : JsonValue) : Except Exn Bytes :=
  if printable value then encodeUtf8 (asciiDumps value)
  else .error (.valueError "Exceeds the limit (4300 digits) for integer string conversion")

end Dumps

/-! ## Equality -/

/-- A finite number in units of `2 ^ -1074`, of which every double is a multiple. -/
def scaledFloat (bits : BitVec 64) : ℤ :=
  let exponent := (bits.extractLsb 62 52).toNat
  let fraction := (bits.extractLsb 51 0).toNat
  let magnitude : ℕ :=
    if exponent = 0 then fraction else (4503599627370496 + fraction) <<< (exponent - 1)
  if bits.msb then -(magnitude : ℤ) else magnitude

def scaledInt (n : ℤ) : ℤ := n <<< (1074 : ℕ)

/-- `==` of two floats. -/
def floatEquals (a b : BitVec 64) : Bool :=
  if isFinite a && isFinite b then scaledFloat a == scaledFloat b
  else a == b && decide (a.extractLsb 51 0 = 0)

/-- `==` of an integer and a float. -/
def intEqualsFloat (n : ℤ) (bits : BitVec 64) : Bool :=
  isFinite bits && scaledInt n == scaledFloat bits

mutual

/-- `a == b`. -/
def equals : JsonValue → JsonValue → Bool
  | .null, .null => true
  | .str a, .str b => a == b
  | .float a, .float b => floatEquals a b
  | .float a, .int n => intEqualsFloat n a
  | .int n, .float b => intEqualsFloat n b
  | .float a, .bool b => intEqualsFloat b.toInt a
  | .bool a, .float b => intEqualsFloat a.toInt b
  | .int a, .int b => a == b
  | .int a, .bool b => a == b.toInt
  | .bool a, .int b => a.toInt == b
  | .bool a, .bool b => a == b
  | .list a, .list b => equalsList a b
  | .dict a, .dict b => a.length == b.length && equalsEntries a b
  | _, _ => false

def equalsList : List JsonValue → List JsonValue → Bool
  | [], [] => true
  | x :: xs, y :: ys => equals x y && equalsList xs ys
  | _, _ => false

/-- Every entry of the first dictionary is in the second. -/
def equalsEntries : List (PyStr × JsonValue) → List (PyStr × JsonValue) → Bool
  | [], _ => true
  | (key, x) :: entries, other =>
    (match other.lookup key with
      | some y => equals x y
      | none => false) && equalsEntries entries other

end

example : equals (.dict [(PyStr.ofString "a", .int 1), (PyStr.ofString "b", .null)])
    (.dict [(PyStr.ofString "b", .null), (PyStr.ofString "a", .float 0x3ff0000000000000)]) =
      true := by
  decide +kernel

end Json

end ThrevoActions
