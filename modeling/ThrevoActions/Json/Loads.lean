import ThrevoActions.Json.Refusals

/-!
# Parsing JSON texts

`json.loads` on UTF-8 bytes. The scanner accepts what the documentation of the standard library
says it accepts: JSON texts, and `NaN` and the infinities besides. A repeated key takes the value
that comes last. Parsing is bounded by the length of the text, which no text exhausts.
-/

namespace ThrevoActions

namespace Json

/-- `float(text)`. -/
class PythonFloat where
  float : PyStr → BitVec 64

/-! ## Scanning -/

def isSpace (c : CodePoint) : Bool :=
  decide (c.val = 0x20 ∨ c.val = 0x09 ∨ c.val = 0x0a ∨ c.val = 0x0d)

def skipSpaces (s : PyStr) : PyStr := s.dropWhile isSpace

def isDigit (c : CodePoint) : Bool := decide (0x30 ≤ c.val ∧ c.val ≤ 0x39)

/-- `int(text)` of decimal digits. -/
def digitsValue (digits : PyStr) : ℕ := digits.foldl (fun n c ↦ 10 * n + (c.val - 0x30)) 0

def hexDigit? (c : CodePoint) : Option ℕ :=
  if 0x30 ≤ c.val ∧ c.val ≤ 0x39 then some (c.val - 0x30)
  else if 0x41 ≤ c.val ∧ c.val ≤ 0x46 then some (c.val - 0x37)
  else if 0x61 ≤ c.val ∧ c.val ≤ 0x66 then some (c.val - 0x57)
  else none

/-- Four hexadecimal digits. -/
def scanHex4 : PyStr → Option (ℕ × PyStr)
  | a :: b :: c :: d :: s => do
    let a ← hexDigit? a
    let b ← hexDigit? b
    let c ← hexDigit? c
    let d ← hexDigit? d
    return (((a * 16 + b) * 16 + c) * 16 + d, s)
  | _ => none

/-- What follows a high surrogate: the code point of the pair if another escape holds the low one. -/
def scanLowSurrogate (high : ℕ) : PyStr → Option (CodePoint × PyStr)
  | b :: u :: s => do
    if b.val = 0x5c ∧ u.val = 0x75 then
      let (low, rest) ← scanHex4 s
      if 0xdc00 ≤ low ∧ low ≤ 0xdfff then
        return (← codePoint? (0x10000 + ((high - 0xd800) * 1024 + (low - 0xdc00))), rest)
      else return (← codePoint? high, b :: u :: s)
    else return (← codePoint? high, b :: u :: s)
  | s => do return (← codePoint? high, s)

/-- What follows a backslash. -/
def scanEscape : PyStr → Option (CodePoint × PyStr)
  | [] => none
  | e :: s =>
    if e.val = 0x75 then do
      let (n, rest) ← scanHex4 s
      if 0xd800 ≤ n ∧ n ≤ 0xdbff then scanLowSurrogate n rest
      else return (← codePoint? n, rest)
    else if e.val = 0x22 ∨ e.val = 0x5c ∨ e.val = 0x2f then some (e, s)
    else if e.val = 0x62 then some (0x08, s)
    else if e.val = 0x66 then some (0x0c, s)
    else if e.val = 0x6e then some (0x0a, s)
    else if e.val = 0x72 then some (0x0d, s)
    else if e.val = 0x74 then some (0x09, s)
    else none

/-- One character of a string; control characters must be escaped. -/
def scanChar : PyStr → Option (CodePoint × PyStr)
  | [] => none
  | c :: s => if c.val = 0x5c then scanEscape s else if c.val < 0x20 then none else some (c, s)

/-- A string of fewer than `fuel` characters, up to its closing quote. -/
def scanStringUpto : ℕ → PyStr → Option (PyStr × PyStr)
  | 0, _ => none
  | _ + 1, [] => none
  | fuel + 1, c :: s =>
    if c.val = 0x22 then some ([], s)
    else do
      let (d, rest) ← scanChar (c :: s)
      let (t, rest) ← scanStringUpto fuel rest
      return (d :: t, rest)

/-- What follows the opening quote of a string. -/
def scanString (s : PyStr) : Option (PyStr × PyStr) := scanStringUpto s.length s

/-- The integer part of a number: no leading zeros. -/
def scanInteger : PyStr → Option (PyStr × PyStr)
  | [] => none
  | c :: s =>
    if c.val = 0x30 then some ([c], s)
    else if isDigit c then some ((c :: s).takeWhile isDigit, (c :: s).dropWhile isDigit)
    else none

def scanFraction : PyStr → PyStr × PyStr
  | [] => ([], [])
  | c :: s =>
    if c.val = 0x2e ∧ s.takeWhile isDigit ≠ [] then
      (c :: s.takeWhile isDigit, s.dropWhile isDigit)
    else ([], c :: s)

def scanSign : PyStr → PyStr × PyStr
  | [] => ([], [])
  | c :: s => if c.val = 0x2b ∨ c.val = 0x2d then ([c], s) else ([], c :: s)

def scanExponent : PyStr → PyStr × PyStr
  | [] => ([], [])
  | c :: s =>
    if (c.val = 0x65 ∨ c.val = 0x45) ∧ (scanSign s).2.takeWhile isDigit ≠ [] then
      (c :: ((scanSign s).1 ++ (scanSign s).2.takeWhile isDigit), (scanSign s).2.dropWhile isDigit)
    else ([], c :: s)

def scanMinus : PyStr → PyStr × PyStr
  | [] => ([], [])
  | c :: s => if c.val = 0x2d then ([c], s) else ([], c :: s)

section Values

variable [PythonFloat]

def scanNumber (s : PyStr) : Option (JsonValue × PyStr) := do
  let (digits, rest) ← scanInteger (scanMinus s).2
  if (scanFraction rest).1 = [] ∧ (scanExponent (scanFraction rest).2).1 = [] then
    if digits.length ≤ maxStrDigits then
      return (.int (if (scanMinus s).1 = [] then digitsValue digits else -digitsValue digits),
        (scanExponent (scanFraction rest).2).2)
    else none
  else
    return (.float (PythonFloat.float ((scanMinus s).1 ++ digits ++ (scanFraction rest).1 ++
      (scanExponent (scanFraction rest).2).1)), (scanExponent (scanFraction rest).2).2)

/-- The named constants. -/
def constants : List (PyStr × JsonValue) :=
  [(PyStr.ofString "null", .null), (PyStr.ofString "true", .bool true),
    (PyStr.ofString "false", .bool false), (PyStr.ofString "NaN", .float 0x7ff8000000000000#64),
    (PyStr.ofString "Infinity", .float 0x7ff0000000000000#64),
    (PyStr.ofString "-Infinity", .float 0xfff0000000000000#64)]

def scanConstant (s : PyStr) : Option (JsonValue × PyStr) :=
  constants.findSome? fun constant ↦ (s.dropPrefix? constant.1).map (constant.2, ·)

/-! ## Parsing -/

/-- `d[key] = value`: a key keeps its place. -/
def insertEntry (entries : List (PyStr × JsonValue)) (entry : PyStr × JsonValue) :
    List (PyStr × JsonValue) :=
  if entry.1 ∈ entries.map Prod.fst then
    entries.map fun other ↦ if other.1 = entry.1 then entry else other
  else entries ++ [entry]

/-- `dict(pairs)`. -/
def dictOf (pairs : List (PyStr × JsonValue)) : List (PyStr × JsonValue) :=
  pairs.foldl insertEntry []

mutual

def parseValue : ℕ → PyStr → Option (JsonValue × PyStr)
  | 0, _ => none
  | _ + 1, [] => none
  | fuel + 1, c :: s =>
    if c.val = 0x22 then (scanString s).map fun result ↦ (.str result.1, result.2)
    else if c.val = 0x7b then
      match skipSpaces s with
      | [] => none
      | d :: rest =>
        if d.val = 0x7d then some (.dict [], rest)
        else (parseEntries fuel (d :: rest)).map fun result ↦ (.dict (dictOf result.1), result.2)
    else if c.val = 0x5b then
      match skipSpaces s with
      | [] => none
      | d :: rest =>
        if d.val = 0x5d then some (.list [], rest)
        else (parseItems fuel (d :: rest)).map fun result ↦ (.list result.1, result.2)
    else (scanConstant (c :: s)).or (scanNumber (c :: s))

/-- The items of a list, and its closing bracket. -/
def parseItems : ℕ → PyStr → Option (List JsonValue × PyStr)
  | 0, _ => none
  | fuel + 1, s =>
    (parseValue fuel s).bind fun (item, rest) ↦
      match skipSpaces rest with
      | [] => none
      | c :: rest =>
        if c.val = 0x5d then some ([item], rest)
        else if c.val = 0x2c then
          (parseItems fuel (skipSpaces rest)).map fun result ↦ (item :: result.1, result.2)
        else none

/-- The entries of a dictionary, and its closing brace. -/
def parseEntries : ℕ → PyStr → Option (List (PyStr × JsonValue) × PyStr)
  | 0, _ => none
  | _ + 1, [] => none
  | fuel + 1, q :: s =>
    if q.val ≠ 0x22 then none
    else (scanString s).bind fun (key, rest) ↦
      match skipSpaces rest with
      | [] => none
      | c :: rest =>
        if c.val ≠ 0x3a then none
        else (parseValue fuel (skipSpaces rest)).bind fun (value, rest) ↦
          match skipSpaces rest with
          | [] => none
          | c :: rest =>
            if c.val = 0x7d then some ([(key, value)], rest)
            else if c.val = 0x2c then
              (parseEntries fuel (skipSpaces rest)).map fun result ↦
                ((key, value) :: result.1, result.2)
            else none

end

/-- `json.loads(text)`. -/
def loadsText (text : PyStr) : Option JsonValue :=
  (parseValue (text.length + 1) (skipSpaces text)).bind fun (v, rest) ↦
    if skipSpaces rest = [] then some v else none

/-- `json.loads(data)` of UTF-8 bytes. -/
def loads (data : Bytes) : Option JsonValue := (decodeUtf8 data).bind loadsText

end Values

end Json

end ThrevoActions
