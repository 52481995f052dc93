import Mathlib.Data.List.DropRight
import ThrevoActions.Coding.Replace
import ThrevoActions.Json.RoundTrip

/-!
# Normalized MySQL definitions

`_normalize_mysql_definition`, by which an installed trigger, routine or check is compared with the
packaged one. Literals are cut out and numbered, what is left is stripped of back-quotes, case,
charset introducers and all white space, and the literals come back as the hexadecimal digits of
their bytes. Which characters fold, are white space or are digits comes from Unicode, and enters as
the class `PyCharacters`.
-/

namespace ThrevoActions

/-- What `str.casefold` and the classes of `re` say of a character. -/
class PyCharacters where
  casefoldChar : CodePoint → PyStr
  /-- `\s`. -/
  isSpace : CodePoint → Bool
  /-- `\d`. -/
  isDecimal : CodePoint → Bool
  casefoldChar_ascii : ∀ c : CodePoint, c.val < 0x80 →
    casefoldChar c = [if 0x41 ≤ c.val ∧ c.val ≤ 0x5a then c + 0x20 else c]
  isSpace_ascii : ∀ c : CodePoint, c.val < 0x80 →
    isSpace c = decide (c.val = 0x20 ∨ 0x09 ≤ c.val ∧ c.val ≤ 0x0d ∨ 0x1c ≤ c.val ∧ c.val ≤ 0x1f)
  isDecimal_ascii : ∀ c : CodePoint, c.val < 0x80 → isDecimal c = Json.isDigit c

namespace MySql

open Replace

/-! ## Literals -/

/-- The ways in which a definition is not normalized. -/
inductive DefinitionRefusal
  /-- `MySQLMigrationStateError("MySQL definition contains an unterminated literal")`. -/
  | unterminatedLiteral
  /-- `UnicodeEncodeError`. -/
  | unicodeEncode
  deriving DecidableEq

/-- A character outside of literals, or a literal. -/
inductive Piece
  | char (c : CodePoint)
  | literal (text : PyStr)
  deriving DecidableEq

/-- The scanning loop; inside a literal, with what it holds so far. -/
def scanPieces : Option PyStr → PyStr → Except DefinitionRefusal (List Piece)
  | none, [] => .ok []
  | none, c :: value =>
    if c = 0x27 then scanPieces (some []) value
    else (scanPieces none value).map (.char c :: ·)
  | some _, [] => .error .unterminatedLiteral
  | some literal, [c] => if c = 0x27 then .ok [.literal literal] else .error .unterminatedLiteral
  | some literal, c :: d :: value =>
    if c = 0x5c then scanPieces (some (literal ++ [d])) value
    else if c = 0x27 then
      if d = 0x27 then scanPieces (some (literal ++ [0x27])) value
      else (scanPieces none (d :: value)).map (.literal literal :: ·)
    else scanPieces (some (literal ++ [c])) (d :: value)

/-- What a literal leaves in the text. -/
def placeholder (index : ℕ) : PyStr := 0x00 :: (Json.decimal index ++ [0x00])

/-- `"".join(fragments)`, the literals numbered from `index`. -/
def joinFragments : ℕ → List Piece → PyStr
  | _, [] => []
  | index, .char c :: pieces => c :: joinFragments index pieces
  | index, .literal _ :: pieces => placeholder index ++ joinFragments (index + 1) pieces

def literals : List Piece → List PyStr
  | [] => []
  | .char _ :: pieces => literals pieces
  | .literal text :: pieces => text :: literals pieces

/-! ### Texts without literals -/

theorem scanPieces_append_of_notMem {s : PyStr} (h : 0x27 ∉ s) (value : PyStr) :
    scanPieces none (s ++ value) = (scanPieces none value).map (s.map .char ++ ·) := by
  induction s with
  | nil =>
    rw [List.nil_append]
    cases scanPieces none value <;> rfl
  | cons c s ih =>
    rw [List.mem_cons, not_or] at h
    rw [List.cons_append, scanPieces, if_neg (Ne.symm h.1), ih h.2]
    cases scanPieces none value <;> rfl

theorem joinFragments_append_chars (s : PyStr) (pieces : List Piece) :
    joinFragments 0 (s.map .char ++ pieces) = s ++ joinFragments 0 pieces := by
  induction s with
  | nil => rfl
  | cons c s ih => rw [List.map_cons, List.cons_append, joinFragments, ih, List.cons_append]

theorem literals_append_chars (s : PyStr) (pieces : List Piece) :
    literals (s.map .char ++ pieces) = literals pieces := by
  induction s with
  | nil => rfl
  | cons c s ih => rw [List.map_cons, List.cons_append, literals, ih]

/-! ## What is stripped -/

section Normalizing

variable [PyCharacters]

/-- `text.casefold()`. -/
def casefold (text : PyStr) : PyStr := text.flatMap PyCharacters.casefoldChar

/-- `\x00\d+\x00` matches in front. -/
def placeholderAhead : PyStr → Bool
  | [] => false
  | c :: text =>
    c == 0x00 && text.takeWhile PyCharacters.isDecimal != [] &&
      (text.dropWhile PyCharacters.isDecimal).head? == some 0x00

/-- The length of what `_(?:utf8mb4|ascii)(?=\x00\d+\x00)` matches in front. -/
def introducer? (text : PyStr) : Option ℕ :=
  if PyStr.ofString "_utf8mb4" <+: text ∧ placeholderAhead (text.drop 8) then some 8
  else if PyStr.ofString "_ascii" <+: text ∧ placeholderAhead (text.drop 6) then some 6
  else none

/-- Introducers are removed, after `skip` characters of the last one. -/
def removeIntroducers : ℕ → PyStr → PyStr
  | _, [] => []
  | skip + 1, _ :: text => removeIntroducers skip text
  | 0, c :: text =>
    match introducer? (c :: text) with
    | some length => removeIntroducers (length - 1) text
    | none => c :: removeIntroducers 0 text

/-- `[a-z_]`. -/
def isLowerOrUnderscore (c : CodePoint) : Bool :=
  decide (0x61 ≤ c.val ∧ c.val ≤ 0x7a ∨ c.val = 0x5f)

/-- `re.sub(r"(?<![a-z_])length\(", "octet_length(", text)`, after `skip` characters of the last
match, the character before being `previous`. -/
def octetLengths : Option CodePoint → ℕ → PyStr → PyStr
  | _, _, [] => []
  | _, skip + 1, c :: text => octetLengths (some c) skip text
  | previous, 0, c :: text =>
    if previous.all (!isLowerOrUnderscore ·) ∧ PyStr.ofString "length(" <+: c :: text then
      PyStr.ofString "octet_length(" ++ octetLengths (some c) 6 text
    else c :: octetLengths (some c) 0 text

/-! ### Texts of which nothing is stripped -/

/-- Introducers begin with an underscore. -/
theorem removeIntroducers_append_of_notMem {s : PyStr} (h : 0x5f ∉ s) (text : PyStr) :
    removeIntroducers 0 (s ++ text) = s ++ removeIntroducers 0 text := by
  induction s with
  | nil => rfl
  | cons c s ih =>
    rw [List.mem_cons, not_or] at h
    have hnone : introducer? (c :: (s ++ text)) = none := by
      rw [introducer?, if_neg, if_neg]
      · exact fun hascii ↦ h.1 (List.cons_prefix_cons.mp hascii.1).1
      · exact fun hutf8 ↦ h.1 (List.cons_prefix_cons.mp hutf8.1).1
    rw [List.cons_append, removeIntroducers, hnone]
    dsimp only
    rw [ih h.2, List.cons_append]

/-- An ASCII character that is no capital letter. -/
def IsSmall (c : CodePoint) : Prop := c.val < 0x80 ∧ ¬(0x41 ≤ c.val ∧ c.val ≤ 0x5a)

instance (c : CodePoint) : Decidable (IsSmall c) := inferInstanceAs (Decidable (_ ∧ _))

omit [PyCharacters] in
theorem isSmall_of_all {s : PyStr} (h : s.all (fun c ↦ decide (IsSmall c)) = true) :
    ∀ c ∈ s, IsSmall c := fun c hc ↦ of_decide_eq_true (List.all_eq_true.mp h c hc)

/-- Such characters fold to themselves. -/
theorem casefold_eq_self {s : PyStr} (h : ∀ c ∈ s, IsSmall c) : casefold s = s := by
  induction s with
  | nil => rfl
  | cons c s ih =>
    have hfold : PyCharacters.casefoldChar c = [c] := by
      rw [PyCharacters.casefoldChar_ascii c (h c (.head _)).1, if_neg (h c (.head _)).2]
    rw [casefold, List.flatMap_cons, hfold]
    exact congrArg (c :: ·) (ih fun d hd ↦ h d (.tail _ hd))

/-! ## The normal form -/

/-- One of the sixteen digits. -/
def hexDigit (n : ℕ) : CodePoint := if n < 10 then Fin.ofNat _ (0x30 + n) else Fin.ofNat _ (0x57 + n)

/-- `literal_value.encode().hex()` behind its mark. -/
def literalText (text : PyStr) : Except DefinitionRefusal PyStr :=
  match encodeUtf8 text with
  | .error _ => .error .unicodeEncode
  | .ok bytes => .ok (PyStr.ofString "literal:" ++
      bytes.flatMap fun byte ↦ [hexDigit (byte.toNat / 16), hexDigit (byte.toNat % 16)])

/-- The loop over the literals, from `index` on. -/
def substituteLiterals : ℕ → List PyStr → PyStr → Except DefinitionRefusal PyStr
  | _, [], normalized => .ok normalized
  | index, literal :: literals, normalized =>
    match literalText literal with
    | .error refusal => .error refusal
    | .ok text => substituteLiterals (index + 1) literals
        (replaceAll (placeholder index) text normalized)

/-- What the text outside of literals becomes. -/
def strippedText (text : PyStr) : PyStr :=
  octetLengths none 0
    (replaceAll (PyStr.ofString "charsetutf8mb4") []
      ((removeIntroducers 0 (casefold (replaceAll [0x60] [] text))).filter
        (!PyCharacters.isSpace ·)))

/-- `_normalize_mysql_definition`. -/
def normalizeMysqlDefinition (value : PyStr) : Except DefinitionRefusal PyStr := do
  let pieces ← scanPieces none (replaceAll [0x5c, 0x27] [0x27] value)
  let normalized ← substituteLiterals 0 (literals pieces) (strippedText (joinFragments 0 pieces))
  return normalized.rdropWhile (· == 0x3b)

end Normalizing

end MySql

end ThrevoActions
