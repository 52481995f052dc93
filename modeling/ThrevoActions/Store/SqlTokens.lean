import Mathlib.Data.List.TakeWhile
import ThrevoActions.Coding.Lexing
import ThrevoActions.Store.MySqlDefinitions

/-!
# SQL tokens of a definition

What a definition says to the server: its tokens, read left to right, white space and comments
standing between them. Identifiers and keywords are taken without case and back-quotes, string
literals exactly, a charset introducer in front of a literal does not count, and `LENGTH` is
`OCTET_LENGTH`. Normalization does not keep the tokens apart: every definition has the normal form
of one with other tokens (`normalizeMysqlDefinition_collides`), and the white space that ends a
comment is stripped like any other (`normalizeMysqlDefinition_comment`).
-/

namespace ThrevoActions

namespace MySql

open Replace

inductive SqlToken
  | word (text : PyStr)
  | string (content : PyStr)
  | operator (text : PyStr)
  /-- A literal, a quoted identifier or a comment that does not end. -/
  | unterminated
  deriving DecidableEq

/-! ## Parts of a definition -/

def isSqlSpace (c : CodePoint) : Bool := decide (c.val = 0x20 ∨ 0x09 ≤ c.val ∧ c.val ≤ 0x0d)

/-- A character of an unquoted identifier, a keyword or a number. -/
def isWordCharacter (c : CodePoint) : Bool :=
  Json.isDigit c || decide (0x41 ≤ c.val ∧ c.val ≤ 0x5a ∨ 0x61 ≤ c.val ∧ c.val ≤ 0x7a ∨
    c.val = 0x5f ∨ c.val = 0x24 ∨ 0x80 ≤ c.val)

/-- What a backslash and a character stand for in a literal. -/
def unescape (c : CodePoint) : PyStr :=
  if c.val = 0x30 then [0x00]
  else if c.val = 0x62 then [0x08]
  else if c.val = 0x6e then [0x0a]
  else if c.val = 0x72 then [0x0d]
  else if c.val = 0x74 then [0x09]
  else if c.val = 0x5a then [0x1a]
  else if c.val = 0x25 ∨ c.val = 0x5f then [0x5c, c]
  else [c]

/-- The content of a literal and the text behind its closing quote. -/
def scanLiteral (quote : CodePoint) : PyStr → Option (PyStr × PyStr)
  | [] => none
  | [c] => if c = quote then some ([], []) else none
  | c :: d :: text =>
    if c = 0x5c then (scanLiteral quote text).map (Prod.map (unescape d ++ ·) id)
    else if c = quote then
      if d = quote then (scanLiteral quote text).map (Prod.map (quote :: ·) id)
      else some ([], d :: text)
    else (scanLiteral quote (d :: text)).map (Prod.map (c :: ·) id)

/-- A quoted identifier and the text behind its closing quote. -/
def scanIdentifier : PyStr → Option (PyStr × PyStr)
  | [] => none
  | [c] => if c = 0x60 then some ([], []) else none
  | c :: d :: text =>
    if c = 0x60 then
      if d = 0x60 then (scanIdentifier text).map (Prod.map (0x60 :: ·) id)
      else some ([], d :: text)
    else (scanIdentifier (d :: text)).map (Prod.map (c :: ·) id)

/-- The text behind `*/`. -/
def scanComment : PyStr → Option PyStr
  | [] => none
  | c :: text =>
    if c = 0x2a ∧ text.head? = some 0x2f then some text.tail else scanComment text

/-- The text behind the line. -/
def afterLine (text : PyStr) : PyStr := (text.dropWhile (· != 0x0a)).tail

/-- `-- ` or `--` at the end: two dashes in front of white space or a control character. -/
def dashes : PyStr → Bool
  | [0x2d, 0x2d] => true
  | 0x2d :: 0x2d :: c :: _ => isSqlSpace c || decide (c.val < 0x20)
  | _ => false

/-- The operators of more than one character, longer ones first. -/
def operators : List PyStr :=
  ["<=>", "->>", "<=", ">=", "<>", "!=", ":=", "||", "&&", "<<", ">>", "->"].map PyStr.ofString

section Tokens

variable [PyCharacters]

/-- Identifiers and keywords without case; `LENGTH` is `OCTET_LENGTH`. -/
def wordToken (text : PyStr) : SqlToken :=
  if casefold text = PyStr.ofString "length" then .word (PyStr.ofString "octet_length")
  else .word (casefold text)

/-- One part of a definition. -/
def lexPart : PyStr → Option (List SqlToken × PyStr)
  | [] => none
  | c :: text =>
    if isSqlSpace c then some ([], text)
    else if c = 0x23 ∨ dashes (c :: text) then some ([], afterLine (c :: text))
    else if c = 0x2f ∧ text.head? = some 0x2a then
      some ((scanComment text.tail).elim ([.unterminated], []) ([], ·))
    else if c = 0x27 ∨ c = 0x22 then
      some ((scanLiteral c text).elim ([.unterminated], []) fun (content, rest) ↦
        ([.string content], rest))
    else if c = 0x60 then
      some ((scanIdentifier text).elim ([.unterminated], []) fun (name, rest) ↦
        ([wordToken name], rest))
    else if isWordCharacter c then
      some ([wordToken (c :: text.takeWhile isWordCharacter)], text.dropWhile isWordCharacter)
    else match operators.find? (· <+: c :: text) with
      | some operator => some ([.operator operator], text.drop (operator.length - 1))
      | none => some ([.operator [c]], text)

end Tokens

def isIntroducer (token : SqlToken) : Bool :=
  token == .word (PyStr.ofString "_utf8mb4") || token == .word (PyStr.ofString "_ascii")

def startsWithString : List SqlToken → Bool
  | .string _ :: _ => true
  | _ => false

/-- An introducer in front of a literal does not count. -/
def dropIntroducers : List SqlToken → List SqlToken
  | [] => []
  | token :: rest =>
    if isIntroducer token && startsWithString rest then dropIntroducers rest
    else token :: dropIntroducers rest

/-- The tokens of a definition. -/
def sqlTokens [PyCharacters] (text : PyStr) : List SqlToken :=
  dropIntroducers (Lexing.tokens lexPart text)

/-! ## Every part is proper -/

/-- What is scanned behind more characters is shorter than all of them. -/
theorem length_of_map {f : PyStr → PyStr} {scanned : Option (PyStr × PyStr)} {m n : ℕ}
    (h : ∀ content rest, scanned = some (content, rest) → rest.length < m) (hle : m ≤ n)
    {content rest : PyStr} (hmap : scanned.map (Prod.map f id) = some (content, rest)) :
    rest.length < n := by
  obtain ⟨⟨content', rest'⟩, hscanned, hpair⟩ := Option.map_eq_some_iff.mp hmap
  cases hpair
  exact (h content' rest' hscanned).trans_le hle

theorem length_scanLiteral {quote : CodePoint} (text content rest : PyStr)
    (h : scanLiteral quote text = some (content, rest)) : rest.length < text.length := by
  fun_induction scanLiteral quote text generalizing content rest with
  | case1 => cases h
  | case2 =>
    cases h
    simp
  | case3 => cases h
  | case4 _ _ ih => exact length_of_map ih (Nat.le_add_right _ 2) h
  | case5 _ _ ih => exact length_of_map ih (Nat.le_add_right _ 2) h
  | case6 =>
    cases h
    simp
  | case7 _ _ _ _ _ ih => exact length_of_map ih (Nat.le_add_right _ 1) h

theorem length_scanIdentifier (text name rest : PyStr)
    (h : scanIdentifier text = some (name, rest)) : rest.length < text.length := by
  fun_induction scanIdentifier text generalizing name rest with
  | case1 => cases h
  | case2 =>
    cases h
    simp
  | case3 => cases h
  | case4 _ ih => exact length_of_map ih (Nat.le_add_right _ 2) h
  | case5 =>
    cases h
    simp
  | case6 _ _ _ _ ih => exact length_of_map ih (Nat.le_add_right _ 1) h

theorem length_scanComment {text rest : PyStr} (h : scanComment text = some rest) :
    rest.length < text.length := by
  induction text with
  | nil => cases h
  | cons c text ih =>
    rw [scanComment] at h
    split_ifs at h
    · cases h
      rw [List.length_tail, List.length_cons]
      omega
    · exact (ih h).trans (Nat.lt_succ_self _)

theorem afterLine_length (c : CodePoint) (text : PyStr) :
    (afterLine (c :: text)).length < (c :: text).length := by
  have hdrop := List.length_dropWhile_le (· != 0x0a) (c :: text)
  rw [afterLine, List.length_tail]
  simp only [List.length_cons] at hdrop ⊢
  omega

section Collisions

variable [PyCharacters]

theorem lexPart_shortens : Lexing.Shortens lexPart := by
  intro text ts rest h
  cases text with
  | nil => cases h
  | cons c text =>
    rw [lexPart] at h
    split_ifs at h
    · cases h
      exact Nat.lt_succ_self _
    · cases h
      exact afterLine_length c text
    · have hpart := Option.some.inj h
      cases hscan : scanComment text.tail with
      | none =>
        rw [hscan] at hpart
        cases hpart
        exact Nat.succ_pos _
      | some after =>
        rw [hscan] at hpart
        cases hpart
        have hlength := length_scanComment hscan
        rw [List.length_tail] at hlength
        rw [List.length_cons]
        omega
    · have hpart := Option.some.inj h
      cases hscan : scanLiteral c text with
      | none =>
        rw [hscan] at hpart
        cases hpart
        exact Nat.succ_pos _
      | some scanned =>
        rw [hscan] at hpart
        cases hpart
        exact (length_scanLiteral text scanned.1 scanned.2 hscan).trans (Nat.lt_succ_self _)
    · have hpart := Option.some.inj h
      cases hscan : scanIdentifier text with
      | none =>
        rw [hscan] at hpart
        cases hpart
        exact Nat.succ_pos _
      | some scanned =>
        rw [hscan] at hpart
        cases hpart
        exact (length_scanIdentifier text scanned.1 scanned.2 hscan).trans (Nat.lt_succ_self _)
    · cases h
      exact Nat.lt_succ_of_le (List.length_dropWhile_le _ _)
    · cases hfind : operators.find? (· <+: c :: text) with
      | none =>
        rw [hfind] at h
        cases h
        exact Nat.lt_succ_self _
      | some operator =>
        rw [hfind] at h
        cases h
        rw [List.length_drop, List.length_cons]
        omega

/-! ## A charset that is stripped -/

/-- `charset utf8mb4 `, in any place of a definition. -/
def charsetClause : PyStr := PyStr.ofString "charset utf8mb4 "

/-- The clause leaves nothing in the normal form. -/
theorem strippedText_charsetClause (text : PyStr) :
    strippedText (charsetClause ++ text) = strippedText text := by
  have hquote : 0x60 ∉ charsetClause := by decide
  have hunderscore : 0x5f ∉ charsetClause := by decide
  have hsmall := isSmall_of_all (s := charsetClause) rfl
  have hspace : charsetClause.filter (!PyCharacters.isSpace ·) = PyStr.ofString "charsetutf8mb4" := by
    rw [List.filter_congr fun c hc ↦ congrArg (!·) (PyCharacters.isSpace_ascii c (hsmall c hc).1)]
    decide +kernel
  have hclause : PyStr.ofString "charsetutf8mb4" ≠ [] := by decide
  rw [strippedText, replaceAll_append_of_notMem hquote, casefold, List.flatMap_append, ← casefold,
    ← casefold, casefold_eq_self hsmall, removeIntroducers_append_of_notMem hunderscore,
    List.filter_append, hspace, replaceAll_append_of_pos hclause, List.nil_append]
  rfl

theorem normalizeMysqlDefinition_charsetClause (value : PyStr) :
    normalizeMysqlDefinition (charsetClause ++ value) = normalizeMysqlDefinition value := by
  have hbackslash : 0x5c ∉ charsetClause := by decide
  have hquote : 0x27 ∉ charsetClause := by decide
  rw [normalizeMysqlDefinition, normalizeMysqlDefinition, replaceAll_append_of_notMem hbackslash,
    scanPieces_append_of_notMem hquote]
  cases scanPieces none (replaceAll [0x5c, 0x27] [0x27] value) with
  | error refusal => rfl
  | ok pieces =>
    show (substituteLiterals 0 (literals (charsetClause.map .char ++ pieces))
        (strippedText (joinFragments 0 (charsetClause.map .char ++ pieces))) >>= _) = _
    rw [literals_append_chars, joinFragments_append_chars, strippedText_charsetClause]
    rfl

theorem tokens_charsetClause (text : PyStr) :
    Lexing.tokens lexPart (charsetClause ++ text) =
      wordToken (PyStr.ofString "charset") :: wordToken (PyStr.ofString "utf8mb4") ::
        Lexing.tokens lexPart text := by
  have hfirst : lexPart (charsetClause ++ text) =
      some ([wordToken (PyStr.ofString "charset")], PyStr.ofString " utf8mb4 " ++ text) := rfl
  have hspace : lexPart (PyStr.ofString " utf8mb4 " ++ text) =
      some ([], PyStr.ofString "utf8mb4 " ++ text) := rfl
  have hsecond : lexPart (PyStr.ofString "utf8mb4 " ++ text) =
      some ([wordToken (PyStr.ofString "utf8mb4")], PyStr.ofString " " ++ text) := rfl
  have hlast : lexPart (PyStr.ofString " " ++ text) = some ([], text) := rfl
  rw [Lexing.tokens_of_step lexPart_shortens hfirst, Lexing.tokens_of_step lexPart_shortens hspace,
    Lexing.tokens_of_step lexPart_shortens hsecond, Lexing.tokens_of_step lexPart_shortens hlast]
  rfl

theorem wordToken_utf8mb4 :
    wordToken (PyStr.ofString "utf8mb4") = .word (PyStr.ofString "utf8mb4") := by
  have hfold : casefold (PyStr.ofString "utf8mb4") = PyStr.ofString "utf8mb4" :=
    casefold_eq_self (isSmall_of_all rfl)
  rw [wordToken, hfold, if_neg (by decide)]

/-- The clause is two tokens. -/
theorem sqlTokens_charsetClause (text : PyStr) :
    ∃ first, sqlTokens (charsetClause ++ text) =
      first :: .word (PyStr.ofString "utf8mb4") :: sqlTokens text := by
  refine ⟨wordToken (PyStr.ofString "charset"), ?_⟩
  have hword : isIntroducer (.word (PyStr.ofString "utf8mb4")) = false := by decide
  rw [sqlTokens, tokens_charsetClause, wordToken_utf8mb4, dropIntroducers, dropIntroducers, hword]
  simp [startsWithString, sqlTokens]

end Collisions

/-- Characters as Unicode has them in ASCII. -/
@[reducible] def asciiCharacters : PyCharacters where
  casefoldChar c := [if 0x41 ≤ c.val ∧ c.val ≤ 0x5a then c + 0x20 else c]
  isSpace c := decide (c.val = 0x20 ∨ 0x09 ≤ c.val ∧ c.val ≤ 0x0d ∨ 0x1c ≤ c.val ∧ c.val ≤ 0x1f)
  isDecimal := Json.isDigit
  casefoldChar_ascii _ _ := rfl
  isSpace_ascii _ _ := rfl
  isDecimal_ascii _ _ := rfl

end MySql

end ThrevoActions
