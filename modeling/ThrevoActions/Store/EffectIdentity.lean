import ThrevoActions.Coding.Framing
import ThrevoActions.Hmac
import ThrevoActions.Integrations.EnvelopeMetadata
import ThrevoActions.Json.RoundTrip

/-!
# The effect identity of the MySQL store

An effect is claimed under a digest of its namespace, name, version and semantic effect. The adapter
computes the digest in Python, the proposal table computes it once more in a generated column, and a
foreign key compares the two. Both frame each field by the decimal length of its bytes and a colon.
-/

namespace ThrevoActions

/-- `text.encode()`, and what `utf8mb4` stores. A text of the model has no surrogates, so every
character has bytes. -/
def octets (s : String) : Bytes :=
  (PyStr.ofString s).flatMap fun c ↦ (encodeUtf8Char c).getD []

/-- `str(n)`. -/
def numeral (n : ℕ) : String := String.ofList (Nat.toDigits 10 n)

namespace MySql

/-! ## The adapter -/

/-- `MySQLAdapterLimitError`. -/
structure AdapterLimitError where
  message : String
  deriving DecidableEq, Repr

def maxTextBytes : ℕ := 65535

def maxIntUnsigned : ℕ := 2 ^ 32 - 1

/-- `_utf8`. -/
def utf8 (value : String) : Except AdapterLimitError Bytes :=
  match encodeUtf8 (PyStr.ofString value) with
  | .ok bytes => .ok bytes
  | .error _ => .error ⟨"MySQL text must be valid UTF-8"⟩

/-- One round of the loop of `_validate_mysql_effect_identity`. -/
def validateText (field value : String) : Except AdapterLimitError Unit := do
  if maxTextBytes < (← utf8 value).length then
    throw ⟨"MySQL " ++ field ++ " cannot exceed " ++ numeral maxTextBytes ++ " UTF-8 bytes"⟩

def validateEffectIdentity (actionType : ActionType) : Except AdapterLimitError Unit := do
  validateText "action namespace" actionType.actionNamespace
  validateText "action name" actionType.name
  if maxIntUnsigned < actionType.version then
    throw ⟨"MySQL action version exceeds INT UNSIGNED"⟩

/-- `str(length).encode() + b":"`. -/
def lengthMark (length : ℕ) : Bytes := octets (numeral length) ++ bytesLiteral ":"

/-- `str(len(component)).encode() + b":" + component`. -/
def lengthFramed (component : Bytes) : Bytes := lengthMark component.length ++ component

/-- The bytes that `_effect_identity` hashes. -/
def effectIdentityInput (actionType : ActionType) (semanticEffectReference : SafeReference) :
    Except AdapterLimitError Bytes := do
  let actionNamespace ← utf8 actionType.actionNamespace
  let name ← utf8 actionType.name
  let version := octets (numeral actionType.version)
  let reference ← utf8 semanticEffectReference
  return ([actionNamespace, name, version, reference].map lengthFramed).flatten

def effectIdentity (actionType : ActionType) (semanticEffectReference : SafeReference) :
    Except AdapterLimitError Bytes := do
  validateEffectIdentity actionType
  let canonical ← effectIdentityInput actionType semanticEffectReference
  return Sha256.digestBytes canonical

/-! ## The generated column -/

/-- The columns of `threvo_actions_proposals` that the expression reads. -/
inductive EffectColumn
  | actionNamespace
  | actionName
  | actionVersion
  | semanticEffectReference
  deriving DecidableEq, Repr

/-- A value of a `utf8mb4` text column or of an unsigned integer column. None of the columns holds
`NULL`. -/
inductive SqlValue
  | text (s : String)
  | unsigned (n : ℕ)
  deriving DecidableEq, Repr

/-- A number stands for its numeral where a text is expected. -/
def SqlValue.toText : SqlValue → String
  | .text s => s
  | .unsigned n => numeral n

inductive SqlExpression
  | column (name : EffectColumn)
  | literal (s : String)
  /-- `OCTET_LENGTH(e)`. -/
  | octetLength (e : SqlExpression)
  /-- `CAST(e AS CHAR)`. -/
  | castChar (e : SqlExpression)

def SqlExpression.evaluate (row : EffectColumn → SqlValue) : SqlExpression → SqlValue
  | .column name => row name
  | .literal s => .text s
  | .octetLength e => .unsigned (octets (e.evaluate row).toText).length
  | .castChar e => .text (e.evaluate row).toText

/-- `CONCAT(…)`. -/
def concat (row : EffectColumn → SqlValue) (arguments : List SqlExpression) : String :=
  String.join (arguments.map fun e ↦ (e.evaluate row).toText)

/-- `SHA2(text, 256)`. -/
def sha2 (text : String) : String := Sha256.hexdigest (octets text)

/-- Two hexadecimal digits a byte. -/
def unhexPairs : PyStr → Option Bytes
  | [] => some []
  | [_] => none
  | high :: low :: s => do
    let high ← Json.hexDigit? high
    let low ← Json.hexDigit? low
    return (16 * high + low).toUInt8 :: (← unhexPairs s)

/-- `UNHEX(text)`: a missing first digit is zero, anything but digits gives `NULL`. -/
def unhex (text : String) : Option Bytes :=
  let digits := PyStr.ofString text
  unhexPairs (if digits.length % 2 = 0 then digits else PyStr.ofString "0" ++ digits)

/-- The arguments of `CONCAT` in migration 002. -/
def effectIdentityArguments : List SqlExpression :=
  [.octetLength (.column .actionNamespace), .literal ":", .column .actionNamespace,
    .octetLength (.column .actionName), .literal ":", .column .actionName,
    .octetLength (.castChar (.column .actionVersion)), .literal ":", .column .actionVersion,
    .octetLength (.column .semanticEffectReference), .literal ":",
    .column .semanticEffectReference]

/-- `UNHEX(SHA2(CONCAT(…), 256))`. -/
def effectIdentityColumn (row : EffectColumn → SqlValue) : Option Bytes :=
  unhex (sha2 (concat row effectIdentityArguments))

/-- The row of a proposal, as far as the expression reads it. -/
def effectRow (actionType : ActionType) (semanticEffectReference : SafeReference) :
    EffectColumn → SqlValue
  | .actionNamespace => .text actionType.actionNamespace
  | .actionName => .text actionType.name
  | .actionVersion => .unsigned actionType.version
  | .semanticEffectReference => .text semanticEffectReference

end MySql

/-! ## Texts and their bytes -/

theorem isSurrogate_ofString {s : String} {c : CodePoint} (h : c ∈ PyStr.ofString s) :
    c.isSurrogate = false := by
  obtain ⟨d, -, rfl⟩ := List.mem_map.mp h
  have hvalid := d.valid
  simp only [UInt32.isValidChar, Nat.isValidChar] at hvalid
  rw [CodePoint.isSurrogate, decide_eq_false_iff_not]
  change ¬(0xd800 ≤ d.val.toNat ∧ d.val.toNat ≤ 0xdfff)
  omega

theorem encodeUtf8_eq_flatMap {s : PyStr} (h : ∀ c ∈ s, c.isSurrogate = false) :
    encodeUtf8 s = .ok (s.flatMap fun c ↦ (encodeUtf8Char c).getD []) := by
  induction s with
  | nil => rfl
  | cons c s ih =>
    have hsome : encodeUtf8Char c ≠ none := by
      rw [ne_eq, encodeUtf8Char_eq_none_iff, h c (.head _)]
      exact Bool.false_ne_true
    obtain ⟨head, hhead⟩ := Option.ne_none_iff_exists'.mp hsome
    rw [encodeUtf8, hhead, List.flatMap_cons, hhead]
    dsimp only
    rw [ih fun c hc ↦ h c (.tail _ hc)]
    rfl

theorem encodeUtf8_ofString (s : String) : encodeUtf8 (PyStr.ofString s) = .ok (octets s) :=
  encodeUtf8_eq_flatMap fun _ ↦ isSurrogate_ofString

theorem octets_injective : Function.Injective octets := by
  intro s t h
  refine ofString_injective (encodeUtf8_inj (encodeUtf8_ofString s) ?_)
  rw [encodeUtf8_ofString, h]

theorem octets_append (s t : String) : octets (s ++ t) = octets s ++ octets t := by
  rw [octets, PyStr.ofString, String.toList_append, List.map_append, List.flatMap_append]
  rfl

/-- The digits of a number take one byte each. -/
theorem octets_numeral (n : ℕ) :
    octets (numeral n) = (Json.decimal n).map fun c ↦ c.val.toUInt8 := by
  rw [octets, ← List.flatMap_singleton' ((Json.decimal n).map _), List.flatMap_map]
  refine List.flatMap_congr fun c hc ↦ ?_
  have hdigit := Json.isDigit_of_mem_decimal hc
  rw [Json.isDigit, decide_eq_true_eq] at hdigit
  rw [encodeUtf8Char, if_pos (by omega)]
  rfl

theorem numeral_injective : Function.Injective numeral := by
  intro m n h
  have hdecimal : Json.decimal m = Json.decimal n := congrArg PyStr.ofString h
  rw [← Json.digitsValue_decimal m, hdecimal, Json.digitsValue_decimal]

theorem colon_notMem_numeral (n : ℕ) : (0x3a : UInt8) ∉ octets (numeral n) := by
  rw [octets_numeral, List.mem_map]
  rintro ⟨c, hc, hcolon⟩
  have hdigit := Json.isDigit_of_mem_decimal hc
  rw [Json.isDigit, decide_eq_true_eq] at hdigit
  have hvalue := congrArg UInt8.toNat hcolon
  rw [toNat_toUInt8] at hvalue
  change c.val % 256 = 0x3a at hvalue
  omega

/-! ## Digests and their hexadecimal digits -/

theorem hexDigit?_digitChar : ∀ n < 16,
    Json.hexDigit? ⟨(Nat.digitChar n).toNat, Char.toNat_lt_codePoints _⟩ = some n := by
  decide

namespace MySql

theorem unhexPairs_hex4 (n : ℕ) (rest : PyStr) :
    unhexPairs (PyStr.ofString (String.ofList (hex4 n)) ++ rest) =
      (unhexPairs rest).map (toBytesBig 2 n ++ ·) := by
  have hdigit : ∀ m, Json.hexDigit? ⟨(Nat.digitChar (m % 16)).toNat, Char.toNat_lt_codePoints _⟩ =
      some (m % 16) := fun m ↦ hexDigit?_digitChar _ (Nat.mod_lt _ (by omega))
  rw [Json.ofString_ofList]
  simp only [hex4, List.map_cons, List.map_nil, List.cons_append, List.nil_append, unhexPairs,
    hdigit, toBytesBig]
  have hhigh : 16 * (n / 4096 % 16) + n / 256 % 16 = n / 256 % 256 := by omega
  have hlow : 16 * (n / 16 % 16) + n % 16 = n % 256 := by omega
  cases unhexPairs rest with
  | none => rfl
  | some bytes =>
    simp only [Option.bind_eq_bind, Option.bind_some, Option.map_some, Option.pure_def, hhigh, hlow]

theorem toBytesBig_four (n : ℕ) :
    toBytesBig 4 n = toBytesBig 2 (n / 65536) ++ toBytesBig 2 (n % 65536) := by
  have hsecond : n / 256 / 256 % 256 = n / 65536 % 256 := by omega
  have hfirst : n / 256 / 256 / 256 % 256 = n / 65536 / 256 % 256 := by omega
  have hthird : n / 256 % 256 = n % 65536 / 256 % 256 := by omega
  have hfourth : n % 256 = n % 65536 % 256 := by omega
  simp only [toBytesBig, List.nil_append, List.cons_append, hfirst, hsecond, hthird, hfourth]

theorem unhexPairs_words (words : List UInt32) :
    unhexPairs (PyStr.ofString (String.ofList (words.flatMap fun word ↦
        hex4 (word.toNat / 65536) ++ hex4 (word.toNat % 65536)))) =
      some (words.flatMap fun word ↦ toBytesBig 4 word.toNat) := by
  induction words with
  | nil => rfl
  | cons word words ih =>
    have happend : ∀ a b : List Char, PyStr.ofString (String.ofList (a ++ b)) =
        PyStr.ofString (String.ofList a) ++ PyStr.ofString (String.ofList b) := by
      intro a b
      rw [Json.ofString_ofList, Json.ofString_ofList, Json.ofString_ofList, List.map_append]
    rw [List.flatMap_cons, happend, happend, List.append_assoc, unhexPairs_hex4, unhexPairs_hex4,
      ih, List.flatMap_cons, toBytesBig_four, List.append_assoc]
    rfl

theorem length_hexDigits (words : List UInt32) :
    (words.flatMap fun word ↦ hex4 (word.toNat / 65536) ++ hex4 (word.toNat % 65536)).length =
      8 * words.length := by
  induction words with
  | nil => rfl
  | cons word words ih =>
    rw [List.flatMap_cons, List.length_append, ih, List.length_cons]
    change 8 + 8 * words.length = _
    omega

/-- `UNHEX(SHA2(text, 256))` is the digest of the bytes of the text. -/
theorem unhex_sha2 (text : String) : unhex (sha2 text) = some (Sha256.digestBytes (octets text)) := by
  have hlength : (PyStr.ofString (sha2 text)).length % 2 = 0 := by
    rw [sha2, Sha256.hexdigest, Json.ofString_ofList, List.length_map, length_hexDigits]
    omega
  rw [unhex, if_pos hlength]
  exact unhexPairs_words _

/-! ## What is hashed -/

theorem utf8_eq_ok (value : String) : utf8 value = .ok (octets value) := by
  rw [utf8, encodeUtf8_ofString]

theorem prefixFree_lengthMark : Framing.PrefixFree Set.univ lengthMark :=
  Framing.prefixFree_of_terminated colon_notMem_numeral
    (octets_injective.comp numeral_injective)

/-- The four fields, framed. -/
theorem effectIdentityInput_eq (actionType : ActionType) (reference : SafeReference) :
    effectIdentityInput actionType reference =
      .ok (Framing.frames lengthMark
        [octets actionType.actionNamespace, octets actionType.name,
          octets (numeral actionType.version), octets reference]) := by
  rw [effectIdentityInput, utf8_eq_ok, utf8_eq_ok, utf8_eq_ok]
  rfl

/-- **Different effects are hashed from different bytes.** -/
theorem effectIdentityInput_inj {actionType actionType' : ActionType}
    {reference reference' : SafeReference} {bytes : Bytes}
    (h : effectIdentityInput actionType reference = .ok bytes)
    (h' : effectIdentityInput actionType' reference' = .ok bytes) :
    actionType = actionType' ∧ reference = reference' := by
  rw [effectIdentityInput_eq] at h h'
  have hframes := (Except.ok.inj h).trans (Except.ok.inj h').symm
  have hfields := Framing.frames_inj prefixFree_lengthMark (by simp only [List.length_cons])
    (fun _ _ ↦ Set.mem_univ _) (fun _ _ ↦ Set.mem_univ _) hframes
  simp only [List.cons.injEq, and_true] at hfields
  obtain ⟨hspace, hname, hversion, hreference⟩ := hfields
  refine ⟨?_, octets_injective hreference⟩
  cases actionType
  cases actionType'
  cases octets_injective hspace
  cases octets_injective hname
  cases numeral_injective (octets_injective hversion)
  rfl

/-- The expression joins the same frames as a text. -/
theorem octets_concat (actionType : ActionType) (reference : SafeReference) :
    effectIdentityInput actionType reference =
      .ok (octets (concat (effectRow actionType reference) effectIdentityArguments)) := by
  rw [effectIdentityInput_eq]
  simp only [concat, effectIdentityArguments, List.map_cons, List.map_nil, SqlExpression.evaluate,
    effectRow, SqlValue.toText, String.join_cons, String.join_nil, octets_append]
  have hcolon : octets ":" = bytesLiteral ":" := by decide
  have hempty : octets "" = [] := by decide
  simp only [Framing.frames_cons, Framing.frames_nil, Framing.frame, lengthMark, hcolon, hempty,
    List.append_assoc]

/-- **The generated column holds what the adapter computes.** -/
theorem effectIdentityColumn_eq {actionType : ActionType} {reference : SafeReference}
    {identity : Bytes} (h : effectIdentity actionType reference = .ok identity) :
    effectIdentityColumn (effectRow actionType reference) = some identity := by
  obtain ⟨-, -, h⟩ := Except.bind_eq_ok.mp h
  rw [octets_concat] at h
  rw [effectIdentityColumn, unhex_sha2]
  exact congrArg some (Except.ok.inj h)

end MySql

end ThrevoActions
