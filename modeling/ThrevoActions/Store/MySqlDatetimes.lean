import Mathlib.Computability.RegularExpressions
import ThrevoActions.Calendar.Gregorian
import ThrevoActions.Coding.Replace
import ThrevoActions.Json.RoundTrip

/-!
# Datetimes of a MySQL proposal document

The text that `_mysql_json_value` writes for a datetime, and what `threvo_actions_migrate_v1_datetime`
makes of a text with a numeric offset: the pattern it asks for, `STR_TO_DATE`, `TIMESTAMPADD` and
`DATE_FORMAT`. A datetime is a moment of a clock together with the clock's offset, and the adapter's
text of it depends on the instant only (`mysqlJsonDatetime_congr`).
-/

namespace ThrevoActions

namespace MySql

open Gregorian Json

/-! ## Numerals of a fixed width -/

/-- A number in decimal, zeros in front up to the width: `f"{n:04d}"`, and the numerals of
`DATE_FORMAT`. -/
def zeroPadded (width n : ℕ) : PyStr :=
  List.replicate (width - (decimal n).length) 0x30 ++ decimal n

/-- `LPAD(text, width, '0')`, which also cuts a longer text. -/
def lpad (text : PyStr) (width : ℕ) : PyStr :=
  (List.replicate (width - text.length) 0x30 ++ text).take width

theorem isDigit_of_mem_zeroPadded {width n : ℕ} {c : CodePoint} (h : c ∈ zeroPadded width n) :
    isDigit c = true := by
  rcases List.mem_append.mp h with hzero | hdigit
  · rw [List.eq_of_mem_replicate hzero]
    rfl
  · exact isDigit_of_mem_decimal hdigit

theorem length_zeroPadded {width n : ℕ} (hpos : 0 < width) (h : n < 10 ^ width) :
    (zeroPadded width n).length = width := by
  have hdecimal : (decimal n).length ≤ width := by
    rw [length_decimal]
    exact (Nat.length_toDigits_le_iff (by omega) hpos).mpr h
  rw [zeroPadded, List.length_append, List.length_replicate]
  omega

/-- A number that fits is padded, not cut. -/
theorem lpad_decimal {width n : ℕ} (hpos : 0 < width) (h : n < 10 ^ width) :
    lpad (decimal n) width = zeroPadded width n :=
  List.take_of_length_le (length_zeroPadded hpos h).le

/-! ## The adapter -/

/-- An aware `datetime`: a moment of the clock, and how far the clock is ahead of UTC. -/
structure AwareDatetime where
  clock : Moment
  utcoffset : ℤ
  deriving DecidableEq

namespace AwareDatetime

/-- The microseconds counted in UTC. -/
def instant (value : AwareDatetime) : ℤ := value.clock.micros - value.utcoffset

/-- `value.astimezone(UTC)`, which overflows where there is no such datetime. -/
def astimezoneUtc (value : AwareDatetime) : Option Moment := value.clock.shift (-value.utcoffset)

end AwareDatetime

/-- `isoformat()` of a datetime in UTC. -/
def isoformatUtc (moment : Moment) : PyStr :=
  zeroPadded 4 moment.date.year ++ [0x2d] ++ zeroPadded 2 moment.date.month ++ [0x2d] ++
    zeroPadded 2 moment.date.day ++ [0x54] ++ zeroPadded 2 moment.hour ++ [0x3a] ++
    zeroPadded 2 moment.minute ++ [0x3a] ++ zeroPadded 2 moment.second ++
    (if moment.microsecond = 0 then [] else 0x2e :: zeroPadded 6 moment.microsecond) ++
    PyStr.ofString "+00:00"

/-- `_mysql_json_value` of a datetime. -/
def mysqlJsonDatetime (value : AwareDatetime) : Option PyStr :=
  value.astimezoneUtc.map fun moment ↦
    Replace.replaceAll (PyStr.ofString "+00:00") (PyStr.ofString "Z") (isoformatUtc moment)

/-- **The adapter's text depends on the instant only.** -/
theorem mysqlJsonDatetime_congr {value other : AwareDatetime} (h : value.instant = other.instant) :
    mysqlJsonDatetime value = mysqlJsonDatetime other := by
  have hshift : value.astimezoneUtc = other.astimezoneUtc := by
    refine Moment.shift_congr ?_
    rw [AwareDatetime.instant, AwareDatetime.instant] at h
    omega
  rw [mysqlJsonDatetime, mysqlJsonDatetime, hshift]

/-! ## Reading a text -/

/-- A number of exactly that many digits. -/
def readNumber (width : ℕ) (text : PyStr) : Option (ℕ × PyStr) :=
  if (text.take width).length = width ∧ (text.take width).all isDigit = true then
    some (digitsValue (text.take width), text.drop width)
  else none

/-- That character. -/
def readMark (mark : CodePoint) : PyStr → Option PyStr
  | [] => none
  | c :: text => if c = mark then some text else none

/-- A fraction of a second, if there is one, in microseconds. -/
def readFraction : PyStr → Option (ℕ × PyStr)
  | [] => none
  | c :: text =>
    if c = 0x2e then
      let digits := text.takeWhile isDigit
      if 1 ≤ digits.length ∧ digits.length ≤ 6 then
        some (digitsValue digits * 10 ^ (6 - digits.length), text.dropWhile isDigit)
      else none
    else some (0, c :: text)

/-- The sign of an offset. -/
def readSign : PyStr → Option (ℤ × PyStr)
  | [] => none
  | c :: text => if c = 0x2b then some (1, text) else if c = 0x2d then some (-1, text) else none

/-- Year, month and day. -/
def readDate (text : PyStr) : Option ((ℕ × ℕ × ℕ) × PyStr) := do
  let (year, text) ← readNumber 4 text
  let text ← readMark 0x2d text
  let (month, text) ← readNumber 2 text
  let text ← readMark 0x2d text
  let (day, text) ← readNumber 2 text
  return ((year, month, day), text)

/-- Hour, minute, second and microsecond. -/
def readTime (text : PyStr) : Option ((ℕ × ℕ × ℕ × ℕ) × PyStr) := do
  let (hour, text) ← readNumber 2 text
  let text ← readMark 0x3a text
  let (minute, text) ← readNumber 2 text
  let text ← readMark 0x3a text
  let (second, text) ← readNumber 2 text
  let (microsecond, text) ← readFraction text
  return ((hour, minute, second, microsecond), text)

/-- The minutes ahead of UTC. -/
def readOffset (text : PyStr) : Option (ℤ × PyStr) := do
  let (sign, text) ← readSign text
  let (hours, text) ← readNumber 2 text
  let text ← readMark 0x3a text
  let (minutes, text) ← readNumber 2 text
  if hours < 24 ∧ minutes < 60 then some (sign * (hours * 60 + minutes), text) else none

/-- The datetime that a text names in the extended format with a numeric offset. -/
def awareDatetime? (text : PyStr) : Option AwareDatetime := do
  let ((year, month, day), text) ← readDate text
  let text ← readMark 0x54 text
  let ((hour, minute, second, microsecond), text) ← readTime text
  let (minutes, text) ← readOffset text
  let date ← date? year month day
  let clock ← Moment.at? date hour minute second microsecond
  if text = [] then some ⟨clock, minutes * 60000000⟩ else none

/-! ## The functions of MySQL -/

/-- What stands for what in a format of `STR_TO_DATE` and `DATE_FORMAT`. -/
inductive Directive
  | year
  | month
  | day
  | hour
  | minute
  | second
  | microsecond
  | mark (c : CodePoint)

/-- `'%Y-%m-%dT%H:%i:%s'`. -/
def secondsFormat : List Directive :=
  [.year, .mark 0x2d, .month, .mark 0x2d, .day, .mark 0x54, .hour, .mark 0x3a, .minute, .mark 0x3a,
    .second]

/-- `'%Y-%m-%dT%H:%i:%s.%f'`. -/
def microsecondsFormat : List Directive := secondsFormat ++ [.mark 0x2e, .microsecond]

/-- The numbers that `STR_TO_DATE` collects. -/
structure DateFields where
  year : ℕ := 0
  month : ℕ := 0
  day : ℕ := 0
  hour : ℕ := 0
  minute : ℕ := 0
  second : ℕ := 0
  microsecond : ℕ := 0

/-- The digits of a number, at most that many. -/
def scanDigits (width : ℕ) (text : PyStr) : Option (PyStr × PyStr) :=
  let digits := (text.take width).takeWhile isDigit
  if digits = [] then none else some (digits, text.drop digits.length)

def Directive.scan (fields : DateFields) (text : PyStr) : Directive → Option (DateFields × PyStr)
  | .year => (scanDigits 4 text).map (Prod.map ({ fields with year := digitsValue · }) id)
  | .month => (scanDigits 2 text).map (Prod.map ({ fields with month := digitsValue · }) id)
  | .day => (scanDigits 2 text).map (Prod.map ({ fields with day := digitsValue · }) id)
  | .hour => (scanDigits 2 text).map (Prod.map ({ fields with hour := digitsValue · }) id)
  | .minute => (scanDigits 2 text).map (Prod.map ({ fields with minute := digitsValue · }) id)
  | .second => (scanDigits 2 text).map (Prod.map ({ fields with second := digitsValue · }) id)
  -- A fraction of fewer digits counts in larger units.
  | .microsecond => (scanDigits 6 text).map (Prod.map
      (fun digits ↦
        { fields with microsecond := digitsValue digits * 10 ^ (6 - digits.length) }) id)
  | .mark c => (readMark c text).map fun rest ↦ (fields, rest)

def scanFormat : List Directive → DateFields → PyStr → Option DateFields
  | [], fields, _ => some fields
  | directive :: format, fields, text =>
    (directive.scan fields text).bind fun (fields, text) ↦ scanFormat format fields text

/-- The `DATETIME(6)` of the fields. -/
def DateFields.moment? (fields : DateFields) : Option Moment :=
  (date? fields.year fields.month fields.day).bind fun date ↦
    Moment.at? date fields.hour fields.minute fields.second fields.microsecond

/-- `STR_TO_DATE(text, format)` as a `DATETIME(6)`; what follows the format is not read. -/
def strToDate (text : PyStr) (format : List Directive) : Option Moment :=
  (scanFormat format {} text).bind DateFields.moment?

/-- `TIMESTAMPADD(MINUTE, minutes, moment)`. -/
def timestampAdd (minutes : ℤ) (moment : Moment) : Option Moment :=
  moment.shift (minutes * 60000000)

def Directive.write (moment : Moment) : Directive → PyStr
  | .year => zeroPadded 4 moment.date.year
  | .month => zeroPadded 2 moment.date.month
  | .day => zeroPadded 2 moment.date.day
  | .hour => zeroPadded 2 moment.hour
  | .minute => zeroPadded 2 moment.minute
  | .second => zeroPadded 2 moment.second
  | .microsecond => zeroPadded 6 moment.microsecond
  | .mark c => [c]

/-- `DATE_FORMAT(moment, format)`. -/
def dateFormat (moment : Moment) (format : List Directive) : PyStr :=
  format.flatMap (Directive.write moment)

/-- `LEFT(text, n)`. -/
def left (text : PyStr) (n : ℕ) : PyStr := text.take n

/-- `RIGHT(text, n)`. -/
def right (text : PyStr) (n : ℕ) : PyStr := text.drop (text.length - n)

/-- `SUBSTRING(text, position, n)`, the first position being 1. -/
def substring (text : PyStr) (position n : ℕ) : PyStr := (text.drop (position - 1)).take n

/-- The collation of the procedure's local text, which is the database's: what it takes for a
`Z`. -/
class Collation where
  equalsZ : CodePoint → Bool
  equalsZ_Z : equalsZ 0x5a = true
  equalsZ_digit : ∀ c, isDigit c = true → equalsZ c = false

/-! ### The pattern -/

/-- Whatever one of the patterns matches. -/
def anyOf (patterns : List (RegularExpression CodePoint)) : RegularExpression CodePoint :=
  patterns.foldr (· + ·) 0

/-- A class of characters. -/
def oneOf (letters : PyStr) : RegularExpression CodePoint := anyOf (letters.map .char)

def digit : RegularExpression CodePoint :=
  oneOf [0x30, 0x31, 0x32, 0x33, 0x34, 0x35, 0x36, 0x37, 0x38, 0x39]

/-- `[0-9]{4}-[0-9]{2}-[0-9]{2}T[0-9]{2}:[0-9]{2}:[0-9]{2}([.][0-9]{1,6})?`. -/
def clockPattern : RegularExpression CodePoint :=
  digit ^ 4 * .char 0x2d * digit ^ 2 * .char 0x2d * digit ^ 2 * .char 0x54 * digit ^ 2 *
    .char 0x3a * digit ^ 2 * .char 0x3a * digit ^ 2 *
    (1 + .char 0x2e * anyOf ((List.range' 1 6).map (digit ^ ·)))

/-- `[+-]([01][0-9]|2[0-3]):[0-5][0-9]`. -/
def offsetPattern : RegularExpression CodePoint :=
  oneOf [0x2b, 0x2d] *
    (oneOf [0x30, 0x31] * digit + .char 0x32 * oneOf [0x30, 0x31, 0x32, 0x33]) * .char 0x3a *
    (oneOf [0x30, 0x31, 0x32, 0x33, 0x34, 0x35] * digit)

/-- `$`, which also stands before a line terminator that ends the text. -/
def endPattern : RegularExpression CodePoint :=
  anyOf [1, .char 0x0a, .char 0x0b, .char 0x0c, .char 0x0d, .char 0x0d * .char 0x0a, .char 0x85,
    .char 0x2028, .char 0x2029]

/-- `REGEXP_LIKE` with the pattern of the procedure. -/
def regexpLike (text : PyStr) : Bool := (clockPattern * offsetPattern * endPattern).rmatch text

/-! ## Migrating a text -/

/-- `RIGHT(text_value, 1) = 'Z'`. -/
def endsInZ [Collation] (text : PyStr) : Bool := (right text 1).any Collation.equalsZ

/-- `offset_minutes`: what is added to a clock to give UTC. -/
def offsetMinutes (text : PyStr) : ℤ :=
  let minutes : ℤ := digitsValue (substring text (text.length - 4) 2) * 60 +
    digitsValue (right text 2)
  if substring text (text.length - 5) 1 = [0x2b] then -minutes else minutes

/-- `parsed_value`, in UTC. -/
def parsedValue (text : PyStr) : Option Moment :=
  (strToDate (left text (text.length - 6))
    (if 0x2e ∈ text then microsecondsFormat else secondsFormat)).bind
      (timestampAdd (offsetMinutes text))

/-- The text that takes the place of a converted one. -/
def convertedText (moment : Moment) : PyStr :=
  dateFormat moment secondsFormat ++
    (if moment.microsecond = 0 then [] else 0x2e :: lpad (decimal moment.microsecond) 6) ++ [0x5a]

/-- The signals of the procedure. -/
inductive MigrationSignal
  | invalidAwareDatetime
  | notRepresentable
  deriving DecidableEq

def MigrationSignal.messageText : MigrationSignal → String
  | .invalidAwareDatetime => "version-one proposal contains an invalid aware datetime"
  | .notRepresentable => "version-one proposal datetime cannot be represented by MySQL"

/-- What the procedure makes of a text: `none` where it sets nothing. -/
def migrateText [Collation] (text : PyStr) : Except MigrationSignal (Option PyStr) :=
  if endsInZ text then .ok none
  else if !regexpLike text then .error .invalidAwareDatetime
  else match parsedValue text with
    | none => .error .notRepresentable
    | some moment => .ok (some (convertedText moment))

end MySql

end ThrevoActions
