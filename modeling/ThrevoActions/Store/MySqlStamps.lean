import Mathlib.Data.List.TakeWhile
import ThrevoActions.Store.MySqlDatetimes

/-!
# Migrating a datetime text

A text that the procedure's pattern matches is a `Stamp`, numerals between marks. The reading of the
extended format and the functions of MySQL find the same numbers in it, so the procedure computes the
moment that the text names, in UTC (`parsedValue_of_regexpLike`), and what it writes is the adapter's
text of that instant (`migrateText_ok`).
-/

namespace ThrevoActions

namespace MySql

open Gregorian Json

/-! ## Texts of the pattern -/

/-- A numeral of that many digits. -/
def Digits (width : ℕ) (text : PyStr) : Prop :=
  text.length = width ∧ ∀ c ∈ text, isDigit c = true

theorem Digits.append {m n : ℕ} {s t : PyStr} (hs : Digits m s) (ht : Digits n t) :
    Digits (m + n) (s ++ t) := by
  refine ⟨by rw [List.length_append, hs.1, ht.1], fun c hc ↦ ?_⟩
  rcases List.mem_append.mp hc with hc | hc
  · exact hs.2 c hc
  · exact ht.2 c hc

theorem mem_anyOf {patterns : List (RegularExpression CodePoint)} {text : PyStr} :
    text ∈ (anyOf patterns).matches' ↔ ∃ pattern ∈ patterns, text ∈ pattern.matches' := by
  induction patterns with
  | nil =>
    refine ⟨fun h ↦ h.elim, ?_⟩
    rintro ⟨_, h, _⟩
    cases h
  | cons pattern patterns ih =>
    have hcons : text ∈ (anyOf (pattern :: patterns)).matches' ↔
        text ∈ pattern.matches' ∨ text ∈ (anyOf patterns).matches' := Iff.rfl
    rw [hcons, ih]
    simp only [List.mem_cons, exists_eq_or_imp]

theorem mem_oneOf {letters text : PyStr} (h : text ∈ (oneOf letters).matches') :
    ∃ c ∈ letters, text = [c] := by
  obtain ⟨pattern, hpattern, htext⟩ := mem_anyOf.mp h
  obtain ⟨c, hc, rfl⟩ := List.mem_map.mp hpattern
  exact ⟨c, hc, htext⟩

/-- The characters of a class that holds digits only. -/
theorem digits_of_mem_oneOf {letters text : PyStr} (hletters : ∀ c ∈ letters, isDigit c = true)
    (h : text ∈ (oneOf letters).matches') : Digits 1 text := by
  obtain ⟨c, hc, rfl⟩ := mem_oneOf h
  exact ⟨rfl, fun d hd ↦ List.mem_singleton.mp hd ▸ hletters c hc⟩

theorem digits_of_mem_digit {text : PyStr} (h : text ∈ digit.matches') : Digits 1 text :=
  digits_of_mem_oneOf (by simp [isDigit]) h

theorem digits_of_mem_pow {width : ℕ} {text : PyStr} (h : text ∈ (digit ^ width).matches') :
    Digits width text := by
  induction width generalizing text with
  | zero =>
    obtain rfl : text = [] := h
    exact ⟨rfl, fun c hc ↦ by cases hc⟩
  | succ width ih =>
    rw [RegularExpression.matches'_pow, pow_succ] at h
    obtain ⟨s, hs, t, ht, rfl⟩ := Language.mem_mul.mp h
    rw [← RegularExpression.matches'_pow] at hs
    exact (ih hs).append (digits_of_mem_digit ht)

/-- The numerals of a clock time in the extended format. -/
structure Stamp where
  year : PyStr
  month : PyStr
  day : PyStr
  hour : PyStr
  minute : PyStr
  second : PyStr
  fraction : Option PyStr
  sign : CodePoint
  offsetHours : PyStr
  offsetMinutes : PyStr
  year_digits : Digits 4 year
  month_digits : Digits 2 month
  day_digits : Digits 2 day
  hour_digits : Digits 2 hour
  minute_digits : Digits 2 minute
  second_digits : Digits 2 second
  fraction_digits : ∀ digits ∈ fraction, ∃ n, 1 ≤ n ∧ n ≤ 6 ∧ Digits n digits
  sign_mem : sign = 0x2b ∨ sign = 0x2d
  offsetHours_digits : Digits 2 offsetHours
  offsetMinutes_digits : Digits 2 offsetMinutes

/-- What the fraction group of the pattern matches. -/
theorem point_of_matches {text : PyStr}
    (h : text ∈ (1 + .char 0x2e * anyOf ((List.range' 1 6).map (digit ^ ·)) :
      RegularExpression CodePoint).matches') :
    ∃ fraction : Option PyStr, (∀ digits ∈ fraction, ∃ n, 1 ≤ n ∧ n ≤ 6 ∧ Digits n digits) ∧
      text = fraction.elim [] (0x2e :: ·) := by
  rw [RegularExpression.matches'_add, Language.mem_add] at h
  rcases h with hnone | hsome
  · exact ⟨none, by simp, hnone⟩
  · rw [RegularExpression.matches'_mul] at hsome
    obtain ⟨dot, hdot, digits, hdigits, rfl⟩ := Language.mem_mul.mp hsome
    obtain rfl : dot = [0x2e] := hdot
    obtain ⟨pattern, hpattern, hdigits⟩ := mem_anyOf.mp hdigits
    obtain ⟨n, hn, rfl⟩ := List.mem_map.mp hpattern
    rw [List.mem_range'_1] at hn
    refine ⟨some digits, ?_, rfl⟩
    intro other hother
    cases hother
    exact ⟨n, hn.1, by omega, digits_of_mem_pow hdigits⟩

/-- What the hours of an offset match. -/
theorem digits_of_hours {text : PyStr}
    (h : text ∈ (oneOf [0x30, 0x31] * digit + .char 0x32 * oneOf [0x30, 0x31, 0x32, 0x33] :
      RegularExpression CodePoint).matches') : Digits 2 text := by
  rw [RegularExpression.matches'_add, RegularExpression.matches'_mul,
    RegularExpression.matches'_mul, Language.mem_add] at h
  rcases h with hlow | htwenty
  · obtain ⟨s, hs, t, ht, rfl⟩ := Language.mem_mul.mp hlow
    exact (digits_of_mem_oneOf (by simp [isDigit]) hs).append (digits_of_mem_digit ht)
  · obtain ⟨s, hs, t, ht, rfl⟩ := Language.mem_mul.mp htwenty
    obtain rfl : s = [0x32] := hs
    have htwo : Digits 1 ([0x32] : PyStr) := ⟨rfl, by simp [isDigit]⟩
    exact htwo.append (digits_of_mem_oneOf (by simp [isDigit]) ht)

namespace Stamp

/-- The decimal point and the digits behind it. -/
def point (stamp : Stamp) : PyStr := stamp.fraction.elim [] (0x2e :: ·)

/-- The text before the offset. -/
def clockText (stamp : Stamp) : PyStr :=
  stamp.year ++ 0x2d :: (stamp.month ++ 0x2d :: (stamp.day ++ 0x54 :: (stamp.hour ++
    0x3a :: (stamp.minute ++ 0x3a :: (stamp.second ++ stamp.point)))))

def offsetText (stamp : Stamp) : PyStr :=
  stamp.sign :: (stamp.offsetHours ++ 0x3a :: stamp.offsetMinutes)

def text (stamp : Stamp) : PyStr := stamp.clockText ++ stamp.offsetText

/-- The numbers that a stamp writes. -/
def fields (stamp : Stamp) : DateFields where
  year := digitsValue stamp.year
  month := digitsValue stamp.month
  day := digitsValue stamp.day
  hour := digitsValue stamp.hour
  minute := digitsValue stamp.minute
  second := digitsValue stamp.second
  microsecond := stamp.fraction.elim 0 fun digits ↦ digitsValue digits * 10 ^ (6 - digits.length)

/-- The minutes of the offset, without its sign. -/
def minutes (stamp : Stamp) : ℕ :=
  digitsValue stamp.offsetHours * 60 + digitsValue stamp.offsetMinutes

end Stamp

/-- **A text of the pattern is a stamp**, with a line terminator behind it at most. -/
theorem exists_stamp {text : PyStr} (h : regexpLike text = true) :
    ∃ (stamp : Stamp) (ending : PyStr), text = stamp.text ++ ending := by
  have hmatch := (RegularExpression.rmatch_iff_matches' _ _).mp h
  rw [RegularExpression.matches'_mul, RegularExpression.matches'_mul] at hmatch
  obtain ⟨front, hfront, ending, -, rfl⟩ := Language.mem_mul.mp hmatch
  obtain ⟨clock, hclock, offset, hoffset, rfl⟩ := Language.mem_mul.mp hfront
  simp only [clockPattern, offsetPattern, RegularExpression.matches'_mul,
    RegularExpression.matches'_char, Language.mem_mul] at hclock hoffset
  obtain ⟨_, ⟨_, ⟨_, ⟨_, ⟨_, ⟨_, ⟨_, ⟨_, ⟨_, ⟨_, ⟨year, hyear, _, rfl, rfl⟩, month, hmonth, rfl⟩,
    _, rfl, rfl⟩, day, hday, rfl⟩, _, rfl, rfl⟩, hour, hhour, rfl⟩, _, rfl, rfl⟩, minute, hminute,
    rfl⟩, _, rfl, rfl⟩, second, hsecond, rfl⟩, point, hpoint, rfl⟩ := hclock
  obtain ⟨_, ⟨_, ⟨sign, hsign, hours, hhours, rfl⟩, _, rfl, rfl⟩, minutes, hminutes, rfl⟩ := hoffset
  obtain ⟨fraction, hfraction, rfl⟩ := point_of_matches hpoint
  obtain ⟨mark, hmark, rfl⟩ := mem_oneOf hsign
  obtain ⟨tens, htens, units, hunits, rfl⟩ := hminutes
  have hminutes : Digits 2 (tens ++ units) :=
    (digits_of_mem_oneOf (by simp [isDigit]) htens).append (digits_of_mem_digit hunits)
  refine ⟨⟨year, month, day, hour, minute, second, fraction, mark, hours, tens ++ units,
    digits_of_mem_pow hyear, digits_of_mem_pow hmonth, digits_of_mem_pow hday,
    digits_of_mem_pow hhour, digits_of_mem_pow hminute, digits_of_mem_pow hsecond, hfraction,
    ?_, digits_of_hours hhours, hminutes⟩, ending, ?_⟩
  · simpa using hmark
  · simp [Stamp.text, Stamp.clockText, Stamp.offsetText, Stamp.point]

/-! ## Both sides read a stamp -/

theorem Digits.append_take {width : ℕ} {digits : PyStr} (h : Digits width digits) (rest : PyStr) :
    (digits ++ rest).take width = digits := List.take_left' h.1

theorem Digits.append_drop {width : ℕ} {digits : PyStr} (h : Digits width digits) (rest : PyStr) :
    (digits ++ rest).drop width = rest := List.drop_left' h.1

theorem Digits.takeWhile {width : ℕ} {digits : PyStr} (h : Digits width digits) :
    digits.takeWhile isDigit = digits := List.takeWhile_eq_self_iff.mpr h.2

theorem readNumber_append {width : ℕ} {digits : PyStr} (h : Digits width digits) (rest : PyStr) :
    readNumber width (digits ++ rest) = some (digitsValue digits, rest) := by
  rw [readNumber, h.append_take, h.append_drop, if_pos ⟨h.1, List.all_eq_true.mpr h.2⟩]

theorem scanDigits_append {width : ℕ} {digits : PyStr} (h : Digits width digits)
    (hpos : 0 < width) (rest : PyStr) : scanDigits width (digits ++ rest) = some (digits, rest) := by
  have hne : digits ≠ [] := fun hnil ↦ by
    rw [← h.1, hnil] at hpos
    exact absurd hpos (lt_irrefl 0)
  rw [scanDigits, h.append_take, h.takeWhile, if_neg hne, h.1, h.append_drop]

@[simp] theorem readMark_self (mark : CodePoint) (text : PyStr) :
    readMark mark (mark :: text) = some text := by rw [readMark, if_pos rfl]

namespace Stamp

variable (stamp : Stamp)

theorem isDigit_sign : isDigit stamp.sign = false := by
  rcases stamp.sign_mem with h | h <;> rw [h] <;> rfl

theorem readFraction_point (rest : PyStr) :
    readFraction (stamp.point ++ stamp.sign :: rest) =
      some (stamp.fields.microsecond, stamp.sign :: rest) := by
  cases hfraction : stamp.fraction with
  | none =>
    have hsign : stamp.sign ≠ 0x2e := by
      rcases stamp.sign_mem with h | h <;> rw [h] <;> decide
    simp [point, fields, hfraction, readFraction, hsign]
  | some digits =>
    obtain ⟨n, hone, hsix, hdigits⟩ := stamp.fraction_digits digits hfraction
    have htake : (digits ++ stamp.sign :: rest).takeWhile isDigit = digits := by
      rw [List.takeWhile_append_of_pos hdigits.2, List.takeWhile_cons_of_neg (by
        simp [stamp.isDigit_sign]), List.append_nil]
    have hdrop : (digits ++ stamp.sign :: rest).dropWhile isDigit = stamp.sign :: rest := by
      rw [List.dropWhile_append_of_pos hdigits.2, List.dropWhile_cons_of_neg (by
        simp [stamp.isDigit_sign])]
    have hlength : 1 ≤ digits.length ∧ digits.length ≤ 6 := hdigits.1 ▸ ⟨hone, hsix⟩
    simp only [point, fields, hfraction, Option.elim_some, List.cons_append, readFraction, if_true,
      htake, hdrop]
    rw [if_pos hlength]

/-- The offset, in minutes ahead of UTC. -/
def ahead : ℤ := (if stamp.sign = 0x2b then 1 else -1) * stamp.minutes

theorem readSign_offset (rest : PyStr) :
    readSign (stamp.sign :: rest) = some (if stamp.sign = 0x2b then 1 else -1, rest) := by
  rcases stamp.sign_mem with h | h <;> simp [readSign, h]

theorem readDate_text (rest : PyStr) :
    readDate (stamp.year ++ 0x2d :: (stamp.month ++ 0x2d :: (stamp.day ++ rest))) =
      some ((stamp.fields.year, stamp.fields.month, stamp.fields.day), rest) := by
  simp [readDate, fields, readNumber_append stamp.year_digits,
    readNumber_append stamp.month_digits, readNumber_append stamp.day_digits]

theorem readTime_text (rest : PyStr) :
    readTime (stamp.hour ++ 0x3a :: (stamp.minute ++ 0x3a :: (stamp.second ++
      (stamp.point ++ stamp.sign :: rest)))) =
      some ((stamp.fields.hour, stamp.fields.minute, stamp.fields.second,
        stamp.fields.microsecond), stamp.sign :: rest) := by
  simp [readTime, fields, readNumber_append stamp.hour_digits,
    readNumber_append stamp.minute_digits, readNumber_append stamp.second_digits,
    readFraction_point]

theorem readOffset_text (ending : PyStr) :
    readOffset (stamp.sign :: (stamp.offsetHours ++ 0x3a :: (stamp.offsetMinutes ++ ending))) =
      if digitsValue stamp.offsetHours < 24 ∧ digitsValue stamp.offsetMinutes < 60 then
        some (stamp.ahead, ending)
      else none := by
  simp [readOffset, readSign_offset, readNumber_append stamp.offsetHours_digits,
    readNumber_append stamp.offsetMinutes_digits, ahead, minutes]

/-- A stamp names the moment of its numbers, if anything. -/
theorem awareDatetime?_text {ending : PyStr} {value : AwareDatetime}
    (h : awareDatetime? (stamp.text ++ ending) = some value) :
    ending = [] ∧ stamp.fields.moment? = some value.clock ∧
      value.utcoffset = stamp.ahead * 60000000 := by
  have htext : stamp.text ++ ending = stamp.year ++ 0x2d :: (stamp.month ++ 0x2d :: (stamp.day ++
      0x54 :: (stamp.hour ++ 0x3a :: (stamp.minute ++ 0x3a :: (stamp.second ++ (stamp.point ++
        stamp.sign :: (stamp.offsetHours ++ 0x3a :: (stamp.offsetMinutes ++ ending)))))))) := by
    simp [text, clockText, offsetText]
  rw [awareDatetime?, htext, readDate_text] at h
  simp only [Option.bind_eq_bind, Option.bind_some, readMark_self, readTime_text,
    readOffset_text] at h
  obtain ⟨⟨minutes, rest⟩, hoffset, h⟩ := Option.bind_eq_some_iff.mp h
  obtain ⟨date, hdate, h⟩ := Option.bind_eq_some_iff.mp h
  obtain ⟨clock, hclock, h⟩ := Option.bind_eq_some_iff.mp h
  split_ifs at hoffset h with hrange hrest
  cases hoffset
  cases h
  refine ⟨hrest, ?_, rfl⟩
  rw [DateFields.moment?, hdate]
  exact hclock

theorem dot_notMem {width : ℕ} {digits : PyStr} (h : Digits width digits) : 0x2e ∉ digits :=
  fun hmem ↦ absurd (h.2 _ hmem) (by simp [isDigit])

/-- Only a fraction has a point. -/
theorem dot_mem_text : 0x2e ∈ stamp.text ↔ stamp.fraction.isSome = true := by
  have hsign : stamp.sign ≠ 0x2e := by
    rcases stamp.sign_mem with h | h <;> rw [h] <;> decide
  cases hfraction : stamp.fraction <;>
    simp [text, clockText, offsetText, point, hfraction, hsign.symm, dot_notMem stamp.year_digits,
      dot_notMem stamp.month_digits, dot_notMem stamp.day_digits, dot_notMem stamp.hour_digits,
      dot_notMem stamp.minute_digits, dot_notMem stamp.second_digits,
      dot_notMem stamp.offsetHours_digits, dot_notMem stamp.offsetMinutes_digits]

theorem scanFormat_secondsFormat (more : List Directive) :
    scanFormat (secondsFormat ++ more) {} stamp.clockText =
      scanFormat more { stamp.fields with microsecond := 0 } stamp.point := by
  simp [secondsFormat, scanFormat, clockText, Directive.scan, fields,
    scanDigits_append stamp.year_digits, scanDigits_append stamp.month_digits,
    scanDigits_append stamp.day_digits, scanDigits_append stamp.hour_digits,
    scanDigits_append stamp.minute_digits, scanDigits_append stamp.second_digits]

/-- What MySQL reads of a stamp. -/
theorem strToDate_clockText :
    strToDate stamp.clockText (if 0x2e ∈ stamp.text then microsecondsFormat else secondsFormat) =
      stamp.fields.moment? := by
  simp only [stamp.dot_mem_text]
  cases hfraction : stamp.fraction with
  | none =>
    have hscan := stamp.scanFormat_secondsFormat []
    rw [List.append_nil] at hscan
    simp [strToDate, hscan, scanFormat, fields, hfraction]
  | some digits =>
    obtain ⟨n, hone, hsix, hdigits⟩ := stamp.fraction_digits digits hfraction
    have htake : digits.take 6 = digits := List.take_of_length_le (hdigits.1 ▸ hsix)
    have hne : digits ≠ [] := fun hnil ↦ by
      rw [← hdigits.1, hnil] at hone
      exact absurd hone (by simp)
    have hscan : scanDigits 6 digits = some (digits, []) := by
      rw [scanDigits, htake, hdigits.takeWhile, if_neg hne, List.drop_length]
    simp [strToDate, microsecondsFormat, scanFormat_secondsFormat, scanFormat, fields, hfraction,
      point, Directive.scan, hscan]

/-! ### The parts that the procedure cuts out -/

theorem length_offsetText : stamp.offsetText.length = 6 := by
  rw [offsetText, List.length_cons, List.length_append, List.length_cons,
    stamp.offsetHours_digits.1, stamp.offsetMinutes_digits.1]

theorem length_text : stamp.text.length = stamp.clockText.length + 6 := by
  rw [text, List.length_append, length_offsetText]

theorem drop_text (n : ℕ) :
    stamp.text.drop (stamp.clockText.length + n) = stamp.offsetText.drop n := by
  rw [text, List.drop_append, List.drop_eq_nil_of_le (Nat.le_add_right _ _), Nat.add_sub_cancel_left,
    List.nil_append]

theorem left_text : left stamp.text (stamp.text.length - 6) = stamp.clockText := by
  rw [left, length_text, Nat.add_sub_cancel, text, List.take_left']
  rfl

theorem substring_sign : substring stamp.text (stamp.text.length - 5) 1 = [stamp.sign] := by
  have hposition : stamp.clockText.length + 6 - 5 - 1 = stamp.clockText.length + 0 := by omega
  rw [substring, length_text, hposition, drop_text, List.drop_zero, offsetText, List.take_succ_cons,
    List.take_zero]

theorem substring_hours : substring stamp.text (stamp.text.length - 4) 2 = stamp.offsetHours := by
  have hposition : stamp.clockText.length + 6 - 4 - 1 = stamp.clockText.length + 1 := by omega
  rw [substring, length_text, hposition, drop_text, offsetText, List.drop_succ_cons, List.drop_zero,
    stamp.offsetHours_digits.append_take]

theorem right_minutes : right stamp.text 2 = stamp.offsetMinutes := by
  have hposition : stamp.clockText.length + 6 - 2 = stamp.clockText.length + 4 := by omega
  have hmark : stamp.offsetText = (stamp.sign :: (stamp.offsetHours ++ [0x3a])) ++
      stamp.offsetMinutes := by simp [offsetText]
  rw [right, length_text, hposition, drop_text, hmark, List.drop_left']
  simp [stamp.offsetHours_digits.1]

theorem offsetMinutes_text : MySql.offsetMinutes stamp.text = -stamp.ahead := by
  rw [MySql.offsetMinutes, substring_sign, substring_hours, right_minutes, ahead, minutes]
  rcases stamp.sign_mem with h | h <;> simp [h]

/-- The procedure computes the moment of a stamp in UTC. -/
theorem parsedValue_text : parsedValue stamp.text =
    stamp.fields.moment?.bind (timestampAdd (-stamp.ahead)) := by
  rw [parsedValue, left_text, strToDate_clockText, offsetMinutes_text]

end Stamp

/-! ## The text written in its place -/

/-- What both sides write before the zone. -/
def clockDigits (moment : Moment) : PyStr :=
  dateFormat moment secondsFormat ++
    (if moment.microsecond = 0 then [] else 0x2e :: zeroPadded 6 moment.microsecond)

theorem convertedText_eq (moment : Moment) : convertedText moment = clockDigits moment ++ [0x5a] := by
  have hmicrosecond : moment.microsecond < 10 ^ 6 := Nat.mod_lt _ (by omega)
  rw [convertedText, clockDigits, lpad_decimal (by omega) hmicrosecond]

theorem isoformatUtc_eq (moment : Moment) :
    isoformatUtc moment = clockDigits moment ++ PyStr.ofString "+00:00" := by
  simp [isoformatUtc, clockDigits, dateFormat, secondsFormat, Directive.write]

theorem plus_notMem_zeroPadded (width n : ℕ) : 0x2b ∉ zeroPadded width n :=
  fun hmem ↦ absurd (isDigit_of_mem_zeroPadded hmem) (by simp [isDigit])

theorem plus_notMem_clockDigits (moment : Moment) : 0x2b ∉ clockDigits moment := by
  rw [clockDigits]
  split_ifs <;>
    simp [dateFormat, secondsFormat, Directive.write, plus_notMem_zeroPadded]

/-- **The converted text is the adapter's.** -/
theorem mysqlJsonDatetime_eq {value : AwareDatetime} {moment : Moment}
    (h : value.astimezoneUtc = some moment) :
    mysqlJsonDatetime value = some (convertedText moment) := by
  have hzone : PyStr.ofString "+00:00" = [0x2b, 0x30, 0x30, 0x3a, 0x30, 0x30] := rfl
  have hreplaced : Replace.replaceAll [0x2b, 0x30, 0x30, 0x3a, 0x30, 0x30] (PyStr.ofString "Z")
      ([0x2b, 0x30, 0x30, 0x3a, 0x30, 0x30] ++ []) = PyStr.ofString "Z" ++ [] :=
    Replace.replaceAll_append_of_pos (List.cons_ne_nil _ _) []
  rw [List.append_nil, List.append_nil] at hreplaced
  rw [mysqlJsonDatetime, h, Option.map_some, isoformatUtc_eq, convertedText_eq, hzone,
    Replace.replaceAll_append_of_notMem (plus_notMem_clockDigits moment), hreplaced]
  rfl

/-! ## What the reading leaves unread -/

theorem readNumber_suffix {width n : ℕ} {text rest : PyStr}
    (h : readNumber width text = some (n, rest)) : rest <:+ text := by
  rw [readNumber] at h
  split_ifs at h
  cases h
  exact List.drop_suffix _ _

theorem readMark_suffix {mark : CodePoint} {text rest : PyStr} (h : readMark mark text = some rest) :
    rest <:+ text := by
  cases text with
  | nil => cases h
  | cons c text =>
    rw [readMark] at h
    split_ifs at h
    cases h
    exact List.suffix_cons _ _

theorem readFraction_suffix {n : ℕ} {text rest : PyStr} (h : readFraction text = some (n, rest)) :
    rest <:+ text := by
  cases text with
  | nil => cases h
  | cons c text =>
    rw [readFraction] at h
    dsimp only at h
    split_ifs at h
    · cases h
      exact (List.dropWhile_suffix _).trans (List.suffix_cons _ _)
    · cases h
      exact List.suffix_rfl

theorem readDate_suffix {date : ℕ × ℕ × ℕ} {text rest : PyStr}
    (h : readDate text = some (date, rest)) : rest <:+ text := by
  obtain ⟨⟨_, a⟩, ha, h⟩ := Option.bind_eq_some_iff.mp h
  obtain ⟨b, hb, h⟩ := Option.bind_eq_some_iff.mp h
  obtain ⟨⟨_, c⟩, hc, h⟩ := Option.bind_eq_some_iff.mp h
  obtain ⟨d, hd, h⟩ := Option.bind_eq_some_iff.mp h
  obtain ⟨⟨_, e⟩, he, h⟩ := Option.bind_eq_some_iff.mp h
  cases h
  exact (readNumber_suffix he).trans <| (readMark_suffix hd).trans <| (readNumber_suffix hc).trans <|
    (readMark_suffix hb).trans (readNumber_suffix ha)

theorem readTime_suffix {time : ℕ × ℕ × ℕ × ℕ} {text rest : PyStr}
    (h : readTime text = some (time, rest)) : rest <:+ text := by
  obtain ⟨⟨_, a⟩, ha, h⟩ := Option.bind_eq_some_iff.mp h
  obtain ⟨b, hb, h⟩ := Option.bind_eq_some_iff.mp h
  obtain ⟨⟨_, c⟩, hc, h⟩ := Option.bind_eq_some_iff.mp h
  obtain ⟨d, hd, h⟩ := Option.bind_eq_some_iff.mp h
  obtain ⟨⟨_, e⟩, he, h⟩ := Option.bind_eq_some_iff.mp h
  obtain ⟨⟨_, f⟩, hf, h⟩ := Option.bind_eq_some_iff.mp h
  cases h
  exact (readFraction_suffix hf).trans <| (readNumber_suffix he).trans <|
    (readMark_suffix hd).trans <| (readNumber_suffix hc).trans <|
    (readMark_suffix hb).trans (readNumber_suffix ha)

theorem readSign_suffix {sign : ℤ} {text rest : PyStr} (h : readSign text = some (sign, rest)) :
    rest <:+ text := by
  cases text with
  | nil => cases h
  | cons c text =>
    rw [readSign] at h
    split_ifs at h <;>
    · cases h
      exact List.suffix_cons _ _

/-- A number that ends a text ends it in a digit. -/
theorem readNumber_last {n : ℕ} {text : PyStr} (h : readNumber 2 text = some (n, [])) :
    ∃ tens units : CodePoint, text = [tens, units] ∧ isDigit units = true := by
  rw [readNumber] at h
  split_ifs at h with hdigits
  obtain ⟨-, hdrop⟩ := Prod.mk.inj (Option.some.inj h)
  have htake : text.take 2 = text := by
    have hsplit := List.take_append_drop 2 text
    rwa [hdrop, List.append_nil] at hsplit
  rw [htake] at hdigits
  obtain ⟨tens, units, rfl⟩ := List.length_eq_two.mp hdigits.1
  exact ⟨tens, units, rfl, List.all_eq_true.mp hdigits.2 units (by simp)⟩

/-- An offset ends in a digit. -/
theorem readOffset_last {minutes : ℤ} {text : PyStr} (h : readOffset text = some (minutes, [])) :
    ∃ (front : PyStr) (last : CodePoint), text = front ++ [last] ∧ isDigit last = true := by
  obtain ⟨⟨_, a⟩, ha, h⟩ := Option.bind_eq_some_iff.mp h
  obtain ⟨⟨_, b⟩, hb, h⟩ := Option.bind_eq_some_iff.mp h
  obtain ⟨c, hc, h⟩ := Option.bind_eq_some_iff.mp h
  obtain ⟨⟨_, d⟩, hd, h⟩ := Option.bind_eq_some_iff.mp h
  dsimp only at h
  split_ifs at h
  cases h
  obtain ⟨tens, units, rfl, hunits⟩ := readNumber_last hd
  obtain ⟨front, rfl⟩ :=
    (readMark_suffix hc).trans ((readNumber_suffix hb).trans (readSign_suffix ha))
  exact ⟨front ++ [tens], units, by simp, hunits⟩

/-- A numeric offset is not taken for a `Z`. -/
theorem endsInZ_of_awareDatetime? [Collation] {text : PyStr} {value : AwareDatetime}
    (h : awareDatetime? text = some value) : endsInZ text = false := by
  obtain ⟨⟨_, a⟩, ha, h⟩ := Option.bind_eq_some_iff.mp h
  obtain ⟨b, hb, h⟩ := Option.bind_eq_some_iff.mp h
  obtain ⟨⟨_, c⟩, hc, h⟩ := Option.bind_eq_some_iff.mp h
  obtain ⟨⟨_, d⟩, hd, h⟩ := Option.bind_eq_some_iff.mp h
  obtain ⟨_, -, h⟩ := Option.bind_eq_some_iff.mp h
  obtain ⟨_, -, h⟩ := Option.bind_eq_some_iff.mp h
  split_ifs at h with hend
  rw [hend] at hd
  obtain ⟨front, last, rfl, hlast⟩ := readOffset_last hd
  obtain ⟨start, rfl⟩ :=
    (readTime_suffix hc).trans ((readMark_suffix hb).trans (readDate_suffix ha))
  have hright : right (start ++ (front ++ [last])) 1 = [last] := by
    rw [right, ← List.append_assoc, List.length_append, List.length_singleton, Nat.add_sub_cancel,
      List.drop_left' rfl]
  rw [endsInZ, hright, List.any_cons, Collation.equalsZ_digit last hlast, List.any_nil,
    Bool.or_false]

/-- The procedure computes the moment that a text of the pattern names, in UTC. -/
theorem parsedValue_of_regexpLike {text : PyStr} (hlike : regexpLike text = true)
    {value : AwareDatetime} (hvalue : awareDatetime? text = some value) :
    parsedValue text = value.astimezoneUtc := by
  obtain ⟨stamp, ending, rfl⟩ := exists_stamp hlike
  obtain ⟨rfl, hclock, hoffset⟩ := stamp.awareDatetime?_text hvalue
  rw [List.append_nil, Stamp.parsedValue_text, hclock, Option.bind_some, timestampAdd,
    AwareDatetime.astimezoneUtc, hoffset, neg_mul]

section Migrating

variable [Collation]

/-- A converted text ends in `Z`. -/
theorem endsInZ_convertedText (moment : Moment) : endsInZ (convertedText moment) = true := by
  have hright : right (convertedText moment) 1 = [0x5a] := by
    rw [convertedText_eq, right, List.length_append, List.length_singleton, Nat.add_sub_cancel,
      List.drop_left' rfl]
  rw [endsInZ, hright, List.any_cons, Collation.equalsZ_Z, Bool.true_or]

/-- What a valid timestamp promises of a text of the pattern, which also lets through a thirteenth
month or a line terminator at the end: it names a datetime. -/
def NamesDatetime (text : PyStr) : Prop :=
  regexpLike text = true → (awareDatetime? text).isSome = true

/-- No `Z` at the end, and either not a text of the pattern or one whose instant is in no year from
1 to 9999. -/
def NotConvertible (text : PyStr) : Prop :=
  endsInZ text = false ∧ (regexpLike text = false ∨
    ∃ value, awareDatetime? text = some value ∧ mysqlJsonDatetime value = none)

/-- A datetime with a numeric offset becomes the adapter's text of its instant, whatever offset that
instant is given with; anything else stays, and ends in `Z`. -/
def ConvertedText (text text' : PyStr) : Prop :=
  match awareDatetime? text with
  | some value =>
    ∀ other : AwareDatetime, other.instant = value.instant → mysqlJsonDatetime other = some text'
  | none => endsInZ text = true ∧ text' = text

theorem migrateText_error {text : PyStr} (hvalid : NamesDatetime text) {signal : MigrationSignal}
    (h : migrateText text = .error signal) : NotConvertible text := by
  rw [migrateText] at h
  split_ifs at h with hz hlike
  · exact ⟨by simpa using hz, .inl (by simpa using hlike)⟩
  · have hlike : regexpLike text = true := by simpa using hlike
    obtain ⟨value, hvalue⟩ := Option.isSome_iff_exists.mp (hvalid hlike)
    rw [parsedValue_of_regexpLike hlike hvalue] at h
    cases hutc : value.astimezoneUtc with
    | none =>
      refine ⟨by simpa using hz, .inr ⟨value, hvalue, ?_⟩⟩
      rw [mysqlJsonDatetime, hutc, Option.map_none]
    | some moment =>
      rw [hutc] at h
      cases h

/-- **What the procedure sets is the adapter's text of the instant**, and what it leaves ends in
`Z`. -/
theorem migrateText_ok {text : PyStr} (hvalid : NamesDatetime text) {new : Option PyStr}
    (h : migrateText text = .ok new) :
    ConvertedText text (new.getD text) ∧ endsInZ (new.getD text) = true := by
  rw [migrateText] at h
  split_ifs at h with hz hlike
  · cases h
    have hnone : awareDatetime? text = none := by
      cases hvalue : awareDatetime? text with
      | none => rfl
      | some value => exact absurd hz (by rw [endsInZ_of_awareDatetime? hvalue]; simp)
    rw [ConvertedText, hnone]
    exact ⟨⟨hz, rfl⟩, hz⟩
  · have hlike : regexpLike text = true := by simpa using hlike
    obtain ⟨value, hvalue⟩ := Option.isSome_iff_exists.mp (hvalid hlike)
    rw [parsedValue_of_regexpLike hlike hvalue] at h
    cases hutc : value.astimezoneUtc with
    | none =>
      rw [hutc] at h
      cases h
    | some moment =>
      rw [hutc] at h
      cases h
      rw [ConvertedText, hvalue]
      refine ⟨fun other hother ↦ ?_, endsInZ_convertedText moment⟩
      rw [mysqlJsonDatetime_congr hother, mysqlJsonDatetime_eq hutc, Option.getD_some]

end Migrating

end MySql

end ThrevoActions
