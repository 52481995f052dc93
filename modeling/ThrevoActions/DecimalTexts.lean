import ThrevoActions.Json.Refusals
import ThrevoActions.Money

/-!
# The texts of decimals

`str(d)` is one-to-one: the exponent of a decimal can be read off its text. The text is a sign, a
body of digits with at most one dot, and a suffix with the power of ten.
-/

namespace ThrevoActions

namespace Decimal

variable (d : Decimal)

/-! ## The parts of a text -/

def digits : List Char := Nat.toDigits 10 d.coefficient

def leftDigits : ℤ := d.exponent + d.digits.length

/-- The number of digits before the dot. -/
def dotPlace : ℤ := if d.exponent ≤ 0 ∧ -6 < d.leftDigits then d.leftDigits else 1

def textSign : List Char := if d.negative then ['-'] else []

def textBody : List Char :=
  if d.dotPlace ≤ 0 then '0' :: '.' :: List.replicate (-d.dotPlace).toNat '0' ++ d.digits
  else if d.digits.length ≤ d.dotPlace then
    d.digits ++ List.replicate (d.dotPlace - d.digits.length).toNat '0'
  else d.digits.take d.dotPlace.toNat ++ '.' :: d.digits.drop d.dotPlace.toNat

/-- The power of ten that the suffix shows. -/
def power : ℤ := d.leftDigits - d.dotPlace

def suffixOf (power : ℤ) : List Char :=
  if power = 0 then []
  else 'E' :: (if power < 0 then '-' else '+') :: Nat.toDigits 10 power.natAbs

theorem text_eq : d.text = String.ofList (d.textSign ++ d.textBody ++ suffixOf d.power) := rfl

variable {d}

theorem isDigit_of_mem_digits {c : Char} (h : c ∈ d.digits) : c.isDigit = true :=
  Nat.isDigit_of_mem_toDigits (by omega) le_rfl h

theorem digits_length_pos : 0 < d.digits.length := Nat.length_toDigits_pos

theorem mem_textBody {c : Char} (h : c ∈ d.textBody) : c.isDigit = true ∨ c = '.' := by
  rw [textBody] at h
  split at h
  · rcases List.mem_cons.mp h with rfl | h
    · exact Or.inl (by decide)
    · rcases List.mem_cons.mp h with rfl | h
      · exact Or.inr rfl
      · rcases List.mem_append.mp h with h | h
        · rw [List.eq_of_mem_replicate h]
          exact Or.inl (by decide)
        · exact Or.inl (isDigit_of_mem_digits h)
  · split at h
    · rcases List.mem_append.mp h with h | h
      · exact Or.inl (isDigit_of_mem_digits h)
      · rw [List.eq_of_mem_replicate h]
        exact Or.inl (by decide)
    · rcases List.mem_append.mp h with h | h
      · exact Or.inl (isDigit_of_mem_digits (List.mem_of_mem_take h))
      · rcases List.mem_cons.mp h with rfl | h
        · exact Or.inr rfl
        · exact Or.inl (isDigit_of_mem_digits (List.mem_of_mem_drop h))

theorem mem_textSign {c : Char} (h : c ∈ d.textSign) : c = '-' := by
  rw [textSign] at h
  split at h
  · exact List.mem_singleton.mp h
  · cases h

/-- The dot never stands after the last digit. -/
theorem dotPlace_le : d.dotPlace ≤ d.digits.length := by
  have hpos := digits_length_pos (d := d)
  rw [dotPlace]
  split
  · rename_i hplain
    rw [leftDigits]
    omega
  · omega

/-! ## Reading a text -/

/-- The number of digits after the dot. -/
def fractionLength (body : List Char) : ℕ := (body.dropWhile fun c ↦ c ≠ '.').length - 1

theorem dropWhile_of_digits {digits rest : List Char} (h : ∀ c ∈ digits, c ≠ '.') :
    (digits ++ rest).dropWhile (fun c ↦ c ≠ '.') = rest.dropWhile fun c ↦ c ≠ '.' :=
  List.dropWhile_append_of_pos fun c hc ↦ decide_eq_true (h c hc)

theorem ne_dot_of_isDigit {c : Char} (h : c.isDigit = true) : c ≠ '.' := by
  rintro rfl
  exact absurd h (by decide)

theorem fractionLength_textBody : (fractionLength d.textBody : ℤ) = d.digits.length - d.dotPlace := by
  have hle := dotPlace_le (d := d)
  rw [fractionLength, textBody]
  split
  · rename_i hdot
    have hzero : ('0' :: '.' :: List.replicate (-d.dotPlace).toNat '0' ++ d.digits).dropWhile
        (fun c ↦ c ≠ '.') = '.' :: List.replicate (-d.dotPlace).toNat '0' ++ d.digits := rfl
    rw [hzero, List.length_append, List.length_cons, List.length_replicate]
    omega
  · split
    · rename_i hdot hlength
      have hplaces : (d.dotPlace - d.digits.length).toNat = 0 := by omega
      rw [hplaces, List.replicate_zero, dropWhile_of_digits fun c hc ↦
        ne_dot_of_isDigit (isDigit_of_mem_digits hc), List.dropWhile_nil, List.length_nil]
      omega
    · rename_i hdot hlength
      rw [dropWhile_of_digits fun c hc ↦
        ne_dot_of_isDigit (isDigit_of_mem_digits (List.mem_of_mem_take hc))]
      have hdrop : ('.' :: d.digits.drop d.dotPlace.toNat).dropWhile (fun c ↦ c ≠ '.') =
          '.' :: d.digits.drop d.dotPlace.toNat := rfl
      rw [hdrop, List.length_cons, List.length_drop]
      omega

theorem toDigits_inj {m n : ℕ} (h : Nat.toDigits 10 m = Nat.toDigits 10 n) : m = n := by
  rw [← Nat.ofDigitChars_ten_toDigits (n := m), h, Nat.ofDigitChars_ten_toDigits]

theorem suffixOf_inj {p q : ℤ} (h : suffixOf p = suffixOf q) : p = q := by
  rw [suffixOf, suffixOf] at h
  by_cases hp : p = 0
  · by_cases hq : q = 0
    · rw [hp, hq]
    · rw [if_pos hp, if_neg hq] at h
      cases h
  · by_cases hq : q = 0
    · rw [if_neg hp, if_pos hq] at h
      cases h
    · rw [if_neg hp, if_neg hq, List.cons.injEq, List.cons.injEq] at h
      obtain ⟨-, hsign, hdigits⟩ := h
      have habs := toDigits_inj hdigits
      have hnegative : p < 0 ↔ q < 0 := by
        by_cases hp : p < 0 <;> by_cases hq : q < 0 <;> simp [hp, hq] at hsign ⊢
      omega

/-- Only the suffix of a text has the letter of the exponent. -/
theorem ne_exponent_of_mem {c : Char} (h : c ∈ d.textSign ++ d.textBody) : c ≠ 'E' := by
  rintro rfl
  rcases List.mem_append.mp h with h | h
  · exact absurd (mem_textSign h) (by decide)
  · exact absurd (mem_textBody h) (by decide)

theorem takeWhile_suffixOf (p : ℤ) : (suffixOf p).takeWhile (fun c ↦ c ≠ 'E') = [] := by
  rw [suffixOf]
  split <;> rfl

theorem takeWhile_text : d.text.toList.takeWhile (fun c ↦ c ≠ 'E') = d.textSign ++ d.textBody := by
  rw [text_eq, String.toList_ofList, List.takeWhile_append_of_pos, takeWhile_suffixOf,
    List.append_nil]
  exact fun c hc ↦ decide_eq_true (ne_exponent_of_mem hc)

/-- The exponent of a decimal is the power its text shows less the places after the dot. -/
theorem exponent_eq : d.exponent = d.power - fractionLength (d.textSign ++ d.textBody) := by
  have hsign : (d.textSign ++ d.textBody).dropWhile (fun c ↦ c ≠ '.') =
      d.textBody.dropWhile fun c ↦ c ≠ '.' := by
    refine dropWhile_of_digits fun c hc ↦ ?_
    rw [mem_textSign hc]
    decide
  have hfraction := fractionLength_textBody (d := d)
  rw [fractionLength] at hfraction
  rw [fractionLength, hsign, hfraction, power, leftDigits]
  omega

/-- **The text of a decimal determines its exponent.** -/
theorem exponent_of_text_eq {a b : Decimal} (h : a.text = b.text) : a.exponent = b.exponent := by
  have hfront : a.textSign ++ a.textBody = b.textSign ++ b.textBody := by
    rw [← takeWhile_text, h, takeWhile_text]
  have hpower : a.power = b.power := by
    rw [text_eq, text_eq, hfront, String.ofList_inj, List.append_cancel_left_eq] at h
    exact suffixOf_inj h
  rw [exponent_eq, exponent_eq, hfront, hpower]

/-- Texts of decimals are ASCII texts. -/
theorem text_ascii {c : Char} (h : c ∈ d.text.toList) : c.toNat < 0x80 := by
  have hdigit : ∀ {c : Char}, c.isDigit = true → c.toNat < 0x80 := by
    intro c hc
    rw [Char.isDigit, Bool.and_eq_true, decide_eq_true_eq, decide_eq_true_eq] at hc
    have hle := UInt32.le_iff_toNat_le.mp hc.2
    exact lt_of_le_of_lt hle (by decide)
  rw [text_eq, String.toList_ofList] at h
  rcases List.mem_append.mp h with h | h
  · rcases List.mem_append.mp h with h | h
    · rw [mem_textSign h]
      decide
    · rcases mem_textBody h with h | rfl
      · exact hdigit h
      · decide
  · rw [suffixOf] at h
    split at h
    · cases h
    · rcases List.mem_cons.mp h with rfl | h
      · decide
      · rcases List.mem_cons.mp h with rfl | h
        · split <;> decide
        · exact hdigit (Nat.isDigit_of_mem_toDigits (by omega) le_rfl h)

end Decimal

end ThrevoActions
