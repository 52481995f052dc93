import Mathlib.Data.List.Basic

/-!
# Base64

The standard alphabet, padded. A decoder takes the text four characters at a time, and only the last
four may be padded. It does not ask for the bits that padding leaves over to be zero, so a byte
string is decoded from more than one text (`decode_encode` gives one of them).
-/

namespace Base64

/-- The digit of a number below 64. -/
def digit (n : ℕ) : Char :=
  if n < 26 then Char.ofNat (0x41 + n)
  else if n < 52 then Char.ofNat (0x61 + (n - 26))
  else if n < 62 then Char.ofNat (0x30 + (n - 52))
  else if n = 62 then '+'
  else '/'

/-- The number of a digit. -/
def value? (c : Char) : Option ℕ :=
  let n := c.toNat
  if 0x41 ≤ n ∧ n ≤ 0x5a then some (n - 0x41)
  else if 0x61 ≤ n ∧ n ≤ 0x7a then some (n - 0x61 + 26)
  else if 0x30 ≤ n ∧ n ≤ 0x39 then some (n - 0x30 + 52)
  else if c = '+' then some 62
  else if c = '/' then some 63
  else none

def encode : List UInt8 → List Char
  | [] => []
  | [a] => [digit (a.toNat / 4), digit (a.toNat % 4 * 16), '=', '=']
  | [a, b] =>
    [digit (a.toNat / 4), digit (a.toNat % 4 * 16 + b.toNat / 16), digit (b.toNat % 16 * 4), '=']
  | a :: b :: c :: rest =>
    digit (a.toNat / 4) :: digit (a.toNat % 4 * 16 + b.toNat / 16) ::
      digit (b.toNat % 16 * 4 + c.toNat / 64) :: digit (c.toNat % 64) :: encode rest

def decode : List Char → Option (List UInt8)
  | [] => some []
  | p :: q :: r :: s :: rest => do
    let p ← value? p
    let q ← value? q
    if r = '=' ∧ s = '=' ∧ rest = [] then
      return [(p * 4 + q / 16).toUInt8]
    let r ← value? r
    if s = '=' ∧ rest = [] then
      return [(p * 4 + q / 16).toUInt8, (q % 16 * 16 + r / 4).toUInt8]
    let s ← value? s
    return (p * 4 + q / 16).toUInt8 :: (q % 16 * 16 + r / 4).toUInt8 :: (r % 4 * 64 + s).toUInt8 ::
      (← decode rest)
  | _ => none

/-! ## The digits -/

theorem value?_digit : ∀ n < 64, value? (digit n) = some n := by
  decide

theorem digit_ne_pad : ∀ n < 64, digit n ≠ '=' := by
  decide

theorem toUInt8_toNat (a : UInt8) : a.toNat.toUInt8 = a := UInt8.ofNat_toNat

/-! ## Lengths -/

theorem length_encode (bytes : List UInt8) : (encode bytes).length = (bytes.length + 2) / 3 * 4 := by
  fun_induction encode bytes with
  | case1 => rfl
  | case2 a => simp only [List.length_cons, List.length_nil]
  | case3 a b => simp only [List.length_cons, List.length_nil]
  | case4 a b c rest ih =>
    simp only [List.length_cons, ih]
    omega

/-! ## Decoding what was encoded -/

theorem decode_encode (bytes : List UInt8) : decode (encode bytes) = some bytes := by
  fun_induction encode bytes with
  | case1 => rfl
  | case2 a =>
    have ha := a.toNat_lt
    have hfirst : a.toNat / 4 * 4 + a.toNat % 4 * 16 / 16 = a.toNat := by omega
    rw [decode, value?_digit _ (by omega), value?_digit _ (by omega)]
    simp only [Option.bind_eq_bind, Option.bind_some, and_self, if_true, hfirst, toUInt8_toNat]
    rfl
  | case3 a b =>
    have ha := a.toNat_lt
    have hb := b.toNat_lt
    have hfirst : a.toNat / 4 * 4 + (a.toNat % 4 * 16 + b.toNat / 16) / 16 = a.toNat := by omega
    have hsecond : (a.toNat % 4 * 16 + b.toNat / 16) % 16 * 16 + b.toNat % 16 * 4 / 4 =
        b.toNat := by omega
    rw [decode, value?_digit _ (by omega), value?_digit _ (by omega), value?_digit _ (by omega)]
    simp only [Option.bind_eq_bind, Option.bind_some, and_self, if_true, hfirst, hsecond,
      toUInt8_toNat, digit_ne_pad _ (show b.toNat % 16 * 4 < 64 by omega), false_and, if_false]
    rfl
  | case4 a b c rest ih =>
    have ha := a.toNat_lt
    have hb := b.toNat_lt
    have hc := c.toNat_lt
    have hfirst : a.toNat / 4 * 4 + (a.toNat % 4 * 16 + b.toNat / 16) / 16 = a.toNat := by omega
    have hsecond : (a.toNat % 4 * 16 + b.toNat / 16) % 16 * 16 +
        (b.toNat % 16 * 4 + c.toNat / 64) / 4 = b.toNat := by omega
    have hthird : (b.toNat % 16 * 4 + c.toNat / 64) % 4 * 64 + c.toNat % 64 = c.toNat := by omega
    rw [decode, value?_digit _ (by omega), value?_digit _ (by omega), value?_digit _ (by omega),
      value?_digit _ (by omega), ih]
    simp only [Option.bind_eq_bind, Option.bind_some, hfirst, hsecond, hthird, toUInt8_toNat,
      digit_ne_pad _ (show b.toNat % 16 * 4 + c.toNat / 64 < 64 by omega),
      digit_ne_pad _ (show c.toNat % 64 < 64 by omega), false_and, if_false]
    rfl

end Base64
