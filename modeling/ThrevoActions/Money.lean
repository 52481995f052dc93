import Mathlib.Algebra.Group.Int.Defs
import Mathlib.Algebra.Group.Nat.Defs
import ThrevoActions.Canonical

/-!
# Amounts of money

Python decimals as far as the boundary models use them, and `Money`. Validated decimals are finite,
so a decimal is a sign, a coefficient and an exponent; two decimals can be equal as numbers and
different as texts.
-/

namespace ThrevoActions

/-- A finite `decimal.Decimal`. -/
structure Decimal where
  negative : Bool := false
  coefficient : ℕ
  exponent : ℤ
  deriving DecidableEq, Repr

namespace Decimal

/-- The coefficient with its sign. -/
def signed (d : Decimal) : ℤ := if d.negative then -d.coefficient else d.coefficient

/-- The signed coefficient at an exponent that is not above the decimal's own. -/
def signedAt (d : Decimal) (exponent : ℤ) : ℤ := d.signed * 10 ^ (d.exponent - exponent).toNat

/-- `a <= b`, as numbers. -/
def le (a b : Decimal) : Bool :=
  a.signedAt (min a.exponent b.exponent) ≤ b.signedAt (min a.exponent b.exponent)

/-- `0 < d`. -/
def isPositive (d : Decimal) : Bool := 0 < d.signed

/-- `d.scaleb(places)`. Validated decimals have at most 28 digits, so nothing is rounded. -/
def scaleb (d : Decimal) (places : ℤ) : Decimal := { d with exponent := d.exponent + places }

/-- `d == d.to_integral_value()`. -/
def isIntegral (d : Decimal) : Bool :=
  0 ≤ d.exponent || d.coefficient % 10 ^ (-d.exponent).toNat == 0

/-- `int(d)`: the fraction is cut off. -/
def toInt (d : Decimal) : ℤ :=
  if 0 ≤ d.exponent then d.signed * 10 ^ d.exponent.toNat
  else d.signed.tdiv (10 ^ (-d.exponent).toNat)

/-- `str(d)`. -/
def text (d : Decimal) : String :=
  let digits := Nat.toDigits 10 d.coefficient
  let leftDigits : ℤ := d.exponent + digits.length
  let dotPlace : ℤ := if d.exponent ≤ 0 ∧ -6 < leftDigits then leftDigits else 1
  let body :=
    if dotPlace ≤ 0 then '0' :: '.' :: List.replicate (-dotPlace).toNat '0' ++ digits
    else if digits.length ≤ dotPlace then
      digits ++ List.replicate (dotPlace - digits.length).toNat '0'
    else digits.take dotPlace.toNat ++ '.' :: digits.drop dotPlace.toNat
  let power := leftDigits - dotPlace
  let suffix :=
    if power = 0 then []
    else 'E' :: (if power < 0 then '-' else '+') :: Nat.toDigits 10 power.natAbs
  String.ofList ((if d.negative then ['-'] else []) ++ body ++ suffix)

/-- An amount that is positive, integral and at most `bound`. -/
def isPositiveUnits (units : Decimal) (bound : ℕ) : Bool :=
  units.isPositive && units.isIntegral && units.le ⟨false, bound, 0⟩

example : (⟨false, 1250, -2⟩ : Decimal).text = "12.50" ∧
    ((⟨false, 1250, -2⟩ : Decimal).scaleb 2).toInt = 1250 := by
  decide

end Decimal

/-- A monetary amount whose currency is explicit and precision is host-validated. -/
structure Money where
  amount : Decimal
  currency : String
  deriving DecidableEq, Repr

def Money.dump (money : Money) : JsonValue :=
  .dict [jsonField "amount" (jsonText money.amount.text),
    jsonField "currency" (jsonText money.currency)]

end ThrevoActions
