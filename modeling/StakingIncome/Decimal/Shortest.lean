import StakingIncome.Decimal.Binary
import StakingIncome.Text.Numeral

/-!
The decimal fraction with the fewest digits that still lies nearer to a float than to any other
float. Digits are tried in growing number. Of the fractions with so many digits only the two
around the float can lie nearest to it, and of two that do the nearer one is taken, or halfway the
larger one.
-/

namespace StakingIncome.Decimal

/-- The number `digits` times ten to the power of `exponent`. -/
structure Scientific where
  digits : Nat
  exponent : Int
  deriving DecidableEq, Repr

/-- The exponent of the first digit of a positive fraction. -/
def leadingExponent (numerator denominator : Nat) : Int :=
  if denominator ≤ numerator then
    (Text.decimal (numerator / denominator)).length - 1
  else
    -(Text.decimal ((denominator - 1) / numerator)).length

namespace Neighbourhood

/-- The neighbourhood counted in a power of ten. -/
def inTens (near : Neighbourhood) (exponent : Int) : Neighbourhood :=
  if 0 ≤ exponent then
    { near with unit := near.unit * tenTo exponent.toNat }
  else
    let power := tenTo (-exponent).toNat
    { near with
      lower := near.lower * power
      value := near.value * power
      upper := near.upper * power }

/-- The whole number nearest to the value among those inside the neighbourhood. -/
def wholeNumber? (near : Neighbourhood) : Option Nat :=
  let below := near.value / near.unit
  let above := below + 1
  match near.contains (below * near.unit), near.contains (above * near.unit) with
  | true, true => some (if 2 * (near.value % near.unit) < near.unit then below else above)
  | true, false => some below
  | false, true => some above
  | false, false => none

/-- The decimal with the given number of digits, if one lies inside the neighbourhood. A number that
was rounded up to one digit more is a power of ten, of which only the first digit counts. -/
def decimal? (near : Neighbourhood) (digits : Nat) : Option Scientific :=
  let exponent := leadingExponent near.value near.unit - digits + 1
  (near.inTens exponent).wholeNumber?.map fun whole =>
    if whole = tenTo digits then
      { digits := 1, exponent := exponent + digits }
    else
      { digits := whole, exponent }

/-- Seventeen digits tell any two floats apart, so that no float needs more of them. -/
def mostDigits : Nat := 17

def shortest (near : Neighbourhood) : Scientific :=
  ((List.range' 1 mostDigits).findSome? near.decimal?).getD { digits := 0, exponent := 0 }

end Neighbourhood

/-- The shortest decimal of a float above zero, given by its bits. -/
def shortest (bits : Nat) : Scientific :=
  (Neighbourhood.ofBits bits).shortest

example : shortest (nearestBits 1 10) = { digits := 1, exponent := -1 } := by decide +kernel

example : shortest (nearestBits (tenTo 23) 1) = { digits := 1, exponent := 23 } := by decide +kernel

example : shortest 1 = { digits := 5, exponent := -324 } := by decide +kernel

end StakingIncome.Decimal
