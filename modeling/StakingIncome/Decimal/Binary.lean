/-!
Between exact fractions of natural numbers and floats of 64 bits. A positive float is a
significand times a power of two; `nearest` finds the float for a fraction and
`Neighbourhood.ofBits` the fractions for a float, both by integer arithmetic alone.
-/

namespace StakingIncome.Decimal

def twoTo (exponent : Nat) : Nat :=
  Nat.pow 2 exponent

def tenTo (exponent : Nat) : Nat :=
  Nat.pow 10 exponent

/-- Division rounded to the nearest whole number, and to the even one halfway. -/
def divideToEven (numerator denominator : Nat) : Nat :=
  let quotient := numerator / denominator
  let remainder := numerator % denominator
  if 2 * remainder < denominator then quotient
  else if denominator < 2 * remainder then quotient + 1
  else quotient + quotient % 2

example : (divideToEven 5 2, divideToEven 7 2, divideToEven 8 3) = (2, 4, 3) := by decide

/-- A fraction times a power of two. -/
def scaleByTwo (fraction : Nat × Nat) (exponent : Int) : Nat × Nat :=
  if 0 ≤ exponent then
    (fraction.1 * twoTo exponent.toNat, fraction.2)
  else
    (fraction.1, fraction.2 * twoTo (-exponent).toNat)

/-- The least exponent of the floats, which those below the normal ones have. -/
def leastExponent : Int := -1074

/-- The least significand with its leading bit, 2^52. -/
def leastSignificand : Nat :=
  0x10000000000000

/-- The exponent that gives a positive fraction a significand from the least one up to twice of
it, or the least exponent. -/
def exponentOf (numerator denominator : Nat) : Int :=
  let estimate : Int := numerator.log2 - denominator.log2 - 52
  let scaled := scaleByTwo (numerator, denominator) (-estimate)
  let exponent := if scaled.1 < leastSignificand * scaled.2 then estimate - 1 else estimate
  if exponent < leastExponent then leastExponent else exponent

def infinityBits : Nat :=
  0x7ff0000000000000

/-- The bits of the float that lies nearest to a fraction; halfway the one with the even
significand. Since a normal significand includes the leading bit, which is not stored, it raises
the exponent field by one when the two are added, and so does a significand that was rounded up to
the next power. -/
def nearestBits (numerator denominator : Nat) : Nat :=
  if numerator = 0 then
    0
  else
    let exponent := exponentOf numerator denominator
    let scaled := scaleByTwo (numerator, denominator) (-exponent)
    let bits :=
      (exponent - leastExponent).toNat * leastSignificand + divideToEven scaled.1 scaled.2
    if infinityBits < bits then infinityBits else bits

def nearest (numerator denominator : Nat) : Float :=
  Float.ofBits (UInt64.ofNat (nearestBits numerator denominator))

def ofNatural (value : Nat) : Float :=
  nearest value 1

example : nearestBits 1 1 = 0x3ff0000000000000 := by decide

example : nearestBits 1 10 = 0x3fb999999999999a := by decide

example : nearestBits (twoTo 64 + twoTo 11 + 1) 1 = 0x43f0000000000001 := by decide

/-! ### Natural numbers of any width

A number of more than 64 bits is cut to its leading 64 bits before it is rounded to a float. The
last of these is set when bits are seen among those that are cut off, so that a number past a
halfway point does not fall back on it. What is cut off is not looked at as a whole: in each word
of 64 bits below the leading one, as many low bits are seen as the leading word has. -/

/-- How many bits the leading one of a number's words has. -/
def leadingWidth (value : Nat) : Nat :=
  value.log2 % 64 + 1

/-- Whether the part of some word that is looked at is not zero. -/
def seesCutBits (value : Nat) : Bool :=
  (List.range (value.log2 / 64)).any fun index =>
    value / twoTo (64 * index) % twoTo (leadingWidth value) != 0

/-- The float for a number of any width. -/
def ofWide (value : Nat) : Float :=
  if value.log2 < 64 then
    ofNatural value
  else
    let cut := value.log2 - 63
    let leading := value / twoTo cut
    let marked := if leading % 2 == 0 && seesCutBits value then leading + 1 else leading
    ofNatural (marked * twoTo cut)

/-- The leading word of a number with 65 bits has one bit, and one bit of the other word is cut
off. -/
example : seesCutBits (twoTo 64 + 1) = true := by decide

/-- Of a number with 129 bits, all of the last word is cut off and only its last bit is seen. -/
example : seesCutBits (twoTo 128 + 2) = false := by decide

/-! ### The fractions that a float stands for -/

/-- A positive float as a fraction, with the fractions halfway to the floats beside it. All three
have the denominator `unit`; the outer two belong to the float itself when `closed` holds. -/
structure Neighbourhood where
  lower : Nat
  value : Nat
  upper : Nat
  unit : Nat
  closed : Bool

namespace Neighbourhood

/-- The neighbourhood of a positive float, from the bits without the sign. Where the exponent
grows, the float below is only half as far away as the one above. -/
def ofBits (bits : Nat) : Neighbourhood :=
  let stored := bits % leastSignificand
  let field := bits / leastSignificand
  let significand := if field = 0 then stored else stored + leastSignificand
  let exponent : Int := leastExponent + ((field - 1 : Nat) : Int) - 2
  let power := (scaleByTwo (1, 1) exponent).1
  { lower := (4 * significand - if stored = 0 ∧ 1 < field then 1 else 2) * power
    value := 4 * significand * power
    upper := (4 * significand + 2) * power
    unit := (scaleByTwo (1, 1) exponent).2
    closed := stored % 2 == 0 }

def contains (near : Neighbourhood) (numerator : Nat) : Bool :=
  (near.lower < numerator && numerator < near.upper) ||
    (near.closed && (near.lower == numerator || near.upper == numerator))

end Neighbourhood

end StakingIncome.Decimal
