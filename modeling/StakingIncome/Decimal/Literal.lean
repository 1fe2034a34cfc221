import StakingIncome.Decimal.Binary
import StakingIncome.Text.Numeral

/-!
Number literals, digit by digit, and the floats that they are read as. A literal is read with one
float operation for its power of ten, so that its float can differ in the last bit from the one that
is nearest to it.
-/

namespace StakingIncome.Decimal

open Text

/-- The exponent of a literal: the digits after the letter and the sign. -/
structure Exponent where
  negative : Bool
  digits : List Char
  deriving DecidableEq, Repr

/-- A number as it was written. The fraction has no digits when the literal has no point. -/
structure Literal where
  negative : Bool
  whole : List Char
  fraction : List Char
  exponent : Option Exponent
  deriving DecidableEq, Repr

namespace Literal

def ofNatural (value : Nat) : Literal :=
  { negative := false, whole := decimal value, fraction := [], exponent := none }

/-- The literal with its own digits, the letter in lower case and the sign of the exponent always
shown. -/
def written (literal : Literal) : List Char :=
  (if literal.negative then ['-'] else []) ++ literal.whole ++
    (if literal.fraction.isEmpty then [] else '.' :: literal.fraction) ++
    match literal.exponent with
    | none => []
    | some exponent => 'e' :: (if exponent.negative then '-' else '+') :: exponent.digits

def exponentValue (literal : Literal) : Int :=
  match literal.exponent with
  | none => 0
  | some exponent =>
    if exponent.negative then -digitsValue exponent.digits else digitsValue exponent.digits

def withSign (literal : Literal) (magnitude : Float) : Float :=
  if literal.negative then -magnitude else magnitude

/-- The word that a literal denotes when it is made of digits alone. -/
def word? (literal : Literal) : Option UInt64 :=
  if literal.negative || !literal.fraction.isEmpty || literal.exponent.isSome then
    none
  else
    Text.word? (digitsValue literal.whole)

/-! ### Reading with one power of ten

The significand takes digits as long as it stays a word. Digits of the whole part that no longer fit
count as zeros, those of the fraction are left out. -/

/-- Take digits into a significand until one does not fit, with the digits that are left. -/
def takeDigits (significand : Nat) : List Char → Nat × List Char
  | [] => (significand, [])
  | digit :: rest =>
    let next := 10 * significand + (digit.toNat - '0'.toNat)
    if next < wordLimit then takeDigits next rest else (significand, digit :: rest)

/-- The largest power of ten among the floats. -/
def mostTens : Nat := 308

def powerOfTen (exponent : Nat) : Float :=
  Decimal.ofNatural (tenTo exponent)

/-- Divide by a power of ten, in steps when it is no float itself. -/
def divideByTens (value : Float) (exponent : Nat) : Float :=
  if exponent ≤ mostTens then
    value / powerOfTen exponent
  else if value == 0 then
    value
  else
    divideByTens (value / powerOfTen mostTens) (exponent - mostTens)
termination_by exponent
decreasing_by simp [mostTens] at *; omega

/-- Multiply by a power of ten. There is no result beyond the largest float. -/
def multiplyByTens? (value : Float) (exponent : Nat) : Option Float :=
  if exponent ≤ mostTens then
    let product := value * powerOfTen exponent
    if product.isInf then none else some product
  else if value == 0 then
    some value
  else
    none

/-- The float of a literal with one power of ten, if the literal is not too large. -/
def approximate? (literal : Literal) : Option Float :=
  let (leading, overflow) := takeDigits 0 literal.whole
  let (significand, leftOut) := takeDigits leading literal.fraction
  let exponent :=
    literal.exponentValue + overflow.length + leftOut.length - literal.fraction.length
  let magnitude :=
    if 0 ≤ exponent then
      multiplyByTens? (Decimal.ofNatural significand) exponent.toNat
    else
      some (divideByTens (Decimal.ofNatural significand) (-exponent).toNat)
  magnitude.map literal.withSign

end Literal

end StakingIncome.Decimal
