import StakingIncome.Decimal.Shortest

/-!
Floats as texts: the shortest decimal, written out without an exponent however large or small it
is. A whole number has no point. Zero keeps its sign, and the values that are no numbers have
names.
-/

namespace StakingIncome.Decimal

/-- Digits with the point `places` digits before their end, and a zero where no digit would
precede the point. -/
def withPoint (digits : List Char) (places : Nat) : List Char :=
  let padded := List.replicate (places + 1 - digits.length) '0' ++ digits
  padded.take (padded.length - places) ++ '.' :: padded.drop (padded.length - places)

def Scientific.positional (scientific : Scientific) : List Char :=
  let digits := Text.decimal scientific.digits
  if 0 ≤ scientific.exponent then
    digits ++ List.replicate scientific.exponent.toNat '0'
  else
    withPoint digits (-scientific.exponent).toNat

def signBit : Nat :=
  0x8000000000000000

/-- A float as a text, from its bits. -/
def writtenBits (bits : Nat) : List Char :=
  let magnitude := bits % signBit
  let signed := fun text : List Char => if bits < signBit then text else '-' :: text
  if infinityBits < magnitude then "NaN".toList
  else if magnitude = infinityBits then signed "inf".toList
  else if magnitude = 0 then signed ['0']
  else signed (shortest magnitude).positional

def writtenFloat (value : Float) : List Char :=
  writtenBits value.toBits.toNat

example : writtenBits (nearestBits 3625 10000) = "0.3625".toList := by decide +kernel

example : writtenBits (nearestBits (tenTo 21) 1) = "1000000000000000000000".toList := by
  decide +kernel

example : writtenBits signBit = "-0".toList := by decide +kernel

end StakingIncome.Decimal
