import StakingIncome.Decimal.Binary
import StakingIncome.Text.Blank
import StakingIncome.Text.Numeral
import StakingIncome.Text.Quoted

/-!
Amounts are whole numbers of a base unit, and reports show them in a display unit. A ladder leads
from one to the other over an intermediate unit, below which an amount is cut off.
-/

namespace StakingIncome

def weiPerGwei : Nat := 1000000000

def gweiPerEth : Nat := 1000000000

def weiPerEth : Nat := weiPerGwei * gweiPerEth

structure UnitLadder where
  basePerIntermediate : UInt64
  intermediatePerDisplay : UInt64
  deriving DecidableEq

namespace UnitLadder

/-- From wei over gwei to ETH. -/
def wei : UnitLadder where
  basePerIntermediate := 1000000000
  intermediatePerDisplay := 1000000000

/-- From gwei to ETH, with gwei as base unit and intermediate unit. -/
def gwei : UnitLadder where
  basePerIntermediate := 1
  intermediatePerDisplay := 1000000000

/-- The whole display units in an amount. -/
def whole (ladder : UnitLadder) (amount : Nat) : Nat :=
  amount / ladder.basePerIntermediate.toNat / ladder.intermediatePerDisplay.toNat

/-- The intermediate units that do not make up a whole display unit, as a word. -/
def rest (ladder : UnitLadder) (amount : Nat) : UInt64 :=
  (Text.word?
    (amount / ladder.basePerIntermediate.toNat % ladder.intermediatePerDisplay.toNat)).getD 0

/-- The amount in display units. Both parts are converted on their own, so that floats only enter
where a display unit is divided. The rest is a word, but the whole part can be of any width. -/
def display (ladder : UnitLadder) (amount : Nat) : Float :=
  Decimal.ofWide (ladder.whole amount) +
    Decimal.ofNatural (ladder.rest amount).toNat /
      Decimal.ofNatural ladder.intermediatePerDisplay.toNat

end UnitLadder

/-- The base unit that consensus layer rewards and withdrawals are counted in. -/
inductive Denomination where
  | wei
  | gwei
  deriving DecidableEq, Repr

namespace Denomination

def ladder : Denomination → UnitLadder
  | .wei => .wei
  | .gwei => .gwei

def name : Denomination → String
  | .wei => "wei"
  | .gwei => "gwei"

def unknownMessage (text : List Char) : String :=
  "unknown denomination " ++ String.ofList (Text.quoted text) ++ ", expected wei or gwei"

/-- The denomination with a name, which may have blanks around it and capitals in it. -/
def read (text : List Char) : Except String Denomination :=
  let name := Text.lowered (Text.trimmed text)
  if name = "wei".toList then .ok .wei
  else if name = "gwei".toList then .ok .gwei
  else .error (unknownMessage name)

end Denomination

end StakingIncome
