import StakingIncome.Fault
import StakingIncome.Income
import StakingIncome.Units

/-!
The part of a pooled reward that goes to the operator: the part that the bond has in the full
stake of a validator, and the fee on what remains. Each division drops the fraction.
-/

namespace StakingIncome

/-- The stake of one validator, in wei. -/
def fullStake : Nat :=
  32 * weiPerEth

/-- A fee of one hundred per cent. -/
def fullFee : Nat :=
  weiPerEth

namespace Schedule

def valueOn (schedule : Schedule) (kind : ScheduleKind) (date : Date) : Except Fault Nat :=
  match schedule.entryOn? date with
  | some entry => .ok entry.value
  | none => .error (.noScheduleEntry kind date)

/-- The value in effect on a date, which must not exceed `limit`. -/
def boundedValueOn (schedule : Schedule) (kind : ScheduleKind) (limit : Nat) (date : Date) :
    Except Fault Nat :=
  match schedule.entryOn? date with
  | none => .error (.noScheduleEntry kind date)
  | some entry =>
    if entry.value ≤ limit then
      .ok entry.value
    else
      .error (.scheduleValueTooLarge kind entry.effective entry.value)

end Schedule

/-- The operator's part of an amount under a bond and a fee. -/
def operatorPart (bond fee amount : Nat) : Nat :=
  let bondPortion := amount * bond / fullStake
  bondPortion + (amount - bondPortion) * fee / fullFee

namespace OperatorSchedule

def share (schedule : OperatorSchedule) (entry : IncomeEntry) : Except Fault IncomeEntry := do
  let bond ← schedule.bonds.boundedValueOn .bond fullStake entry.date
  let fee ← schedule.fees.boundedValueOn .fee fullFee entry.date
  return { entry with amount := operatorPart bond fee entry.amount }

/-- The first of the two schedules that has no entries. -/
def missing? (schedule : OperatorSchedule) : Option ScheduleKind :=
  if schedule.bonds.isEmpty then some .bond
  else if schedule.fees.isEmpty then some .fee
  else none

end OperatorSchedule

end StakingIncome
