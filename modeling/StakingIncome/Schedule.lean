import StakingIncome.Calendar.Date

/-!
Bonds and fees of a pooled validator over time. A value takes effect after the date that it is given
for, and lasts until the next one does.
-/

namespace StakingIncome

inductive ScheduleKind where
  | bond
  | fee
  deriving DecidableEq, Repr

def ScheduleKind.name : ScheduleKind → String
  | .bond => "bond"
  | .fee => "fee"

/-- A bond or a fee, as a multiple of 10^-18. -/
structure ScheduleEntry where
  effective : Date
  value : Nat
  deriving DecidableEq

abbrev Schedule := List ScheduleEntry

structure OperatorSchedule where
  bonds : Schedule
  fees : Schedule
  deriving DecidableEq

namespace Schedule

/-- The later of two entries, and of two for the same date the second one. -/
def later (best : Option ScheduleEntry) (entry : ScheduleEntry) : Option ScheduleEntry :=
  match best with
  | none => some entry
  | some current => if current.effective ≤ entry.effective then some entry else some current

/-- The entry in effect on a date: the latest one before it. A schedule with one entry has it on
every date. -/
def entryOn? (schedule : Schedule) (date : Date) : Option ScheduleEntry :=
  match schedule with
  | [entry] => some entry
  | entries => (entries.filter fun entry => decide (entry.effective < date)).foldl later none

end Schedule

end StakingIncome
