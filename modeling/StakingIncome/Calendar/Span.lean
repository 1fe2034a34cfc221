import StakingIncome.Calendar.Date

/-!
A span of dates, both ends included. A span whose end lies before its start holds no date.
-/

namespace StakingIncome

structure DateSpan where
  start : Date
  finish : Date
  deriving DecidableEq

namespace DateSpan

def contains (span : DateSpan) (date : Date) : Bool :=
  decide (span.start ≤ date) && decide (date ≤ span.finish)

theorem contains_iff {span : DateSpan} {date : Date} :
    span.contains date = true ↔ span.start ≤ date ∧ date ≤ span.finish := by
  simp [contains]

end DateSpan

end StakingIncome
