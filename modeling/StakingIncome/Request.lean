import StakingIncome.Calendar.Span
import StakingIncome.Units

/-!
What a report is asked to show.
-/

namespace StakingIncome

structure Request where
  /-- One row a day instead of one for each validator and node. -/
  groupByDate : Bool
  /-- Take withdrawals for consensus income, instead of the consensus series. -/
  withdrawalsAsConsensus : Bool
  /-- Show the operator's part of pooled income, and the income of nodes. -/
  pooledColumns : Bool
  withdrawalsColumn : Bool
  denomination : Denomination
  /-- The only validator to report, if not all. -/
  validator : Option UInt64
  span : Option DateSpan
  delimiter : String
  deriving DecidableEq

namespace Request

def plain : Request where
  groupByDate := false
  withdrawalsAsConsensus := false
  pooledColumns := false
  withdrawalsColumn := false
  denomination := .gwei
  validator := none
  span := none
  delimiter := ";"

def selects (request : Request) (index : UInt64) : Bool :=
  match request.validator with
  | none => true
  | some selected => index == selected

def covers (request : Request) (date : Date) : Bool :=
  match request.span with
  | none => true
  | some span => span.contains date

end Request

end StakingIncome
