import StakingIncome.Calendar.Date
import StakingIncome.Schedule

/-!
The income of validators and nodes, as it was earned day by day. Amounts count base units. A
validator of a pool earns for the whole pool, and its schedule says which part the operator keeps.
-/

namespace StakingIncome

structure IncomeEntry where
  date : Date
  amount : Nat
  deriving DecidableEq

/-- What a node earned beside its validators: its part of the smoothing pool in wei, and RPL
tokens in the smallest unit of the token. -/
structure NodeIncome where
  date : Date
  address : String
  smoothingPool : Nat
  rpl : Nat
  deriving DecidableEq

/-- The three series of a validator. There may be no consensus series, when consensus income is only
known through withdrawals. -/
structure ValidatorIncome where
  index : UInt64
  consensus : Option (List IncomeEntry)
  execution : List IncomeEntry
  withdrawals : List IncomeEntry
  deriving DecidableEq

namespace ValidatorIncome

/-- A validator that has not earned anything. -/
def new (index : UInt64) : ValidatorIncome where
  index
  consensus := some []
  execution := []
  withdrawals := []

def entries (income : ValidatorIncome) : List IncomeEntry :=
  income.consensus.getD [] ++ income.execution ++ income.withdrawals

def dates (income : ValidatorIncome) : List Date :=
  income.entries.map (·.date)

end ValidatorIncome

inductive Validator where
  | plain (income : ValidatorIncome)
  | pooled (income : ValidatorIncome) (schedule : OperatorSchedule)
  deriving DecidableEq

namespace Validator

def income : Validator → ValidatorIncome
  | .plain income => income
  | .pooled income _ => income

def schedule? : Validator → Option OperatorSchedule
  | .plain _ => none
  | .pooled _ schedule => some schedule

def index (validator : Validator) : UInt64 :=
  validator.income.index

end Validator

/-- All income that a report is made from. -/
structure IncomeData where
  validators : List Validator
  nodes : List NodeIncome
  deriving DecidableEq

end StakingIncome
