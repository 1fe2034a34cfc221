import StakingIncome.Calendar.Notation
import StakingIncome.Calendar.Span
import StakingIncome.Json.Fault
import StakingIncome.Schedule
import StakingIncome.Text.Quoted

/-!
Everything that keeps a report from being made, with the text that tells about it.
-/

namespace StakingIncome

/-- Options of a request that do not go together, or not with the data. -/
inductive Conflict where
  | delimiter (text : String)
  | reversedSpan (span : DateSpan)
  | noRplPrices
  | noConsensusSeries (index : UInt64)
  deriving DecidableEq

def Conflict.message : Conflict → String
  | .delimiter text =>
    "delimiter " ++ String.ofList (Text.quoted text.toList) ++ " cannot separate fields"
  | .reversedSpan span =>
    "end date " ++ toString span.finish ++ " is before start date " ++ toString span.start
  | .noRplPrices => "rocket pool columns need an RPL price series"
  | .noConsensusSeries index =>
    "validator " ++ String.ofList (Text.decimal index.toNat) ++
      " has no consensus layer series, use withdrawals as consensus income"

inductive Fault where
  | priceNotFound (currency : String) (date : Date)
  | duplicatePrice (currency : String) (date : Date)
  | noScheduleEntry (kind : ScheduleKind) (date : Date)
  | scheduleValueTooLarge (kind : ScheduleKind) (effective : Date) (value : Nat)
  | missingSchedule (index : UInt64) (kind : ScheduleKind)
  | conflict (options : Conflict)
  | setting (name reason : String)
  | file
  | json (fault : Json.DecodeFault)
  deriving DecidableEq

def Fault.message : Fault → String
  | .priceNotFound currency date =>
    "failed to find " ++ currency ++ " price for date " ++ toString date
  | .duplicatePrice currency date =>
    currency ++ " price series has more than one price for date " ++ toString date
  | .noScheduleEntry kind date => "unable to get " ++ kind.name ++ " for date " ++ toString date
  | .scheduleValueTooLarge kind effective value =>
    kind.name ++ " value " ++ String.ofList (Text.decimal value) ++ " effective " ++
      toString effective ++ " exceeds the full validator share"
  | .missingSchedule index kind =>
    "rocket pool validator " ++ String.ofList (Text.decimal index.toNat) ++ " has no " ++
      kind.name ++ " schedule"
  | .conflict options => "conflicting aggregation options: " ++ options.message
  | .setting name reason => "invalid configuration for " ++ name ++ ": " ++ reason
  | .file => "I/O error"
  | .json _ => "JSON error"

end StakingIncome
