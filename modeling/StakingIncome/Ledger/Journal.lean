import StakingIncome.Ledger.Rows

/-!
What is told while reports are made, event by event. The events follow from the sources and the
request alone, and they end where the first fault is found.
-/

namespace StakingIncome

inductive Event where
  | loadedIncome (validators nodes : Nat) (path : String)
  | loadedPrices (count : Nat) (currency path : String)
  | building
  | unknownValidator (index : UInt64)
  | collecting (validators dates : Nat) (groupByDate : Bool)
  | skipped (date : Date)
  | built (rows : Nat)
  | saved (path : String)
  deriving DecidableEq

namespace Event

inductive Level where
  | debug
  | info
  | warning
  deriving DecidableEq, Repr

def Level.name : Level → String
  | .debug => "DEBUG"
  | .info => "INFO"
  | .warning => "WARN"

def level : Event → Level
  | unknownValidator _ => .warning
  | skipped _ => .debug
  | _ => .info

private def count (value : Nat) : String :=
  String.ofList (Text.decimal value)

def message : Event → String
  | loadedIncome validators nodes path =>
    "Loaded rewards for " ++ count validators ++ " validators and " ++ count nodes ++
      " rocket pool node rewards from " ++ path
  | loadedPrices prices currency path =>
    "Loaded " ++ count prices ++ " " ++ currency ++ " prices from " ++ path
  | building => "Building report..."
  | unknownValidator index =>
    "Validator " ++ count index.toNat ++ " is not part of the rewards data"
  | collecting validators dates groupByDate =>
    "Aggregating rewards for " ++ count validators ++ " validators across " ++ count dates ++
      " dates (grouped by date: " ++ (if groupByDate then "true" else "false") ++ ")"
  | skipped date => "Skipping " ++ toString date ++ " - no income for any validator"
  | built rows => "Built " ++ count rows ++ " report rows"
  | saved path => "Saved report to " ++ path

def line (event : Event) : String :=
  event.level.name ++ " " ++ event.message

end Event

namespace Ledger

/-- The dates that a report by date leaves out, before the first date that fails. -/
def skippedDates (ledger : Ledger) : List Date → List Date
  | [] => []
  | date :: rest =>
    match ledger.groupedRows date with
    | .error _ => []
    | .ok rows => (if rows.isEmpty then [date] else []) ++ ledger.skippedDates rest

def journal (ledger : Ledger) : List Event :=
  [.collecting ledger.validators.length ledger.dates.length ledger.request.groupByDate] ++
    (if ledger.request.groupByDate then (ledger.skippedDates ledger.dates).map .skipped else []) ++
    match ledger.rows with
    | .ok rows => [.built rows.length]
    | .error _ => []

end Ledger

namespace Sources

/-- A filter that selects no validator is told about, but is no fault. -/
def filterWarning (sources : Sources) (request : Request) : List Event :=
  match request.validator with
  | some index => if (sources.selected request).isEmpty then [.unknownValidator index] else []
  | none => []

/-- The events of making a report. -/
def journal (sources : Sources) (request : Request) : List Event :=
  if (request.conflict? sources.rplPrices).isSome then
    []
  else
    sources.filterWarning request ++
      match sources.ledger request with
      | .ok ledger => ledger.journal
      | .error _ => []

end Sources

end StakingIncome
