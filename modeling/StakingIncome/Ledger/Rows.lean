import StakingIncome.Ledger
import StakingIncome.Report

/-!
The rows of a ledger, date by date. A report by date has one row for each date with income, and
any other report has a row for each validator with income on the date and then one for each entry
of node income. Prices are looked up for rows only, so that a date without income needs none.
-/

namespace StakingIncome

namespace ValidatorFigures

/-- What the column of withdrawals shows, if there is one. -/
def shownWithdrawals (request : Request) (amount : Nat) : Option Nat :=
  if request.withdrawalsColumn then some amount else none

def hasIncome (request : Request) (date : Date) (figures : ValidatorFigures) : Bool :=
  figures.consensus.amountOn date != 0 || figures.execution.amountOn date != 0 ||
    (shownWithdrawals request (figures.withdrawals.amountOn date)).getD 0 != 0

end ValidatorFigures

namespace Row

def new (date : Date) (ethPrice : Float) : Row where
  date
  ethPrice
  validatorIndex := none
  consensus := none
  execution := none
  withdrawals := none
  nodeAddress := none
  smoothingPool := none
  rpl := none
  rplPrice := none

end Row

namespace Ledger

def nodesOn (ledger : Ledger) (date : Date) : List NodeIncome :=
  ledger.nodes.filter fun node => decide (node.date = date)

/-! ### A row for each validator and node -/

def validatorRow (ledger : Ledger) (date : Date) (figures : ValidatorFigures) :
    Except Fault Row := do
  return { Row.new date (← ledger.ethPrices.priceOn date) with
    validatorIndex := some figures.index
    consensus := some (figures.consensus.amountOn date)
    execution := some (figures.execution.amountOn date)
    withdrawals :=
      ValidatorFigures.shownWithdrawals ledger.request (figures.withdrawals.amountOn date) }

def nodeRow (ledger : Ledger) (rplPrices : PriceIndex) (date : Date) (node : NodeIncome) :
    Except Fault Row := do
  let ethPrice ← ledger.ethPrices.priceOn date
  let rplPrice ← rplPrices.priceOn date
  return { Row.new date ethPrice with
    nodeAddress := some node.address
    smoothingPool := some node.smoothingPool
    rpl := some node.rpl
    rplPrice := some rplPrice }

def nodeRows (ledger : Ledger) (date : Date) : Except Fault (List Row) :=
  match ledger.rplPrices with
  | none => .ok []
  | some rplPrices => (ledger.nodesOn date).mapM (ledger.nodeRow rplPrices date)

def separateRows (ledger : Ledger) (date : Date) : Except Fault (List Row) := do
  let earning := ledger.validators.filter (ValidatorFigures.hasIncome ledger.request date)
  let validatorRows ← earning.mapM (ledger.validatorRow date)
  let nodeRows ← ledger.nodeRows date
  return validatorRows ++ nodeRows

/-! ### One row for a date -/

/-- The amounts of one date over all validators and nodes. -/
structure DayTotals where
  consensus : Nat
  execution : Nat
  withdrawals : Nat
  smoothingPool : Nat
  rpl : Nat

/-- Node income counts only if it is shown. -/
def dayTotals (ledger : Ledger) (date : Date) : DayTotals where
  consensus := total (ledger.validators.map (·.consensus.amountOn date))
  execution := total (ledger.validators.map (·.execution.amountOn date))
  withdrawals := total (ledger.validators.map (·.withdrawals.amountOn date))
  smoothingPool :=
    if ledger.rplPrices.isSome then total ((ledger.nodesOn date).map (·.smoothingPool)) else 0
  rpl := if ledger.rplPrices.isSome then total ((ledger.nodesOn date).map (·.rpl)) else 0

def DayTotals.hasIncome (request : Request) (totals : DayTotals) : Bool :=
  totals.consensus != 0 || totals.execution != 0 ||
    (ValidatorFigures.shownWithdrawals request totals.withdrawals).getD 0 != 0 ||
    totals.smoothingPool != 0 || totals.rpl != 0

def totalsRow (ledger : Ledger) (date : Date) (totals : DayTotals) : Except Fault Row := do
  let row := { Row.new date (← ledger.ethPrices.priceOn date) with
    consensus := some totals.consensus
    execution := some totals.execution
    withdrawals := ValidatorFigures.shownWithdrawals ledger.request totals.withdrawals }
  match ledger.rplPrices with
  | none => return row
  | some rplPrices =>
    return { row with
      smoothingPool := some totals.smoothingPool
      rpl := some totals.rpl
      rplPrice := some (← rplPrices.priceOn date) }

def groupedRows (ledger : Ledger) (date : Date) : Except Fault (List Row) := do
  let totals := ledger.dayTotals date
  if totals.hasIncome ledger.request then
    return [← ledger.totalsRow date totals]
  else
    return []

/-! ### The whole report -/

def rowsOn (ledger : Ledger) (date : Date) : Except Fault (List Row) :=
  if ledger.request.groupByDate then ledger.groupedRows date else ledger.separateRows date

def rows (ledger : Ledger) : Except Fault (List Row) := do
  return (← ledger.dates.mapM ledger.rowsOn).flatten

end Ledger

namespace Sources

/-- The report of a request. The first fault keeps it from being made, and there are no reports in
part. -/
def report (sources : Sources) (request : Request) : Except Fault Report := do
  let ledger ← sources.ledger request
  return {
    columns := Column.active request
    ethCurrency := sources.ethPrices.currency
    rplCurrency := (sources.rplPrices.map (·.currency)).getD ""
    ladder := request.denomination.ladder
    rows := ← ledger.rows }

def reportText (sources : Sources) (request : Request) : Except Fault String := do
  return (← sources.report request).toDelimited request.delimiter

end Sources

end StakingIncome
