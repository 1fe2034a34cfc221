import StakingIncome.Calendar.Notation
import StakingIncome.Decimal.Positional
import StakingIncome.Request
import StakingIncome.Text.Delimited

/-!
Reports as tables. A row keeps its amounts as whole numbers of base units until it is printed, and a
cell without a value is printed empty. Cells are not quoted.
-/

namespace StakingIncome

inductive Column where
  | date
  | validatorIndex
  | ethPrice
  | consensusIncome
  | executionIncome
  | withdrawals
  | nodeAddress
  | smoothingPoolIncome
  | rplIncome
  | rplPrice
  deriving DecidableEq, Repr

namespace Column

/-- The columns of a report in their order. -/
def active (request : Request) : List Column :=
  [date] ++ (if request.groupByDate then [] else [validatorIndex]) ++
    [ethPrice, consensusIncome, executionIncome] ++
    (if request.withdrawalsColumn then [withdrawals] else []) ++
    if request.pooledColumns then
      (if request.groupByDate then [] else [nodeAddress]) ++
        [smoothingPoolIncome, rplIncome, rplPrice]
    else
      []

def label (ethCurrency rplCurrency : String) : Column → String
  | date => "Date"
  | validatorIndex => "Validator Index"
  | ethPrice => "Price [" ++ ethCurrency ++ "/ETH]"
  | consensusIncome => "Consensus Layer Income [ETH]"
  | executionIncome => "Execution Layer Income [ETH]"
  | withdrawals => "Withdrawals [ETH]"
  | nodeAddress => "Node Address"
  | smoothingPoolIncome => "Smoothing Pool Income [ETH]"
  | rplIncome => "Rocket Pool Node Income [RPL]"
  | rplPrice => "Price [" ++ rplCurrency ++ "/RPL]"

end Column

structure Row where
  date : Date
  validatorIndex : Option UInt64
  ethPrice : Float
  consensus : Option Nat
  execution : Option Nat
  withdrawals : Option Nat
  nodeAddress : Option String
  smoothingPool : Option Nat
  rpl : Option Nat
  rplPrice : Option Float

structure Report where
  columns : List Column
  ethCurrency : String
  rplCurrency : String
  /-- The units of consensus income and withdrawals. All other amounts are in wei. -/
  ladder : UnitLadder
  rows : List Row

/-! ### Printing -/

namespace Column

def amountCell (ladder : UnitLadder) : Option Nat → List Char
  | none => []
  | some amount => Decimal.writtenFloat (ladder.display amount)

/-- What a row shows in a column. -/
def cell (column : Column) (ladder : UnitLadder) (row : Row) : List Char :=
  match column with
  | date => row.date.written
  | validatorIndex => (row.validatorIndex.map fun index => Text.decimal index.toNat).getD []
  | ethPrice => Decimal.writtenFloat row.ethPrice
  | consensusIncome => amountCell ladder row.consensus
  | executionIncome => amountCell .wei row.execution
  | withdrawals => amountCell ladder row.withdrawals
  | nodeAddress => (row.nodeAddress.map String.toList).getD []
  | smoothingPoolIncome => amountCell .wei row.smoothingPool
  | rplIncome => amountCell .wei row.rpl
  | rplPrice => (row.rplPrice.map Decimal.writtenFloat).getD []

end Column

namespace Report

def labels (report : Report) : List (List Char) :=
  report.columns.map fun column => (column.label report.ethCurrency report.rplCurrency).toList

def cells (report : Report) (row : Row) : List (List Char) :=
  report.columns.map fun column => column.cell report.ladder row

/-- The lines of a report, as lists of fields. -/
def table (report : Report) : List (List (List Char)) :=
  report.labels :: report.rows.map report.cells

def header (report : Report) (delimiter : String) : String :=
  String.ofList (Text.joined delimiter.toList report.labels)

/-- The report as a text, one line for the labels and one for each row, without a line feed at the
end. -/
def toDelimited (report : Report) (delimiter : String) : String :=
  String.ofList (Text.joined ['\n'] (report.table.map (Text.joined delimiter.toList)))

end Report

end StakingIncome
