import StakingIncome.Fault
import StakingIncome.Request

/-!
Settings from variables. A variable that is blank counts as one that is not set, and blanks around
a value do not matter, except in two kinds of values: paths are taken as they are when they are
not blank, and so is the delimiter, of which only the empty one counts as not set.
-/

namespace StakingIncome

open Text

inductive Variable where
  | validatorIndex
  | startDate
  | endDate
  | consensusDenomination
  | groupByDate
  | withdrawalsAsConsensus
  | pooledColumns
  | withdrawalsColumn
  | delimiter
  | incomeFile
  | ethPricesFile
  | rplPricesFile
  | outputFile
  deriving DecidableEq, Repr

def Variable.all : List Variable :=
  [validatorIndex, startDate, endDate, consensusDenomination, groupByDate, withdrawalsAsConsensus,
    pooledColumns, withdrawalsColumn, delimiter, incomeFile, ethPricesFile, rplPricesFile,
    outputFile]

def Variable.name : Variable → String
  | validatorIndex => "VALIDATOR_INDEX"
  | startDate => "START_DATE"
  | endDate => "END_DATE"
  | consensusDenomination => "CONSENSUS_DENOMINATION"
  | groupByDate => "GROUP_BY_DATE"
  | withdrawalsAsConsensus => "USE_WITHDRAWALS_AS_CONSENSUS_INCOME"
  | pooledColumns => "INCLUDE_ROCKET_POOL_COLUMNS"
  | withdrawalsColumn => "INCLUDE_WITHDRAWALS_COLUMN"
  | delimiter => "CSV_DELIMITER"
  | incomeFile => "REWARDS_FILE"
  | ethPricesFile => "ETH_PRICES_FILE"
  | rplPricesFile => "RPL_PRICES_FILE"
  | outputFile => "OUTPUT_FILE"

structure Settings where
  incomePath : String
  ethPricesPath : String
  rplPricesPath : Option String
  outputPath : String
  request : Request
  deriving DecidableEq

/-- The values of the variables that are set, by name. -/
abbrev Environment := String → Option String

namespace Variable

def fault (setting : Variable) (reason : String) : Fault :=
  .setting setting.name reason

/-- The value of a variable, if it is not blank. -/
def value? (setting : Variable) (environment : Environment) : Option String :=
  (environment setting.name).filter fun value => !isBlankText value.toList

/-- Read a variable, if it is set, from its value without blanks around it. -/
def read {α : Type} (setting : Variable) (environment : Environment)
    (reader : List Char → Except String α) : Except Fault (Option α) :=
  match setting.value? environment with
  | none => .ok none
  | some value =>
    match reader (trimmed value.toList) with
    | .ok result => .ok (some result)
    | .error reason => .error (setting.fault reason)

def readIndex (text : List Char) : Except String UInt64 :=
  (readWord text).mapError NumeralError.message

def readDate (text : List Char) : Except String Date :=
  (Date.read text).mapError DateError.message

def readFlag (text : List Char) : Except String Bool :=
  let word := lowered text
  if word ∈ ["1".toList, "true".toList, "yes".toList] then .ok true
  else if word ∈ ["0".toList, "false".toList, "no".toList] then .ok false
  else .error ("expected a boolean, got " ++ String.ofList (quoted word))

def flag (setting : Variable) (environment : Environment) : Except Fault Bool := do
  return (← setting.read environment readFlag).getD false

def path (setting : Variable) (environment : Environment) : Except Fault String :=
  match setting.value? environment with
  | some path => .ok path
  | none => .error (setting.fault "must be set")

end Variable

namespace Settings

/-- The span from the two variables for it, which are set together or not at all. -/
def readSpan (environment : Environment) : Except Fault (Option DateSpan) := do
  let start ← Variable.startDate.read environment Variable.readDate
  let finish ← Variable.endDate.read environment Variable.readDate
  match start, finish with
  | some start, some finish => return some { start, finish }
  | none, none => return none
  | _, _ => throw (Variable.startDate.fault "START_DATE and END_DATE must be set together")

def defaultDelimiter : String := ";"

def readDelimiter (environment : Environment) : String :=
  ((environment Variable.delimiter.name).filter fun value => !value.isEmpty).getD defaultDelimiter

def readRequest (environment : Environment) : Except Fault Request := do
  let validator ← Variable.validatorIndex.read environment Variable.readIndex
  let span ← readSpan environment
  let denomination ← Variable.consensusDenomination.read environment Denomination.read
  let groupByDate ← Variable.groupByDate.flag environment
  let withdrawalsAsConsensus ← Variable.withdrawalsAsConsensus.flag environment
  let pooledColumns ← Variable.pooledColumns.flag environment
  let withdrawalsColumn ← Variable.withdrawalsColumn.flag environment
  return {
    groupByDate, withdrawalsAsConsensus, pooledColumns, withdrawalsColumn, validator, span
    denomination := denomination.getD .gwei
    delimiter := readDelimiter environment }

/-- Where a report goes when no path is given for it. -/
def defaultOutputPath (request : Request) : String :=
  match request.validator with
  | some index => "rewards_" ++ String.ofList (decimal index.toNat) ++ ".csv"
  | none => "rewards_data.csv"

/-- The settings of an environment, or the fault of the first variable that is wrong. -/
def read (environment : Environment) : Except Fault Settings := do
  let request ← readRequest environment
  let incomePath ← Variable.incomeFile.path environment
  let ethPricesPath ← Variable.ethPricesFile.path environment
  return {
    incomePath, ethPricesPath, request
    rplPricesPath := Variable.rplPricesFile.value? environment
    outputPath := (Variable.outputFile.value? environment).getD (defaultOutputPath request) }

end Settings

end StakingIncome
