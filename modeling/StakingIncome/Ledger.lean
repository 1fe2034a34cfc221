import StakingIncome.DailyTotals
import StakingIncome.OperatorShare
import StakingIncome.Price
import StakingIncome.Request
import Std.Data.TreeSet.Lemmas

/-!
The ledger of a request: the income that it selects, added up by date, with the prices to go with
it. A ledger is opened from the sources of a report, and all that can be wrong with these is found
then, except that a price is missing.
-/

namespace StakingIncome

/-- The data that a report is made from. -/
structure Sources where
  income : IncomeData
  ethPrices : PriceSeries
  rplPrices : Option PriceSeries

/-- The income of one validator in the figures that reports show. -/
structure ValidatorFigures where
  index : UInt64
  consensus : DailyTotals
  execution : DailyTotals
  withdrawals : DailyTotals

structure Ledger where
  request : Request
  validators : List ValidatorFigures
  nodes : List NodeIncome
  ethPrices : PriceIndex
  /-- Given exactly when the columns of the pool are shown. -/
  rplPrices : Option PriceIndex
  /-- The dates of any income inside the span of the request, in ascending order. -/
  dates : List Date

namespace Request

def delimiterSeparates (request : Request) : Bool :=
  !request.delimiter.isEmpty &&
    request.delimiter.toList.all fun character => character != '\n' && character != '\r'

def delimiterConflict? (request : Request) : Option Conflict :=
  if request.delimiterSeparates then none else some (.delimiter request.delimiter)

def spanConflict? (request : Request) : Option Conflict :=
  match request.span with
  | some span => if span.finish < span.start then some (.reversedSpan span) else none
  | none => none

def pricesConflict? (request : Request) (rplPrices : Option PriceSeries) : Option Conflict :=
  if request.pooledColumns && rplPrices.isNone then some .noRplPrices else none

/-- The first conflict between the options of a request, and of these with the prices. -/
def conflict? (request : Request) (rplPrices : Option PriceSeries) : Option Conflict :=
  request.delimiterConflict?.or (request.spanConflict?.or (request.pricesConflict? rplPrices))

/-- Conflicts are looked for before anything else. -/
def check (request : Request) (rplPrices : Option PriceSeries) : Except Fault Unit :=
  match request.conflict? rplPrices with
  | some conflict => .error (.conflict conflict)
  | none => .ok ()

/-- The schedule that splits the income of a validator, if the request asks for the operator's
part. -/
def splitting? (request : Request) (validator : Validator) : Option OperatorSchedule :=
  if request.pooledColumns then validator.schedule? else none

/-- The series that consensus income is read from. Withdrawals are never added to the consensus
series. -/
def consensusEntries (request : Request) (income : ValidatorIncome) :
    Except Fault (List IncomeEntry) :=
  if request.withdrawalsAsConsensus then
    .ok income.withdrawals
  else
    match income.consensus with
    | some entries => .ok entries
    | none => .error (.conflict (.noConsensusSeries income.index))

end Request

/-! ### The figures of a validator -/

/-- What counts of an entry: the operator's part where a schedule splits it, or else all of it. -/
def countedPart (schedule? : Option OperatorSchedule) (entry : IncomeEntry) :
    Except Fault IncomeEntry :=
  match schedule? with
  | none => .ok entry
  | some schedule => schedule.share entry

def countedTotals (schedule? : Option OperatorSchedule) (entries : List IncomeEntry) :
    Except Fault DailyTotals := do
  return DailyTotals.ofEntries (← entries.mapM (countedPart schedule?))

namespace Validator

def figures (request : Request) (validator : Validator) : Except Fault ValidatorFigures := do
  let income := validator.income
  let splitting? := request.splitting? validator
  let consensus ← countedTotals splitting? (← request.consensusEntries income)
  let execution ← countedTotals splitting? income.execution
  let withdrawals ← countedTotals splitting? income.withdrawals
  return { index := income.index, consensus, execution, withdrawals }

/-- The fault of a pooled validator without bonds or without fees. -/
def missingSchedule? (validator : Validator) : Option Fault := do
  let schedule ← validator.schedule?
  let kind ← schedule.missing?
  return .missingSchedule validator.index kind

end Validator

/-! ### Opening the ledger -/

namespace Sources

def selected (sources : Sources) (request : Request) : List Validator :=
  sources.income.validators.filter fun validator => request.selects validator.index

/-- The dates of all entries of the selected validators and of all node income, also where the
request does not show the series that an entry belongs to. -/
def dates (sources : Sources) (request : Request) : List Date :=
  let all :=
    (sources.selected request).flatMap (·.income.dates) ++ sources.income.nodes.map (·.date)
  (Std.TreeSet.ofList (all.filter request.covers)).toList

/-- Schedules are asked for before any income is split, so that a validator without one is named
even when the income of another one before it cannot be split. -/
def checkSchedules (request : Request) (validators : List Validator) : Except Fault Unit :=
  if request.pooledColumns then
    match validators.findSome? Validator.missingSchedule? with
    | some fault => .error fault
    | none => .ok ()
  else
    .ok ()

def rplIndex (sources : Sources) (request : Request) : Except Fault (Option PriceIndex) :=
  match sources.rplPrices with
  | some series => if request.pooledColumns then some <$> series.index else .ok none
  | none => .ok none

def ledger (sources : Sources) (request : Request) : Except Fault Ledger := do
  request.check sources.rplPrices
  checkSchedules request (sources.selected request)
  let validators ← (sources.selected request).mapM (Validator.figures request)
  let ethPrices ← sources.ethPrices.index
  let rplPrices ← sources.rplIndex request
  return {
    request, validators, ethPrices, rplPrices
    nodes := sources.income.nodes
    dates := sources.dates request }

end Sources

end StakingIncome
