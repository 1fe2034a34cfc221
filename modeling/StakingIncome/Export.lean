import StakingIncome.Environment
import StakingIncome.Json.Income
import StakingIncome.Json.Prices
import StakingIncome.Workplace

/-!
Exports: load the files that the settings name, make the report and save it. The report is saved
in one step and last, so that an export that fails changes no file.
-/

namespace StakingIncome

namespace Export

variable {m : Type → Type} [Monad m] [Surroundings m]

def tell (event : Event) : ExceptT Fault m Unit :=
  ExceptT.lift (Surroundings.tell event)

def orFail {α : Type} (result : Except Fault α) : ExceptT Fault m α :=
  ExceptT.mk (pure result)

def readFile (path : String) : ExceptT Fault m ByteArray :=
  ExceptT.mk (Surroundings.read path)

/-- The text of bytes, if they are one. -/
def textOf (bytes : ByteArray) : Except Fault String :=
  match String.fromUTF8? bytes with
  | some text => .ok text
  | none => .error .file

def readText (path : String) : ExceptT Fault m String := do
  orFail (textOf (← readFile path))

def writeFile (path text : String) : ExceptT Fault m Unit :=
  ExceptT.mk (Surroundings.write path text)

def loadIncome (path : String) : ExceptT Fault m IncomeData := do
  let text ← readText path
  let data ← orFail ((IncomeData.ofJson text.toList).mapError .json)
  tell (.loadedIncome data.validators.length data.nodes.length path)
  return data

def loadPrices (path : String) : ExceptT Fault m PriceSeries := do
  let text ← readText path
  let series ← orFail ((PriceSeries.ofJson text.toList).mapError .json)
  tell (.loadedPrices series.entries.length series.currency path)
  return series

/-- Load all files that the settings name, whether the request needs them or not. -/
def loadSources (settings : Settings) : ExceptT Fault m Sources := do
  let income ← loadIncome settings.incomePath
  let ethPrices ← loadPrices settings.ethPricesPath
  let rplPrices ← settings.rplPricesPath.mapM loadPrices
  return { income, ethPrices, rplPrices }

def makeReport (sources : Sources) (request : Request) : ExceptT Fault m String := do
  tell .building
  (sources.journal request).forM tell
  orFail (sources.reportText request)

/-- Perform an export, with the path of the report as its result. -/
def perform (settings : Settings) : ExceptT Fault m String := do
  let sources ← loadSources settings
  let text ← makeReport sources settings.request
  writeFile settings.outputPath text
  tell (.saved settings.outputPath)
  return settings.outputPath

/-! ### The command line -/

/-- The file with variables that is looked for beside the environment. -/
def environmentFile : String := ".env"

/-- Read the settings from the environment, with the environment file behind it if there is one, and
perform their export. -/
def performFrom (environment : Environment) : ExceptT Fault m String := do
  let file ← ExceptT.lift (Surroundings.read environmentFile)
  let assignments := (file.toOption.map Environment.readFile).getD []
  perform (← orFail (Settings.read (environment.withFile assignments)))

end Export

/-- The result of an export in a directory, with the directory afterwards and the events. -/
def Directory.runExport (directory : Directory)
    (performed : ExceptT Fault (StateM Workplace) String) : Except Fault String × Workplace :=
  performed.run.run { directory, events := [] }

end StakingIncome
