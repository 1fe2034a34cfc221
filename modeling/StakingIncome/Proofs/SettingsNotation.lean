import StakingIncome.Proofs.DateNotation
import StakingIncome.Proofs.Variables

/-!
Settings as values of variables. Whatever can be told by an environment is read back from it, in
any spelling of an index, a denomination or a flag and with any blanks around these and around
dates, while paths and the delimiter come back as they are.
-/

namespace StakingIncome

open Text

namespace Variable

/-- What may be given for a variable to tell a result, when the result is one that can be missing:
a value of a form, or nothing. -/
inductive Tells {α : Type} (setting : Variable) (form : α → String → Prop) :
    Option α → Option String → Prop
  | nothing {given : Option String} (unset : setting.Unset given) : Tells setting form none given
  | value {result : α} {value : String} (shown : form result value) :
      Tells setting form (some result) (some value)

/-- What may be given for a variable to tell a result, when nothing stands for one of these. -/
def TellsOr {α : Type} (setting : Variable) (fallback : α) (form : α → String → Prop) (result : α)
    (given : Option String) : Prop :=
  ∃ told : Option α, setting.Tells form told given ∧ told.getD fallback = result

/-! ### Forms of values -/

def IndexForm (index : UInt64) (value : String) : Prop :=
  WordText index (trimmed value.toList)

def DateForm (date : Date) (value : String) : Prop :=
  trimmed value.toList = date.written

def DenominationForm (denomination : Denomination) (value : String) : Prop :=
  lowered (trimmed value.toList) = denomination.name.toList

def FlagForm (flag : Bool) (value : String) : Prop :=
  lowered (trimmed value.toList) ∈ flagWords flag

/-- A value that stands for itself. -/
def Verbatim (text value : String) : Prop :=
  value = text

theorem indexForm_decimal (index : UInt64) :
    IndexForm index (String.ofList (decimal index.toNat)) := by
  rw [IndexForm, String.toList_ofList, trimmed_of_isNumeral (isNumeral_decimal _)]
  exact .bare (isNumeral_decimal _) (digitsValue_decimal _)

theorem dateForm_toString (date : Date) : DateForm date (toString date) := by
  change trimmed (String.ofList date.written).toList = date.written
  rw [String.toList_ofList, trimmed_of_solid date.solid_written]

theorem denominationForm_name (denomination : Denomination) :
    DenominationForm denomination denomination.name := by
  cases denomination <;> rfl

theorem flagForm_toString (flag : Bool) : FlagForm flag (toString flag) := by
  rw [FlagForm]
  cases flag <;> decide

theorem tells_map {α : Type} {setting : Variable} {form : α → String → Prop} {text : α → String}
    (shows : ∀ result, form result (text result)) (told : Option α) :
    setting.Tells form told (told.map text) := by
  cases told with
  | none => exact .nothing (unset_none setting)
  | some result => exact .value (shows result)

theorem tells_verbatim {setting : Variable} (told : Option String) :
    setting.Tells Verbatim told told := by
  cases told with
  | none => exact .nothing (unset_none setting)
  | some text => exact .value rfl

/-! ### Values that are read back -/

section Reading

variable {setting : Variable} {environment : Environment} {α : Type} {form : α → String → Prop}
  {reader : List Char → Except String α}

/-- A reader that refuses the empty text accepts no blank value. -/
theorem isBlankText_of_accepted (refuses : ∀ result, reader [] ≠ .ok result) {value : String}
    {result : α} (accepted : reader (trimmed value.toList) = .ok result) :
    isBlankText value.toList = false := by
  rw [← Bool.not_eq_true, ← trimmed_eq_nil_iff]
  intro nothing
  rw [nothing] at accepted
  exact refuses result accepted

/-- What is told is what counts as given, when no form of it is blank. -/
theorem Tells.value? (blankable : setting ≠ delimiter) {told : Option α}
    (tells : setting.Tells form told (environment setting.name))
    (solid : ∀ result ∈ told, ∀ value, form result value → isBlankText value.toList = false) :
    Option.Rel form told (setting.value? environment) := by
  generalize given : environment setting.name = value at tells
  cases tells with
  | nothing unset =>
      rw [(value?_eq_none_iff blankable).mpr (given ▸ unset)]
      exact .none
  | value shown =>
      rw [value?_eq_some_iff.mpr ⟨given, solid _ rfl _ shown⟩]
      exact .some shown

theorem read_of_tells (blankable : setting ≠ delimiter) (refuses : ∀ result, reader [] ≠ .ok result)
    (reads : ∀ result value, form result value → reader (trimmed value.toList) = .ok result)
    {told : Option α} (tells : setting.Tells form told (environment setting.name)) :
    setting.read environment reader = .ok told := by
  have values := tells.value? blankable fun result _ value shown =>
    isBlankText_of_accepted refuses (reads result value shown)
  rw [read]
  generalize setting.value? environment = given at values ⊢
  cases values with
  | none => rfl
  | some shown => simp only [reads _ _ shown]

theorem read_index_of_tells {index : Option UInt64}
    (tells : validatorIndex.Tells IndexForm index (environment validatorIndex.name)) :
    validatorIndex.read environment readIndex = .ok index :=
  read_of_tells (by decide) (by rintro _ ⟨⟩) (fun _ _ shown => readIndex_eq_ok_iff.mpr shown) tells

theorem read_date_of_tells (blankable : setting ≠ delimiter) {date : Option Date}
    (tells : setting.Tells DateForm date (environment setting.name)) :
    setting.read environment readDate = .ok date := by
  refine read_of_tells blankable (by rintro _ ⟨⟩) ?_ tells
  intro date value shown
  rw [shown]
  exact readDate_eq_ok_iff.mpr date.read_written

theorem read_denomination_of_tells {denomination : Option Denomination}
    (tells : consensusDenomination.Tells DenominationForm denomination
      (environment consensusDenomination.name)) :
    consensusDenomination.read environment Denomination.read = .ok denomination := by
  refine read_of_tells (by decide) (by rintro _ ⟨⟩) ?_ tells
  intro denomination value shown
  rw [Denomination.read_eq_ok_iff, trimmed_trimmed]
  exact shown

theorem flag_of_tellsOr (blankable : setting ≠ delimiter) {flag : Bool}
    (tells : setting.TellsOr false FlagForm flag (environment setting.name)) :
    setting.flag environment = .ok flag := by
  rcases tells with ⟨told, tells, rfl⟩
  have read := read_of_tells blankable (by rintro _ ⟨⟩)
    (fun _ _ shown => readFlag_eq_ok_iff.mpr shown) tells
  rw [Variable.flag, read]
  rfl

/-! ### Values that are kept as they are -/

theorem value?_of_tells (blankable : setting ≠ delimiter) {told : Option String}
    (solid : ∀ text ∈ told, isBlankText text.toList = false)
    (tells : setting.Tells Verbatim told (environment setting.name)) :
    setting.value? environment = told := by
  have values := tells.value? blankable fun text member value shown =>
    (show value = text from shown) ▸ solid text member
  generalize setting.value? environment = given at values ⊢
  cases values with
  | none => rfl
  | some shown => exact congrArg some shown

end Reading

end Variable

namespace Settings

/-! ### Settings in an environment -/

/-- Paths are not blank, and the delimiter is not empty. -/
structure Tellable (settings : Settings) : Prop where
  incomePath : isBlankText settings.incomePath.toList = false
  ethPricesPath : isBlankText settings.ethPricesPath.toList = false
  rplPricesPath : ∀ path ∈ settings.rplPricesPath, isBlankText path.toList = false
  outputPath : isBlankText settings.outputPath.toList = false
  delimiter : settings.request.delimiter ≠ ""

/-- What may be given for each variable to tell settings. -/
def Spells (settings : Settings) (setting : Variable) : Option String → Prop :=
  match setting with
  | .validatorIndex => setting.Tells Variable.IndexForm settings.request.validator
  | .startDate => setting.Tells Variable.DateForm (settings.request.span.map (·.start))
  | .endDate => setting.Tells Variable.DateForm (settings.request.span.map (·.finish))
  | .consensusDenomination =>
    setting.TellsOr .gwei Variable.DenominationForm settings.request.denomination
  | .groupByDate => setting.TellsOr false Variable.FlagForm settings.request.groupByDate
  | .withdrawalsAsConsensus =>
    setting.TellsOr false Variable.FlagForm settings.request.withdrawalsAsConsensus
  | .pooledColumns => setting.TellsOr false Variable.FlagForm settings.request.pooledColumns
  | .withdrawalsColumn => setting.TellsOr false Variable.FlagForm settings.request.withdrawalsColumn
  | .delimiter => setting.TellsOr defaultDelimiter Variable.Verbatim settings.request.delimiter
  | .incomeFile => setting.Tells Variable.Verbatim (some settings.incomePath)
  | .ethPricesFile => setting.Tells Variable.Verbatim (some settings.ethPricesPath)
  | .rplPricesFile => setting.Tells Variable.Verbatim settings.rplPricesPath
  | .outputFile =>
    setting.TellsOr (defaultOutputPath settings.request) Variable.Verbatim settings.outputPath

/-- What is given for each variable in the plainest spelling. -/
def text? (settings : Settings) : Variable → Option String
  | .validatorIndex => settings.request.validator.map fun index =>
      String.ofList (decimal index.toNat)
  | .startDate => (settings.request.span.map (·.start)).map toString
  | .endDate => (settings.request.span.map (·.finish)).map toString
  | .consensusDenomination => some settings.request.denomination.name
  | .groupByDate => some (toString settings.request.groupByDate)
  | .withdrawalsAsConsensus => some (toString settings.request.withdrawalsAsConsensus)
  | .pooledColumns => some (toString settings.request.pooledColumns)
  | .withdrawalsColumn => some (toString settings.request.withdrawalsColumn)
  | .delimiter => some settings.request.delimiter
  | .incomeFile => some settings.incomePath
  | .ethPricesFile => some settings.ethPricesPath
  | .rplPricesFile => settings.rplPricesPath
  | .outputFile => some settings.outputPath

/-- The environment with the settings in it and nothing else. -/
def environment (settings : Settings) : Environment :=
  fun name => (Variable.all.find? fun setting => setting.name == name).bind settings.text?

theorem environment_name (settings : Settings) (setting : Variable) :
    settings.environment setting.name = settings.text? setting := by
  have found : (Variable.all.find? fun other => other.name == setting.name) = some setting := by
    cases setting <;> decide
  rw [environment, found, Option.bind_some]

variable {settings : Settings} {environment : Environment}

theorem spells_environment (settings : Settings) (setting : Variable) :
    settings.Spells setting (settings.environment setting.name) := by
  rw [environment_name]
  cases setting with
  | validatorIndex => exact Variable.tells_map Variable.indexForm_decimal _
  | startDate | endDate => exact Variable.tells_map Variable.dateForm_toString _
  | consensusDenomination => exact ⟨_, .value (Variable.denominationForm_name _), rfl⟩
  | groupByDate | withdrawalsAsConsensus | pooledColumns | withdrawalsColumn =>
      exact ⟨_, .value (Variable.flagForm_toString _), rfl⟩
  | delimiter | outputFile => exact ⟨_, .value rfl, rfl⟩
  | incomeFile | ethPricesFile => exact .value rfl
  | rplPricesFile => exact Variable.tells_verbatim _

theorem readSpan_of_spells
    (start : Variable.startDate.Tells Variable.DateForm (settings.request.span.map (·.start))
      (environment Variable.startDate.name))
    (finish : Variable.endDate.Tells Variable.DateForm (settings.request.span.map (·.finish))
      (environment Variable.endDate.name)) :
    readSpan environment = .ok settings.request.span := by
  rw [readSpan, Variable.read_date_of_tells (by decide) start,
    Variable.read_date_of_tells (by decide) finish]
  cases settings.request.span <;> rfl

/-- Of the delimiter nothing is trimmed, and only an empty one gives way to the default. -/
theorem readDelimiter_of_spells (something : settings.request.delimiter ≠ "")
    (spelled : Variable.delimiter.TellsOr defaultDelimiter Variable.Verbatim
      settings.request.delimiter (environment Variable.delimiter.name)) :
    readDelimiter environment = settings.request.delimiter := by
  rcases spelled with ⟨told, tells, delimiter⟩
  rw [← delimiter] at something ⊢
  generalize given : environment Variable.delimiter.name = value at tells
  cases tells with
  | nothing unset => exact readDelimiter_of_unset (given ▸ unset)
  | @value text _ shown =>
      cases shown
      have kept : (!text.isEmpty) = true := by simpa using something
      rw [readDelimiter, given, Option.filter_some, if_pos kept]

theorem readRequest_of_spells (solid : settings.request.delimiter ≠ "")
    (spelled : ∀ setting, settings.Spells setting (environment setting.name)) :
    readRequest environment = .ok settings.request := by
  rcases spelled .consensusDenomination with ⟨denomination, denominationTells, denominationRead⟩
  simp only [readRequest, Variable.read_index_of_tells (spelled .validatorIndex),
    readSpan_of_spells (spelled .startDate) (spelled .endDate),
    Variable.read_denomination_of_tells denominationTells,
    Variable.flag_of_tellsOr (by decide) (spelled .groupByDate),
    Variable.flag_of_tellsOr (by decide) (spelled .withdrawalsAsConsensus),
    Variable.flag_of_tellsOr (by decide) (spelled .pooledColumns),
    Variable.flag_of_tellsOr (by decide) (spelled .withdrawalsColumn),
    readDelimiter_of_spells solid (spelled .delimiter), denominationRead, bind, Except.bind]
  rfl

theorem read_of_spells (tellable : settings.Tellable)
    (spelled : ∀ setting, settings.Spells setting (environment setting.name)) :
    read environment = .ok settings := by
  have request := readRequest_of_spells tellable.delimiter spelled
  have incomePath := Variable.value?_of_tells (by decide) (by simpa using tellable.incomePath)
    (spelled .incomeFile)
  have ethPricesPath := Variable.value?_of_tells (by decide) (by simpa using tellable.ethPricesPath)
    (spelled .ethPricesFile)
  have rplPricesPath := Variable.value?_of_tells (by decide) tellable.rplPricesPath
    (spelled .rplPricesFile)
  rcases spelled .outputFile with ⟨told, tells, outputPath⟩
  have solidOutput : ∀ text ∈ told, isBlankText text.toList = false := by
    rintro text ⟨⟩
    rw [show text = settings.outputPath from outputPath]
    exact tellable.outputPath
  have output := Variable.value?_of_tells (by decide) solidOutput tells
  simp only [read, request, Variable.path, incomePath, ethPricesPath, rplPricesPath, output,
    outputPath, bind, Except.bind]
  rfl

/-- Settings are read back from the environment that tells them, and from every other one that
spells them in its own way. Paths and the delimiter come back character for character, and the ends
of the span are kept even if they are reversed. -/
theorem read_spelled {settings : Settings} (tellable : settings.Tellable) :
    read settings.environment = .ok settings ∧
      ∀ environment, (∀ setting, settings.Spells setting (environment setting.name)) →
        read environment = .ok settings :=
  ⟨read_of_spells tellable settings.spells_environment, fun _ => read_of_spells tellable⟩

/-- Settings with a reversed span of unusual years, and with blanks in a path and the delimiter. -/
def unusual (start finish : Date) : Settings where
  incomePath := " income.json "
  ethPricesPath := "eth.json"
  rplPricesPath := none
  outputPath := "out.csv"
  request := {
    groupByDate := true, withdrawalsAsConsensus := false, pooledColumns := true
    withdrawalsColumn := false, denomination := .wei, validator := some 18446744073709551615
    span := some { start, finish }, delimiter := "\t " }

def unusualEnvironment : Environment :=
  fun name => [("VALIDATOR_INDEX", " 0018446744073709551615"), ("START_DATE", "+12345-06-07\n"),
    ("END_DATE", "\u3000-0001-02-28"), ("CONSENSUS_DENOMINATION", "WEI"),
    ("GROUP_BY_DATE", "Yes"), ("INCLUDE_ROCKET_POOL_COLUMNS", "1"),
    ("INCLUDE_WITHDRAWALS_COLUMN", " "), ("CSV_DELIMITER", "\t "),
    ("REWARDS_FILE", " income.json "), ("ETH_PRICES_FILE", "eth.json"), ("RPL_PRICES_FILE", "  "),
    ("OUTPUT_FILE", "out.csv")].lookup name

theorem unusual_read_spelled :
    let settings := unusual ⟨12345, 6, 7, by decide⟩ ⟨-1, 2, 28, by decide⟩
    settings.Tellable ∧ read settings.environment = .ok settings ∧
      (∀ setting, settings.Spells setting (unusualEnvironment setting.name)) ∧
      read unusualEnvironment = .ok settings := by
  intro settings
  have tellable : settings.Tellable := {
    incomePath := by decide, ethPricesPath := by decide, rplPricesPath := nofun
    outputPath := by decide, delimiter := by decide }
  have spelled : ∀ setting, settings.Spells setting (unusualEnvironment setting.name) := by
    intro setting
    cases setting with
    | validatorIndex => exact .value (.bare (by decide) (by decide))
    | startDate | endDate => exact .value (by rw [Variable.DateForm]; decide)
    | consensusDenomination =>
        exact ⟨some .wei, .value (by rw [Variable.DenominationForm]; decide), rfl⟩
    | groupByDate | pooledColumns =>
        exact ⟨some true, .value (by rw [Variable.FlagForm]; decide), rfl⟩
    | withdrawalsAsConsensus => exact ⟨none, .nothing (by decide), rfl⟩
    | withdrawalsColumn => exact ⟨none, .nothing (by decide), rfl⟩
    | delimiter | outputFile => exact ⟨_, .value rfl, rfl⟩
    | incomeFile | ethPricesFile => exact .value rfl
    | rplPricesFile => exact .nothing (by decide)
  have readBack := read_spelled tellable
  exact ⟨tellable, readBack.1, spelled, readBack.2 _ spelled⟩

end Settings

end StakingIncome
