import StakingIncome.Export

/-!
Exports are all or nothing. Wherever a file is read or written as a whole or else not at all, an
export either saves the report of what the files held before, and changes no other file, or it fails
with the first thing that is wrong and changes none. Nothing is asked of the paths: they may lead to
files anywhere, and two of them to the same file.
-/

namespace StakingIncome

/-! ### Files in surroundings -/

/-- A directory after the file that a path leads to was given its bytes: nothing else differs. -/
structure Directory.Replaced (before : Directory) (path : String) (bytes : ByteArray)
    (after : Directory) : Prop where
  place?_eq : after.place? = before.place?
  files_eq : ∃ place, before.place? path = some place ∧
    ∀ other, after.files[other]? = if place = other then some bytes else before.files[other]?

theorem Directory.fault_of_read {directory : Directory} {path : String} {fault : Fault}
    (failed : directory.read path = .error fault) : fault = .file := by
  unfold read at failed
  split at failed
  · cases failed
  · exact (Except.error.inj failed).symm

theorem Directory.fault_of_write {directory : Directory} {path text : String} {fault : Fault}
    (failed : directory.write path text = .error fault) : fault = .file := by
  unfold write at failed
  split at failed
  · cases failed
  · exact (Except.error.inj failed).symm

theorem Directory.replaced_of_write {before after : Directory} {path text : String}
    (written : before.write path text = .ok after) :
    before.Replaced path text.toUTF8 after := by
  unfold write at written
  split at written
  · rename_i place found
    cases written
    refine ⟨rfl, place, found, ?_⟩
    intro other
    simp only [Std.TreeMap.getElem?_insert, Std.LawfulEqCmp.compare_eq_iff_eq]
  · cases written

namespace Surroundings

variable {σ : Type} [Surroundings (StateM σ)]

/-- Surroundings with a directory, in which any access may fail, but none fails in part: what is
read is what a file holds, what is written is there, and nothing else changes the files. -/
structure Lawful (files : σ → Directory) : Prop where
  read_files : ∀ path state, files ((read path : StateM σ _).run state).2 = files state
  read_ok : ∀ path state bytes, ((read path : StateM σ _).run state).1 = .ok bytes →
    (files state).read path = .ok bytes
  read_error : ∀ path state fault, ((read path : StateM σ _).run state).1 = .error fault →
    fault = .file
  write_ok : ∀ path text state, ((write path text : StateM σ _).run state).1 = .ok () →
    (files state).Replaced path text.toUTF8 (files ((write path text : StateM σ _).run state).2)
  write_error : ∀ path text state fault,
    ((write path text : StateM σ _).run state).1 = .error fault →
    fault = .file ∧ files ((write path text : StateM σ _).run state).2 = files state
  tell_files : ∀ event state, files ((tell event : StateM σ _).run state).2 = files state

/-- Reading a path can fail with these files. -/
def RefusesRead (files : σ → Directory) (directory : Directory) (path : String) : Prop :=
  ∃ state, files state = directory ∧ ((read path : StateM σ _).run state).1 = .error .file

/-- Writing to a path can fail with these files. -/
def RefusesWrite (files : σ → Directory) (directory : Directory) (path text : String) : Prop :=
  ∃ state, files state = directory ∧ ((write path text : StateM σ _).run state).1 = .error .file

end Surroundings

theorem Workplace.lawful : Surroundings.Lawful Workplace.directory where
  read_files _ _ := rfl
  read_ok _ _ _ found := found
  read_error _ _ _ failed := Directory.fault_of_read failed
  write_ok path text workplace written := by
    change (workplace.write path text).1 = _ at written
    change workplace.directory.Replaced path text.toUTF8 (workplace.write path text).2.directory
    unfold write at written ⊢
    split at written
    · rename_i directory saved
      exact Directory.replaced_of_write saved
    · cases written
  write_error path text workplace fault failed := by
    change (workplace.write path text).1 = _ at failed
    change _ ∧ (workplace.write path text).2.directory = _
    unfold write at failed ⊢
    split at failed
    · cases failed
    · rename_i other refused
      cases failed
      exact ⟨Directory.fault_of_write refused, rfl⟩
  tell_files _ _ := rfl

/-! ### What an export can come to -/

/-- A path leads to the text of a value. -/
def Directory.Holds {α : Type} (directory : Directory) (path : String)
    (decode : List Char → Except Json.DecodeFault α) (value : α) : Prop :=
  ∃ bytes text, directory.read path = .ok bytes ∧ String.fromUTF8? bytes = some text ∧
    decode text.toList = .ok value

namespace Export

section Stages

variable {σ : Type} [Surroundings (StateM σ)]

/-- Why no value is loaded from a path: its file cannot be read, is no text, or is the text of
something else. -/
inductive Unloadable {α : Type} (files : σ → Directory) (directory : Directory) (path : String)
    (decode : List Char → Except Json.DecodeFault α) : Fault → Prop
  | refused (refused : Surroundings.RefusesRead files directory path) :
      Unloadable files directory path decode .file
  | noText {bytes : ByteArray} (found : directory.read path = .ok bytes)
      (unfit : String.fromUTF8? bytes = none) : Unloadable files directory path decode .file
  | noValue {bytes : ByteArray} {text : String} {fault : Json.DecodeFault}
      (found : directory.read path = .ok bytes) (written : String.fromUTF8? bytes = some text)
      (undecoded : decode text.toList = .error fault) :
      Unloadable files directory path decode (.json fault)

/-- What the files hold that the settings name. Prices of RPL are there exactly when a path is given
for them, whether the request needs them or not. -/
structure Loads (directory : Directory) (settings : Settings) (sources : Sources) : Prop where
  income : directory.Holds settings.incomePath IncomeData.ofJson sources.income
  ethPrices : directory.Holds settings.ethPricesPath PriceSeries.ofJson sources.ethPrices
  rplPrices : Option.Rel (fun path series => directory.Holds path PriceSeries.ofJson series)
    settings.rplPricesPath sources.rplPrices

/-- What the first thing that is wrong leads to: all before it is as it should be. -/
inductive FirstFault (files : σ → Directory) (directory : Directory) (settings : Settings) :
    Fault → Prop
  | income {fault : Fault}
      (unloadable : Unloadable files directory settings.incomePath IncomeData.ofJson fault) :
      FirstFault files directory settings fault
  | ethPrices {income : IncomeData} {fault : Fault}
      (incomeHeld : directory.Holds settings.incomePath IncomeData.ofJson income)
      (unloadable : Unloadable files directory settings.ethPricesPath PriceSeries.ofJson fault) :
      FirstFault files directory settings fault
  | rplPrices {income : IncomeData} {ethPrices : PriceSeries} {path : String} {fault : Fault}
      (incomeHeld : directory.Holds settings.incomePath IncomeData.ofJson income)
      (pricesHeld : directory.Holds settings.ethPricesPath PriceSeries.ofJson ethPrices)
      (given : settings.rplPricesPath = some path)
      (unloadable : Unloadable files directory path PriceSeries.ofJson fault) :
      FirstFault files directory settings fault
  | report {sources : Sources} {fault : Fault} (loads : Loads directory settings sources)
      (unmade : sources.reportText settings.request = .error fault) :
      FirstFault files directory settings fault
  | output {sources : Sources} {text : String} (loads : Loads directory settings sources)
      (made : sources.reportText settings.request = .ok text)
      (refused : Surroundings.RefusesWrite files directory settings.outputPath text) :
      FirstFault files directory settings .file

/-- The result of an export and the directory after it, by the directory before it. -/
inductive Outcome (files : σ → Directory) (before : Directory) (settings : Settings) :
    Except Fault String → Directory → Prop
  | saved {sources : Sources} {text : String} {after : Directory}
      (loads : Loads before settings sources)
      (made : sources.reportText settings.request = .ok text)
      (replaced : before.Replaced settings.outputPath text.toUTF8 after) :
      Outcome files before settings (.ok settings.outputPath) after
  | failed {fault : Fault} (first : FirstFault files before settings fault) :
      Outcome files before settings (.error fault) before

end Stages

/-! ### Actions and the files -/

section Actions

variable {σ α β : Type} {files : σ → Directory}

/-- How the files before an action, its result and the files after it fit together. -/
def Leads (files : σ → Directory) (action : ExceptT Fault (StateM σ) α)
    (fits : Directory → Except Fault α → Directory → Prop) : Prop :=
  ∀ state, fits (files state) (action.run.run state).1 (files (action.run.run state).2)

/-- An action that leaves the files as they are. -/
def Reads (files : σ → Directory) (action : ExceptT Fault (StateM σ) α)
    (fits : Directory → Except Fault α → Prop) : Prop :=
  Leads files action fun before result after => after = before ∧ fits before result

theorem Leads.bind {action : ExceptT Fault (StateM σ) α} {next : α → ExceptT Fault (StateM σ) β}
    {fits : Directory → Except Fault α → Directory → Prop}
    {total : Directory → Except Fault β → Directory → Prop} (first : Leads files action fits)
    (failed : ∀ before fault after, fits before (.error fault) after →
      total before (.error fault) after)
    (second : ∀ value, Leads files (next value) fun middle result after =>
      ∀ before, fits before (.ok value) middle → total before result after) :
    Leads files (action >>= next) total := by
  intro state
  have fitting := first state
  have run : (action >>= next).run.run state =
      match action.run.run state with
      | (.ok value, middle) => (next value).run.run middle
      | (.error fault, middle) => (.error fault, middle) := by
    change (ExceptT.bindCont next (action.run.run state).1).run (action.run.run state).2 = _
    rcases action.run.run state with ⟨_ | _, middle⟩ <;> rfl
  rw [run]
  generalize action.run.run state = ran at fitting
  rcases ran with ⟨fault | value, middle⟩
  · exact failed _ fault _ fitting
  · exact second value middle _ fitting

/-- Behind an action that leaves the files as they are, the next one finds them as they were. -/
theorem Reads.bind {action : ExceptT Fault (StateM σ) α} {next : α → ExceptT Fault (StateM σ) β}
    {fits : Directory → Except Fault α → Prop}
    {total : Directory → Except Fault β → Directory → Prop} (first : Reads files action fits)
    (failed : ∀ directory fault, fits directory (.error fault) →
      total directory (.error fault) directory)
    (second : ∀ value, Leads files (next value) fun before result after =>
      fits before (.ok value) → total before result after) :
    Leads files (action >>= next) total := by
  refine Leads.bind first ?_ ?_
  · rintro before fault _ ⟨rfl, fitting⟩
    exact failed _ fault fitting
  · rintro value state _ ⟨rfl, fitting⟩
    exact second value state fitting

theorem reads_orFail (result : Except Fault α) :
    Reads files (orFail result) fun _ found => found = result :=
  fun _ => ⟨rfl, rfl⟩

theorem reads_pure (value : α) :
    Reads files (pure value) fun _ found => found = .ok value :=
  fun _ => ⟨rfl, rfl⟩

end Actions

section Stages

variable {σ α : Type} [Surroundings (StateM σ)] {files : σ → Directory}

theorem reads_tell (lawful : Surroundings.Lawful files) (event : Event) :
    Reads files (tell event) fun _ result => result = .ok () :=
  fun state => ⟨lawful.tell_files event state, rfl⟩

theorem reads_forM_tell (lawful : Surroundings.Lawful files) (events : List Event) :
    Reads files (events.forM tell) fun _ result => result = .ok () := by
  induction events with
  | nil => exact reads_pure ()
  | cons event rest induction =>
      refine Reads.bind (reads_tell lawful event) ?_ ?_
      · intro directory fault impossible
        cases impossible
      · intro _ state _
        exact induction state

theorem reads_readFile (lawful : Surroundings.Lawful files) (path : String) :
    Reads files (readFile path) fun directory result =>
      match result with
      | .ok bytes => directory.read path = .ok bytes
      | .error fault => fault = .file ∧ Surroundings.RefusesRead files directory path := by
  intro state
  refine ⟨lawful.read_files path state, ?_⟩
  change match ((Surroundings.read path : StateM σ _).run state).1 with
    | .ok bytes => _
    | .error fault => _
  split
  · rename_i bytes found
    exact lawful.read_ok path state bytes found
  · rename_i fault failed
    obtain rfl := lawful.read_error path state fault failed
    exact ⟨rfl, state, rfl, failed⟩

/-- Whatever text a path leads to, and why it may lead to none, is the same for all values. -/
theorem reads_readText (lawful : Surroundings.Lawful files) (path : String) :
    Reads files (readText path) fun directory result =>
      match result with
      | .ok text => ∃ bytes, directory.read path = .ok bytes ∧ String.fromUTF8? bytes = some text
      | .error fault => ∀ (α : Type) (decode : List Char → Except Json.DecodeFault α),
          Unloadable files directory path decode fault := by
  refine Reads.bind (reads_readFile lawful path) ?_ ?_
  · intro directory fault failed
    rcases failed with ⟨rfl, refused⟩
    exact ⟨rfl, fun _ _ => .refused refused⟩
  · intro bytes state found
    refine ⟨rfl, ?_⟩
    change match textOf bytes with
      | .ok text => _
      | .error fault => _
    cases written : String.fromUTF8? bytes with
    | none =>
        simp only [textOf, written]
        exact fun _ _ => .noText found written
    | some text =>
        simp only [textOf, written]
        exact ⟨bytes, found, written⟩

/-- Load a value and tell about it. -/
theorem reads_load (lawful : Surroundings.Lawful files) (path : String)
    (decode : List Char → Except Json.DecodeFault α) (event : α → Event) :
    Reads files
      (do
        let text ← readText path
        let value ← orFail ((decode text.toList).mapError .json)
        tell (event value)
        return value)
      fun directory result =>
        match result with
        | .ok value => directory.Holds path decode value
        | .error fault => Unloadable files directory path decode fault := by
  refine Reads.bind (reads_readText lawful path) ?_ ?_
  · intro directory fault failed
    exact ⟨rfl, failed α decode⟩
  · intro text
    refine Reads.bind (reads_orFail _) ?_ ?_
    · intro directory fault failed ⟨bytes, found, written⟩
      refine ⟨rfl, ?_⟩
      cases decoded : decode text.toList with
      | ok value =>
          rw [decoded] at failed
          cases failed
      | error flaw =>
          rw [decoded] at failed
          cases failed
          exact .noValue found written decoded
    · intro value
      refine Reads.bind (reads_tell lawful _) ?_ ?_
      · intro directory fault impossible
        cases impossible
      · intro _ state _ decoded ⟨bytes, found, written⟩
        refine ⟨rfl, bytes, text, found, written, ?_⟩
        cases given : decode text.toList with
        | ok other =>
            rw [given] at decoded
            cases decoded
            rfl
        | error flaw =>
            rw [given] at decoded
            cases decoded

theorem reads_loadRplPrices (lawful : Surroundings.Lawful files) (path? : Option String) :
    Reads files (path?.mapM loadPrices) fun directory result =>
      match result with
      | .ok series? =>
        Option.Rel (fun path series => directory.Holds path PriceSeries.ofJson series) path? series?
      | .error fault =>
        ∃ path, path? = some path ∧ Unloadable files directory path PriceSeries.ofJson fault := by
  cases path? with
  | none => exact fun _ => ⟨rfl, .none⟩
  | some path =>
      rw [Option.mapM_some, map_eq_pure_bind]
      refine Reads.bind (reads_load lawful path PriceSeries.ofJson _) ?_ ?_
      · intro directory fault unloadable
        exact ⟨rfl, path, rfl, unloadable⟩
      · intro series state held
        exact ⟨rfl, .some held⟩

theorem reads_loadSources (lawful : Surroundings.Lawful files) (settings : Settings) :
    Reads files (loadSources settings) fun directory result =>
      match result with
      | .ok sources => Loads directory settings sources
      | .error fault => FirstFault files directory settings fault := by
  refine Reads.bind (reads_load lawful settings.incomePath IncomeData.ofJson _) ?_ ?_
  · intro directory fault unloadable
    exact ⟨rfl, .income unloadable⟩
  · intro income
    refine Reads.bind (reads_load lawful settings.ethPricesPath PriceSeries.ofJson _) ?_ ?_
    · intro directory fault unloadable incomeHeld
      exact ⟨rfl, .ethPrices incomeHeld unloadable⟩
    · intro ethPrices
      refine Reads.bind (reads_loadRplPrices lawful settings.rplPricesPath) ?_ ?_
      · intro directory fault ⟨path, given, unloadable⟩ pricesHeld incomeHeld
        exact ⟨rfl, .rplPrices incomeHeld pricesHeld given unloadable⟩
      · intro rplPrices state rplPricesHeld pricesHeld incomeHeld
        exact ⟨rfl, incomeHeld, pricesHeld, rplPricesHeld⟩

theorem reads_makeReport (lawful : Surroundings.Lawful files) (sources : Sources)
    (request : Request) :
    Reads files (makeReport sources request) fun _ result =>
      result = sources.reportText request := by
  refine Reads.bind (reads_tell lawful .building) ?_ ?_
  · intro directory fault impossible
    cases impossible
  · intro _
    refine Reads.bind (reads_forM_tell lawful (sources.journal request)) ?_ ?_
    · intro directory fault impossible
      cases impossible
    · intro _ state _ _
      exact reads_orFail (sources.reportText request) state

/-- The file of a report is written as a whole, or nothing is written. -/
theorem leads_writeFile (lawful : Surroundings.Lawful files) (path text : String) :
    Leads files (writeFile path text) fun before result after =>
      match result with
      | .ok _ => before.Replaced path text.toUTF8 after
      | .error fault =>
        fault = .file ∧ after = before ∧ Surroundings.RefusesWrite files before path text := by
  intro state
  change match ((Surroundings.write path text : StateM σ _).run state).1 with
    | .ok _ => _
    | .error fault => _
  split
  · rename_i found
    exact lawful.write_ok path text state found
  · rename_i fault failed
    rcases lawful.write_error path text state fault failed with ⟨rfl, kept⟩
    exact ⟨rfl, kept, state, rfl, failed⟩

/-- An export saves the report of what the files hold that its settings name and changes no other
file, or the first thing that is wrong is its fault and no file is changed. This is so where the
report takes the place of one of these files, too. -/
theorem perform_all_or_nothing (lawful : Surroundings.Lawful files) (settings : Settings)
    (state : σ) :
    let run := (perform settings : ExceptT Fault (StateM σ) String).run.run state
    Outcome files (files state) settings run.1 (files run.2) := by
  have whole : Leads files (perform settings) fun before result after =>
      Outcome files before settings result after := by
    refine Reads.bind (reads_loadSources lawful settings) ?_ ?_
    · intro directory fault first
      exact .failed first
    · intro sources
      refine Reads.bind (reads_makeReport lawful sources settings.request) ?_ ?_
      · intro directory fault unmade loads
        exact .failed (.report loads unmade.symm)
      · intro text
        refine Leads.bind (leads_writeFile lawful settings.outputPath text) ?_ ?_
        · rintro before fault _ ⟨rfl, rfl, refused⟩ made loads
          exact .failed (.output loads made.symm refused)
        · intro _
          refine Reads.bind (reads_tell lawful (.saved settings.outputPath)) ?_ ?_
          · intro directory fault impossible
            cases impossible
          · intro _ state _ before replaced made loads
            exact .saved loads made.symm replaced
  exact whole state

end Stages

/-- Files for income and prices, with nothing in either. -/
def bareFiles (incomePath ethPricesPath : String) : Std.TreeMap String ByteArray :=
  (({} : Std.TreeMap String ByteArray).insert incomePath
    "\x7b\"validator_rewards\":[]\x7d".toUTF8).insert ethPricesPath
    "\x7b\"currency\":\"USD\",\"prices\":[]\x7d".toUTF8

/-- The text of a report without rows. -/
def bareText : String :=
  "Date;Validator Index;Price [USD/ETH];Consensus Layer Income [ETH];Execution Layer Income [ETH]"

def bareSettings (incomePath ethPricesPath outputPath : String) : Settings where
  incomePath := incomePath
  ethPricesPath := ethPricesPath
  rplPricesPath := none
  outputPath := outputPath
  request := .plain

/-- The report takes the place of the prices, once under an absolute path that it shares with them,
and once among plain files, where its path is not the one that they are read from. -/
theorem bareFiles_perform_overwriting :
    let nested := Directory.byPath (bareFiles "data/income.json" "/srv/eth.json")
    let atSamePath := bareSettings "data/income.json" "/srv/eth.json" "/srv/eth.json"
    let nestedRun := nested.runExport (perform atSamePath)
    let plain := Directory.flat (bareFiles "income.json" "eth.json")
    let atOtherPath := bareSettings "income.json" "eth.json" "./eth.json"
    let plainRun := plain.runExport (perform atOtherPath)
    Surroundings.Lawful Workplace.directory ∧
      (nestedRun.1.toOption = some "/srv/eth.json" ∧
        Outcome Workplace.directory nested atSamePath nestedRun.1 nestedRun.2.directory ∧
        (nestedRun.2.directory.read "/srv/eth.json").toOption.bind String.fromUTF8? =
          some bareText) ∧
      plainRun.1.toOption = some "./eth.json" ∧
        Outcome Workplace.directory plain atOtherPath plainRun.1 plainRun.2.directory ∧
        (plainRun.2.directory.read "eth.json").toOption.bind String.fromUTF8? = some bareText :=
  ⟨Workplace.lawful, ⟨by decide +kernel, perform_all_or_nothing Workplace.lawful _ ⟨_, []⟩,
    by decide +kernel⟩, by decide +kernel, perform_all_or_nothing Workplace.lawful _ ⟨_, []⟩,
    by decide +kernel⟩

end Export

end StakingIncome
