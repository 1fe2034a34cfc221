import StakingIncome.Proofs.Numerals
import StakingIncome.Proofs.Passes
import StakingIncome.Settings

/-!
What the variables of an environment say. A variable is unset when nothing or only blanks are given
for it, and else it is read from its value without the blanks around it. For each variable it is
told which values are read, and that reading fails with a fault of that variable alone.
-/

namespace StakingIncome

open Text

theorem Denomination.read_eq_ok_iff {text : List Char} {denomination : Denomination} :
    read text = .ok denomination ↔ lowered (trimmed text) = denomination.name.toList := by
  rw [read]
  by_cases isWei : lowered (trimmed text) = "wei".toList
  · rw [if_pos isWei, isWei]
    cases denomination <;> simp [name]
  · rw [if_neg isWei]
    by_cases isGwei : lowered (trimmed text) = "gwei".toList
    · rw [if_pos isGwei, isGwei]
      cases denomination <;> simp [name]
    · rw [if_neg isGwei]
      cases denomination with
      | wei => simpa [name] using isWei
      | gwei => simpa [name] using isGwei

namespace Variable

variable {setting : Variable} {environment : Environment}

/-- Whether a value says as little as none. The delimiter may be made of blanks, but any other value
has to hold something else. -/
def isUnsetBy (setting : Variable) (value : String) : Bool :=
  match setting with
  | delimiter => value.isEmpty
  | _ => isBlankText value.toList

/-- Nothing is given for a variable, or a value that says nothing. -/
def Unset (setting : Variable) (given : Option String) : Prop :=
  ∀ value ∈ given, setting.isUnsetBy value = true

instance (setting : Variable) (given : Option String) : Decidable (setting.Unset given) :=
  inferInstanceAs (Decidable (∀ value ∈ given, _))

theorem unset_none (setting : Variable) : setting.Unset none :=
  nofun

theorem isUnsetBy_of_ne_delimiter (blankable : setting ≠ delimiter) (value : String) :
    setting.isUnsetBy value = isBlankText value.toList := by
  cases setting with
  | delimiter => exact absurd rfl blankable
  | _ => rfl

theorem value?_eq_none_iff (blankable : setting ≠ delimiter) :
    setting.value? environment = none ↔ setting.Unset (environment setting.name) := by
  simp [value?, Option.filter_eq_none_iff, Unset, isUnsetBy_of_ne_delimiter blankable]

theorem value?_eq_some_iff {value : String} :
    setting.value? environment = some value ↔
      environment setting.name = some value ∧ isBlankText value.toList = false := by
  rw [value?, Option.filter_eq_some_iff]
  simp

theorem exists_value?_iff (blankable : setting ≠ delimiter) :
    (∃ value, setting.value? environment = some value) ↔
      ¬setting.Unset (environment setting.name) := by
  rw [← value?_eq_none_iff blankable]
  cases setting.value? environment <;> simp

/-! ### Texts that are read -/

/-- The words for a flag, in lower case. -/
def flagWords : Bool → List (List Char)
  | true => ["1".toList, "true".toList, "yes".toList]
  | false => ["0".toList, "false".toList, "no".toList]

theorem readFlag_eq_ok_iff {text : List Char} {flag : Bool} :
    readFlag text = .ok flag ↔ lowered text ∈ flagWords flag := by
  have apart : ∀ word ∈ flagWords true, word ∉ flagWords false := by decide
  by_cases isTrue : lowered text ∈ flagWords true
  · have read : readFlag text = .ok true := if_pos isTrue
    cases flag <;> simp [read, isTrue, apart _ isTrue]
  · by_cases isFalse : lowered text ∈ flagWords false
    · have read : readFlag text = .ok false := (if_neg isTrue).trans (if_pos isFalse)
      cases flag <;> simp [read, isTrue, isFalse]
    · have refused : ∃ reason, readFlag text = .error reason :=
        ⟨_, (if_neg isTrue).trans (if_neg isFalse)⟩
      rcases refused with ⟨reason, refused⟩
      cases flag <;> simp [refused, isTrue, isFalse]

theorem readIndex_eq_ok_iff {text : List Char} {index : UInt64} :
    readIndex text = .ok index ↔ WordText index text := by
  rw [← readWord_eq_ok_iff, readIndex, Pass.mapError_eq_ok_iff]

theorem readDate_eq_ok_iff {text : List Char} {date : Date} :
    readDate text = .ok date ↔ Date.read text = .ok date := by
  rw [readDate, Pass.mapError_eq_ok_iff]

/-- The reason why the text of a variable is refused, if it is. -/
def reason? (setting : Variable) (text : List Char) : Option String :=
  match setting with
  | validatorIndex => Pass.fault? (readIndex text)
  | startDate | endDate => Pass.fault? (readDate text)
  | consensusDenomination => Pass.fault? (Denomination.read text)
  | groupByDate | withdrawalsAsConsensus | pooledColumns | withdrawalsColumn =>
    Pass.fault? (readFlag text)
  | delimiter | incomeFile | ethPricesFile | rplPricesFile | outputFile => none

/-- The texts that a variable may be set to. Of a date the reader of dates decides, and paths and
delimiters are free. -/
def Accepts (setting : Variable) (text : List Char) : Prop :=
  match setting with
  | validatorIndex => ∃ index, WordText index text
  | startDate | endDate => ∃ date, Date.read text = .ok date
  | consensusDenomination => lowered text ∈ ["wei".toList, "gwei".toList]
  | groupByDate | withdrawalsAsConsensus | pooledColumns | withdrawalsColumn =>
    lowered text ∈ flagWords true ++ flagWords false
  | delimiter | incomeFile | ethPricesFile | rplPricesFile | outputFile => True

theorem reason?_trimmed_eq_none_iff {text : List Char} :
    setting.reason? (trimmed text) = none ↔ setting.Accepts (trimmed text) := by
  cases setting with
  | validatorIndex =>
      simp only [reason?, Accepts, Pass.fault?_eq_none_iff, readIndex_eq_ok_iff]
  | startDate | endDate =>
      simp only [reason?, Accepts, Pass.fault?_eq_none_iff, readDate_eq_ok_iff]
  | consensusDenomination =>
      -- The reader of denominations trims its text once more.
      simp only [reason?, Accepts, Pass.fault?_eq_none_iff, Denomination.read_eq_ok_iff,
        trimmed_trimmed]
      constructor
      · rintro ⟨denomination, named⟩
        cases denomination <;> simp [named, Denomination.name]
      · intro named
        rcases List.mem_cons.mp named with isWei | rest
        · exact ⟨.wei, isWei⟩
        · exact ⟨.gwei, List.mem_singleton.mp rest⟩
  | groupByDate | withdrawalsAsConsensus | pooledColumns | withdrawalsColumn =>
      simp only [reason?, Accepts, Pass.fault?_eq_none_iff, readFlag_eq_ok_iff,
        List.mem_append]
      constructor
      · rintro ⟨flag, named⟩
        cases flag <;> simp [named]
      · rintro (isTrue | isFalse)
        · exact ⟨true, isTrue⟩
        · exact ⟨false, isFalse⟩
  | delimiter | incomeFile | ethPricesFile | rplPricesFile | outputFile =>
      simp only [reason?, Accepts]

/-! ### Reading a variable -/

variable {α : Type} {reader : List Char → Except String α}

/-- The fault of a variable is told by what is wrong with its value. -/
theorem fault?_read :
    Pass.fault? (setting.read environment reader) =
      (setting.value? environment).bind fun value =>
        (Pass.fault? (reader (trimmed value.toList))).map setting.fault := by
  rw [read]
  cases setting.value? environment with
  | none => rfl
  | some value =>
      simp only [Option.bind_some]
      cases reader (trimmed value.toList) <;> rfl

theorem fault?_flag :
    Pass.fault? (setting.flag environment) = Pass.fault? (setting.read environment readFlag) := by
  rw [flag]
  cases setting.read environment readFlag <;> rfl

/-- Something is read when something is given. -/
theorem isSome_of_read {result : Option α}
    (accepted : setting.read environment reader = .ok result) :
    result.isSome = (setting.value? environment).isSome := by
  rw [read] at accepted
  cases given : setting.value? environment with
  | none =>
      simp only [given] at accepted
      cases accepted
      rfl
  | some value =>
      simp only [given] at accepted
      split at accepted
      · cases accepted
        rfl
      · cases accepted

end Variable

theorem Settings.readDelimiter_of_unset {environment : Environment}
    (unset : Variable.delimiter.Unset (environment Variable.delimiter.name)) :
    readDelimiter environment = defaultDelimiter := by
  rw [readDelimiter]
  generalize environment Variable.delimiter.name = given at unset
  cases given with
  | none => rfl
  | some value =>
      have empty : value.isEmpty = true := unset value rfl
      rw [Option.filter_some, empty]
      rfl

end StakingIncome
