import StakingIncome.Proofs.Variables

/-!
Environments that say the same. Blanks around a value and capitals in a word do not matter, nor
whether a variable is left out or set to nothing, while paths and delimiters are compared as they
are. What is read from an environment is a matter of what it says alone, and so is the fault when
nothing can be read.
-/

namespace StakingIncome

open Text

namespace Variable

/-- Two values of a variable say the same. -/
def SaysSame (setting : Variable) (left right : String) : Prop :=
  match setting with
  | validatorIndex | startDate | endDate => trimmed left.toList = trimmed right.toList
  | consensusDenomination | groupByDate | withdrawalsAsConsensus | pooledColumns
  | withdrawalsColumn => lowered (trimmed left.toList) = lowered (trimmed right.toList)
  | delimiter | incomeFile | ethPricesFile | rplPricesFile | outputFile => left = right

/-- What is given for a variable in two environments says the same, or nothing in both. -/
inductive Alike (setting : Variable) : Option String → Option String → Prop
  | unset {left right : Option String} (leftUnset : setting.Unset left)
      (rightUnset : setting.Unset right) : Alike setting left right
  | value {left right : String} (same : setting.SaysSame left right) :
      Alike setting (some left) (some right)

variable {setting : Variable} {left right : Environment}

theorem isBlankText_congr {left right : List Char}
    (same : lowered (trimmed left) = lowered (trimmed right)) :
    isBlankText left = isBlankText right := by
  have nothing (text : List Char) : lowered (trimmed text) = [] ↔ isBlankText text = true := by
    rw [← trimmed_eq_nil_iff, lowered, List.map_eq_nil_iff]
  rw [Bool.eq_iff_iff, ← nothing, ← nothing, same]

theorem SaysSame.isUnsetBy_eq {left right : String} (same : setting.SaysSame left right) :
    setting.isUnsetBy left = setting.isUnsetBy right := by
  cases setting with
  | validatorIndex | startDate | endDate => exact isBlankText_congr (congrArg lowered same)
  | consensusDenomination | groupByDate | withdrawalsAsConsensus | pooledColumns
  | withdrawalsColumn => exact isBlankText_congr same
  | delimiter | incomeFile | ethPricesFile | rplPricesFile | outputFile =>
      cases same
      rfl

/-- What two environments have a value for that counts, they both have one for. -/
theorem Alike.value? (blankable : setting ≠ delimiter)
    (alike : setting.Alike (left setting.name) (right setting.name)) :
    Option.Rel setting.SaysSame (setting.value? left) (setting.value? right) := by
  generalize leftGiven : left setting.name = leftValue at alike
  generalize rightGiven : right setting.name = rightValue at alike
  cases alike with
  | unset leftUnset rightUnset =>
      rw [← leftGiven, ← value?_eq_none_iff blankable] at leftUnset
      rw [← rightGiven, ← value?_eq_none_iff blankable] at rightUnset
      rw [leftUnset, rightUnset]
      exact .none
  | value same =>
      have unset := same.isUnsetBy_eq
      rw [isUnsetBy_of_ne_delimiter blankable, isUnsetBy_of_ne_delimiter blankable] at unset
      rw [Variable.value?, Variable.value?, leftGiven, rightGiven, Option.filter_some,
        Option.filter_some, unset]
      split
      · exact .some same
      · exact .none

/-- A reader that takes the same texts alike reads the same. -/
theorem Alike.read_eq {α : Type} {reader : List Char → Except String α}
    (alike : setting.Alike (left setting.name) (right setting.name))
    (blankable : setting ≠ delimiter)
    (reads : ∀ first second, setting.SaysSame first second →
      reader (trimmed first.toList) = reader (trimmed second.toList)) :
    setting.read left reader = setting.read right reader := by
  have values := alike.value? blankable
  rw [read, read]
  generalize setting.value? left = leftValue at values ⊢
  generalize setting.value? right = rightValue at values ⊢
  cases values with
  | none => rfl
  | some same => simp only [reads _ _ same]

theorem Alike.value?_eq (alike : setting.Alike (left setting.name) (right setting.name))
    (blankable : setting ≠ delimiter)
    (verbatim : ∀ first second, setting.SaysSame first second → first = second) :
    setting.value? left = setting.value? right := by
  have values := alike.value? blankable
  generalize setting.value? left = leftValue at values ⊢
  generalize setting.value? right = rightValue at values ⊢
  cases values with
  | none => rfl
  | some same => rw [verbatim _ _ same]

/-! ### What is read from values that say the same -/

theorem readFlag_congr {left right : List Char} (same : lowered left = lowered right) :
    readFlag left = readFlag right := by
  simp only [readFlag, same]

/-- A denomination is trimmed when it is read, though nothing is left to be trimmed by then. -/
theorem readDenomination_congr {left right : List Char}
    (same : lowered (trimmed left) = lowered (trimmed right)) :
    Denomination.read (trimmed left) = Denomination.read (trimmed right) := by
  simp only [Denomination.read, trimmed_trimmed, same]

theorem Alike.flag_eq (alike : setting.Alike (left setting.name) (right setting.name))
    (blankable : setting ≠ delimiter)
    (word : ∀ first second, setting.SaysSame first second →
      lowered (trimmed first.toList) = lowered (trimmed second.toList)) :
    setting.flag left = setting.flag right := by
  rw [flag, flag, alike.read_eq blankable fun _ _ same => readFlag_congr (word _ _ same)]

theorem Alike.path_eq (alike : setting.Alike (left setting.name) (right setting.name))
    (blankable : setting ≠ delimiter)
    (verbatim : ∀ first second, setting.SaysSame first second → first = second) :
    setting.path left = setting.path right := by
  rw [path, path, alike.value?_eq blankable verbatim]

end Variable

namespace Settings

variable {left right : Environment}

theorem readDelimiter_of_alike (alike : Variable.delimiter.Alike (left Variable.delimiter.name)
    (right Variable.delimiter.name)) : readDelimiter left = readDelimiter right := by
  generalize leftGiven : left Variable.delimiter.name = leftValue at alike
  generalize rightGiven : right Variable.delimiter.name = rightValue at alike
  cases alike with
  | unset leftUnset rightUnset =>
      rw [readDelimiter_of_unset (leftGiven ▸ leftUnset),
        readDelimiter_of_unset (rightGiven ▸ rightUnset)]
  | value same =>
      cases same
      rw [readDelimiter, readDelimiter, leftGiven, rightGiven]

theorem readSpan_of_alike
    (start : Variable.startDate.Alike (left Variable.startDate.name)
      (right Variable.startDate.name))
    (finish : Variable.endDate.Alike (left Variable.endDate.name) (right Variable.endDate.name)) :
    readSpan left = readSpan right := by
  rw [readSpan, readSpan,
    start.read_eq (by decide) fun _ _ same => congrArg Variable.readDate same,
    finish.read_eq (by decide) fun _ _ same => congrArg Variable.readDate same]

theorem readRequest_of_alike
    (alike : ∀ setting : Variable, setting.Alike (left setting.name) (right setting.name)) :
    readRequest left = readRequest right := by
  rw [readRequest, readRequest,
    (alike .validatorIndex).read_eq (by decide) fun _ _ same => congrArg Variable.readIndex same,
    readSpan_of_alike (alike .startDate) (alike .endDate),
    (alike .consensusDenomination).read_eq (by decide) fun _ _ same =>
      Variable.readDenomination_congr same,
    (alike .groupByDate).flag_eq (by decide) fun _ _ => id,
    (alike .withdrawalsAsConsensus).flag_eq (by decide) fun _ _ => id,
    (alike .pooledColumns).flag_eq (by decide) fun _ _ => id,
    (alike .withdrawalsColumn).flag_eq (by decide) fun _ _ => id,
    readDelimiter_of_alike (alike .delimiter)]

/-- Environments that say the same about every variable give the same settings, or the same fault
with the same reason. -/
theorem read_eq_of_alike
    (alike : ∀ setting : Variable, setting.Alike (left setting.name) (right setting.name)) :
    read left = read right := by
  rw [read, read, readRequest_of_alike alike,
    (alike .incomeFile).path_eq (by decide) fun _ _ => id,
    (alike .ethPricesFile).path_eq (by decide) fun _ _ => id,
    (alike .rplPricesFile).value?_eq (by decide) fun _ _ => id,
    (alike .outputFile).value?_eq (by decide) fun _ _ => id]

/-- An environment in capitals and with blanks, and with a word for a flag that is none. -/
def shouted : Environment :=
  fun name => [("VALIDATOR_INDEX", "\u00a07 "), ("END_DATE", ""),
    ("CONSENSUS_DENOMINATION", " GWEI"), ("GROUP_BY_DATE", "SOME\tTIMES"),
    ("CSV_DELIMITER", ""), ("REWARDS_FILE", " "), ("OUTPUT_FILE", " out.csv")].lookup name

/-- The same without capitals, and with other variables left out. -/
def spoken : Environment :=
  fun name => [("VALIDATOR_INDEX", "7"), ("START_DATE", "\u3000"),
    ("CONSENSUS_DENOMINATION", "gwei\n"), ("GROUP_BY_DATE", " some\ttimes "),
    ("OUTPUT_FILE", " out.csv")].lookup name

theorem shouted_read_eq_of_alike :
    (∀ setting : Variable, setting.Alike (shouted setting.name) (spoken setting.name)) ∧
      read shouted = read spoken ∧
      read spoken =
        .error (.setting "GROUP_BY_DATE" "expected a boolean, got \"some\\ttimes\"") := by
  have alike (setting : Variable) :
      setting.Alike (shouted setting.name) (spoken setting.name) := by
    cases setting with
    | validatorIndex => exact .value (by rw [Variable.SaysSame]; decide)
    | consensusDenomination | groupByDate => exact .value (by rw [Variable.SaysSame]; decide)
    | outputFile => exact .value rfl
    | _ => exact .unset (by decide) (by decide)
  exact ⟨alike, read_eq_of_alike alike, by decide +kernel⟩

end Settings

end StakingIncome
