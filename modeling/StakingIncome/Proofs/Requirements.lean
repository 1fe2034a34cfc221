import StakingIncome.Proofs.Variables

/-!
What settings require of an environment. The requirements have a fixed order and each of them looks
at the environment alone, so that settings are read when all are met, and else the first one that
is broken is told by the name of its variable.
-/

namespace StakingIncome

open Text

/-- What is required of an environment: a variable is set to what it accepts if it is set at all,
the two ends of the span are set together, or a variable is set. -/
inductive Requirement where
  | form (setting : Variable)
  | bothEnds
  | presence (setting : Variable)
  deriving DecidableEq

namespace Requirement

/-- The requirements in the order in which they are looked at. -/
def order : List Requirement :=
  [form .validatorIndex, form .startDate, form .endDate, bothEnds, form .consensusDenomination,
    form .groupByDate, form .withdrawalsAsConsensus, form .pooledColumns, form .withdrawalsColumn,
    presence .incomeFile, presence .ethPricesFile]

/-- The variable that is named when a requirement is broken. -/
def setting : Requirement → Variable
  | form setting => setting
  | bothEnds => .startDate
  | presence setting => setting

def Met (environment : Environment) : Requirement → Prop
  | form setting => setting.Unset (environment setting.name) ∨
      ∃ value, environment setting.name = some value ∧ setting.Accepts (trimmed value.toList)
  | bothEnds => Variable.startDate.Unset (environment Variable.startDate.name) ↔
      Variable.endDate.Unset (environment Variable.endDate.name)
  | presence setting => ¬setting.Unset (environment setting.name)

/-- The first requirement, in their order, that an environment does not meet. -/
def FirstBroken (environment : Environment) (requirement : Requirement) : Prop :=
  ∃ before after, order = before ++ requirement :: after ∧
    (∀ earlier ∈ before, earlier.Met environment) ∧ ¬requirement.Met environment

/-- What an environment would be refused with if a requirement were looked at alone. -/
def complaint? (environment : Environment) : Requirement → Option Fault
  | form setting => (setting.value? environment).bind fun value =>
      (setting.reason? (trimmed value.toList)).map setting.fault
  | bothEnds =>
    if (Variable.startDate.value? environment).isSome =
        (Variable.endDate.value? environment).isSome then
      none
    else
      some (Variable.startDate.fault "START_DATE and END_DATE must be set together")
  | presence setting => Pass.fault? (setting.path environment)

variable {environment : Environment} {requirement : Requirement} {fault : Fault}

/-! ### Complaints and broken requirements -/

theorem exists_reason_of_complaint? (found : requirement.complaint? environment = some fault) :
    ∃ reason, fault = .setting requirement.setting.name reason := by
  cases requirement with
  | form setting =>
      rcases Option.bind_eq_some_iff.mp found with ⟨value, -, refused⟩
      rcases Option.map_eq_some_iff.mp refused with ⟨reason, -, rfl⟩
      exact ⟨reason, rfl⟩
  | bothEnds =>
      rw [complaint?] at found
      split at found
      · cases found
      · cases found
        exact ⟨_, rfl⟩
  | presence setting =>
      rw [complaint?, Variable.path] at found
      split at found
      · cases found
      · cases found
        exact ⟨_, rfl⟩

theorem complaint?_form_eq_none_iff {setting : Variable} (blankable : setting ≠ .delimiter) :
    (form setting).complaint? environment = none ↔ (form setting).Met environment := by
  simp only [complaint?, Met, Option.bind_eq_none_iff, Option.map_eq_none_iff,
    Variable.reason?_trimmed_eq_none_iff]
  constructor
  · intro accepted
    by_cases unset : setting.Unset (environment setting.name)
    · exact .inl unset
    · rcases (Variable.exists_value?_iff blankable).mpr unset with ⟨value, given⟩
      exact .inr ⟨value, (Variable.value?_eq_some_iff.mp given).1, accepted value given⟩
  · rintro (unset | ⟨value, found, accepted⟩) other given
    · rw [(Variable.value?_eq_none_iff blankable).mpr unset] at given
      cases given
    · rw [(Variable.value?_eq_some_iff.mp given).1] at found
      cases found
      exact accepted

theorem complaint?_presence_eq_none_iff {setting : Variable} (blankable : setting ≠ .delimiter) :
    (presence setting).complaint? environment = none ↔ (presence setting).Met environment := by
  rw [Met, ← Variable.exists_value?_iff blankable, complaint?, Variable.path]
  cases setting.value? environment <;> simp [Pass.fault?]

theorem complaint?_bothEnds_eq_none_iff :
    bothEnds.complaint? environment = none ↔ bothEnds.Met environment := by
  rw [Met, ← Variable.value?_eq_none_iff (by decide), ← Variable.value?_eq_none_iff (by decide),
    complaint?]
  cases Variable.startDate.value? environment <;> cases Variable.endDate.value? environment <;> simp

/-- No requirement is about the delimiter, which is never refused. -/
theorem setting_ne_delimiter : ∀ requirement ∈ order, requirement.setting ≠ .delimiter := by
  decide

theorem complaint?_eq_none_iff (listed : requirement ∈ order) :
    requirement.complaint? environment = none ↔ requirement.Met environment := by
  have blankable := setting_ne_delimiter requirement listed
  cases requirement with
  | form setting => exact complaint?_form_eq_none_iff blankable
  | bothEnds => exact complaint?_bothEnds_eq_none_iff
  | presence setting => exact complaint?_presence_eq_none_iff blankable

/-! ### Complaints and faults of variables -/

/-- Reading a variable fails with the complaint about its form. -/
theorem fault?_read {α : Type} (setting : Variable) (reader : List Char → Except String α)
    (alike : ∀ text, setting.reason? text = Pass.fault? (reader text)) :
    Pass.fault? (setting.read environment reader) = complaint? environment (form setting) := by
  simp only [Variable.fault?_read, complaint?, alike]

theorem fault?_flag (setting : Variable)
    (alike : ∀ text, setting.reason? text = Pass.fault? (Variable.readFlag text)) :
    Pass.fault? (setting.flag environment) = complaint? environment (form setting) :=
  Variable.fault?_flag.trans (fault?_read setting Variable.readFlag alike)

/-! ### The first requirement that is broken -/

theorem FirstBroken.mem_order (first : FirstBroken environment requirement) :
    requirement ∈ order := by
  rcases first with ⟨before, after, split, -⟩
  rw [split]
  exact List.mem_append_right before List.mem_cons_self

theorem FirstBroken.exists_complaint? (first : FirstBroken environment requirement) :
    ∃ fault, requirement.complaint? environment = some fault := by
  have listed := first.mem_order
  rcases first with ⟨before, after, -, -, broken⟩
  rw [← complaint?_eq_none_iff listed] at broken
  exact Option.ne_none_iff_exists'.mp broken

end Requirement

namespace Settings

open Requirement hiding fault?_read fault?_flag

variable {environment : Environment}

/-- Both ends are read before it is asked whether one of them is missing. -/
theorem fault?_readSpan :
    Pass.fault? (readSpan environment) =
      (complaint? environment (form .startDate)).or
        ((complaint? environment (form .endDate)).or (complaint? environment bothEnds)) := by
  rw [← Requirement.fault?_read .startDate Variable.readDate fun _ => rfl,
    ← Requirement.fault?_read .endDate Variable.readDate fun _ => rfl]
  refine Pass.fault?_bind fun start startRead => Pass.fault?_bind fun finish finishRead => ?_
  rw [complaint?, ← Variable.isSome_of_read startRead, ← Variable.isSome_of_read finishRead]
  cases start <;> cases finish <;> rfl

theorem fault?_readRequest :
    Pass.fault? (readRequest environment) =
      (complaint? environment (form .validatorIndex)).or
        ((Pass.fault? (readSpan environment)).or
          ((complaint? environment (form .consensusDenomination)).or
            ((complaint? environment (form .groupByDate)).or
              ((complaint? environment (form .withdrawalsAsConsensus)).or
                ((complaint? environment (form .pooledColumns)).or
                  (complaint? environment (form .withdrawalsColumn))))))) := by
  rw [← Requirement.fault?_read .validatorIndex Variable.readIndex fun _ => rfl,
    ← Requirement.fault?_read .consensusDenomination Denomination.read fun _ => rfl,
    ← Requirement.fault?_flag .groupByDate fun _ => rfl,
    ← Requirement.fault?_flag .withdrawalsAsConsensus fun _ => rfl,
    ← Requirement.fault?_flag .pooledColumns fun _ => rfl,
    ← Requirement.fault?_flag .withdrawalsColumn fun _ => rfl,
    ← Option.or_none (o := Pass.fault? (Variable.withdrawalsColumn.flag environment))]
  -- The request is put together after its last flag, and by then nothing can fail.
  exact Pass.fault?_bind fun _ _ => Pass.fault?_bind fun _ _ => Pass.fault?_bind fun _ _ =>
    Pass.fault?_bind fun _ _ => Pass.fault?_bind fun _ _ => Pass.fault?_bind fun _ _ =>
      Pass.fault?_bind fun _ _ => rfl

/-- Settings are read requirement by requirement. -/
theorem fault?_read (environment : Environment) :
    Pass.fault? (read environment) = order.findSome? (complaint? environment) := by
  have paths : Pass.fault? (read environment) =
      (Pass.fault? (readRequest environment)).or
        ((complaint? environment (presence .incomeFile)).or
          ((complaint? environment (presence .ethPricesFile)).or none)) :=
    Pass.fault?_bind fun _ _ => Pass.fault?_bind fun _ _ => Pass.fault?_bind fun _ _ => rfl
  simp only [paths, fault?_readRequest, fault?_readSpan, order, Pass.findSome?_cons_eq_or,
    List.findSome?_nil, Option.or_assoc]

theorem read_eq_error_iff {fault : Fault} :
    read environment = .error fault ↔
      ∃ requirement, FirstBroken environment requirement ∧
        requirement.complaint? environment = some fault := by
  rw [← Pass.fault?_eq_some_iff, fault?_read, List.findSome?_eq_some_iff]
  constructor
  · rintro ⟨before, requirement, after, split, complaint, silent⟩
    have listed {other : Requirement} (member : other ∈ before ++ requirement :: after) :
        other ∈ order := split ▸ member
    refine ⟨requirement, ⟨before, after, split, ?_, ?_⟩, complaint⟩
    · intro earlier member
      have inOrder := listed (List.mem_append_left _ member)
      exact (complaint?_eq_none_iff inOrder).mp (silent earlier member)
    · rw [← complaint?_eq_none_iff (listed (by simp)), complaint]
      exact Option.some_ne_none fault
  · rintro ⟨requirement, ⟨before, after, split, met, -⟩, complaint⟩
    refine ⟨before, requirement, after, split, complaint, ?_⟩
    intro earlier member
    have inOrder : earlier ∈ order := split ▸ List.mem_append_left _ member
    exact (complaint?_eq_none_iff inOrder).mpr (met earlier member)

theorem exists_read_iff :
    (∃ settings, read environment = .ok settings) ↔
      ∀ requirement ∈ order, requirement.Met environment := by
  rw [← Pass.fault?_eq_none_iff, fault?_read, List.findSome?_eq_none_iff]
  exact forall₂_congr fun requirement listed => complaint?_eq_none_iff listed

/-- Settings are read from an environment that meets all requirements. From any other one they are
not, and the fault names the variable of the first requirement, in their order, that is broken. -/
theorem read_names_first_broken (environment : Environment) :
    ((∃ settings, read environment = .ok settings) ↔
        ∀ requirement ∈ order, requirement.Met environment) ∧
      (∀ requirement, FirstBroken environment requirement →
        ∃ reason, read environment = .error (.setting requirement.setting.name reason)) ∧
      ∀ fault, read environment = .error fault →
        ∃ requirement reason, FirstBroken environment requirement ∧
          fault = .setting requirement.setting.name reason := by
  refine ⟨exists_read_iff, ?_, ?_⟩
  · intro requirement first
    rcases first.exists_complaint? with ⟨fault, complaint⟩
    have failed := read_eq_error_iff.mpr ⟨requirement, first, complaint⟩
    rcases exists_reason_of_complaint? complaint with ⟨reason, rfl⟩
    exact ⟨reason, failed⟩
  · intro fault failed
    rcases read_eq_error_iff.mp failed with ⟨requirement, first, complaint⟩
    rcases exists_reason_of_complaint? complaint with ⟨reason, rfl⟩
    exact ⟨requirement, reason, first, rfl⟩

/-- A start without an end, before a flag that is none and without any file. -/
def halfSpan : Environment :=
  fun name => [("VALIDATOR_INDEX", " \t"), ("START_DATE", " 2023-1-1"),
    ("GROUP_BY_DATE", "sometimes")].lookup name

/-- Values with blanks around them and capitals in them, and the largest index behind zeros. -/
def paddedValues : Environment :=
  fun name => [("VALIDATOR_INDEX", " +0018446744073709551615\t"), ("START_DATE", "  "),
    ("CONSENSUS_DENOMINATION", "\u00a0Wei"), ("GROUP_BY_DATE", "YES "),
    ("REWARDS_FILE", " income.json"), ("ETH_PRICES_FILE", "eth.json")].lookup name

theorem halfSpan_names_first_broken :
    (∀ requirement ∈ order, requirement.Met paddedValues) ∧
      (∃ settings, read paddedValues = .ok settings) ∧
      FirstBroken halfSpan bothEnds ∧
      ∃ reason, read halfSpan = .error (.setting "START_DATE" reason) := by
  have silent : ∀ requirement ∈ order, requirement.complaint? paddedValues = none := by
    decide +kernel
  have met : ∀ requirement ∈ order, requirement.Met paddedValues :=
    fun requirement listed => (complaint?_eq_none_iff listed).mp (silent requirement listed)
  have silentBefore : ∀ requirement ∈ order.take 3, requirement.complaint? halfSpan = none := by
    decide +kernel
  have complaint : bothEnds.complaint? halfSpan ≠ none := by decide +kernel
  have first : FirstBroken halfSpan bothEnds := by
    refine ⟨order.take 3, order.drop 4, rfl, ?_, ?_⟩
    · intro earlier member
      have listed := List.mem_of_mem_take member
      exact (complaint?_eq_none_iff listed).mp (silentBefore earlier member)
    · exact mt complaint?_bothEnds_eq_none_iff.mpr complaint
  exact ⟨met, (read_names_first_broken paddedValues).1.mpr met, first,
    (read_names_first_broken halfSpan).2.1 bothEnds first⟩

end Settings

end StakingIncome
