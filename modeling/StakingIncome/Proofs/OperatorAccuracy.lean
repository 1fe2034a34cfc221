import Mathlib.Algebra.Order.Floor.Semifield
import Mathlib.Data.Nat.Cast.Order.Field
import Mathlib.Data.Rat.Floor
import Mathlib.Tactic.Linarith
import Mathlib.Tactic.Ring
import StakingIncome.Proofs.GroupedReport
import StakingIncome.Proofs.SeparateReport

/-!
How much of the operator's part is lost by dropping fractions. Each entry is split with two
divisions, the second of them on what the first one leaves, and the parts of a date are added up
after that. The figure of a date never exceeds the exact part of what was earned on it, and it falls
short of it by less than two base units for each entry.
-/

namespace StakingIncome

/-! ### One amount -/

/-- The operator's part of an amount with all fractions kept. -/
def exactPart (bond fee amount : Nat) : ℚ :=
  amount * bond / fullStake + (amount - amount * bond / fullStake) * fee / fullFee

section Parts

variable {bond fee amount : Nat}

@[simp] theorem exactPart_zero : exactPart bond fee 0 = 0 := by
  simp [exactPart]

theorem exactPart_add (left right : Nat) :
    exactPart bond fee (left + right) = exactPart bond fee left + exactPart bond fee right := by
  simp only [exactPart, Nat.cast_add]
  ring

theorem exactPart_le (bonded : bond ≤ fullStake) (charged : fee ≤ fullFee) :
    exactPart bond fee amount ≤ amount := by
  have stakePart : (amount : ℚ) * bond / fullStake ≤ amount := by
    rw [mul_div_assoc]
    apply mul_le_of_le_one_right (Nat.cast_nonneg amount)
    exact div_le_one_of_le₀ (Nat.cast_le.mpr bonded) (Nat.cast_nonneg fullStake)
  have feePart : ((amount : ℚ) - amount * bond / fullStake) * fee / fullFee ≤
      amount - amount * bond / fullStake := by
    rw [mul_div_assoc]
    apply mul_le_of_le_one_right (sub_nonneg.mpr stakePart)
    exact div_le_one_of_le₀ (Nat.cast_le.mpr charged) (Nat.cast_nonneg fullFee)
  rw [exactPart]
  linarith

/-- A portion at a rate of one hundred per cent at most. -/
theorem portion_le {rate whole : Nat} (within : rate ≤ whole) : amount * rate / whole ≤ amount :=
  Nat.div_le_of_le_mul (Nat.mul_comm whole amount ▸ Nat.mul_le_mul_left amount within)

theorem div_lt_cast_div_add_one (amount divisor : Nat) :
    (amount : ℚ) / divisor < (amount / divisor : Nat) + 1 := by
  rw [← Nat.floor_div_eq_div (K := ℚ) amount divisor]
  exact Nat.lt_floor_add_one _

/-- Both divisions together drop less than two units. What the first one drops is not lost in full,
because the fee is taken from it. -/
theorem operatorPart_near_exactPart (amount : Nat) (bonded : bond ≤ fullStake)
    (charged : fee ≤ fullFee) :
    (operatorPart bond fee amount : ℚ) ≤ exactPart bond fee amount ∧
      exactPart bond fee amount < operatorPart bond fee amount + 2 := by
  have within : amount * bond / fullStake ≤ amount := portion_le bonded
  have portionLower : ((amount * bond / fullStake : Nat) : ℚ) ≤ _ := Nat.cast_div_le
  have portionUpper := div_lt_cast_div_add_one (amount * bond) fullStake
  rw [exactPart, operatorPart]
  generalize amount * bond / fullStake = portion at *
  have chargeLower : (((amount - portion) * fee / fullFee : Nat) : ℚ) ≤ _ := Nat.cast_div_le
  have chargeUpper := div_lt_cast_div_add_one ((amount - portion) * fee) fullFee
  generalize (amount - portion) * fee / fullFee = charge at *
  have rateNonneg : (0 : ℚ) ≤ fee / fullFee := by positivity
  have rateLeOne : (fee : ℚ) / fullFee ≤ 1 :=
    div_le_one_of_le₀ (Nat.cast_le.mpr charged) (Nat.cast_nonneg fullFee)
  push_cast [Nat.cast_sub within] at *
  generalize (amount : ℚ) * bond / fullStake = stakePart at *
  rw [mul_div_assoc] at *
  generalize (fee : ℚ) / fullFee = rate at *
  -- What the first division drops comes back at the rate of the fee, and the second division drops
  -- its own fraction. Each of the two losses is less than one.
  have lost : stakePart + (amount - stakePart) * rate - (portion + charge) =
      (stakePart - portion) * (1 - rate) + ((amount - portion) * rate - charge) := by ring
  have lostPortion : 0 ≤ (stakePart - portion) * (1 - rate) :=
    mul_nonneg (sub_nonneg.mpr portionLower) (sub_nonneg.mpr rateLeOne)
  have lostPortionUpper : (stakePart - portion) * (1 - rate) ≤ stakePart - portion :=
    mul_le_of_le_one_right (sub_nonneg.mpr portionLower) (by linarith)
  constructor <;> linarith

/-! ### The amounts of a date -/

theorem total_operatorPart_le (bonded : bond ≤ fullStake) (charged : fee ≤ fullFee)
    (amounts : List Nat) :
    (total (amounts.map (operatorPart bond fee)) : ℚ) ≤ exactPart bond fee (total amounts) := by
  induction amounts with
  | nil => simp [total]
  | cons amount rest induction =>
      have near := operatorPart_near_exactPart amount bonded charged
      rw [List.map_cons, total, total, exactPart_add, Nat.cast_add]
      exact add_le_add near.1 induction

theorem exactPart_total_le (bonded : bond ≤ fullStake) (charged : fee ≤ fullFee)
    (amounts : List Nat) :
    exactPart bond fee (total amounts) ≤
      total (amounts.map (operatorPart bond fee)) + 2 * amounts.length := by
  induction amounts with
  | nil => simp [total]
  | cons amount rest induction =>
      have near := operatorPart_near_exactPart amount bonded charged
      rw [List.map_cons, total, total, exactPart_add, List.length_cons]
      push_cast
      linarith [near.2]

theorem exactPart_total_lt (bonded : bond ≤ fullStake) (charged : fee ≤ fullFee)
    {amounts : List Nat} (something : amounts ≠ []) :
    exactPart bond fee (total amounts) <
      total (amounts.map (operatorPart bond fee)) + 2 * amounts.length := by
  cases amounts with
  | nil => exact absurd rfl something
  | cons amount rest =>
      have near := operatorPart_near_exactPart amount bonded charged
      have others := exactPart_total_le bonded charged rest
      rw [List.map_cons, total, total, exactPart_add, List.length_cons]
      push_cast
      linarith [near.2]

end Parts

/-! ### The entries of a date -/

theorem Schedule.boundedValueOn_eq_ok_iff {schedule : Schedule} {kind : ScheduleKind}
    {limit : Nat} {date : Date} {value : Nat} :
    schedule.boundedValueOn kind limit date = .ok value ↔
      schedule.valueOn kind date = .ok value ∧ value ≤ limit := by
  rw [boundedValueOn, valueOn]
  cases schedule.entryOn? date with
  | none => simp
  | some entry =>
      by_cases within : entry.value ≤ limit
      · simp only [within, if_true, Except.ok.injEq]
        constructor
        · rintro rfl
          exact ⟨rfl, within⟩
        · exact And.left
      · simp only [within, if_false, Except.ok.injEq, reduceCtorEq, false_iff, not_and]
        rintro rfl
        exact within

theorem OperatorSchedule.share_eq_ok_iff {schedule : OperatorSchedule} {entry part : IncomeEntry} :
    schedule.share entry = .ok part ↔
      ∃ bond fee, schedule.bonds.boundedValueOn .bond fullStake entry.date = .ok bond ∧
        schedule.fees.boundedValueOn .fee fullFee entry.date = .ok fee ∧
        { entry with amount := operatorPart bond fee entry.amount } = part := by
  simp only [share, Pass.bind_eq_ok_iff, exists_and_left]
  simp [pure, Except.pure]

/-- How a figure stands to the exact part of the operator in what a series earned on a date. -/
structure NearExactPart (schedule : OperatorSchedule) (entries : List IncomeEntry) (date : Date)
    (figure : Nat) : Prop where
  scheduled : entriesOn entries date ≠ [] →
    (∃ bond, schedule.bonds.valueOn .bond date = .ok bond) ∧
      ∃ fee, schedule.fees.valueOn .fee date = .ok fee
  near : ∀ bond fee, schedule.bonds.valueOn .bond date = .ok bond →
    schedule.fees.valueOn .fee date = .ok fee →
    figure ≤ exactPart bond fee (earnedOn entries date) ∧
      exactPart bond fee (earnedOn entries date) ≤ earnedOn entries date ∧
      (entriesOn entries date ≠ [] →
        exactPart bond fee (earnedOn entries date) - figure < 2 * (entriesOn entries date).length)
  nothing : entriesOn entries date = [] → figure = 0

/-- All entries of a date have the same bond and the same fee, within the limits. -/
theorem exists_values_of_counted {schedule : OperatorSchedule} {entries : List IncomeEntry}
    {date : Date} (something : entriesOn entries date ≠ [])
    (counted : ∀ entry ∈ entries,
      countedPart (some schedule) entry =
        .ok { entry with amount := countedAmount (some schedule) entry }) :
    ∃ bond fee, schedule.bonds.valueOn .bond date = .ok bond ∧ bond ≤ fullStake ∧
      schedule.fees.valueOn .fee date = .ok fee ∧ fee ≤ fullFee ∧
      countedOn (some schedule) entries date =
        total (((entriesOn entries date).map (·.amount)).map (operatorPart bond fee)) := by
  have split {entry : IncomeEntry} (member : entry ∈ entriesOn entries date) :
      ∃ bond fee, schedule.bonds.boundedValueOn .bond fullStake date = .ok bond ∧
        schedule.fees.boundedValueOn .fee fullFee date = .ok fee ∧
        operatorPart bond fee entry.amount = countedAmount (some schedule) entry := by
    rw [entriesOn, List.mem_filter, decide_eq_true_eq] at member
    rcases member with ⟨member, rfl⟩
    rcases OperatorSchedule.share_eq_ok_iff.mp (counted entry member) with
      ⟨bond, fee, bonded, charged, same⟩
    exact ⟨bond, fee, bonded, charged, congrArg IncomeEntry.amount same⟩
  rcases List.exists_mem_of_ne_nil _ something with ⟨first, member⟩
  rcases split member with ⟨bond, fee, bonded, charged, -⟩
  have bondValue := Schedule.boundedValueOn_eq_ok_iff.mp bonded
  have feeValue := Schedule.boundedValueOn_eq_ok_iff.mp charged
  refine ⟨bond, fee, bondValue.1, bondValue.2, feeValue.1, feeValue.2, ?_⟩
  rw [countedOn, List.map_map]
  apply congrArg total
  apply List.map_congr_left
  intro entry member
  rcases split member with ⟨otherBond, otherFee, otherBonded, otherCharged, same⟩
  rw [bonded, Except.ok.injEq] at otherBonded
  rw [charged, Except.ok.injEq] at otherCharged
  rw [← same, ← otherBonded, ← otherCharged]
  rfl

theorem countedOn_nearExactPart {schedule : OperatorSchedule} {entries : List IncomeEntry}
    (counted : ∀ entry ∈ entries,
      countedPart (some schedule) entry =
        .ok { entry with amount := countedAmount (some schedule) entry }) (date : Date) :
    NearExactPart schedule entries date (countedOn (some schedule) entries date) := by
  by_cases something : entriesOn entries date = []
  · have zero : countedOn (some schedule) entries date = 0 := by simp [countedOn, something, total]
    have earnedZero : earnedOn entries date = 0 := by simp [earnedOn, something, total]
    refine ⟨fun shown => absurd something shown, ?_, fun _ => zero⟩
    intro bond fee _ _
    refine ⟨?_, ?_, fun shown => absurd something shown⟩
    · simp [zero, earnedZero]
    · simp [earnedZero]
  · rcases exists_values_of_counted something counted with
      ⟨bond, fee, bondValue, bonded, feeValue, charged, parts⟩
    refine ⟨fun _ => ⟨⟨bond, bondValue⟩, fee, feeValue⟩, ?_,
      fun nothing => absurd nothing something⟩
    intro otherBond otherFee otherBondValue otherFeeValue
    rw [bondValue, Except.ok.injEq] at otherBondValue
    rw [feeValue, Except.ok.injEq] at otherFeeValue
    subst otherBondValue otherFeeValue
    rw [parts, earnedOn]
    refine ⟨total_operatorPart_le bonded charged _, exactPart_le bonded charged, fun _ => ?_⟩
    have amounts : (entriesOn entries date).map (·.amount) ≠ [] :=
      mt List.map_eq_nil_iff.mp something
    have short := exactPart_total_lt bonded charged amounts
    rw [List.length_map] at short
    linarith

/-! ### The rows of pooled validators -/

/-- The figures that a row shows of a validator, against the operator's exact parts. -/
structure Row.NearExactParts (request : Request) (validator : Validator)
    (schedule : OperatorSchedule) (row : Row) : Prop where
  consensus : ∃ figure, row.consensus = some figure ∧
    NearExactPart schedule (validator.consensusSource request) row.date figure
  execution : ∃ figure, row.execution = some figure ∧
    NearExactPart schedule validator.income.execution row.date figure
  withdrawals : request.withdrawalsColumn = true → ∃ figure, row.withdrawals = some figure ∧
    NearExactPart schedule validator.income.withdrawals row.date figure
  hidden : request.withdrawalsColumn = false → row.withdrawals = none

/-- Whatever its row for a date shows of a pooled validator is near the operator's exact part. -/
theorem Validator.row_nearExactParts {request : Request} {validator : Validator}
    {schedule : OperatorSchedule} {figures : ValidatorFigures}
    (pooled : request.pooledColumns = true) (given : validator.schedule? = some schedule)
    (resolved : validator.figures request = .ok figures) (date : Date) (ethPrice : Float) :
    ((validator.figuresOn request date).row request date ethPrice).NearExactParts request validator
      schedule := by
  have splitting : request.splitting? validator = some schedule := by
    rw [Request.splitting?, if_pos pooled, given]
  have counted := (countedPart_of_figures resolved).2
  have near (entries : List IncomeEntry)
      (part : ∀ entry ∈ entries, entry ∈ validator.countedEntries request) :
      NearExactPart schedule entries date
        (countedOn (request.splitting? validator) entries date) := by
    rw [splitting] at counted ⊢
    exact countedOn_nearExactPart (fun entry member => counted entry (part entry member)) date
  constructor
  · refine ⟨_, rfl, near _ fun entry member => ?_⟩
    simp [countedEntries, member]
  · refine ⟨_, rfl, near _ fun entry member => ?_⟩
    simp [countedEntries, member]
  · intro shown
    refine ⟨_, if_pos shown, near _ fun entry member => ?_⟩
    simp [countedEntries, member]
  · intro hidden
    simp [DayFigures.row, hidden]

namespace Sources

variable {sources : Sources} {request : Request} {report : Report}

/-- The selected validators with a row of their own for a date, in the order of the data. -/
def earning (sources : Sources) (request : Request) (date : Date) : List Validator :=
  (sources.selected request).filter fun validator =>
    request.covers date && (validator.figuresOn request date).isShown request

/-- The rows of validators for a date are those of the ones that earn on it. -/
theorem validatorRows_of_separate (separate : request.groupByDate = false)
    (made : sources.report request = .ok report) (date : Date) :
    (report.rowsOn date).filter (·.validatorIndex.isSome) =
      (sources.earning request date).map fun validator =>
        (validator.figuresOn request date).row request date (sources.ethPrices.priceOf date) := by
  cases covered : request.covers date with
  | false =>
      have noRows : report.rowsOn date = [] := by
        apply List.eq_nil_iff_forall_not_mem.mpr
        intro row member
        have onDate : row ∈ report.rows ∧ row.date = date := by
          simpa [Report.rowsOn] using member
        have inside := ((mem_rowsOn_of_separate separate made).mp onDate).1
        rw [covered] at inside
        cases inside
      simp [noRows, earning, covered]
  | true =>
      have ofValidators (price : Float) (figures : List DayFigures) :
          (figures.map (·.row request date price)).filter (·.validatorIndex.isSome) =
            figures.map (·.row request date price) := by
        apply List.filter_eq_self.mpr
        intro row member
        rcases List.mem_map.mp member with ⟨figures, -, rfl⟩
        rfl
      have ofNodes (ethPrice rplPrice : Float) (nodes : List NodeIncome) :
          (nodes.map (·.row ethPrice rplPrice)).filter (·.validatorIndex.isSome) = [] := by
        apply List.filter_eq_nil_iff.mpr
        intro row member
        rcases List.mem_map.mp member with ⟨node, -, rfl⟩
        exact Bool.false_ne_true
      rw [rowsOn_of_separate separate made covered, priced_of_separateDrafts, List.filter_append,
        ofValidators, ofNodes, List.append_nil, figuresOn, List.filter_map, List.map_map, earning]
      simp only [covered, Bool.true_and]
      rfl

/-- In a report with separate rows, each row of a pooled validator shows figures that do not exceed
the operator's exact parts, and that fall short of them by less than two base units for each entry
of the date. The rows are told one by one from the validators that they belong to. -/
theorem pooled_rows_near_exactParts (separate : request.groupByDate = false)
    (pooled : request.pooledColumns = true) (made : sources.report request = .ok report)
    (date : Date) :
    List.Forall₂
      (fun validator row => row.date = date ∧ row.validatorIndex = some validator.index ∧
        ∀ schedule, validator.schedule? = some schedule →
          row.NearExactParts request validator schedule)
      (sources.earning request date) ((report.rowsOn date).filter (·.validatorIndex.isSome)) := by
  rw [validatorRows_of_separate separate made, List.forall₂_map_right_iff, List.forall₂_same]
  intro validator member
  refine ⟨rfl, rfl, ?_⟩
  intro schedule given
  have selected := (List.mem_filter.mp member).1
  rcases report_eq_ok_iff.mp made with ⟨ledger, rows, opened, -, -⟩
  rcases Pass.step_ok_of_mapM_eq_ok opened.figures validator selected with ⟨figures, resolved⟩
  exact validator.row_nearExactParts pooled given resolved date _

/-- A pooled validator with two entries for one date, of which the second is too small to have a
part of its own. -/
def dustPool (date : Date) : Sources :=
  { smallPool with
    income := { smallPool.income with
      validators := [
        .pooled { ValidatorIncome.new 8 with withdrawals := [⟨date, 999⟩, ⟨date, 1⟩] } {
          bonds := [⟨date, 8 * weiPerEth⟩]
          fees := [⟨date, 14 * weiPerEth / 100⟩] }] } }

theorem dustPool_rows_near_exactParts :
    let date : Date := ⟨2024, 1, 2, by decide⟩
    let request : Request := { poolRequest with withdrawalsAsConsensus := true }
    request.groupByDate = false ∧ request.pooledColumns = true ∧
      ((dustPool date).earning request date).length = 1 ∧
      ∃ report, (dustPool date).report request = .ok report ∧
        List.Forall₂
          (fun validator row => row.date = date ∧ row.validatorIndex = some validator.index ∧
            ∀ schedule, validator.schedule? = some schedule →
              row.NearExactParts request validator schedule)
          ((dustPool date).earning request date)
          ((report.rowsOn date).filter (·.validatorIndex.isSome)) :=
  ⟨rfl, rfl, rfl, _, rfl, pooled_rows_near_exactParts rfl rfl rfl _⟩

end Sources

end StakingIncome
