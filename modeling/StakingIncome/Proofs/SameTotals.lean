import StakingIncome.Proofs.LookAlike

/-!
Income that counts in full. Of a validator whose income is not split, a report takes the total of
each series for each date and nothing else, so it makes no difference how many entries a total is
made of, in which order they come and whether some of them are zero.
-/

namespace StakingIncome

/-- The same total of each series for each date. -/
structure ValidatorIncome.SameTotals (left right : ValidatorIncome) : Prop where
  index_eq : left.index = right.index
  isSome_consensus_eq : left.consensus.isSome = right.consensus.isSome
  consensus : ∀ date,
    earnedOn (left.consensus.getD []) date = earnedOn (right.consensus.getD []) date
  execution : ∀ date, earnedOn left.execution date = earnedOn right.execution date
  withdrawals : ∀ date, earnedOn left.withdrawals date = earnedOn right.withdrawals date

namespace Validator

/-- The same schedule if any, and the same totals if the request does not split the income. Income
that is split is the same entry by entry. -/
structure SameTotals (request : Request) (left right : Validator) : Prop where
  schedule?_eq : left.schedule? = right.schedule?
  unsplit : request.splitting? left = none → left.income.SameTotals right.income
  split : request.splitting? left ≠ none → left.income = right.income

variable {request : Request} {validator left right : Validator}

theorem eq_of_income_of_schedule? (income : left.income = right.income)
    (schedules : left.schedule? = right.schedule?) : left = right := by
  cases left with
  | plain leftIncome =>
      cases right with
      | plain rightIncome => exact congrArg plain income
      | pooled rightIncome schedule => cases schedules
  | pooled leftIncome schedule =>
      cases right with
      | plain rightIncome => cases schedules
      | pooled rightIncome other =>
          cases income
          cases schedules
          rfl

/-- Only the series of consensus income can be missing from a validator that is not split. -/
theorem figures_eq_error_iff_of_unsplit (unsplit : request.splitting? validator = none)
    {fault : Fault} :
    validator.figures request = .error fault ↔
      request.consensusEntries validator.income = .error fault := by
  rw [figures_eq_error_iff, unsplit]
  constructor
  · intro failed
    rcases failed with missing | ⟨-, refused⟩
    · exact missing
    · rcases Pass.mapM_eq_error_iff.mp refused with ⟨before, entry, after, -, -, impossible⟩
      cases impossible
  · exact .inl

theorem figuresOn_of_unsplit (unsplit : request.splitting? validator = none) (date : Date) :
    validator.figuresOn request date = {
      index := validator.index
      consensus := earnedOn (validator.consensusSource request) date
      execution := earnedOn validator.income.execution date
      withdrawals := earnedOn validator.income.withdrawals date } := by
  rw [figuresOn, unsplit]
  rfl

/-- What the checks find out about a validator that is not split: its schedules, and whether it has
a consensus series. -/
theorem checkedAlike_of_unsplit (schedules : left.schedule? = right.schedule?)
    (unsplit : request.splitting? left = none) (index_eq : left.index = right.index)
    (isSome_consensus_eq : left.income.consensus.isSome = right.income.consensus.isSome) :
    Sources.CheckedAlike request left right := by
  have otherUnsplit : request.splitting? right = none := by
    rw [← request.splitting?_congr schedules, unsplit]
  have absent : left.income.consensus = none ↔ right.income.consensus = none := by
    rw [← Option.isNone_iff_eq_none, ← Option.isNone_iff_eq_none, ← Option.not_isSome,
      ← Option.not_isSome, isSome_consensus_eq]
  constructor
  · exact fun _ => missingSchedule?_congr schedules index_eq
  · apply Option.ext
    intro fault
    rw [Pass.fault?_eq_some_iff, Pass.fault?_eq_some_iff, figures_eq_error_iff_of_unsplit unsplit,
      figures_eq_error_iff_of_unsplit otherUnsplit, consensusEntries_eq_error_iff,
      consensusEntries_eq_error_iff, absent, index_eq]

namespace SameTotals

theorem lookAlike_of_unsplit (schedules : left.schedule? = right.schedule?)
    (unsplit : request.splitting? left = none) (totals : left.income.SameTotals right.income) :
    LookAlike request left right := by
  have otherUnsplit : request.splitting? right = none := by
    rw [← request.splitting?_congr schedules, unsplit]
  have index_eq : left.index = right.index := totals.index_eq
  have checked := checkedAlike_of_unsplit schedules unsplit index_eq totals.isSome_consensus_eq
  refine ⟨index_eq, checked.missing_eq, checked.fault_eq, ?_⟩
  intro date
  have consensus : earnedOn (left.consensusSource request) date =
      earnedOn (right.consensusSource request) date := by
    rw [consensusSource, consensusSource]
    split
    · exact totals.withdrawals date
    · exact totals.consensus date
  rw [figuresOn_of_unsplit unsplit, figuresOn_of_unsplit otherUnsplit, index_eq, consensus,
    totals.execution, totals.withdrawals]

theorem lookAlike (same : SameTotals request left right) : LookAlike request left right := by
  by_cases unsplit : request.splitting? left = none
  · exact lookAlike_of_unsplit same.schedule?_eq unsplit (same.unsplit unsplit)
  · rw [eq_of_income_of_schedule? (same.split unsplit) same.schedule?_eq]
    exact .refl right

end SameTotals

end Validator

namespace Sources

variable {request : Request}

/-- Only the totals of a date count of income that is not split: with the same totals, the same
report is made, or the same fault keeps it from being made. -/
theorem report_eq_of_sameTotals {validators others : List Validator}
    (same : List.Forall₂ (Validator.SameTotals request) validators others)
    (nodes : List NodeIncome) (ethPrices : PriceSeries) (rplPrices : Option PriceSeries) :
    Sources.report { income := { validators, nodes }, ethPrices, rplPrices } request =
      Sources.report { income := { validators := others, nodes }, ethPrices, rplPrices }
        request := by
  have sameIncome : SameIncome request { income := { validators, nodes }, ethPrices, rplPrices }
      { income := { validators := others, nodes }, ethPrices, rplPrices } :=
    ⟨same.imp fun _ _ related => related.lookAlike, fun _ => rfl, rfl, fun _ => rfl⟩
  rw [report_eq_map, report_eq_map, sameIncome.reportRows_eq]
  rfl

/-- A total in one entry or in two, and an entry of nothing for a date of its own. -/
theorem smallPool_report_of_sameTotals :
    let first : Date := ⟨2024, 1, 1, by decide⟩
    let third : Date := ⟨2024, 1, 3, by decide⟩
    let whole : Validator := .plain { ValidatorIncome.new 7 with execution := [⟨first, 5⟩] }
    let parted : Validator := .plain { ValidatorIncome.new 7 with
      execution := [⟨third, 0⟩, ⟨first, 2⟩, ⟨first, 3⟩] }
    List.Forall₂ (Validator.SameTotals poolRequest) [whole] [parted] ∧
      Sources.report { smallPool with income := { smallPool.income with validators := [whole] } }
          poolRequest =
        Sources.report { smallPool with income := { smallPool.income with validators := [parted] } }
          poolRequest := by
  intro first third whole parted
  have same : Validator.SameTotals poolRequest whole parted := by
    refine ⟨rfl, fun _ => ⟨rfl, rfl, fun _ => rfl, ?_, fun _ => rfl⟩, fun split => absurd rfl split⟩
    intro date
    change earnedOn [⟨first, 5⟩] date = earnedOn [⟨third, 0⟩, ⟨first, 2⟩, ⟨first, 3⟩] date
    simp only [earnedOn, entriesOn, List.filter_cons]
    by_cases onFirst : first = date <;> by_cases onThird : third = date <;>
      simp [onFirst, onThird, total]
  exact ⟨.cons same .nil, report_eq_of_sameTotals (.cons same .nil) _ _ _⟩

end Sources

end StakingIncome
