import StakingIncome.Proofs.LookAlike

/-!
Reports without the columns of the pool. What belongs to the pool, which is schedules, node income
and prices of RPL, has no part in them: neither in a cell or the header nor in a fault.
-/

namespace StakingIncome

namespace Column

theorem rplPrice_not_mem_active {request : Request} (plain : request.pooledColumns = false) :
    rplPrice ∉ active request := by
  rw [active, plain]
  cases request.groupByDate <;> cases request.withdrawalsColumn <;> decide

theorem label_of_ne_rplPrice {column : Column} (other : column ≠ rplPrice)
    (ethCurrency first second : String) :
    column.label ethCurrency first = column.label ethCurrency second := by
  cases column with
  | rplPrice => exact absurd rfl other
  | _ => rfl

end Column

/-- The currency of RPL is only told in the header of its prices. -/
theorem Report.toDelimited_of_rplCurrency (report : Report)
    (hidden : Column.rplPrice ∉ report.columns) (rplCurrency delimiter : String) :
    { report with rplCurrency }.toDelimited delimiter = report.toDelimited delimiter := by
  have labels : { report with rplCurrency }.labels = report.labels := by
    apply List.map_congr_left
    intro column member
    have other : column ≠ .rplPrice := fun same => hidden (same ▸ member)
    rw [Column.label_of_ne_rplPrice other]
  rw [toDelimited, toDelimited, table, table, labels]
  rfl

theorem Request.splitting?_of_plain {request : Request} (plain : request.pooledColumns = false)
    (validator : Validator) : request.splitting? validator = none := by
  rw [splitting?, if_neg (by simp [plain])]

theorem Validator.lookAlike_of_income {request : Request} (plain : request.pooledColumns = false)
    {left right : Validator} (income : left.income = right.income) :
    left.LookAlike request right := by
  have splitting : request.splitting? left = request.splitting? right := by
    rw [request.splitting?_of_plain plain, request.splitting?_of_plain plain]
  have index_eq : left.index = right.index := congrArg ValidatorIncome.index income
  constructor
  · exact index_eq
  · intro pooled
    rw [plain] at pooled
    cases pooled
  · rw [figures, figures, income, splitting]
  · intro date
    rw [figuresOn, figuresOn, consensusSource, consensusSource, income, splitting, index_eq]

namespace Sources

variable {request : Request}

/-- Without the columns of the pool, the text or the fault follows from the income of the validators
and the prices of ETH. -/
theorem reportText_eq_of_plain (plain : request.pooledColumns = false)
    {validators others : List Validator}
    (income : validators.map (·.income) = others.map (·.income)) (ethPrices : PriceSeries)
    (nodes otherNodes : List NodeIncome) (rplPrices otherRplPrices : Option PriceSeries) :
    Sources.reportText { income := { validators, nodes }, ethPrices, rplPrices } request =
      Sources.reportText
        { income := { validators := others, nodes := otherNodes }, ethPrices,
          rplPrices := otherRplPrices } request := by
  have unread {holds : Prop} (pooled : request.pooledColumns = true) : holds := by
    rw [plain] at pooled
    cases pooled
  have same : SameIncome request { income := { validators, nodes }, ethPrices, rplPrices }
      { income := { validators := others, nodes := otherNodes }, ethPrices,
        rplPrices := otherRplPrices } :=
    ⟨(map_eq_map_iff_forall₂.mp income).imp fun _ _ => Validator.lookAlike_of_income plain, unread,
      rfl, unread⟩
  have text (rows : List Row) :
      (reportOf ⟨⟨validators, nodes⟩, ethPrices, rplPrices⟩ request rows).toDelimited
          request.delimiter =
        (reportOf ⟨⟨others, otherNodes⟩, ethPrices, otherRplPrices⟩ request rows).toDelimited
          request.delimiter :=
    Report.toDelimited_of_rplCurrency (reportOf ⟨⟨others, otherNodes⟩, ethPrices, _⟩ request rows)
      (Column.rplPrice_not_mem_active plain) _ _
  simp only [reportText_eq_map, report_eq_map, Functor.map_map, same.reportRows_eq, text]

/-- A plain validator against a pooled one whose schedule cannot be used, and a series of RPL prices
that has a date twice. -/
theorem smallPool_reportText_of_plain :
    let date : Date := ⟨2024, 1, 1, by decide⟩
    let income : ValidatorIncome := { ValidatorIncome.new 7 with execution := [⟨date, 5⟩] }
    let twice : PriceSeries := { currency := "EUR", entries := [⟨date, 1⟩, ⟨date, 2⟩] }
    Request.plain.pooledColumns = false ∧
      [Validator.plain income].map (·.income) =
        [Validator.pooled income { bonds := [], fees := [] }].map (·.income) ∧
      Sources.reportText
          { income := { validators := [.plain income], nodes := [] },
            ethPrices := smallPool.ethPrices, rplPrices := none } .plain =
        Sources.reportText
          { income := {
              validators := [.pooled income { bonds := [], fees := [] }],
              nodes := [⟨⟨2024, 3, 1, by decide⟩, "0xa", 5, 6⟩] },
            ethPrices := smallPool.ethPrices, rplPrices := some twice } .plain :=
  ⟨rfl, rfl, reportText_eq_of_plain rfl rfl _ _ _ _ _⟩

end Sources

end StakingIncome
