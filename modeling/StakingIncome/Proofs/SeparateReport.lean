import StakingIncome.Proofs.NeededPrices

/-!
What a report with separate rows holds: nothing is lost, nothing comes twice, and all is in order.
-/

namespace StakingIncome

/-- The row of a validator for a date. -/
def DayFigures.row (request : Request) (date : Date) (ethPrice : Float) (figures : DayFigures) :
    Row :=
  { Row.new date ethPrice with
    validatorIndex := some figures.index
    consensus := some figures.consensus
    execution := some figures.execution
    withdrawals := if request.withdrawalsColumn then some figures.withdrawals else none }

/-- The row of one entry of node income. -/
def NodeIncome.row (ethPrice rplPrice : Float) (node : NodeIncome) : Row :=
  { Row.new node.date ethPrice with
    nodeAddress := some node.address
    smoothingPool := some node.smoothingPool
    rpl := some node.rpl
    rplPrice := some rplPrice }

namespace Validator

variable {request : Request} {validator : Validator}

/-- All entries of a validator count in full where its figures can be told. -/
theorem countedPart_of_figures {figures : ValidatorFigures}
    (resolved : validator.figures request = .ok figures) :
    request.consensusEntries validator.income = .ok (validator.consensusSource request) ∧
      ∀ entry ∈ validator.countedEntries request,
        countedPart (request.splitting? validator) entry =
          .ok { entry with amount := countedAmount (request.splitting? validator) entry } := by
  rcases exists_figures_iff.mp ⟨figures, resolved⟩ with ⟨present, counted⟩
  refine ⟨consensusEntries_eq_ok_iff.mpr ⟨present, rfl⟩, ?_⟩
  intro entry member
  rcases counted entry member with ⟨part, found⟩
  rw [found, part_of_countedPart found]

end Validator

namespace Sources

variable {sources : Sources} {request : Request} {report : Report}

theorem priced_of_separateDrafts (date : Date) :
    (sources.separateDrafts request date).map sources.priced =
      ((sources.figuresOn request date).filter (·.isShown request)).map
          (·.row request date (sources.ethPrices.priceOf date)) ++
        (sources.nodesOn request date).map
          (·.row (sources.ethPrices.priceOf date) (sources.rplPriceOf date)) := by
  rw [separateDrafts, List.map_append, List.map_map, List.map_map]
  congr 1
  apply List.map_congr_left
  intro node member
  rw [← (mem_nodesOn.mp member).2.2]
  rfl

/-- The rows of a report with separate rows are exactly these. The dates with anything to show come
in ascending order, and for each of them first the selected validators with figures to show and then
the shown node income, both in the order of the data. -/
theorem separate_rows_eq (separate : request.groupByDate = false)
    (made : sources.report request = .ok report) :
    (∀ validator ∈ sources.selected request,
      request.consensusEntries validator.income = .ok (validator.consensusSource request) ∧
        ∀ entry ∈ validator.countedEntries request,
          countedPart (request.splitting? validator) entry =
            .ok { entry with amount := countedAmount (request.splitting? validator) entry }) ∧
    ∃ dates : List Date, dates.Pairwise (· < ·) ∧
      (∀ date, date ∈ dates ↔ request.covers date = true ∧
        ((∃ validator ∈ sources.selected request,
            (validator.figuresOn request date).isShown request = true) ∨
          (request.pooledColumns = true ∧ ∃ node ∈ sources.income.nodes, node.date = date))) ∧
      (∀ date ∈ dates, ⟨date, sources.ethPrices.priceOf date⟩ ∈ sources.ethPrices.entries) ∧
      (∀ date ∈ dates, sources.nodesOn request date ≠ [] →
        ∃ series, sources.rplPrices = some series ∧
          ⟨date, sources.rplPriceOf date⟩ ∈ series.entries) ∧
      report.rows = dates.flatMap fun date =>
        ((sources.figuresOn request date).filter (·.isShown request)).map
            (·.row request date (sources.ethPrices.priceOf date)) ++
          (sources.nodesOn request date).map
            (·.row (sources.ethPrices.priceOf date) (sources.rplPriceOf date)) := by
  rcases report_eq_ok_iff.mp made with ⟨ledger, rows, opened, priced, -⟩
  have complete {date : Date} (member : date ∈ sources.rowDates request) :=
    opened.no_missingPrice_iff.mp
      (opened.exists_rows_iff.mp ⟨rows, priced⟩ date (mem_rowDates.mp member).1)
  constructor
  · intro validator member
    rcases Pass.step_ok_of_mapM_eq_ok opened.figures validator member with ⟨figures, resolved⟩
    exact Validator.countedPart_of_figures resolved
  · refine ⟨sources.rowDates request, rowDates_pairwise_lt sources request, ?_, ?_, ?_, ?_⟩
    · intro date
      rw [mem_rowDates, ← needsEthPrice_iff, NeedsEthPrice, separate]
      simp only [DayFigures.isShown_iff, Bool.false_eq_true, if_false]
    · intro date member
      have needed := needsEthPrice_iff.mpr (mem_rowDates.mp member).2
      exact PriceSeries.mem_entries_of_mem_dates ((complete member).1 needed)
    · intro date member shown
      rcases List.exists_mem_of_ne_nil _ shown with ⟨node, nodeMember⟩
      rcases mem_nodesOn.mp nodeMember with ⟨pooled, nodeMember, dated⟩
      have needed : sources.NeedsRplPrice request date := by
        rw [NeedsRplPrice, separate]
        exact ⟨pooled, node, nodeMember, dated⟩
      rcases (complete member).2 needed with ⟨series, given, present⟩
      refine ⟨series, given, ?_⟩
      rw [rplPriceOf, given]
      exact PriceSeries.mem_entries_of_mem_dates present
    · rw [rows_of_report made, drafts_eq_flatMap_rowDates, List.map_flatMap]
      simp only [draftsOn, separate, Bool.false_eq_true, if_false, priced_of_separateDrafts]

theorem smallPool_separate_rows :
    poolRequest.groupByDate = false ∧
      ∃ report, smallPool.report poolRequest = .ok report ∧
        ∃ dates : List Date, dates.Pairwise (· < ·) ∧
          report.rows = dates.flatMap fun date =>
            ((smallPool.figuresOn poolRequest date).filter (·.isShown poolRequest)).map
                (·.row poolRequest date (smallPool.ethPrices.priceOf date)) ++
              (smallPool.nodesOn poolRequest date).map
                (·.row (smallPool.ethPrices.priceOf date) (smallPool.rplPriceOf date)) := by
  have made : ∃ report, smallPool.report poolRequest = .ok report := ⟨_, rfl⟩
  rcases made with ⟨report, made⟩
  rcases (separate_rows_eq rfl made).2 with ⟨dates, ascending, -, -, -, rows⟩
  exact ⟨rfl, report, made, dates, ascending, rows⟩

end Sources

end StakingIncome
