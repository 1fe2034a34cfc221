import StakingIncome.Proofs.Pricing

/-!
Rows against the columns of their report. The columns follow from the request alone, while a row is
filled by what it is about: the totals of a date, a validator or a node. Still a row has no value
that its report lacks the column for, and a row by date has a value in every column.
-/

namespace StakingIncome

namespace Column

/-- All columns in the order of the header. -/
def all : List Column :=
  [date, validatorIndex, ethPrice, consensusIncome, executionIncome, withdrawals, nodeAddress,
    smoothingPoolIncome, rplIncome, rplPrice]

/-- The columns that a row of a validator fills. -/
def ofValidators (request : Request) : List Column :=
  [date, validatorIndex, ethPrice, consensusIncome, executionIncome] ++
    if request.withdrawalsColumn then [withdrawals] else []

/-- The columns that a row of a node fills. -/
def ofNodes : List Column :=
  [date, ethPrice, nodeAddress, smoothingPoolIncome, rplIncome, rplPrice]

theorem mem_all (column : Column) : column ∈ all := by
  cases column <;> decide

theorem ofValidators_subset_active {request : Request} (separate : request.groupByDate = false) :
    ofValidators request ⊆ active request := by
  rw [ofValidators, active, separate]
  cases request.withdrawalsColumn <;> cases request.pooledColumns <;> decide

theorem ofNodes_subset_active {request : Request} (separate : request.groupByDate = false)
    (pooled : request.pooledColumns = true) : ofNodes ⊆ active request := by
  rw [active, separate, pooled]
  cases request.withdrawalsColumn <;> decide

end Column

namespace Row

/-- Whether a row has a value for a column. Every row has a date and a price of ETH. -/
def holds (row : Row) : Column → Bool
  | .date => true
  | .validatorIndex => row.validatorIndex.isSome
  | .ethPrice => true
  | .consensusIncome => row.consensus.isSome
  | .executionIncome => row.execution.isSome
  | .withdrawals => row.withdrawals.isSome
  | .nodeAddress => row.nodeAddress.isSome
  | .smoothingPoolIncome => row.smoothingPool.isSome
  | .rplIncome => row.rpl.isSome
  | .rplPrice => row.rplPrice.isSome

/-- The columns that a row has a value for. -/
def populated (row : Row) : List Column :=
  Column.all.filter row.holds

/-- A column without a value is printed empty. -/
theorem cell_of_not_mem_populated {row : Row} {column : Column} (missing : column ∉ row.populated)
    (ladder : UnitLadder) : column.cell ladder row = [] := by
  have unfilled : row.holds column = false := by
    simpa [populated, Column.mem_all] using missing
  cases column <;> simp_all [holds, Column.cell, Column.amountCell]

end Row

/-! ### What each kind of row fills -/

section Drafts

variable {request : Request} {sources : Sources} {date : Date}

theorem DayFigures.populated_draft (figures : DayFigures) :
    (sources.priced (figures.draft request date)).populated = Column.ofValidators request := by
  rw [draft, Column.ofValidators]
  cases request.withdrawalsColumn <;> rfl

theorem NodeIncome.populated_draft (node : NodeIncome) :
    (sources.priced node.draft).populated = Column.ofNodes :=
  rfl

/-- Whether there are prices of RPL follows from the request as well, so a row by date has no gap. -/
theorem Ledger.DayTotals.populated_draft (grouped : request.groupByDate = true)
    (totals : DayTotals) :
    (sources.priced (totals.draft request date)).populated = Column.active request := by
  rw [draft, Column.active, grouped]
  cases request.withdrawalsColumn <;> cases request.pooledColumns <;> rfl

end Drafts

namespace Sources

variable {sources : Sources} {request : Request} {date : Date} {draft : Draft}

theorem populated_of_grouped (grouped : request.groupByDate = true)
    (member : draft ∈ sources.draftsOn request date) :
    (sources.priced draft).populated = Column.active request := by
  rw [draftsOn, if_pos grouped, groupedDrafts] at member
  split at member
  · rw [List.mem_singleton.mp member, Ledger.DayTotals.populated_draft grouped]
  · cases member

theorem populated_of_separate (separate : request.groupByDate = false)
    (member : draft ∈ sources.draftsOn request date) :
    (sources.priced draft).populated = Column.ofValidators request ∨
      (sources.priced draft).populated = Column.ofNodes ∧ request.pooledColumns = true := by
  rw [draftsOn, separate, if_neg Bool.false_ne_true, separateDrafts] at member
  rcases List.mem_append.mp member with ofValidator | ofNode
  · rcases List.mem_map.mp ofValidator with ⟨figures, -, rfl⟩
    exact .inl figures.populated_draft
  · rcases List.mem_map.mp ofNode with ⟨node, shown, rfl⟩
    exact .inr ⟨node.populated_draft, (mem_nodesOn.mp shown).1⟩

/-- No row of a report has a value without a column, and where it has no value its cell is empty.
Rows by date fill all columns. Separate rows fill either the columns of validators or those of nodes,
and the latter only where these are shown. -/
theorem rows_populate_columns {report : Report} (made : sources.report request = .ok report) :
    report.columns = Column.active request ∧
      ∀ row ∈ report.rows,
        row.populated ⊆ report.columns ∧
        (∀ column, column ∉ row.populated → column.cell report.ladder row = []) ∧
        (request.groupByDate = true → row.populated = report.columns) ∧
        (request.groupByDate = false →
          row.populated = Column.ofValidators request ∨
            row.populated = Column.ofNodes ∧ request.pooledColumns = true) := by
  have columns : report.columns = Column.active request := by
    rcases report_eq_ok_iff.mp made with ⟨ledger, rows, -, -, rfl⟩
    rfl
  refine ⟨columns, ?_⟩
  intro row member
  rw [rows_of_report made] at member
  rcases List.mem_map.mp member with ⟨draft, drafted, rfl⟩
  have onDate := (mem_drafts.mp drafted).2
  rw [columns]
  refine ⟨?_, fun column missing => Row.cell_of_not_mem_populated missing _,
    fun grouped => populated_of_grouped grouped onDate,
    fun separate => populated_of_separate separate onDate⟩
  cases grouping : request.groupByDate with
  | true => exact populated_of_grouped grouping onDate ▸ List.Subset.refl _
  | false =>
      rcases populated_of_separate grouping onDate with filled | ⟨filled, pooled⟩
      · exact filled ▸ Column.ofValidators_subset_active grouping
      · exact filled ▸ Column.ofNodes_subset_active grouping pooled

/-- A request with every column, for both kinds of rows. -/
def fullRequest (groupByDate : Bool) : Request :=
  { poolRequest with groupByDate, withdrawalsColumn := true }

theorem smallPool_rows_populate_columns :
    (∃ report, smallPool.report (fullRequest true) = .ok report ∧ report.rows.length = 2 ∧
      report.columns = Column.active (fullRequest true) ∧
      ∀ row ∈ report.rows, row.populated = report.columns) ∧
      ∃ report, smallPool.report (fullRequest false) = .ok report ∧ report.rows.length = 4 ∧
        ∀ row ∈ report.rows, row.populated ⊆ report.columns ∧
          (row.populated = Column.ofValidators (fullRequest false) ∨
            row.populated = Column.ofNodes ∧ (fullRequest false).pooledColumns = true) := by
  have grouped : ∃ report, smallPool.report (fullRequest true) = .ok report ∧
      report.rows.length = 2 := ⟨_, rfl, rfl⟩
  have separate : ∃ report, smallPool.report (fullRequest false) = .ok report ∧
      report.rows.length = 4 := ⟨_, rfl, rfl⟩
  constructor
  · rcases grouped with ⟨report, made, rows⟩
    rcases rows_populate_columns made with ⟨columns, filled⟩
    exact ⟨report, made, rows, columns, fun row member => (filled row member).2.2.1 rfl⟩
  · rcases separate with ⟨report, made, rows⟩
    rcases rows_populate_columns made with ⟨-, filled⟩
    exact ⟨report, made, rows, fun row member =>
      ⟨(filled row member).1, (filled row member).2.2.2 rfl⟩⟩

end Sources

end StakingIncome
