import StakingIncome.Proofs.NeededPrices
import StakingIncome.Proofs.Opening

/-!
Reports by date against reports with separate rows. Both are made from the same figures, and a row
by date holds the totals of all separate rows for its date.
-/

namespace StakingIncome

/-- Whether a row shows an amount other than zero. -/
def Row.HasIncome (row : Row) : Prop :=
  row.consensus.getD 0 ≠ 0 ∨ row.execution.getD 0 ≠ 0 ∨ row.withdrawals.getD 0 ≠ 0 ∨
    row.smoothingPool.getD 0 ≠ 0 ∨ row.rpl.getD 0 ≠ 0

namespace Report

def rowsOn (report : Report) (date : Date) : List Row :=
  report.rows.filter fun row => decide (row.date = date)

/-- The total of a field over the rows for a date. A row without the field adds nothing. -/
def totalOn (report : Report) (field : Row → Option Nat) (date : Date) : Nat :=
  total ((report.rowsOn date).map fun row => (field row).getD 0)

end Report

theorem total_map_zero {α : Type} (values : List α) : total (values.map fun _ => 0) = 0 := by
  rw [total_eq_zero_iff]
  simp

namespace Sources

variable {sources : Sources} {request : Request} {date : Date}

/-! ### The totals of separate rows -/

theorem total_separateDrafts (amount : Draft → Nat) :
    total ((sources.separateDrafts request date).map amount) =
      total (((sources.figuresOn request date).filter (·.isShown request)).map
          fun figures => amount (figures.draft request date)) +
        total ((sources.nodesOn request date).map fun node => amount node.draft) := by
  rw [separateDrafts, List.map_append, total_append, List.map_map, List.map_map]
  rfl

/-- A field that only validators have. Figures that are not shown have nothing in it. -/
theorem total_separateDrafts_of_figures {amount : Draft → Nat}
    (hidden : ∀ figures : DayFigures, figures.isShown request = false →
      amount (figures.draft request date) = 0)
    (absent : ∀ node : NodeIncome, amount node.draft = 0) :
    total ((sources.separateDrafts request date).map amount) =
      total ((sources.figuresOn request date).map
        fun figures => amount (figures.draft request date)) := by
  rw [total_separateDrafts, total_map_filter fun figures _ => hidden figures]
  simp only [absent, total_map_zero, Nat.add_zero]

/-- A field that only nodes have. -/
theorem total_separateDrafts_of_nodes {amount : Draft → Nat}
    (absent : ∀ figures : DayFigures, amount (figures.draft request date) = 0) :
    total ((sources.separateDrafts request date).map amount) =
      total ((sources.nodesOn request date).map fun node => amount node.draft) := by
  rw [total_separateDrafts]
  simp only [absent, total_map_zero, Nat.zero_add]

/-- What each field of the separate drafts adds up to. -/
structure AddsUpTo (drafts : List Draft) (request : Request) (totals : Ledger.DayTotals) :
    Prop where
  consensus : total (drafts.map (·.consensus.getD 0)) = totals.consensus
  execution : total (drafts.map (·.execution.getD 0)) = totals.execution
  withdrawals : total (drafts.map (·.withdrawals.getD 0)) =
    if request.withdrawalsColumn then totals.withdrawals else 0
  smoothingPool : total (drafts.map (·.smoothingPool.getD 0)) = totals.smoothingPool
  rpl : total (drafts.map (·.rpl.getD 0)) = totals.rpl

theorem separateDrafts_addUp :
    AddsUpTo (sources.separateDrafts request date) request (sources.totalsOn request date) := by
  have zeros {figures : DayFigures} (hidden : figures.isShown request = false) :
      figures.consensus = 0 ∧ figures.execution = 0 ∧
        (request.withdrawalsColumn = true → figures.withdrawals = 0) := by
    simpa [DayFigures.isShown, and_assoc] using hidden
  constructor
  · rw [total_separateDrafts_of_figures (fun _ hidden => (zeros hidden).1) fun _ => rfl]
    rfl
  · rw [total_separateDrafts_of_figures (fun _ hidden => (zeros hidden).2.1) fun _ => rfl]
    rfl
  · have nothing (figures : DayFigures) (hidden : figures.isShown request = false) :
        (figures.draft request date).withdrawals.getD 0 = 0 := by
      cases shown : request.withdrawalsColumn with
      | false => simp [DayFigures.draft, shown]
      | true => simpa [DayFigures.draft, shown] using (zeros hidden).2.2 shown
    rw [total_separateDrafts_of_figures nothing fun _ => rfl]
    cases shown : request.withdrawalsColumn with
    | false =>
        simp only [DayFigures.draft, shown, Bool.false_eq_true, if_false, Option.getD_none,
          total_map_zero]
    | true =>
        simp only [DayFigures.draft, shown, if_true, Option.getD_some]
        rfl
  · rw [total_separateDrafts_of_nodes fun _ => rfl]
    rfl
  · rw [total_separateDrafts_of_nodes fun _ => rfl]
    rfl

theorem AddsUpTo.hasIncome_iff {drafts : List Draft} {totals : Ledger.DayTotals}
    (adds : AddsUpTo drafts request totals) :
    totals.hasIncome request = true ↔ ∃ draft ∈ drafts, (sources.priced draft).HasIncome := by
  have withdrawals : (request.withdrawalsColumn = true ∧ totals.withdrawals ≠ 0) ↔
      total (drafts.map (·.withdrawals.getD 0)) ≠ 0 := by
    rw [adds.withdrawals]
    cases request.withdrawalsColumn <;> simp
  rw [Ledger.DayTotals.hasIncome_iff, withdrawals, ← adds.consensus, ← adds.execution,
    ← adds.smoothingPool, ← adds.rpl]
  simp only [total_map_ne_zero_iff, ← exists_or, ← and_or_left]
  rfl

/-! ### The rows for one date -/

theorem filter_flatMap_draftsOn {dates : List Date} (nodup : dates.Nodup) :
    ((dates.flatMap (sources.draftsOn request)).filter fun draft => decide (draft.date = date)) =
      if date ∈ dates then sources.draftsOn request date else [] := by
  induction dates with
  | nil => rfl
  | cons head rest induction =>
      rw [List.nodup_cons] at nodup
      rw [List.flatMap_cons, List.filter_append, induction nodup.2]
      by_cases same : head = date
      · subst same
        have all : (sources.draftsOn request head).filter
            (fun draft => decide (draft.date = head)) = sources.draftsOn request head :=
          List.filter_eq_self.mpr fun draft member => by simp [date_of_mem_draftsOn member]
        simp [all, nodup.1]
      · have none_left : (sources.draftsOn request head).filter
            (fun draft => decide (draft.date = date)) = [] :=
          List.filter_eq_nil_iff.mpr fun draft member => by
            simp [date_of_mem_draftsOn member, same]
        simp [none_left, Ne.symm same]

theorem rowsOn_of_report {report : Report} (made : sources.report request = .ok report)
    (covered : request.covers date = true) :
    report.rowsOn date = (sources.draftsOn request date).map sources.priced := by
  have nodup : (sources.dates request).Nodup := by
    apply (dates_pairwise_lt sources request).imp
    intro earlier later ascending same
    rw [Date.lt_def, same] at ascending
    exact Int.lt_irrefl _ ascending
  rw [Report.rowsOn, rows_of_report made, List.filter_map, drafts]
  change ((((sources.dates request).flatMap (sources.draftsOn request)).filter
    fun draft => decide (draft.date = date)).map sources.priced) = _
  rw [filter_flatMap_draftsOn nodup]
  split
  · rfl
  · rename_i missing
    have nothing : sources.draftsOn request date = [] :=
      List.eq_nil_iff_forall_not_mem.mpr fun draft member =>
        missing (mem_dates_of_mem_draftsOn covered member)
    rw [nothing]

theorem drafts_of_grouped (grouped : request.groupByDate = true) :
    sources.drafts request =
      (sources.rowDates request).map fun date =>
        (sources.totalsOn request date).draft request date := by
  have single : ∀ date ∈ sources.rowDates request,
      sources.draftsOn request date = [(sources.totalsOn request date).draft request date] := by
    intro date member
    rcases (mem_rowDates.mp member).2 with ⟨draft, shown⟩
    rw [draftsOn, if_pos grouped, groupedDrafts] at shown ⊢
    cases something : (sources.totalsOn request date).hasIncome request with
    | true => rfl
    | false => simp [something] at shown
  calc
    _ = (sources.rowDates request).flatMap (sources.draftsOn request) :=
      drafts_eq_flatMap_rowDates sources request
    _ = (sources.rowDates request).flatMap
        fun date => [(sources.totalsOn request date).draft request date] := by
      rw [List.flatMap_def, List.map_congr_left single, List.flatMap_def]
    _ = _ := List.map_eq_flatMap.symm

theorem mem_rowDates_of_grouped (grouped : request.groupByDate = true) :
    date ∈ sources.rowDates request ↔
      request.covers date = true ∧ (sources.totalsOn request date).hasIncome request = true := by
  rw [mem_rowDates, draftsOn, if_pos grouped, groupedDrafts]
  split <;> simp_all

theorem rows_of_grouped {report : Report} (grouped : request.groupByDate = true)
    (made : sources.report request = .ok report) :
    report.rows = (sources.rowDates request).map fun date =>
      sources.priced ((sources.totalsOn request date).draft request date) := by
  rw [rows_of_report made, drafts_of_grouped grouped, List.map_map]
  rfl

theorem rowsOn_of_separate {report : Report} (separate : request.groupByDate = false)
    (made : sources.report request = .ok report) (covered : request.covers date = true) :
    report.rowsOn date = (sources.separateDrafts request date).map sources.priced := by
  rw [rowsOn_of_report made covered, draftsOn, separate, if_neg Bool.false_ne_true]

theorem totalOn_of_separate {report : Report} (separate : request.groupByDate = false)
    (made : sources.report request = .ok report) (covered : request.covers date = true)
    (field : Row → Option Nat) :
    report.totalOn field date =
      total ((sources.separateDrafts request date).map
        fun draft => (field (sources.priced draft)).getD 0) := by
  rw [Report.totalOn, rowsOn_of_separate separate made covered, List.map_map]
  rfl

theorem mem_rowsOn_of_separate {report : Report} (separate : request.groupByDate = false)
    (made : sources.report request = .ok report) {row : Row} :
    row ∈ report.rows ∧ row.date = date ↔
      request.covers date = true ∧
        row ∈ (sources.separateDrafts request date).map sources.priced := by
  constructor
  · intro onDate
    have member := onDate.1
    rw [rows_of_report made] at member
    rcases List.mem_map.mp member with ⟨draft, drafted, same⟩
    have dated : draft.date = date := by rw [← onDate.2, ← same]; rfl
    have covered := dated ▸ (mem_drafts.mp drafted).1
    refine ⟨covered, ?_⟩
    rw [← rowsOn_of_separate separate made covered, Report.rowsOn, List.mem_filter]
    simpa using onDate
  · intro shown
    have member := shown.2
    rw [← rowsOn_of_separate separate made shown.1, Report.rowsOn, List.mem_filter] at member
    simpa using member

theorem hasIncome_of_separate {report : Report} (separate : request.groupByDate = false)
    (made : sources.report request = .ok report) :
    (∃ row ∈ report.rows, row.date = date ∧ row.HasIncome) ↔
      request.covers date = true ∧ (sources.totalsOn request date).hasIncome request = true := by
  rw [separateDrafts_addUp.hasIncome_iff]
  constructor
  · intro shown
    rcases shown with ⟨row, member, dated, something⟩
    rcases (mem_rowsOn_of_separate separate made).mp ⟨member, dated⟩ with ⟨covered, onDate⟩
    rcases List.mem_map.mp onDate with ⟨draft, drafted, rfl⟩
    exact ⟨covered, draft, drafted, something⟩
  · intro shown
    rcases shown with ⟨covered, draft, drafted, something⟩
    rcases (mem_rowsOn_of_separate separate made).mpr ⟨covered, List.mem_map_of_mem drafted⟩ with
      ⟨member, dated⟩
    exact ⟨_, member, dated, something⟩

/-! ### Both reports of a request -/

/-- How rows are grouped has no part in opening a ledger. -/
theorem openingFault?_of_grouping (groupByDate : Bool) :
    sources.openingFault? { request with groupByDate } = sources.openingFault? request := by
  apply openingFault?_congr
  intro check
  cases check <;> rfl

/-- Without the columns of the pool, a date has a row by date exactly when it has a separate row. -/
theorem needsEthPrice_of_plain (plain : request.pooledColumns = false) :
    sources.NeedsEthPrice { request with groupByDate := true } date ↔
      sources.NeedsEthPrice { request with groupByDate := false } date := by
  have noNodes : sources.nodesOn request date = [] := by simp [nodesOn, plain]
  have noPool : (sources.totalsOn request date).smoothingPool = 0 ∧
      (sources.totalsOn request date).rpl = 0 := by
    simp [totalsOn, noNodes, total]
  have byDate : sources.NeedsEthPrice { request with groupByDate := true } date ↔
      (sources.totalsOn request date).consensus ≠ 0 ∨
        (sources.totalsOn request date).execution ≠ 0 ∨
        (request.withdrawalsColumn = true ∧ (sources.totalsOn request date).withdrawals ≠ 0) ∨
        (sources.totalsOn request date).smoothingPool ≠ 0 ∨
        (sources.totalsOn request date).rpl ≠ 0 := Iff.rfl
  have separate : sources.NeedsEthPrice { request with groupByDate := false } date ↔
      (∃ validator ∈ sources.selected request,
        (validator.figuresOn request date).consensus ≠ 0 ∨
          (validator.figuresOn request date).execution ≠ 0 ∨
          (request.withdrawalsColumn = true ∧
            (validator.figuresOn request date).withdrawals ≠ 0)) ∨
        (request.pooledColumns = true ∧ ∃ node ∈ sources.income.nodes, node.date = date) := Iff.rfl
  rw [byDate, separate, noPool.1, noPool.2, plain]
  simp only [totalsOn, figuresOn, List.map_map, total_map_ne_zero_iff, Function.comp_apply]
  grind

theorem earliestMissingPrice_of_plain (plain : request.pooledColumns = false) {fault : Fault} :
    sources.EarliestMissingPrice { request with groupByDate := true } fault ↔
      sources.EarliestMissingPrice { request with groupByDate := false } fault := by
  have missing (date : Date) (fault : Fault) :
      sources.MissingPrice { request with groupByDate := true } date fault ↔
        sources.MissingPrice { request with groupByDate := false } date fault := by
    have plainly (groupByDate : Bool) :
        ¬sources.NeedsRplPrice { request with groupByDate } date := by
      intro needed
      have pooled : request.pooledColumns = true := needed.1
      rw [plain] at pooled
      cases pooled
    constructor
    · intro lacking
      cases lacking with
      | eth needed absent => exact .eth ((needsEthPrice_of_plain plain).mp needed) absent
      | rpl needed => exact absurd needed (plainly true)
    · intro lacking
      cases lacking with
      | eth needed absent => exact .eth ((needsEthPrice_of_plain plain).mpr needed) absent
      | rpl needed => exact absurd needed (plainly false)
  simp only [EarliestMissingPrice, missing]
  rfl

theorem report_eq_error_iff_of_plain (plain : request.pooledColumns = false) {fault : Fault} :
    sources.report { request with groupByDate := false } = .error fault ↔
      sources.report { request with groupByDate := true } = .error fault := by
  simp only [report_eq_error_iff_missing, ledger_eq_error_iff, exists_opened_iff,
    openingFault?_of_grouping, earliestMissingPrice_of_plain plain]

/-- A row by date against the separate rows for the date. -/
theorem priced_totals_of_separate {separate : Report}
    (made : sources.report { request with groupByDate := false } = .ok separate)
    (covered : request.covers date = true) {row : Row}
    (grouped : row = sources.priced ((sources.totalsOn request date).draft request date)) :
    row.consensus = some (separate.totalOn (·.consensus) date) ∧
      row.execution = some (separate.totalOn (·.execution) date) ∧
      (request.withdrawalsColumn = true →
        row.withdrawals = some (separate.totalOn (·.withdrawals) date)) ∧
      (request.pooledColumns = true →
        row.smoothingPool = some (separate.totalOn (·.smoothingPool) date) ∧
          row.rpl = some (separate.totalOn (·.rpl) date)) ∧
      ∀ other ∈ separate.rows, other.date = date →
        row.ethPrice = other.ethPrice ∧
          (other.nodeAddress.isSome = true → row.rplPrice = other.rplPrice) := by
  subst grouped
  have adds : AddsUpTo (sources.separateDrafts request date) request
    (sources.totalsOn request date) := separateDrafts_addUp
  have totals (field : Row → Option Nat) : separate.totalOn field date =
      total ((sources.separateDrafts request date).map
        fun draft => (field (sources.priced draft)).getD 0) :=
    totalOn_of_separate rfl made covered field
  simp only [totals]
  refine ⟨congrArg some adds.consensus.symm, congrArg some adds.execution.symm, ?_, ?_, ?_⟩
  · intro shown
    have withdrawals := adds.withdrawals
    rw [if_pos shown] at withdrawals
    exact (if_pos shown).trans (congrArg some withdrawals.symm)
  · intro pooled
    exact ⟨(if_pos pooled).trans (congrArg some adds.smoothingPool.symm),
      (if_pos pooled).trans (congrArg some adds.rpl.symm)⟩
  · intro other member dated
    rcases (mem_rowsOn_of_separate rfl made).mp ⟨member, dated⟩ with ⟨-, onDate⟩
    rcases List.mem_map.mp onDate with ⟨draft, drafted, rfl⟩
    have draftDated : draft.date = date := dated
    refine ⟨?_, ?_⟩
    · change sources.ethPrices.priceOf date = sources.ethPrices.priceOf draft.date
      rw [draftDated]
    · intro ofNode
      rcases List.mem_append.mp drafted with drafted | drafted
      · rcases List.mem_map.mp drafted with ⟨figures, -, rfl⟩
        cases ofNode
      · rcases List.mem_map.mp drafted with ⟨node, shown, rfl⟩
        have pooled : request.pooledColumns = true := (mem_nodesOn.mp shown).1
        change ((if request.pooledColumns then some _ else none).map
          fun _ => sources.rplPriceOf date) = some (sources.rplPriceOf node.date)
        rw [if_pos pooled, (mem_nodesOn.mp shown).2.2]
        rfl

/-- A report by date refines the one with separate rows. When both are made, it has a row for just
the dates with income, with all their totals and prices, and without the columns of the pool both
are made or fail alike. -/
theorem grouped_refines_separate (sources : Sources) (request : Request) :
    (∀ separate grouped : Report,
      sources.report { request with groupByDate := false } = .ok separate →
      sources.report { request with groupByDate := true } = .ok grouped →
      (grouped.rows.map (·.date)).Pairwise (· < ·) ∧
      (∀ date, (∃ row ∈ grouped.rows, row.date = date) ↔
        ∃ row ∈ separate.rows, row.date = date ∧ row.HasIncome) ∧
      ∀ row ∈ grouped.rows,
        row.consensus = some (separate.totalOn (·.consensus) row.date) ∧
        row.execution = some (separate.totalOn (·.execution) row.date) ∧
        (request.withdrawalsColumn = true →
          row.withdrawals = some (separate.totalOn (·.withdrawals) row.date)) ∧
        (request.pooledColumns = true →
          row.smoothingPool = some (separate.totalOn (·.smoothingPool) row.date) ∧
            row.rpl = some (separate.totalOn (·.rpl) row.date)) ∧
        ∀ other ∈ separate.rows, other.date = row.date →
          row.ethPrice = other.ethPrice ∧
            (other.nodeAddress.isSome = true → row.rplPrice = other.rplPrice)) ∧
    (request.pooledColumns = false →
      ((∃ report, sources.report { request with groupByDate := false } = .ok report) ↔
        ∃ report, sources.report { request with groupByDate := true } = .ok report) ∧
      ∀ fault, sources.report { request with groupByDate := false } = .error fault ↔
        sources.report { request with groupByDate := true } = .error fault) := by
  constructor
  · intro separate grouped separateMade groupedMade
    have rows := rows_of_grouped rfl groupedMade
    refine ⟨?_, ?_, ?_⟩
    · rw [rows, List.map_map]
      change ((sources.rowDates _).map fun date => date).Pairwise (· < ·)
      rw [List.map_id']
      exact rowDates_pairwise_lt sources _
    · intro date
      have something : (∃ row ∈ separate.rows, row.date = date ∧ row.HasIncome) ↔
          request.covers date = true ∧ (sources.totalsOn request date).hasIncome request = true :=
        @hasIncome_of_separate _ { request with groupByDate := false } date _ rfl separateMade
      have shown : date ∈ sources.rowDates { request with groupByDate := true } ↔
          request.covers date = true ∧ (sources.totalsOn request date).hasIncome request = true :=
        @mem_rowDates_of_grouped _ { request with groupByDate := true } date rfl
      rw [something, ← shown, rows]
      constructor
      · intro onDate
        rcases onDate with ⟨row, member, rfl⟩
        rcases List.mem_map.mp member with ⟨date, dated, rfl⟩
        exact dated
      · intro dated
        exact ⟨_, List.mem_map_of_mem dated, rfl⟩
    · intro row member
      rw [rows] at member
      rcases List.mem_map.mp member with ⟨date, dated, rfl⟩
      rcases (mem_rowDates_of_grouped rfl).mp dated with ⟨covered, -⟩
      exact priced_totals_of_separate separateMade covered rfl
  · intro plain
    have alike (fault : Fault) :
        sources.report { request with groupByDate := false } = .error fault ↔
          sources.report { request with groupByDate := true } = .error fault :=
      report_eq_error_iff_of_plain plain
    exact ⟨Pass.exists_ok_iff_of_error_iff alike, alike⟩

theorem smallPool_grouped_refines :
    (∃ separate grouped : Report,
      smallPool.report { poolRequest with groupByDate := false } = .ok separate ∧
      smallPool.report { poolRequest with groupByDate := true } = .ok grouped ∧
      (grouped.rows.map (·.date)).Pairwise (· < ·) ∧
      ∀ row ∈ grouped.rows, row.consensus = some (separate.totalOn (·.consensus) row.date)) ∧
    Request.plain.pooledColumns = false ∧
      ((∃ report, smallPool.report { Request.plain with groupByDate := false } = .ok report) ↔
        ∃ report, smallPool.report { Request.plain with groupByDate := true } = .ok report) := by
  have separateMade :
      ∃ report, smallPool.report { poolRequest with groupByDate := false } = .ok report := ⟨_, rfl⟩
  have groupedMade :
      ∃ report, smallPool.report { poolRequest with groupByDate := true } = .ok report := ⟨_, rfl⟩
  rcases separateMade with ⟨separate, separateMade⟩
  rcases groupedMade with ⟨grouped, groupedMade⟩
  have refined := (grouped_refines_separate smallPool poolRequest).1 _ _ separateMade groupedMade
  refine ⟨⟨separate, grouped, separateMade, groupedMade, refined.1, ?_⟩, rfl, ?_⟩
  · intro row member
    exact (refined.2.2 row member).1
  · exact ((grouped_refines_separate smallPool Request.plain).2 rfl).1

end Sources

end StakingIncome
