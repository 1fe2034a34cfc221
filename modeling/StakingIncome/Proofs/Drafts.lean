import StakingIncome.Ledger.Rows
import StakingIncome.Proofs.DayFigures

/-!
Reports before they are priced. The amounts of all rows follow from the sources and the request
alone, date by date, in the order in which the rows are printed.
-/

namespace StakingIncome

/-! ### Rows without prices -/

/-- A row that has no prices yet. -/
structure Draft where
  date : Date
  validatorIndex : Option UInt64
  consensus : Option Nat
  execution : Option Nat
  withdrawals : Option Nat
  nodeAddress : Option String
  smoothingPool : Option Nat
  rpl : Option Nat

def Draft.row (draft : Draft) (ethPrice : Float) (rplPrice : Option Float) : Row where
  date := draft.date
  validatorIndex := draft.validatorIndex
  ethPrice := ethPrice
  consensus := draft.consensus
  execution := draft.execution
  withdrawals := draft.withdrawals
  nodeAddress := draft.nodeAddress
  smoothingPool := draft.smoothingPool
  rpl := draft.rpl
  rplPrice := rplPrice

namespace DayFigures

/-- Whether a row for the figures would show anything but zeros. -/
def isShown (request : Request) (figures : DayFigures) : Bool :=
  figures.consensus != 0 || figures.execution != 0 ||
    (request.withdrawalsColumn && figures.withdrawals != 0)

def draft (request : Request) (date : Date) (figures : DayFigures) : Draft where
  date := date
  validatorIndex := some figures.index
  consensus := some figures.consensus
  execution := some figures.execution
  withdrawals := if request.withdrawalsColumn then some figures.withdrawals else none
  nodeAddress := none
  smoothingPool := none
  rpl := none

theorem isShown_iff {request : Request} {figures : DayFigures} :
    figures.isShown request = true ↔
      figures.consensus ≠ 0 ∨ figures.execution ≠ 0 ∨
        (request.withdrawalsColumn = true ∧ figures.withdrawals ≠ 0) := by
  simp [isShown, or_assoc]

end DayFigures

def NodeIncome.draft (node : NodeIncome) : Draft where
  date := node.date
  validatorIndex := none
  consensus := none
  execution := none
  withdrawals := none
  nodeAddress := some node.address
  smoothingPool := some node.smoothingPool
  rpl := some node.rpl

namespace Ledger.DayTotals

def draft (request : Request) (date : Date) (totals : DayTotals) : Draft where
  date := date
  validatorIndex := none
  consensus := some totals.consensus
  execution := some totals.execution
  withdrawals := if request.withdrawalsColumn then some totals.withdrawals else none
  nodeAddress := none
  smoothingPool := if request.pooledColumns then some totals.smoothingPool else none
  rpl := if request.pooledColumns then some totals.rpl else none

theorem hasIncome_iff {request : Request} {totals : DayTotals} :
    totals.hasIncome request = true ↔
      totals.consensus ≠ 0 ∨ totals.execution ≠ 0 ∨
        (request.withdrawalsColumn = true ∧ totals.withdrawals ≠ 0) ∨
        totals.smoothingPool ≠ 0 ∨ totals.rpl ≠ 0 := by
  cases shown : request.withdrawalsColumn <;>
    simp [hasIncome, ValidatorFigures.shownWithdrawals, shown, or_assoc]

end Ledger.DayTotals

/-- Values without members can be left out when all members are listed. -/
theorem flatMap_filter_nonempty {α β : Type} (members : α → List β) (values : List α) :
    (values.filter fun value => !(members value).isEmpty).flatMap members =
      values.flatMap members := by
  induction values with
  | nil => rfl
  | cons head tail induction =>
      rw [List.flatMap_cons, ← induction, List.filter_cons]
      cases nothing : (members head).isEmpty with
      | true => simp [List.isEmpty_iff.mp nothing]
      | false => simp

/-! ### The drafts of a report -/

namespace Sources

/-- The figures of the selected validators for a date, in the order of the data. -/
def figuresOn (sources : Sources) (request : Request) (date : Date) : List DayFigures :=
  (sources.selected request).map fun validator => validator.figuresOn request date

/-- The node income that is shown for a date. -/
def nodesOn (sources : Sources) (request : Request) (date : Date) : List NodeIncome :=
  if request.pooledColumns then
    sources.income.nodes.filter fun node => decide (node.date = date)
  else
    []

def totalsOn (sources : Sources) (request : Request) (date : Date) : Ledger.DayTotals where
  consensus := total ((sources.figuresOn request date).map (·.consensus))
  execution := total ((sources.figuresOn request date).map (·.execution))
  withdrawals := total ((sources.figuresOn request date).map (·.withdrawals))
  smoothingPool := total ((sources.nodesOn request date).map (·.smoothingPool))
  rpl := total ((sources.nodesOn request date).map (·.rpl))

def separateDrafts (sources : Sources) (request : Request) (date : Date) : List Draft :=
  ((sources.figuresOn request date).filter (·.isShown request)).map (·.draft request date) ++
    (sources.nodesOn request date).map NodeIncome.draft

def groupedDrafts (sources : Sources) (request : Request) (date : Date) : List Draft :=
  if (sources.totalsOn request date).hasIncome request then
    [(sources.totalsOn request date).draft request date]
  else
    []

def draftsOn (sources : Sources) (request : Request) (date : Date) : List Draft :=
  if request.groupByDate then sources.groupedDrafts request date
  else sources.separateDrafts request date

def drafts (sources : Sources) (request : Request) : List Draft :=
  (sources.dates request).flatMap (sources.draftsOn request)

variable {sources : Sources} {request : Request}

theorem mem_nodesOn {date : Date} {node : NodeIncome} :
    node ∈ sources.nodesOn request date ↔
      request.pooledColumns = true ∧ node ∈ sources.income.nodes ∧ node.date = date := by
  rw [nodesOn]
  cases request.pooledColumns <;> simp

theorem date_of_mem_draftsOn {date : Date} {draft : Draft}
    (member : draft ∈ sources.draftsOn request date) : draft.date = date := by
  rw [draftsOn] at member
  split at member
  · rw [groupedDrafts] at member
    split at member
    · rw [List.mem_singleton.mp member]
      rfl
    · cases member
  · rcases List.mem_append.mp member with member | member
    · rcases List.mem_map.mp member with ⟨figures, -, rfl⟩
      rfl
    · rcases List.mem_map.mp member with ⟨node, kept, rfl⟩
      exact (mem_nodesOn.mp kept).2.2

theorem pooledColumns_of_mem_draftsOn {date : Date} {draft : Draft}
    (member : draft ∈ sources.draftsOn request date) (shown : draft.rpl.isSome = true) :
    request.pooledColumns = true := by
  rw [draftsOn] at member
  split at member
  · rw [groupedDrafts] at member
    split at member
    · rw [List.mem_singleton.mp member] at shown
      cases pooled : request.pooledColumns with
      | true => rfl
      | false => simp [Ledger.DayTotals.draft, pooled] at shown
    · cases member
  · rcases List.mem_append.mp member with member | member
    · rcases List.mem_map.mp member with ⟨figures, -, rfl⟩
      cases shown
    · rcases List.mem_map.mp member with ⟨node, kept, rfl⟩
      exact (mem_nodesOn.mp kept).1

/-! ### The dates of a report -/

theorem dates_pairwise_lt (sources : Sources) (request : Request) :
    (sources.dates request).Pairwise (· < ·) :=
  Std.TreeSet.ordered_toList.imp Date.compare_eq_lt.mp

theorem mem_dates {date : Date} :
    date ∈ sources.dates request ↔
      request.covers date = true ∧
        ((∃ validator ∈ sources.selected request, date ∈ validator.income.dates) ∨
          ∃ node ∈ sources.income.nodes, node.date = date) := by
  rw [dates, Std.TreeSet.mem_toList, Std.TreeSet.mem_ofList]
  simp only [List.contains_iff_mem, List.mem_filter, List.mem_append, List.mem_flatMap,
    List.mem_map]
  exact and_comm

theorem dated_of_mem_figuresOn {date : Date} {figures : DayFigures}
    (member : figures ∈ sources.figuresOn request date)
    (something : figures.consensus ≠ 0 ∨ figures.execution ≠ 0 ∨ figures.withdrawals ≠ 0) :
    ∃ validator ∈ sources.selected request, date ∈ validator.income.dates := by
  rcases List.mem_map.mp member with ⟨validator, selected, rfl⟩
  exact ⟨validator, selected, Validator.mem_dates_of_figuresOn something⟩

/-- No date with anything to show is left out. -/
theorem mem_dates_of_mem_draftsOn {date : Date} {draft : Draft}
    (covered : request.covers date = true) (member : draft ∈ sources.draftsOn request date) :
    date ∈ sources.dates request := by
  refine mem_dates.mpr ⟨covered, ?_⟩
  rw [draftsOn] at member
  split at member
  · have something : (sources.totalsOn request date).hasIncome request = true := by
      apply Classical.byContradiction
      intro nothing
      simp [groupedDrafts, nothing] at member
    rcases Ledger.DayTotals.hasIncome_iff.mp something with
      consensus | execution | ⟨-, withdrawals⟩ | smoothingPool | rpl
    · rcases total_map_ne_zero_iff.mp consensus with ⟨figures, member, counts⟩
      exact .inl (dated_of_mem_figuresOn member (.inl counts))
    · rcases total_map_ne_zero_iff.mp execution with ⟨figures, member, counts⟩
      exact .inl (dated_of_mem_figuresOn member (.inr (.inl counts)))
    · rcases total_map_ne_zero_iff.mp withdrawals with ⟨figures, member, counts⟩
      exact .inl (dated_of_mem_figuresOn member (.inr (.inr counts)))
    · rcases total_map_ne_zero_iff.mp smoothingPool with ⟨node, member, -⟩
      exact .inr ⟨node, (mem_nodesOn.mp member).2⟩
    · rcases total_map_ne_zero_iff.mp rpl with ⟨node, member, -⟩
      exact .inr ⟨node, (mem_nodesOn.mp member).2⟩
  · rcases List.mem_append.mp member with member | member
    · rcases List.mem_map.mp member with ⟨figures, kept, rfl⟩
      rw [List.mem_filter, DayFigures.isShown_iff] at kept
      refine .inl (dated_of_mem_figuresOn kept.1 ?_)
      exact kept.2.imp_right fun shown => shown.imp_right And.right
    · rcases List.mem_map.mp member with ⟨node, kept, rfl⟩
      exact .inr ⟨node, (mem_nodesOn.mp kept).2⟩

theorem mem_drafts {draft : Draft} :
    draft ∈ sources.drafts request ↔
      request.covers draft.date = true ∧ draft ∈ sources.draftsOn request draft.date := by
  rw [drafts, List.mem_flatMap]
  constructor
  · intro dated
    rcases dated with ⟨date, dated, member⟩
    rcases date_of_mem_draftsOn member with rfl
    exact ⟨(mem_dates.mp dated).1, member⟩
  · intro shown
    rcases shown with ⟨covered, member⟩
    exact ⟨draft.date, mem_dates_of_mem_draftsOn covered member, member⟩

theorem drafts_pairwise_le (sources : Sources) (request : Request) :
    (sources.drafts request).Pairwise fun left right => left.date ≤ right.date := by
  rw [drafts, List.pairwise_flatMap]
  constructor
  · intro date _
    apply List.pairwise_of_forall_mem_list
    intro left leftMember right rightMember
    rw [date_of_mem_draftsOn leftMember, date_of_mem_draftsOn rightMember]
    exact Int.le_refl _
  · apply (dates_pairwise_lt sources request).imp
    intro earlier later ascending left leftMember right rightMember
    rw [date_of_mem_draftsOn leftMember, date_of_mem_draftsOn rightMember]
    exact Int.le_of_lt ascending

/-- The dates that a report has rows for. -/
def rowDates (sources : Sources) (request : Request) : List Date :=
  (sources.dates request).filter fun date => !(sources.draftsOn request date).isEmpty

theorem rowDates_pairwise_lt (sources : Sources) (request : Request) :
    (sources.rowDates request).Pairwise (· < ·) :=
  (dates_pairwise_lt sources request).filter _

theorem mem_rowDates {date : Date} :
    date ∈ sources.rowDates request ↔
      request.covers date = true ∧ ∃ draft, draft ∈ sources.draftsOn request date := by
  rw [rowDates, List.mem_filter, Bool.not_eq_true', List.isEmpty_eq_false_iff_exists_mem]
  constructor
  · intro kept
    exact ⟨(mem_dates.mp kept.1).1, kept.2⟩
  · intro shown
    rcases shown with ⟨covered, draft, member⟩
    exact ⟨mem_dates_of_mem_draftsOn covered member, draft, member⟩

theorem drafts_eq_flatMap_rowDates (sources : Sources) (request : Request) :
    sources.drafts request = (sources.rowDates request).flatMap (sources.draftsOn request) := by
  rw [drafts, rowDates, flatMap_filter_nonempty]

/-! ### A small pool -/

/-- Two days of a plain validator and a pooled one, and two nodes, the second without income. -/
def smallPool : Sources :=
  let first : Date := ⟨2024, 1, 1, by decide⟩
  let second : Date := ⟨2024, 1, 2, by decide⟩
  let schedule : OperatorSchedule := {
    bonds := [⟨first, 8 * weiPerEth⟩]
    fees := [⟨first, 14 * weiPerEth / 100⟩] }
  { income := {
      validators := [
        .plain { ValidatorIncome.new 7 with
          consensus := some [⟨first, 3⟩]
          execution := [⟨first, 1⟩, ⟨first, 1⟩] },
        .pooled { ValidatorIncome.new 8 with
          consensus := some [⟨second, 1000⟩]
          withdrawals := [⟨second, 1000⟩] } schedule]
      nodes := [⟨first, "0xa", 5, 6⟩, ⟨second, "0xb", 0, 0⟩] }
    ethPrices := { currency := "USD", entries := [⟨first, 2000⟩, ⟨second, 2100⟩] }
    rplPrices := some { currency := "USD", entries := [⟨first, 20⟩, ⟨second, 21⟩] } }

def poolRequest : Request :=
  { Request.plain with pooledColumns := true }

example :
    (smallPool.drafts poolRequest).map (·.consensus) = [some 3, none, some 355, none] := by
  decide +kernel

end Sources

end StakingIncome
