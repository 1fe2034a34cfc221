import StakingIncome.Proofs.Comparison
import StakingIncome.Proofs.SameTotals
import StakingIncome.Proofs.UnitConversion

/-!
Reports in either denomination. Consensus income and withdrawals counted in wei have other rows than
the same income counted in gwei, but each cell shows the same, so that the texts are one and the
same. This holds of income that is not split, since each part of a split reward is rounded down to
the unit that it is counted in.
-/

namespace StakingIncome

/-! ### Amounts -/

def weiOfGwei (amount : Nat) : Nat :=
  amount * weiPerGwei

theorem weiOfGwei_eq_zero_iff {amount : Nat} : weiOfGwei amount = 0 ↔ amount = 0 := by
  rw [weiOfGwei, weiPerGwei]
  omega

theorem total_map_weiOfGwei (amounts : List Nat) :
    total (amounts.map weiOfGwei) = weiOfGwei (total amounts) := by
  induction amounts with
  | nil => rfl
  | cons amount rest induction =>
      rw [List.map_cons, total, total, induction, weiOfGwei, weiOfGwei, weiOfGwei, Nat.add_mul]

namespace UnitLadder

/-- An amount of gwei is as many intermediate units of either ladder. -/
theorem display_weiOfGwei (amount : Nat) :
    wei.display (weiOfGwei amount) = gwei.display amount := by
  have weiStep : wei.basePerIntermediate.toNat = weiPerGwei := rfl
  have gweiStep : gwei.basePerIntermediate.toNat = 1 := rfl
  have units : weiOfGwei amount / wei.basePerIntermediate.toNat =
      amount / gwei.basePerIntermediate.toNat := by
    rw [weiStep, gweiStep, weiOfGwei, Nat.mul_div_cancel _ (by decide), Nat.div_one]
  have alike : wei.ShownAlike gwei (weiOfGwei amount) amount := shownAlike_of_div_eq rfl units
  exact alike.display_eq

end UnitLadder

/-! ### Income in wei

The same income with consensus layer amounts in wei that were in gwei. All other amounts are in wei
already. -/

def IncomeEntry.inWei (entry : IncomeEntry) : IncomeEntry :=
  { entry with amount := weiOfGwei entry.amount }

def ValidatorIncome.inWei (income : ValidatorIncome) : ValidatorIncome :=
  { income with
    consensus := income.consensus.map fun entries => entries.map IncomeEntry.inWei
    withdrawals := income.withdrawals.map IncomeEntry.inWei }

def Validator.inWei : Validator → Validator
  | .plain income => .plain income.inWei
  | .pooled income schedule => .pooled income.inWei schedule

def Sources.inWei (sources : Sources) : Sources :=
  { sources with
    income := { sources.income with validators := sources.income.validators.map Validator.inWei } }

def DayFigures.inWei (figures : DayFigures) : DayFigures :=
  { figures with
    consensus := weiOfGwei figures.consensus
    withdrawals := weiOfGwei figures.withdrawals }

def Ledger.DayTotals.inWei (totals : DayTotals) : DayTotals :=
  { totals with
    consensus := weiOfGwei totals.consensus
    withdrawals := weiOfGwei totals.withdrawals }

def Draft.inWei (draft : Draft) : Draft :=
  { draft with
    consensus := draft.consensus.map weiOfGwei
    withdrawals := draft.withdrawals.map weiOfGwei }

def Row.inWei (row : Row) : Row :=
  { row with
    consensus := row.consensus.map weiOfGwei
    withdrawals := row.withdrawals.map weiOfGwei }

/-! ### Cells -/

theorem Column.amountCell_wei (amount : Option Nat) :
    amountCell .wei (amount.map weiOfGwei) = amountCell .gwei amount := by
  cases amount with
  | none => rfl
  | some amount => exact congrArg Decimal.writtenFloat (UnitLadder.display_weiOfGwei amount)

/-- Each cell goes by the ladder of its own unit. -/
theorem Column.cell_inWei (column : Column) (row : Row) :
    column.cell .wei row.inWei = column.cell .gwei row := by
  cases column with
  | consensusIncome => exact amountCell_wei row.consensus
  | withdrawals => exact amountCell_wei row.withdrawals
  | _ => rfl

theorem Report.toDelimited_inWei (report : Report) (counted : report.ladder = .gwei)
    (delimiter : String) :
    { report with ladder := .wei, rows := report.rows.map Row.inWei }.toDelimited delimiter =
      report.toDelimited delimiter := by
  have cells : { report with ladder := .wei, rows := report.rows.map Row.inWei }.cells ∘ Row.inWei =
      report.cells := by
    funext row
    apply List.map_congr_left
    intro column _
    rw [Column.cell_inWei, counted]
  have table : { report with ladder := .wei, rows := report.rows.map Row.inWei }.table =
      report.table := by
    rw [Report.table, Report.table, List.map_map, cells]
    rfl
  rw [toDelimited, toDelimited, table]

/-! ### Figures and drafts -/

theorem earnedOn_inWei (entries : List IncomeEntry) (date : Date) :
    earnedOn (entries.map IncomeEntry.inWei) date = weiOfGwei (earnedOn entries date) := by
  rw [earnedOn, earnedOn, entriesOn, entriesOn, ← total_map_weiOfGwei, List.filter_map,
    List.map_map, List.map_map]
  rfl

namespace Validator

variable {request : Request} {validator : Validator}

@[simp] theorem income_inWei (validator : Validator) :
    validator.inWei.income = validator.income.inWei := by
  cases validator <;> rfl

@[simp] theorem schedule?_inWei (validator : Validator) :
    validator.inWei.schedule? = validator.schedule? := by
  cases validator <;> rfl

@[simp] theorem index_inWei (validator : Validator) : validator.inWei.index = validator.index := by
  cases validator <;> rfl

theorem consensusSource_inWei (validator : Validator) :
    validator.inWei.consensusSource request =
      (validator.consensusSource request).map IncomeEntry.inWei := by
  rw [consensusSource, consensusSource, income_inWei]
  cases request.withdrawalsAsConsensus with
  | true => rfl
  | false => cases given : validator.income.consensus <;> simp [ValidatorIncome.inWei, given]

theorem figuresOn_inWei (unsplit : request.splitting? validator = none) (date : Date) :
    validator.inWei.figuresOn request date = (validator.figuresOn request date).inWei := by
  have otherUnsplit : request.splitting? validator.inWei = none := by
    rw [request.splitting?_congr (schedule?_inWei validator), unsplit]
  rw [figuresOn_of_unsplit unsplit, figuresOn_of_unsplit otherUnsplit, consensusSource_inWei,
    earnedOn_inWei, income_inWei, index_inWei]
  simp only [ValidatorIncome.inWei, earnedOn_inWei, DayFigures.inWei]

end Validator

namespace DayFigures

theorem isShown_inWei (request : Request) (figures : DayFigures) :
    figures.inWei.isShown request = figures.isShown request := by
  rw [Bool.eq_iff_iff, isShown_iff, isShown_iff]
  simp only [inWei, ne_eq, weiOfGwei_eq_zero_iff]

theorem draft_inWei (request : Request) (date : Date) (figures : DayFigures) :
    figures.inWei.draft request date = (figures.draft request date).inWei := by
  rw [draft, draft, Draft.inWei]
  cases request.withdrawalsColumn <;> rfl

end DayFigures

namespace Ledger.DayTotals

theorem hasIncome_inWei (request : Request) (totals : DayTotals) :
    totals.inWei.hasIncome request = totals.hasIncome request := by
  rw [Bool.eq_iff_iff, hasIncome_iff, hasIncome_iff]
  simp only [inWei, ne_eq, weiOfGwei_eq_zero_iff]

theorem draft_inWei (request : Request) (date : Date) (totals : DayTotals) :
    totals.inWei.draft request date = (totals.draft request date).inWei := by
  rw [draft, draft, Draft.inWei]
  cases request.withdrawalsColumn <;> rfl

end Ledger.DayTotals

/-- Prices are looked up by date and have no part in the amounts. -/
theorem Ledger.price_inWei (ledger : Ledger) (draft : Draft) :
    ledger.price draft.inWei = Row.inWei <$> ledger.price draft := by
  have date_eq : draft.inWei.date = draft.date := rfl
  have rpl_eq : draft.inWei.rpl = draft.rpl := rfl
  rw [price, price, date_eq, rpl_eq]
  cases ledger.ethPrices.priceOn draft.date with
  | error fault => rfl
  | ok ethPrice =>
      cases draft.rpl with
      | none => rfl
      | some amount =>
          cases ledger.rplPrices with
          | none => rfl
          | some rplPrices =>
              change (do
                  let rplPrice ← rplPrices.priceOn draft.date
                  pure (draft.inWei.row ethPrice (some rplPrice))) =
                Row.inWei <$> (do
                  let rplPrice ← rplPrices.priceOn draft.date
                  pure (draft.row ethPrice (some rplPrice)))
              cases rplPrices.priceOn draft.date <;> rfl

namespace Sources

variable {sources : Sources} {request : Request}

theorem selected_inWei (sources : Sources) (request : Request) :
    sources.inWei.selected request = (sources.selected request).map Validator.inWei := by
  rw [selected, selected, inWei, List.filter_map]
  simp only [Function.comp_def, Validator.index_inWei]

theorem figuresOn_inWei
    (unsplit : ∀ validator ∈ sources.selected request, request.splitting? validator = none)
    (date : Date) :
    sources.inWei.figuresOn request date =
      (sources.figuresOn request date).map DayFigures.inWei := by
  rw [figuresOn, figuresOn, selected_inWei, List.map_map, List.map_map]
  apply List.map_congr_left
  intro validator member
  exact Validator.figuresOn_inWei (unsplit validator member) date

theorem totalsOn_inWei
    (unsplit : ∀ validator ∈ sources.selected request, request.splitting? validator = none)
    (date : Date) :
    sources.inWei.totalsOn request date = (sources.totalsOn request date).inWei := by
  rw [totalsOn, totalsOn, figuresOn_inWei unsplit]
  simp only [Ledger.DayTotals.inWei, ← total_map_weiOfGwei, List.map_map]
  rfl

theorem draftsOn_inWei
    (unsplit : ∀ validator ∈ sources.selected request, request.splitting? validator = none)
    (date : Date) :
    sources.inWei.draftsOn request date = (sources.draftsOn request date).map Draft.inWei := by
  rw [draftsOn, draftsOn]
  split
  · rw [groupedDrafts, groupedDrafts, totalsOn_inWei unsplit, Ledger.DayTotals.hasIncome_inWei,
      Ledger.DayTotals.draft_inWei]
    split
    · rw [List.map_singleton]
    · rw [List.map_nil]
  · rw [separateDrafts, separateDrafts, figuresOn_inWei unsplit, List.filter_map, List.map_append,
      List.map_map, List.map_map, List.map_map]
    simp only [Function.comp_def, DayFigures.isShown_inWei, DayFigures.draft_inWei]
    rfl

theorem openingFault?_inWei
    (unsplit : ∀ validator ∈ sources.selected request, request.splitting? validator = none) :
    sources.openingFault? request = sources.inWei.openingFault? request := by
  have checked : List.Forall₂ (CheckedAlike request) (sources.selected request)
      (sources.inWei.selected request) := by
    rw [selected_inWei, List.forall₂_map_right_iff, List.forall₂_same]
    intro validator member
    apply Validator.checkedAlike_of_unsplit (validator.schedule?_inWei).symm
      (unsplit validator member) (validator.index_inWei).symm
    rw [Validator.income_inWei, ValidatorIncome.inWei, Option.isSome_map]
  exact openingFault?_eq_of_checkedAlike checked rfl fun _ => rfl

/-- No check looks at the denomination. -/
theorem openingFault?_of_denomination (sources : Sources) (request : Request)
    (denomination : Denomination) :
    sources.openingFault? { request with denomination } = sources.openingFault? request := by
  apply openingFault?_congr
  intro check
  cases check <;> rfl

theorem reportRows_inWei
    (unsplit : ∀ validator ∈ sources.selected request, request.splitting? validator = none) :
    sources.inWei.reportRows { request with denomination := .wei } =
      List.map Row.inWei <$> sources.reportRows { request with denomination := .gwei } := by
  have prices : SamePrices sources sources.inWei { request with denomination := .gwei }
      { request with denomination := .wei } := ⟨rfl, rfl⟩
  refine reportRows_eq_map prices ?_ ?_ Ledger.price_inWei
  · calc
      sources.openingFault? { request with denomination := .gwei }
      _ = sources.openingFault? request := sources.openingFault?_of_denomination request .gwei
      _ = sources.inWei.openingFault? request := openingFault?_inWei unsplit
      _ = sources.inWei.openingFault? { request with denomination := .wei } :=
        (sources.inWei.openingFault?_of_denomination request .wei).symm
  · apply drafts_eq_map
    intro date
    change sources.inWei.coveredDrafts request date =
      (sources.coveredDrafts request date).map Draft.inWei
    rw [coveredDrafts, coveredDrafts, draftsOn_inWei unsplit]
    split <;> rfl

/-- Income that is not split has the same text in either denomination, or the same fault. -/
theorem reportText_inWei (sources : Sources) (request : Request)
    (whole : request.pooledColumns = false ∨
      ∀ validator ∈ sources.selected request, ∃ income, validator = .plain income) :
    sources.reportText { request with denomination := .gwei } =
      sources.inWei.reportText { request with denomination := .wei } := by
  have unsplit : ∀ validator ∈ sources.selected request,
      request.splitting? validator = none := by
    intro validator member
    rw [Request.splitting?]
    rcases whole with plain | plain
    · rw [plain]
      rfl
    · rcases plain validator member with ⟨income, rfl⟩
      split <;> rfl
  rw [reportText_eq_map, reportText_eq_map, report_eq_map, report_eq_map, reportRows_inWei unsplit]
  cases sources.reportRows { request with denomination := .gwei } with
  | error fault => rfl
  | ok rows =>
      have text := (sources.reportOf { request with denomination := .gwei } rows).toDelimited_inWei
        rfl request.delimiter
      exact congrArg Except.ok text.symm

/-- Nothing is split without the columns of the pool, and not with them either for the plain
validator alone. -/
theorem smallPool_reportText_inWei :
    let single : Request := { poolRequest with validator := some 7 }
    (∃ text, smallPool.reportText { Request.plain with denomination := .gwei } = .ok text) ∧
      Request.plain.pooledColumns = false ∧
      smallPool.reportText { Request.plain with denomination := .gwei } =
        smallPool.inWei.reportText { Request.plain with denomination := .wei } ∧
      (∀ validator ∈ smallPool.selected single, ∃ income, validator = .plain income) ∧
      smallPool.reportText { single with denomination := .gwei } =
        smallPool.inWei.reportText { single with denomination := .wei } := by
  have made : ∃ text,
      smallPool.reportText { Request.plain with denomination := .gwei } = .ok text :=
    ⟨_, rfl⟩
  have alone : ∀ validator ∈ smallPool.selected { poolRequest with validator := some 7 },
      ∃ income, validator = .plain income := by
    intro validator member
    change validator ∈ [_] at member
    exact ⟨_, List.mem_singleton.mp member⟩
  exact ⟨made, rfl, reportText_inWei smallPool .plain (.inl rfl), alone,
    reportText_inWei smallPool _ (.inr alone)⟩

end Sources

end StakingIncome
