import StakingIncome.Proofs.Drafts
import StakingIncome.Proofs.PriceLookup

/-!
Open ledgers, and how they price drafts. Opening a ledger makes all checks and indexes the prices;
after that its rows are the drafts of the report, priced one after another.
-/

namespace StakingIncome

namespace Ledger

/-- What holds of a ledger that has been opened for a request. -/
structure Opened (sources : Sources) (request : Request) (ledger : Ledger) : Prop where
  checked : request.check sources.rplPrices = .ok ()
  scheduled : Sources.checkSchedules request (sources.selected request) = .ok ()
  figures : (sources.selected request).mapM (Validator.figures request) = .ok ledger.validators
  ethIndex : sources.ethPrices.index = .ok ledger.ethPrices
  rplIndex : sources.rplIndex request = .ok ledger.rplPrices
  request_eq : ledger.request = request
  nodes_eq : ledger.nodes = sources.income.nodes
  dates_eq : ledger.dates = sources.dates request

/-- The row of a draft. An RPL price is looked up for rows with RPL income only. -/
def price (ledger : Ledger) (draft : Draft) : Except Fault Row := do
  let ethPrice ← ledger.ethPrices.priceOn draft.date
  match draft.rpl, ledger.rplPrices with
  | some _, some rplPrices =>
    let rplPrice ← rplPrices.priceOn draft.date
    return draft.row ethPrice (some rplPrice)
  | _, _ => return draft.row ethPrice none

end Ledger

namespace Request

variable {request : Request} {rplPrices : Option PriceSeries}

theorem check_eq_ok_iff :
    request.check rplPrices = .ok () ↔ request.conflict? rplPrices = none := by
  rw [check]
  cases request.conflict? rplPrices <;> simp

theorem pricesConflict?_eq_some_iff {conflict : Conflict} :
    request.pricesConflict? rplPrices = some conflict ↔
      request.pooledColumns = true ∧ rplPrices = none ∧ conflict = .noRplPrices := by
  rw [pricesConflict?]
  cases request.pooledColumns <;> cases rplPrices <;> simp [eq_comm]

theorem rplPrices_of_check (checked : request.check rplPrices = .ok ())
    (pooled : request.pooledColumns = true) : ∃ series, rplPrices = some series := by
  rw [check_eq_ok_iff, conflict?, Option.or_eq_none_iff, Option.or_eq_none_iff] at checked
  cases given : rplPrices with
  | some series => exact ⟨series, rfl⟩
  | none =>
      have refused := pricesConflict?_eq_some_iff.mpr ⟨pooled, given, rfl⟩
      rw [checked.2.2] at refused
      cases refused

end Request

namespace Sources

variable {sources : Sources} {request : Request} {ledger : Ledger}

theorem ledger_eq_ok_iff :
    sources.ledger request = .ok ledger ↔ Ledger.Opened sources request ledger := by
  constructor
  · intro opened
    rcases Pass.bind_eq_ok_iff.mp opened with ⟨⟨⟩, checked, opened⟩
    rcases Pass.bind_eq_ok_iff.mp opened with ⟨⟨⟩, scheduled, opened⟩
    rcases Pass.bind_eq_ok_iff.mp opened with ⟨validators, figures, opened⟩
    rcases Pass.bind_eq_ok_iff.mp opened with ⟨ethPrices, ethIndex, opened⟩
    rcases Pass.bind_eq_ok_iff.mp opened with ⟨rplPrices, rplIndex, opened⟩
    cases opened
    exact ⟨checked, scheduled, figures, ethIndex, rplIndex, rfl, rfl, rfl⟩
  · intro opened
    rcases opened with
      ⟨checked, scheduled, figures, ethIndex, rplIndex, request_eq, nodes_eq, dates_eq⟩
    cases ledger
    dsimp only at *
    subst request_eq nodes_eq dates_eq
    simp only [Sources.ledger, checked, scheduled, figures, ethIndex, rplIndex]
    rfl

theorem rplIndex_eq_ok_iff {rplPrices : Option PriceIndex} :
    sources.rplIndex request = .ok rplPrices ↔
      (∃ series index, request.pooledColumns = true ∧ sources.rplPrices = some series ∧
        series.index = .ok index ∧ rplPrices = some index) ∨
      ((request.pooledColumns = false ∨ sources.rplPrices = none) ∧ rplPrices = none) := by
  rw [rplIndex]
  cases sources.rplPrices with
  | none => cases rplPrices <;> simp
  | some series =>
      cases request.pooledColumns with
      | false => cases rplPrices <;> simp
      | true => simp [Pass.map_eq_ok_iff, @eq_comm _ rplPrices]

theorem rplIndex_eq_error_iff {fault : Fault} :
    sources.rplIndex request = .error fault ↔
      request.pooledColumns = true ∧
        ∃ series, sources.rplPrices = some series ∧ series.index = .error fault := by
  rw [rplIndex]
  cases sources.rplPrices with
  | none => simp
  | some series =>
      cases request.pooledColumns with
      | false => simp
      | true => simp [Pass.map_eq_error_iff]

end Sources

theorem ValidatorFigures.hasIncome_eq (request : Request) (date : Date)
    (figures : ValidatorFigures) :
    figures.hasIncome request date = (figures.on date).isShown request := by
  cases shown : request.withdrawalsColumn <;>
    simp [hasIncome, shownWithdrawals, shown, on, DayFigures.isShown]

namespace Ledger

variable {sources : Sources} {request : Request} {ledger : Ledger}

namespace Opened

theorem rplPrices_of_pooled (opened : Opened sources request ledger)
    (pooled : request.pooledColumns = true) :
    ∃ series index, sources.rplPrices = some series ∧ series.index = .ok index ∧
      ledger.rplPrices = some index := by
  rcases Request.rplPrices_of_check opened.checked pooled with ⟨series, given⟩
  rcases Sources.rplIndex_eq_ok_iff.mp opened.rplIndex with
    ⟨other, index, -, found, indexed, kept⟩ | ⟨plain | missing, -⟩
  · exact ⟨other, index, found, indexed, kept⟩
  · rw [pooled] at plain
    cases plain
  · rw [given] at missing
    cases missing

theorem rplPrices_of_plain (opened : Opened sources request ledger)
    (plain : request.pooledColumns = false) : ledger.rplPrices = none := by
  rcases Sources.rplIndex_eq_ok_iff.mp opened.rplIndex with ⟨_, _, pooled, -⟩ | ⟨-, missing⟩
  · rw [plain] at pooled
    cases pooled
  · exact missing

theorem isSome_rplPrices (opened : Opened sources request ledger) :
    ledger.rplPrices.isSome = request.pooledColumns := by
  cases pooled : request.pooledColumns with
  | false => simp [opened.rplPrices_of_plain pooled]
  | true =>
      rcases opened.rplPrices_of_pooled pooled with ⟨series, index, -, -, kept⟩
      simp [kept]

/-! ### The amounts of an open ledger -/

theorem map_on_validators (opened : Opened sources request ledger) (date : Date) :
    ledger.validators.map (·.on date) = sources.figuresOn request date :=
  Pass.map_of_mapM_eq_ok _ _
    (fun _ _ _ resolved => Validator.on_of_figures resolved date) opened.figures

theorem shownNodes_eq (opened : Opened sources request ledger) (date : Date) :
    (if ledger.rplPrices.isSome then ledger.nodesOn date else []) =
      sources.nodesOn request date := by
  rw [opened.isSome_rplPrices, Sources.nodesOn, nodesOn, opened.nodes_eq]

theorem dayTotals_eq (opened : Opened sources request ledger) (date : Date) :
    ledger.dayTotals date = sources.totalsOn request date := by
  have figures (amount : DayFigures → Nat) :
      total (ledger.validators.map fun figures => amount (figures.on date)) =
        total ((sources.figuresOn request date).map amount) := by
    rw [← opened.map_on_validators date, List.map_map]
    rfl
  have nodes (amount : NodeIncome → Nat) :
      (if ledger.rplPrices.isSome then total ((ledger.nodesOn date).map amount) else 0) =
        total ((sources.nodesOn request date).map amount) := by
    rw [← opened.shownNodes_eq date]
    split <;> rfl
  simp only [dayTotals, Sources.totalsOn, ← figures, ← nodes]
  rfl

/-! ### Rows as priced drafts -/

theorem validatorRow_eq (opened : Opened sources request ledger) (date : Date)
    (figures : ValidatorFigures) :
    ledger.validatorRow date figures = ledger.price ((figures.on date).draft request date) := by
  rw [validatorRow, opened.request_eq]
  rfl

theorem nodeRows_eq (opened : Opened sources request ledger) (date : Date) :
    ledger.nodeRows date =
      ((sources.nodesOn request date).map NodeIncome.draft).mapM ledger.price := by
  rw [nodeRows, ← opened.shownNodes_eq date]
  cases given : ledger.rplPrices with
  | none => rfl
  | some rplPrices =>
      rw [Option.isSome_some, if_pos rfl, List.mapM_map]
      apply Pass.mapM_congr
      intro node member
      have dated : node.date = date := by simpa using (List.mem_filter.mp member).2
      subst dated
      simp only [nodeRow, Function.comp_apply, price, NodeIncome.draft, given]
      rfl

theorem separateRows_eq (opened : Opened sources request ledger) (date : Date) :
    ledger.separateRows date = (sources.separateDrafts request date).mapM ledger.price := by
  have earning : ((sources.figuresOn request date).filter (·.isShown request)).map
        (·.draft request date) =
      (ledger.validators.filter (ValidatorFigures.hasIncome request date)).map
        fun figures => (figures.on date).draft request date := by
    have kept : ValidatorFigures.hasIncome request date =
        (fun figures : DayFigures => figures.isShown request) ∘ (·.on date) :=
      funext (ValidatorFigures.hasIncome_eq request date)
    rw [← opened.map_on_validators date, List.filter_map, List.map_map, kept]
    rfl
  have priced : ledger.validatorRow date =
      ledger.price ∘ fun figures => (figures.on date).draft request date :=
    funext (opened.validatorRow_eq date)
  rw [Sources.separateDrafts, List.mapM_append, ← opened.nodeRows_eq date, earning, List.mapM_map,
    separateRows, opened.request_eq, priced]

theorem totalsRow_eq (opened : Opened sources request ledger) (date : Date) (totals : DayTotals) :
    ledger.totalsRow date totals = ledger.price (totals.draft request date) := by
  rw [totalsRow, price, opened.request_eq]
  cases pooled : request.pooledColumns with
  | false => simp only [DayTotals.draft, pooled, opened.rplPrices_of_plain pooled]; rfl
  | true =>
      rcases opened.rplPrices_of_pooled pooled with ⟨series, index, -, -, kept⟩
      simp only [DayTotals.draft, pooled, kept]
      rfl

theorem groupedRows_eq (opened : Opened sources request ledger) (date : Date) :
    ledger.groupedRows date = (sources.groupedDrafts request date).mapM ledger.price := by
  rw [groupedRows, opened.dayTotals_eq, opened.request_eq, Sources.groupedDrafts]
  split
  · rw [opened.totalsRow_eq, List.mapM_cons, List.mapM_nil]
    cases ledger.price ((sources.totalsOn request date).draft request date) <;> rfl
  · rfl

theorem rowsOn_eq (opened : Opened sources request ledger) (date : Date) :
    ledger.rowsOn date = (sources.draftsOn request date).mapM ledger.price := by
  rw [rowsOn, Sources.draftsOn, opened.request_eq, opened.groupedRows_eq, opened.separateRows_eq]
  split <;> rfl

/-- The rows of a report are its drafts, priced one after another. -/
theorem rows_eq (opened : Opened sources request ledger) :
    ledger.rows = (sources.drafts request).mapM ledger.price := by
  have priced : ledger.rowsOn = fun date => (sources.draftsOn request date).mapM ledger.price :=
    funext opened.rowsOn_eq
  rw [rows, opened.dates_eq, Sources.drafts, ← Pass.flatten_mapM_mapM, priced]

end Opened

end Ledger

/-! ### The report of an open ledger -/

namespace Sources

/-- The price of RPL for a date, zero where there is none. -/
def rplPriceOf (sources : Sources) (date : Date) : Float :=
  (sources.rplPrices.map fun series => series.priceOf date).getD 0

/-- A draft with the prices of its date. -/
def priced (sources : Sources) (draft : Draft) : Row :=
  draft.row (sources.ethPrices.priceOf draft.date)
    (draft.rpl.map fun _ => sources.rplPriceOf draft.date)

variable {sources : Sources} {request : Request} {ledger : Ledger}

theorem priced_of_price (opened : Ledger.Opened sources request ledger) {draft : Draft} {row : Row}
    (pooled : draft.rpl.isSome = true → request.pooledColumns = true)
    (found : ledger.price draft = .ok row) : row = sources.priced draft := by
  rcases Pass.bind_eq_ok_iff.mp found with ⟨ethPrice, ethFound, found⟩
  have ethSame := PriceSeries.priceOf_of_priceOn opened.ethIndex ethFound
  subst ethSame
  cases shown : draft.rpl with
  | none =>
      simp only [shown] at found
      cases found
      simp [priced, shown]
  | some amount =>
      rcases opened.rplPrices_of_pooled (pooled (by simp [shown])) with
        ⟨series, index, given, indexed, kept⟩
      simp only [shown, kept] at found
      rcases Pass.bind_eq_ok_iff.mp found with ⟨rplPrice, rplFound, found⟩
      have rplSame := PriceSeries.priceOf_of_priceOn indexed rplFound
      subst rplSame
      cases found
      simp [priced, rplPriceOf, shown, given]

def reportOf (sources : Sources) (request : Request) (rows : List Row) : Report where
  columns := Column.active request
  ethCurrency := sources.ethPrices.currency
  rplCurrency := (sources.rplPrices.map (·.currency)).getD ""
  ladder := request.denomination.ladder
  rows := rows

theorem report_eq_of_opened (opened : Ledger.Opened sources request ledger) :
    sources.report request = sources.reportOf request <$> ledger.rows := by
  rw [report, ledger_eq_ok_iff.mpr opened, map_eq_pure_bind]
  rfl

theorem report_eq_ok_iff {report : Report} :
    sources.report request = .ok report ↔
      ∃ ledger rows, Ledger.Opened sources request ledger ∧ ledger.rows = .ok rows ∧
        sources.reportOf request rows = report := by
  constructor
  · intro made
    rcases Pass.bind_eq_ok_iff.mp made with ⟨ledger, opens, -⟩
    have opened := ledger_eq_ok_iff.mp opens
    rw [report_eq_of_opened opened, Pass.map_eq_ok_iff] at made
    rcases made with ⟨rows, priced, same⟩
    exact ⟨ledger, rows, opened, priced, same⟩
  · intro made
    rcases made with ⟨ledger, rows, opened, priced, same⟩
    rw [report_eq_of_opened opened]
    exact Pass.map_eq_ok_iff.mpr ⟨rows, priced, same⟩

/-- A report that is made has exactly the drafts of its request, with their prices. -/
theorem rows_of_report {report : Report} (made : sources.report request = .ok report) :
    report.rows = (sources.drafts request).map sources.priced := by
  rcases report_eq_ok_iff.mp made with ⟨ledger, rows, opened, priced, rfl⟩
  rw [opened.rows_eq] at priced
  have agree := Pass.map_of_mapM_eq_ok id sources.priced
    (fun draft member row found =>
      priced_of_price opened (pooledColumns_of_mem_draftsOn (mem_drafts.mp member).2) found)
    priced
  simpa [reportOf] using agree

theorem report_eq_error_iff {fault : Fault} :
    sources.report request = .error fault ↔
      sources.ledger request = .error fault ∨
        ∃ ledger, Ledger.Opened sources request ledger ∧ ledger.rows = .error fault := by
  simp only [report, Pass.bind_eq_error_iff, ledger_eq_ok_iff]
  simp [pure, Except.pure]

end Sources

end StakingIncome
