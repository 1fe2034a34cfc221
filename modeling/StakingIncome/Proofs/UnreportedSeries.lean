import StakingIncome.Proofs.SameTotals

/-!
Series that are not reported. Where withdrawals stand for consensus income the consensus series has
no part in a report, and where they do not and have no column either, withdrawals have none. The
dates of such a series are looked at all the same, but a date with nothing else on it has no row.
-/

namespace StakingIncome

namespace Validator

/-- The same validator but for its consensus series, which either may lack. -/
structure SameButConsensus (left right : Validator) : Prop where
  schedule?_eq : left.schedule? = right.schedule?
  index_eq : left.income.index = right.income.index
  execution_eq : left.income.execution = right.income.execution
  withdrawals_eq : left.income.withdrawals = right.income.withdrawals

/-- The same validator but for its withdrawals. -/
structure SameButWithdrawals (left right : Validator) : Prop where
  schedule?_eq : left.schedule? = right.schedule?
  index_eq : left.income.index = right.income.index
  consensus_eq : left.income.consensus = right.income.consensus
  execution_eq : left.income.execution = right.income.execution

end Validator

/-! ### Figures of hidden withdrawals -/

def DayFigures.withoutWithdrawals (figures : DayFigures) : DayFigures :=
  { figures with withdrawals := 0 }

def Ledger.DayTotals.withoutWithdrawals (totals : DayTotals) : DayTotals :=
  { totals with withdrawals := 0 }

namespace Validator

variable {request : Request} {left right : Validator}

theorem SameButConsensus.lookAlike (same : SameButConsensus left right)
    (withdrawn : request.withdrawalsAsConsensus = true) : LookAlike request left right := by
  have splitting := request.splitting?_congr same.schedule?_eq
  constructor
  · exact same.index_eq
  · exact fun _ => missingSchedule?_congr same.schedule?_eq same.index_eq
  · have consensus : request.consensusEntries left.income =
        request.consensusEntries right.income := by
      rw [Request.consensusEntries, Request.consensusEntries, if_pos withdrawn, if_pos withdrawn,
        same.withdrawals_eq]
    rw [figures, figures, splitting, consensus, same.index_eq, same.execution_eq,
      same.withdrawals_eq]
  · intro date
    rw [figuresOn, figuresOn, consensusSource, consensusSource, if_pos withdrawn, if_pos withdrawn,
      splitting, same.execution_eq, same.withdrawals_eq, index, index, same.index_eq]

namespace SameButWithdrawals

theorem figuresOn_eq (same : SameButWithdrawals left right)
    (separate : request.withdrawalsAsConsensus = false) (date : Date) :
    (left.figuresOn request date).withoutWithdrawals =
      (right.figuresOn request date).withoutWithdrawals := by
  have splitting := request.splitting?_congr same.schedule?_eq
  have consensus : left.consensusSource request = right.consensusSource request := by
    rw [consensusSource, consensusSource, if_neg (by simp [separate]), if_neg (by simp [separate]),
      same.consensus_eq]
  rw [figuresOn, figuresOn, DayFigures.withoutWithdrawals, DayFigures.withoutWithdrawals,
    splitting, consensus, same.execution_eq, index, index, same.index_eq]

/-- Withdrawals that are not split cannot be refused, so the checks do not find them. -/
theorem checkedAlike (same : SameButWithdrawals left right)
    (kept : request.splitting? left ≠ none → left.income.withdrawals = right.income.withdrawals) :
    Sources.CheckedAlike request left right := by
  by_cases unsplit : request.splitting? left = none
  · exact checkedAlike_of_unsplit same.schedule?_eq unsplit same.index_eq
      (congrArg Option.isSome same.consensus_eq)
  · have income : left.income = right.income := by
      have withdrawals := kept unsplit
      rcases same with ⟨-, index_eq, consensus_eq, execution_eq⟩
      cases leftIncome : left.income
      cases rightIncome : right.income
      simp_all
    rw [eq_of_income_of_schedule? income same.schedule?_eq]
    exact ⟨fun _ => rfl, rfl⟩

end SameButWithdrawals

end Validator

/-! ### Drafts without withdrawals -/

namespace DayFigures

variable {request : Request}

theorem isShown_of_hidden (hidden : request.withdrawalsColumn = false) (figures : DayFigures) :
    figures.isShown request = figures.withoutWithdrawals.isShown request := by
  simp [isShown, withoutWithdrawals, hidden]

theorem draft_of_hidden (hidden : request.withdrawalsColumn = false) (date : Date)
    (figures : DayFigures) :
    figures.draft request date = figures.withoutWithdrawals.draft request date := by
  simp [draft, withoutWithdrawals, hidden]

end DayFigures

namespace Sources

variable {request : Request} {left right : Sources}

theorem separateDrafts_of_hidden (hidden : request.withdrawalsColumn = false) (sources : Sources)
    (date : Date) :
    sources.separateDrafts request date =
      (((sources.figuresOn request date).map (·.withoutWithdrawals)).filter
          (·.isShown request)).map (·.draft request date) ++
        (sources.nodesOn request date).map NodeIncome.draft := by
  have shown : (fun figures : DayFigures => figures.isShown request) =
      (·.isShown request) ∘ (·.withoutWithdrawals) :=
    funext (DayFigures.isShown_of_hidden hidden)
  have drafted : (fun figures : DayFigures => figures.draft request date) =
      (·.draft request date) ∘ (·.withoutWithdrawals) :=
    funext (DayFigures.draft_of_hidden hidden date)
  rw [separateDrafts, List.filter_map, List.map_map, ← shown, ← drafted]

theorem groupedDrafts_of_hidden (hidden : request.withdrawalsColumn = false) (sources : Sources)
    (date : Date) :
    sources.groupedDrafts request date =
      if (sources.totalsOn request date).withoutWithdrawals.hasIncome request then
        [(sources.totalsOn request date).withoutWithdrawals.draft request date]
      else
        [] := by
  simp [groupedDrafts, Ledger.DayTotals.hasIncome, Ledger.DayTotals.draft,
    Ledger.DayTotals.withoutWithdrawals, ValidatorFigures.shownWithdrawals, hidden]

theorem draftsOn_congr_of_hidden (hidden : request.withdrawalsColumn = false) {date : Date}
    (figures : (left.figuresOn request date).map (·.withoutWithdrawals) =
      (right.figuresOn request date).map (·.withoutWithdrawals))
    (nodes : left.nodesOn request date = right.nodesOn request date) :
    left.draftsOn request date = right.draftsOn request date := by
  have amounts (amount : DayFigures → Nat) :
      (left.figuresOn request date).map (amount ∘ (·.withoutWithdrawals)) =
        (right.figuresOn request date).map (amount ∘ (·.withoutWithdrawals)) := by
    rw [← List.map_map, figures, List.map_map]
  have totals : (left.totalsOn request date).withoutWithdrawals =
      (right.totalsOn request date).withoutWithdrawals := by
    have consensus : total ((left.figuresOn request date).map (·.consensus)) =
        total ((right.figuresOn request date).map (·.consensus)) :=
      congrArg total (amounts (·.consensus))
    have execution : total ((left.figuresOn request date).map (·.execution)) =
        total ((right.figuresOn request date).map (·.execution)) :=
      congrArg total (amounts (·.execution))
    simp only [totalsOn, Ledger.DayTotals.withoutWithdrawals, consensus, execution, nodes]
  rw [draftsOn, draftsOn, groupedDrafts_of_hidden hidden, groupedDrafts_of_hidden hidden,
    separateDrafts_of_hidden hidden, separateDrafts_of_hidden hidden, figures, nodes, totals]

/-! ### Reports without a series -/

/-- The same sources with other validators. -/
def withValidators (sources : Sources) (validators : List Validator) : Sources :=
  { sources with income := { sources.income with validators } }

variable {sources : Sources} {others : List Validator}

/-- Withdrawals that are neither shown nor taken for consensus income leave the drafts as they
are. -/
theorem lookAlike_of_sameButWithdrawals (separate : request.withdrawalsAsConsensus = false)
    (hidden : request.withdrawalsColumn = false)
    (same : List.Forall₂ Validator.SameButWithdrawals sources.income.validators others) :
    LookAlike request sources (sources.withValidators others) := by
  refine .of_prices ?_ rfl fun _ => rfl
  intro date
  have selected := request.forall₂_filter_selects (fun _ _ related => related.index_eq) same
  apply draftsOn_congr_of_hidden hidden
  · rw [figuresOn, figuresOn, List.map_map, List.map_map]
    apply map_eq_map_iff_forall₂.mpr
    exact selected.imp fun _ _ related => related.figuresOn_eq separate date
  · rfl

/-- No check finds withdrawals that are not split. -/
theorem openingFault?_of_sameButWithdrawals
    (same : List.Forall₂ Validator.SameButWithdrawals sources.income.validators others)
    (kept : List.Forall₂ (fun validator other => request.splitting? validator ≠ none →
      validator.income.withdrawals = other.income.withdrawals) sources.income.validators others) :
    sources.openingFault? request = (sources.withValidators others).openingFault? request := by
  have checked : List.Forall₂ (fun validator other =>
      validator.SameButWithdrawals other ∧ CheckedAlike request validator other)
      sources.income.validators others :=
    same.mp (fun _ _ related kept => ⟨related, related.checkedAlike kept⟩) kept
  have selected := request.forall₂_filter_selects (fun _ _ related => related.1.index_eq) checked
  exact openingFault?_eq_of_checkedAlike (selected.imp fun _ _ related => related.2) rfl
    fun _ => rfl

/-- A series that is not reported has no part in a report. Withdrawals that are split can still be
refused, although they are not reported, and then there is no report. -/
theorem report_without_unreported (sources : Sources) (request : Request)
    (others : List Validator) :
    (request.withdrawalsAsConsensus = true →
      List.Forall₂ Validator.SameButConsensus sources.income.validators others →
      sources.report request = (sources.withValidators others).report request) ∧
    (request.withdrawalsAsConsensus = false → request.withdrawalsColumn = false →
      List.Forall₂ Validator.SameButWithdrawals sources.income.validators others →
      (∀ report other, sources.report request = .ok report →
        (sources.withValidators others).report request = .ok other → report = other) ∧
      (List.Forall₂
          (fun validator other => request.splitting? validator ≠ none →
            validator.income.withdrawals = other.income.withdrawals)
          sources.income.validators others →
        sources.report request = (sources.withValidators others).report request)) := by
  constructor
  · intro withdrawn same
    have sameIncome : SameIncome request sources (sources.withValidators others) :=
      ⟨same.imp fun _ _ related => related.lookAlike withdrawn, fun _ => rfl, rfl, fun _ => rfl⟩
    rw [report_eq_map, report_eq_map, sameIncome.reportRows_eq]
    rfl
  · intro separate hidden same
    have alike := lookAlike_of_sameButWithdrawals separate hidden same
    constructor
    · intro report other made otherMade
      rcases report_eq_ok_iff.mp made with ⟨ledger, rows, opened, priced, rfl⟩
      rcases report_eq_ok_iff.mp otherMade with
        ⟨otherLedger, otherRows, otherOpened, otherPriced, rfl⟩
      rw [alike.rows_eq opened otherOpened, otherPriced] at priced
      cases priced
      rfl
    · intro kept
      have opening := openingFault?_of_sameButWithdrawals same kept
      rw [report_eq_map, report_eq_map, alike.reportRows_eq opening]
      rfl

/-- A plain validator alone, with two of its series. -/
def soloPool (consensus : Option (List IncomeEntry)) (withdrawals : List IncomeEntry) : Sources :=
  { smallPool with
    income := {
      validators := [.plain { ValidatorIncome.new 7 with consensus, withdrawals }]
      nodes := [] } }

/-- A consensus series against none at all, and withdrawals against none, on a day that would lack
a price if it had a row. -/
theorem soloPool_report_without_unreported :
    let priced : Date := ⟨2024, 1, 2, by decide⟩
    let unpriced : Date := ⟨2024, 1, 5, by decide⟩
    let withdrawn : Request := { poolRequest with withdrawalsAsConsensus := true }
    let noSeries : Sources := soloPool none [⟨priced, 5⟩]
    let otherSeries : Sources := soloPool (some [⟨unpriced, 9⟩]) [⟨priced, 5⟩]
    let noWithdrawals : Sources := soloPool (some [⟨priced, 5⟩]) []
    let otherWithdrawals : Sources := soloPool (some [⟨priced, 5⟩]) [⟨unpriced, 9⟩]
    (withdrawn.withdrawalsAsConsensus = true ∧
      List.Forall₂ Validator.SameButConsensus noSeries.income.validators
        otherSeries.income.validators ∧
      noSeries.report withdrawn = otherSeries.report withdrawn) ∧
    (poolRequest.withdrawalsAsConsensus = false ∧ poolRequest.withdrawalsColumn = false ∧
      List.Forall₂ Validator.SameButWithdrawals noWithdrawals.income.validators
        otherWithdrawals.income.validators ∧
      (∃ report other, noWithdrawals.report poolRequest = .ok report ∧
        otherWithdrawals.report poolRequest = .ok other ∧ report = other) ∧
      noWithdrawals.report poolRequest = otherWithdrawals.report poolRequest) := by
  have made : ∃ report,
      (soloPool (some [⟨⟨2024, 1, 2, by decide⟩, 5⟩]) []).report poolRequest = .ok report :=
    ⟨_, rfl⟩
  have otherMade : ∃ report,
      (soloPool (some [⟨⟨2024, 1, 2, by decide⟩, 5⟩]) [⟨⟨2024, 1, 5, by decide⟩, 9⟩]).report
        poolRequest = .ok report :=
    ⟨_, rfl⟩
  rcases made with ⟨report, made⟩
  rcases otherMade with ⟨other, otherMade⟩
  intro priced unpriced withdrawn noSeries otherSeries noWithdrawals otherWithdrawals
  have sameConsensus : List.Forall₂ Validator.SameButConsensus noSeries.income.validators
      otherSeries.income.validators := .cons ⟨rfl, rfl, rfl, rfl⟩ .nil
  have sameWithdrawals : List.Forall₂ Validator.SameButWithdrawals noWithdrawals.income.validators
      otherWithdrawals.income.validators := .cons ⟨rfl, rfl, rfl, rfl⟩ .nil
  have hidden := (report_without_unreported noWithdrawals poolRequest
    otherWithdrawals.income.validators).2 rfl rfl sameWithdrawals
  refine ⟨⟨rfl, sameConsensus, ?_⟩, rfl, rfl, sameWithdrawals, ?_, ?_⟩
  · exact (report_without_unreported noSeries withdrawn otherSeries.income.validators).1 rfl
      sameConsensus
  · exact ⟨report, other, made, otherMade, hidden.1 report other made otherMade⟩
  · exact hidden.2 (.cons (fun split => absurd rfl split) .nil)

end Sources

end StakingIncome
