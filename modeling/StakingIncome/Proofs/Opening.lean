import StakingIncome.Proofs.Pricing

/-!
What opening a ledger can fail with. Its checks have a fixed order, and each of them looks at the
sources and the request alone, so the first one with an objection decides the fault.
-/

namespace StakingIncome

/-- The checks that a ledger is opened with. -/
inductive Check where
  | delimiter
  | span
  | rplPrices
  | schedules
  | figures
  | ethDates
  | rplDates
  deriving DecidableEq

namespace Check

/-- The checks in the order in which they are made. -/
def order : List Check :=
  [delimiter, span, rplPrices, schedules, figures, ethDates, rplDates]

end Check

namespace Sources

/-- What a check would fail with if it were made alone. -/
def complaint? (sources : Sources) (request : Request) : Check → Option Fault
  | .delimiter => request.delimiterConflict?.map .conflict
  | .span => request.spanConflict?.map .conflict
  | .rplPrices => (request.pricesConflict? sources.rplPrices).map .conflict
  | .schedules => Pass.fault? (checkSchedules request (sources.selected request))
  | .figures => Pass.fault? ((sources.selected request).mapM (Validator.figures request))
  | .ethDates => Pass.fault? sources.ethPrices.index
  | .rplDates => Pass.fault? (sources.rplIndex request)

def openingFault? (sources : Sources) (request : Request) : Option Fault :=
  Check.order.findSome? (sources.complaint? request)

variable {sources : Sources} {request : Request} {fault : Fault}

theorem fault?_check :
    Pass.fault? (request.check sources.rplPrices) =
      ((sources.complaint? request .delimiter).or
        ((sources.complaint? request .span).or (sources.complaint? request .rplPrices))) := by
  rw [Request.check, Request.conflict?, complaint?, complaint?, complaint?, ← Option.map_or,
    ← Option.map_or]
  cases request.delimiterConflict?.or
    (request.spanConflict?.or (request.pricesConflict? sources.rplPrices)) <;> rfl

theorem fault?_ledger (sources : Sources) (request : Request) :
    Pass.fault? (sources.ledger request) = sources.openingFault? request := by
  have checks : sources.openingFault? request =
      (Pass.fault? (request.check sources.rplPrices)).or
        ((sources.complaint? request .schedules).or
          ((sources.complaint? request .figures).or
            ((sources.complaint? request .ethDates).or
              (sources.complaint? request .rplDates)))) := by
    simp only [openingFault?, Check.order, Pass.findSome?_cons_eq_or, List.findSome?_nil,
      Option.or_none, fault?_check, Option.or_assoc]
  rw [checks, ledger]
  simp only [complaint?]
  cases request.check sources.rplPrices with
  | error fault => rfl
  | ok _ =>
      cases checkSchedules request (sources.selected request) with
      | error fault => rfl
      | ok _ =>
          cases (sources.selected request).mapM (Validator.figures request) with
          | error fault => rfl
          | ok validators =>
              cases sources.ethPrices.index with
              | error fault => rfl
              | ok ethPrices => cases sources.rplIndex request <;> rfl

theorem ledger_eq_error_iff :
    sources.ledger request = .error fault ↔ sources.openingFault? request = some fault := by
  rw [← fault?_ledger, Pass.fault?_eq_some_iff]

theorem exists_opened_iff :
    (∃ ledger, Ledger.Opened sources request ledger) ↔ sources.openingFault? request = none := by
  rw [← fault?_ledger, Pass.fault?_eq_none_iff]
  simp only [ledger_eq_ok_iff]

/-! ### Checks without an objection -/

/-- What is found first follows from what each check finds. -/
theorem openingFault?_congr {left right : Sources} {request other : Request}
    (alike : ∀ check, left.complaint? request check = right.complaint? other check) :
    left.openingFault? request = right.openingFault? other := by
  rw [openingFault?, openingFault?, funext alike]

theorem openingFault?_eq_none_iff :
    sources.openingFault? request = none ↔ ∀ check, sources.complaint? request check = none := by
  rw [openingFault?, List.findSome?_eq_none_iff]
  constructor
  · intro silent check
    exact silent check (by cases check <;> decide)
  · intro silent check _
    exact silent check

theorem complaint?_schedules_eq_none_iff :
    sources.complaint? request .schedules = none ↔
      (request.pooledColumns = true →
        ∀ validator ∈ sources.selected request, validator.missingSchedule? = none) := by
  rw [complaint?, checkSchedules, ← List.findSome?_eq_none_iff]
  cases request.pooledColumns <;>
    cases (sources.selected request).findSome? Validator.missingSchedule? <;> simp [Pass.fault?]

theorem complaint?_figures_eq_none_iff :
    sources.complaint? request .figures = none ↔
      ∀ validator ∈ sources.selected request,
        ∃ figures, validator.figures request = .ok figures := by
  rw [complaint?, Pass.fault?_eq_none_iff, Pass.exists_mapM_eq_ok_iff]

theorem complaint?_ethDates_eq_none_iff :
    sources.complaint? request .ethDates = none ↔ sources.ethPrices.dates.Nodup := by
  rw [complaint?, Pass.fault?_eq_none_iff, PriceSeries.exists_index_iff]

theorem complaint?_rplDates_eq_none_iff :
    sources.complaint? request .rplDates = none ↔
      (request.pooledColumns = true →
        ∀ series, sources.rplPrices = some series → series.dates.Nodup) := by
  simp only [← PriceSeries.exists_index_iff]
  rw [complaint?, Option.eq_none_iff_forall_ne_some]
  simp only [Ne, Pass.fault?_eq_some_iff, rplIndex_eq_error_iff, not_and, not_exists,
    Pass.exists_ok_iff_forall_ne_error]
  constructor
  · intro silent pooled series given fault failed
    exact silent fault pooled series given failed
  · intro silent fault pooled series given failed
    exact silent pooled series given fault failed

end Sources

namespace Request

variable {request : Request} {conflict : Conflict}

theorem delimiterSeparates_iff :
    request.delimiterSeparates = true ↔
      request.delimiter ≠ "" ∧ '\n' ∉ request.delimiter.toList ∧
        '\r' ∉ request.delimiter.toList := by
  simp only [delimiterSeparates, Bool.and_eq_true, Bool.not_eq_true', List.all_eq_true, bne_iff_ne,
    ← Bool.not_eq_true, String.isEmpty_iff]
  apply and_congr Iff.rfl
  constructor
  · intro separates
    exact ⟨fun member => (separates _ member).1 rfl, fun member => (separates _ member).2 rfl⟩
  · intro separates character member
    exact ⟨fun same => separates.1 (same ▸ member), fun same => separates.2 (same ▸ member)⟩

theorem delimiterConflict?_eq_some_iff :
    request.delimiterConflict? = some conflict ↔
      (request.delimiter = "" ∨ '\n' ∈ request.delimiter.toList ∨
        '\r' ∈ request.delimiter.toList) ∧ conflict = .delimiter request.delimiter := by
  have unfit : (request.delimiter = "" ∨ '\n' ∈ request.delimiter.toList ∨
      '\r' ∈ request.delimiter.toList) ↔ ¬request.delimiterSeparates = true := by
    simp only [delimiterSeparates_iff, Classical.not_and_iff_not_or_not, Classical.not_not, ne_eq]
  rw [unfit, delimiterConflict?]
  cases request.delimiterSeparates <;> simp [eq_comm]

theorem spanConflict?_eq_some_iff :
    request.spanConflict? = some conflict ↔
      ∃ span, request.span = some span ∧ span.finish < span.start ∧
        conflict = .reversedSpan span := by
  rw [spanConflict?]
  cases request.span <;> simp [eq_comm]

end Request

theorem Sources.checkSchedules_eq_error_iff {request : Request} {validators : List Validator}
    {fault : Fault} :
    Sources.checkSchedules request validators = .error fault ↔
      request.pooledColumns = true ∧
        validators.findSome? Validator.missingSchedule? = some fault := by
  rw [checkSchedules]
  cases request.pooledColumns <;>
    cases validators.findSome? Validator.missingSchedule? <;> simp

end StakingIncome
