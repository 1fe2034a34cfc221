import Mathlib.Data.List.Forall2
import StakingIncome.Proofs.Opening

/-!
Sources that a request cannot tell apart. A report follows from what the checks object to, from the
drafts of each date and from the prices that are found for them, so two sources that agree in these
have the same report, however different they are in all else.
-/

namespace StakingIncome

/-! ### The same prices -/

namespace PriceSeries

/-- The same prices, in any order. -/
structure Reordered (left right : PriceSeries) : Prop where
  currency_eq : left.currency = right.currency
  entries_perm : left.entries.Perm right.entries

variable {left right : PriceSeries}

theorem Reordered.refl (series : PriceSeries) : series.Reordered series where
  currency_eq := rfl
  entries_perm := .refl _

theorem Reordered.mem_dates_iff (reordered : left.Reordered right) {date : Date} :
    date ∈ left.dates ↔ date ∈ right.dates :=
  (reordered.entries_perm.map _).mem_iff

theorem Reordered.priceOn_eq (reordered : left.Reordered right) {leftIndex rightIndex : PriceIndex}
    (leftIndexed : left.index = .ok leftIndex) (rightIndexed : right.index = .ok rightIndex) :
    leftIndex.priceOn = rightIndex.priceOn := by
  funext date
  cases found : leftIndex.priceOn date with
  | ok price =>
      rw [priceOn_index_eq_ok_iff leftIndexed, reordered.entries_perm.mem_iff,
        ← priceOn_index_eq_ok_iff rightIndexed] at found
      exact found.symm
  | error fault =>
      rw [priceOn_index_eq_error_iff leftIndexed, reordered.mem_dates_iff, reordered.currency_eq,
        ← priceOn_index_eq_error_iff rightIndexed] at found
      exact found.symm

end PriceSeries

/-- Ledgers that find the same prices price all drafts alike. -/
theorem Ledger.price_eq_of_priceOn {left right : Ledger}
    (ethPrices : left.ethPrices.priceOn = right.ethPrices.priceOn)
    (rplPrices : left.rplPrices.map PriceIndex.priceOn = right.rplPrices.map PriceIndex.priceOn) :
    left.price = right.price := by
  funext draft
  rw [price, price, ethPrices]
  cases leftGiven : left.rplPrices with
  | none =>
      cases rightGiven : right.rplPrices with
      | none => rfl
      | some rightIndex => simp [leftGiven, rightGiven] at rplPrices
  | some leftIndex =>
      cases rightGiven : right.rplPrices with
      | none => simp [leftGiven, rightGiven] at rplPrices
      | some rightIndex =>
          have same : leftIndex.priceOn = rightIndex.priceOn := by
            simpa [leftGiven, rightGiven] using rplPrices
          cases draft.rpl <;> simp only [same]

/-- Dates in ascending order are known from which of them there are. -/
theorem Date.eq_of_ascending {left right : List Date} (ascending : left.Pairwise (· < ·))
    (otherAscending : right.Pairwise (· < ·)) (members : ∀ date, date ∈ left ↔ date ∈ right) :
    left = right := by
  have irreflexive {earlier later : Date} (lower : earlier < later) : earlier ≠ later := by
    rintro rfl
    exact Int.lt_irrefl _ lower
  have permuted : left.Perm right :=
    (List.perm_ext_iff_of_nodup (ascending.imp irreflexive) (otherAscending.imp irreflexive)).mpr
      members
  apply permuted.eq_of_pairwise _ ascending otherAscending
  intro first second _ _ lower upper
  exact absurd (Int.lt_trans lower upper) (Int.lt_irrefl _)

namespace Sources

variable {request : Request} {left right : Sources}

/-! ### The same drafts -/

theorem groupedDrafts_congr {date : Date}
    (totals : left.totalsOn request date = right.totalsOn request date) :
    left.groupedDrafts request date = right.groupedDrafts request date := by
  rw [groupedDrafts, groupedDrafts, totals]

theorem draftsOn_congr {date : Date}
    (figures : left.figuresOn request date = right.figuresOn request date)
    (nodes : left.nodesOn request date = right.nodesOn request date) :
    left.draftsOn request date = right.draftsOn request date := by
  have totals : left.totalsOn request date = right.totalsOn request date := by
    rw [totalsOn, totalsOn, figures, nodes]
  rw [draftsOn, draftsOn, groupedDrafts_congr totals, separateDrafts, separateDrafts, figures,
    nodes]

/-- The drafts of a date, none for a date that the request does not cover. -/
def coveredDrafts (sources : Sources) (request : Request) (date : Date) : List Draft :=
  if request.covers date then sources.draftsOn request date else []

section Covered

variable {sources left right : Sources} {request other : Request}

theorem date_of_mem_coveredDrafts {date : Date} {draft : Draft}
    (member : draft ∈ sources.coveredDrafts request date) : draft.date = date := by
  rw [coveredDrafts] at member
  split at member
  · exact date_of_mem_draftsOn member
  · cases member

theorem filter_date_coveredDrafts (keep : Date → Bool) (date : Date) :
    ((sources.coveredDrafts request date).filter fun draft => keep draft.date) =
      if keep date then sources.coveredDrafts request date else [] := by
  have kept : ((sources.coveredDrafts request date).filter fun draft => keep draft.date) =
      (sources.coveredDrafts request date).filter fun _ => keep date := by
    apply List.filter_congr
    intro draft member
    rw [date_of_mem_coveredDrafts member]
  rw [kept]
  cases keep date <;> simp

theorem mem_rowDates_iff_covered {date : Date} :
    date ∈ sources.rowDates request ↔ (sources.coveredDrafts request date).isEmpty = false := by
  rw [mem_rowDates, ← List.isEmpty_eq_false_iff_exists_mem, coveredDrafts]
  cases request.covers date <;> simp

/-- All dates that have rows are enough to list the drafts of a report, and others do no harm. -/
theorem drafts_eq_flatMap_of_ascending {dates : List Date} (ascending : dates.Pairwise (· < ·))
    (complete : ∀ date ∈ sources.rowDates request, date ∈ dates) :
    sources.drafts request = dates.flatMap (sources.coveredDrafts request) := by
  have rowDates_eq : sources.rowDates request =
      dates.filter fun date => !(sources.coveredDrafts request date).isEmpty := by
    apply Date.eq_of_ascending (rowDates_pairwise_lt sources request) (ascending.filter _)
    intro date
    rw [List.mem_filter, Bool.not_eq_true', ← mem_rowDates_iff_covered]
    exact ⟨fun member => ⟨complete date member, member⟩, And.right⟩
  have covered : ∀ date ∈ sources.rowDates request,
      sources.draftsOn request date = sources.coveredDrafts request date := by
    intro date member
    rw [coveredDrafts, if_pos (mem_rowDates.mp member).1]
  rw [drafts_eq_flatMap_rowDates, List.flatMap_congr covered, rowDates_eq,
    flatMap_filter_nonempty]

/-- Where the drafts of each date are changed in one way, so are those of a report. The dates of
any other entries have no part in it, and they may differ. -/
theorem drafts_eq_of_covered {change : List Draft → List Draft} (nothing : change [] = [])
    (changed : ∀ date,
      right.coveredDrafts other date = change (left.coveredDrafts request date)) :
    right.drafts other =
      (left.rowDates request).flatMap fun date => change (left.coveredDrafts request date) := by
  rw [drafts_eq_flatMap_of_ascending (rowDates_pairwise_lt left request)]
  · exact List.flatMap_congr fun date _ => changed date
  · intro date member
    rw [mem_rowDates_iff_covered, ← Bool.not_eq_true, List.isEmpty_iff] at member ⊢
    intro empty
    rw [changed, empty, nothing] at member
    exact member rfl

theorem drafts_eq_flatMap_covered (sources : Sources) (request : Request) :
    sources.drafts request =
      (sources.rowDates request).flatMap (sources.coveredDrafts request) :=
  drafts_eq_flatMap_of_ascending (rowDates_pairwise_lt sources request) fun _ member => member

theorem drafts_eq_filter {keep : Draft → Bool}
    (kept : ∀ date,
      right.coveredDrafts other date = (left.coveredDrafts request date).filter keep) :
    right.drafts other = (left.drafts request).filter keep := by
  rw [drafts_eq_of_covered List.filter_nil kept, drafts_eq_flatMap_covered left,
    List.filter_flatMap]

theorem drafts_eq_map {image : Draft → Draft}
    (mapped : ∀ date,
      right.coveredDrafts other date = (left.coveredDrafts request date).map image) :
    right.drafts other = (left.drafts request).map image := by
  rw [drafts_eq_of_covered List.map_nil mapped, drafts_eq_flatMap_covered left, List.map_flatMap]

end Covered

theorem drafts_congr
    (alike : ∀ date, left.draftsOn request date = right.draftsOn request date) :
    left.drafts request = right.drafts request := by
  have same (date : Date) :
      left.coveredDrafts request date = (right.coveredDrafts request date).map id := by
    rw [List.map_id, coveredDrafts, coveredDrafts, alike]
  rw [drafts_eq_map same, List.map_id]

/-- Agreement in all that the rows of a report follow from once the ledger is open. -/
structure LookAlike (request : Request) (left right : Sources) : Prop where
  drafts : ∀ date, left.draftsOn request date = right.draftsOn request date
  ethPrices : left.ethPrices.Reordered right.ethPrices
  rplPrices : request.pooledColumns = true →
    Option.Rel PriceSeries.Reordered left.rplPrices right.rplPrices

namespace LookAlike

theorem of_prices (drafts : ∀ date, left.draftsOn request date = right.draftsOn request date)
    (ethPrices : left.ethPrices = right.ethPrices)
    (rplPrices : request.pooledColumns = true → left.rplPrices = right.rplPrices) :
    LookAlike request left right where
  drafts := drafts
  ethPrices := ethPrices ▸ .refl _
  rplPrices := by
    intro pooled
    rw [rplPrices pooled]
    cases right.rplPrices with
    | none => exact .none
    | some series => exact .some (.refl series)

theorem rows_eq (alike : LookAlike request left right) {leftLedger rightLedger : Ledger}
    (leftOpened : leftLedger.Opened left request) (rightOpened : rightLedger.Opened right request) :
    leftLedger.rows = rightLedger.rows := by
  have rplPrices : leftLedger.rplPrices.map PriceIndex.priceOn =
      rightLedger.rplPrices.map PriceIndex.priceOn := by
    cases pooled : request.pooledColumns with
    | false =>
        rw [leftOpened.rplPrices_of_plain pooled, rightOpened.rplPrices_of_plain pooled]
    | true =>
        rcases leftOpened.rplPrices_of_pooled pooled with ⟨series, index, given, indexed, kept⟩
        rcases rightOpened.rplPrices_of_pooled pooled with
          ⟨otherSeries, otherIndex, otherGiven, otherIndexed, otherKept⟩
        have related := alike.rplPrices pooled
        rw [given, otherGiven] at related
        cases related with
        | some reordered =>
            rw [kept, otherKept, Option.map_some, Option.map_some,
              reordered.priceOn_eq indexed otherIndexed]
  have price := Ledger.price_eq_of_priceOn
    (alike.ethPrices.priceOn_eq leftOpened.ethIndex rightOpened.ethIndex) rplPrices
  rw [leftOpened.rows_eq, rightOpened.rows_eq, drafts_congr alike.drafts, price]

end LookAlike

/-! ### The rows of a request -/

/-- The rows of a report, or the fault that keeps it from being made. -/
def reportRows (sources : Sources) (request : Request) : Except Fault (List Row) := do
  (← sources.ledger request).rows

theorem report_eq_map (sources : Sources) (request : Request) :
    sources.report request = sources.reportOf request <$> sources.reportRows request := by
  rw [report, reportRows, map_eq_pure_bind]
  cases sources.ledger request <;> rfl

theorem reportText_eq_map (sources : Sources) (request : Request) :
    sources.reportText request =
      (·.toDelimited request.delimiter) <$> sources.report request := by
  rw [reportText]
  cases sources.report request <;> rfl

theorem reportRows_of_opened {sources : Sources} {ledger : Ledger}
    (opened : ledger.Opened sources request) : sources.reportRows request = ledger.rows := by
  rw [reportRows, ledger_eq_ok_iff.mpr opened]
  rfl

theorem reportRows_of_openingFault? {sources : Sources} {fault : Fault}
    (found : sources.openingFault? request = some fault) :
    sources.reportRows request = .error fault := by
  rw [reportRows, ledger_eq_error_iff.mpr found]
  rfl

theorem LookAlike.reportRows_eq (alike : LookAlike request left right)
    (opening : left.openingFault? request = right.openingFault? request) :
    left.reportRows request = right.reportRows request := by
  cases found : left.openingFault? request with
  | some fault =>
      rw [reportRows_of_openingFault? found, reportRows_of_openingFault? (opening ▸ found)]
  | none =>
      rcases exists_opened_iff.mpr found with ⟨leftLedger, leftOpened⟩
      rcases exists_opened_iff.mpr (opening ▸ found) with ⟨rightLedger, rightOpened⟩
      rw [reportRows_of_opened leftOpened, reportRows_of_opened rightOpened,
        alike.rows_eq leftOpened rightOpened]

end Sources

/-! ### Validator by validator -/

/-- Agreement of two validators in all that a request makes use of. -/
structure Validator.LookAlike (request : Request) (left right : Validator) : Prop where
  index_eq : left.index = right.index
  missing_eq : request.pooledColumns = true → left.missingSchedule? = right.missingSchedule?
  fault_eq : Pass.fault? (left.figures request) = Pass.fault? (right.figures request)
  figuresOn_eq : ∀ date, left.figuresOn request date = right.figuresOn request date

theorem Validator.LookAlike.refl {request : Request} (validator : Validator) :
    validator.LookAlike request validator where
  index_eq := rfl
  missing_eq := fun _ => rfl
  fault_eq := rfl
  figuresOn_eq := fun _ => rfl

theorem Request.splitting?_congr (request : Request) {left right : Validator}
    (schedules : left.schedule? = right.schedule?) :
    request.splitting? left = request.splitting? right := by
  rw [splitting?, splitting?, schedules]

theorem Validator.missingSchedule?_congr {left right : Validator}
    (schedules : left.schedule? = right.schedule?) (index_eq : left.index = right.index) :
    left.missingSchedule? = right.missingSchedule? := by
  rw [missingSchedule?, missingSchedule?, schedules, index_eq]

theorem map_eq_map_iff_forall₂ {α β γ : Type} {view : α → γ} {otherView : β → γ}
    {values : List α} {others : List β} :
    values.map view = others.map otherView ↔
      List.Forall₂ (fun value other => view value = otherView other) values others := by
  rw [← List.forall₂_eq_eq_eq, List.forall₂_map_left_iff, List.forall₂_map_right_iff]

theorem findSome?_eq_of_forall₂ {α β γ : Type} {find : α → Option γ} {otherFind : β → Option γ}
    {values : List α} {others : List β}
    (alike : List.Forall₂ (fun value other => find value = otherFind other) values others) :
    values.findSome? find = others.findSome? otherFind := by
  induction alike with
  | nil => rfl
  | cons same _ induction => rw [List.findSome?_cons, List.findSome?_cons, same, induction]

theorem forall_mem_iff_of_forall₂ {α β : Type} {related : α → β → Prop} {holds : α → Prop}
    {otherHolds : β → Prop} {values : List α} {others : List β}
    (paired : List.Forall₂ related values others)
    (alike : ∀ value other, related value other → (holds value ↔ otherHolds other)) :
    (∀ value ∈ values, holds value) ↔ ∀ other ∈ others, otherHolds other := by
  induction paired with
  | nil => simp
  | cons related _ induction =>
      rw [List.forall_mem_cons, List.forall_mem_cons, alike _ _ related, induction]

theorem Request.forall₂_filter_selects (request : Request) {related : Validator → Validator → Prop}
    (index_eq : ∀ left right, related left right → left.index = right.index)
    {validators others : List Validator} (paired : List.Forall₂ related validators others) :
    List.Forall₂ related (validators.filter fun validator => request.selects validator.index)
      (others.filter fun validator => request.selects validator.index) := by
  refine List.rel_filter ?_ paired
  intro left right alike
  simp only [index_eq left right alike]

namespace Sources

/-! ### What the checks find -/

/-- Agreement of two validators in what the checks find out about them. -/
structure CheckedAlike (request : Request) (left right : Validator) : Prop where
  missing_eq : request.pooledColumns = true → left.missingSchedule? = right.missingSchedule?
  fault_eq : Pass.fault? (left.figures request) = Pass.fault? (right.figures request)

variable {request : Request} {left right : Sources}

theorem complaint?_schedules_congr
    (missing : request.pooledColumns = true →
      List.Forall₂ (fun validator other => validator.missingSchedule? = other.missingSchedule?)
        (left.selected request) (right.selected request)) :
    left.complaint? request .schedules = right.complaint? request .schedules := by
  rw [complaint?, complaint?, checkSchedules, checkSchedules]
  cases pooled : request.pooledColumns with
  | false => rfl
  | true => rw [findSome?_eq_of_forall₂ (missing pooled)]

theorem openingFault?_eq_of_checkedAlike
    (selected : List.Forall₂ (CheckedAlike request) (left.selected request)
      (right.selected request))
    (ethPrices : left.ethPrices = right.ethPrices)
    (rplPrices : request.pooledColumns = true → left.rplPrices = right.rplPrices) :
    left.openingFault? request = right.openingFault? request := by
  apply openingFault?_congr
  intro check
  cases check with
  | delimiter => rfl
  | span => rfl
  | rplPrices =>
      cases pooled : request.pooledColumns with
      | false => simp [complaint?, Request.pricesConflict?, pooled]
      | true => rw [complaint?, complaint?, rplPrices pooled]
  | schedules =>
      exact complaint?_schedules_congr fun pooled =>
        selected.imp fun _ _ alike => alike.missing_eq pooled
  | figures =>
      rw [complaint?, complaint?, Pass.fault?_mapM, Pass.fault?_mapM]
      exact findSome?_eq_of_forall₂ (selected.imp fun _ _ alike => alike.fault_eq)
  | ethDates => rw [complaint?, complaint?, ethPrices]
  | rplDates =>
      cases pooled : request.pooledColumns with
      | false =>
          have unread (sources : Sources) : sources.rplIndex request = .ok none := by
            rw [rplIndex]
            cases sources.rplPrices <;> simp [pooled]
          rw [complaint?, complaint?, unread, unread]
      | true => rw [complaint?, complaint?, rplIndex, rplIndex, rplPrices pooled]

/-- Agreement of two sources in all that a request makes use of, validator by validator. -/
structure SameIncome (request : Request) (left right : Sources) : Prop where
  validators :
    List.Forall₂ (Validator.LookAlike request) left.income.validators right.income.validators
  nodes : request.pooledColumns = true → left.income.nodes = right.income.nodes
  ethPrices : left.ethPrices = right.ethPrices
  rplPrices : request.pooledColumns = true → left.rplPrices = right.rplPrices

namespace SameIncome

theorem selected (same : SameIncome request left right) :
    List.Forall₂ (Validator.LookAlike request) (left.selected request) (right.selected request) :=
  request.forall₂_filter_selects (fun _ _ alike => alike.index_eq) same.validators

theorem openingFault?_eq (same : SameIncome request left right) :
    left.openingFault? request = right.openingFault? request :=
  openingFault?_eq_of_checkedAlike
    (same.selected.imp fun _ _ alike => ⟨alike.missing_eq, alike.fault_eq⟩)
    same.ethPrices same.rplPrices

theorem lookAlike (same : SameIncome request left right) : LookAlike request left right := by
  refine .of_prices ?_ same.ethPrices same.rplPrices
  intro date
  apply draftsOn_congr
  · apply map_eq_map_iff_forall₂.mpr
    exact same.selected.imp fun _ _ alike => alike.figuresOn_eq date
  · rw [nodesOn, nodesOn]
    cases pooled : request.pooledColumns with
    | false => rfl
    | true => rw [same.nodes pooled]

/-- The rows are the same, and so is the fault if there are none. -/
theorem reportRows_eq (same : SameIncome request left right) :
    left.reportRows request = right.reportRows request :=
  same.lookAlike.reportRows_eq same.openingFault?_eq

end SameIncome

end Sources

end StakingIncome
