import StakingIncome.Proofs.Comparison
import StakingIncome.Proofs.Objections

/-!
Reports of a span against reports of the income inside it. A report leaves out the dates outside its
span, as if there had been no income on them. All entries are split before dates are looked at,
however, so an entry outside the span can keep a report from being made when it cannot be split.
-/

namespace StakingIncome

/-! ### Income inside a span -/

namespace DateSpan

def entriesWithin (span : DateSpan) (entries : List IncomeEntry) : List IncomeEntry :=
  entries.filter fun entry => span.contains entry.date

theorem dated_of_mem_entriesWithin {span : DateSpan} {entries : List IncomeEntry}
    {entry : IncomeEntry} (member : entry ∈ span.entriesWithin entries) :
    entry ∈ entries ∧ span.contains entry.date = true :=
  List.mem_filter.mp member

theorem entriesOn_entriesWithin {span : DateSpan} {date : Date}
    (inside : span.contains date = true) (entries : List IncomeEntry) :
    entriesOn (span.entriesWithin entries) date = entriesOn entries date := by
  rw [entriesOn, entriesOn, entriesWithin, List.filter_filter]
  apply List.filter_congr
  intro entry _
  by_cases dated : entry.date = date
  · simp [dated, inside]
  · simp [dated]

end DateSpan

def ValidatorIncome.within (income : ValidatorIncome) (span : DateSpan) : ValidatorIncome where
  index := income.index
  consensus := income.consensus.map span.entriesWithin
  execution := span.entriesWithin income.execution
  withdrawals := span.entriesWithin income.withdrawals

namespace Validator

/-- The same validator without the entries outside a span. -/
def within (span : DateSpan) : Validator → Validator
  | .plain income => .plain (income.within span)
  | .pooled income schedule => .pooled (income.within span) schedule

end Validator

/-- The same sources without the entries outside a span. Prices are kept, and schedules too. -/
def Sources.within (sources : Sources) (span : DateSpan) : Sources :=
  { sources with
    income := {
      validators := sources.income.validators.map (Validator.within span)
      nodes := sources.income.nodes.filter fun node => span.contains node.date } }

/-! ### Validators inside a span -/

namespace Validator

variable {request : Request} {span : DateSpan} {date : Date}

@[simp] theorem income_within (span : DateSpan) (validator : Validator) :
    (validator.within span).income = validator.income.within span := by
  cases validator <;> rfl

@[simp] theorem schedule?_within (span : DateSpan) (validator : Validator) :
    (validator.within span).schedule? = validator.schedule? := by
  cases validator <;> rfl

@[simp] theorem index_within (span : DateSpan) (validator : Validator) :
    (validator.within span).index = validator.index := by
  cases validator <;> rfl

theorem consensusSource_within (span : DateSpan) (validator : Validator) :
    (validator.within span).consensusSource request =
      span.entriesWithin (validator.consensusSource request) := by
  rw [consensusSource, consensusSource, income_within]
  cases request.withdrawalsAsConsensus with
  | true => rfl
  | false =>
      cases given : validator.income.consensus <;>
        simp [ValidatorIncome.within, given, DateSpan.entriesWithin]

theorem countedEntries_within (span : DateSpan) (validator : Validator) :
    (validator.within span).countedEntries request =
      span.entriesWithin (validator.countedEntries request) := by
  rw [countedEntries, countedEntries, consensusSource_within, income_within]
  simp only [DateSpan.entriesWithin, List.filter_append, ValidatorIncome.within]

theorem figuresOn_within (inside : span.contains date = true) (validator : Validator) :
    (validator.within span).figuresOn request date = validator.figuresOn request date := by
  have counted (schedule? : Option OperatorSchedule) (entries : List IncomeEntry) :
      countedOn schedule? (span.entriesWithin entries) date = countedOn schedule? entries date := by
    rw [countedOn, countedOn, DateSpan.entriesOn_entriesWithin inside]
  rw [figuresOn, figuresOn, request.splitting?_congr (schedule?_within span validator),
    consensusSource_within, income_within, index_within]
  simp only [ValidatorIncome.within, counted]

theorem contains_of_mem_dates_within {validator : Validator}
    (dated : date ∈ (validator.within span).income.dates) : span.contains date = true := by
  rcases List.mem_map.mp dated with ⟨entry, member, rfl⟩
  rw [income_within, ValidatorIncome.entries, List.mem_append, List.mem_append] at member
  rcases member with (consensus | execution) | withdrawals
  · cases given : validator.income.consensus with
    | none => simp [ValidatorIncome.within, given] at consensus
    | some entries =>
        simp only [ValidatorIncome.within, given, Option.map_some, Option.getD_some] at consensus
        exact (DateSpan.dated_of_mem_entriesWithin consensus).2
  · exact (DateSpan.dated_of_mem_entriesWithin execution).2
  · exact (DateSpan.dated_of_mem_entriesWithin withdrawals).2

end Validator

/-! ### Drafts inside a span -/

namespace Sources

variable {request : Request} {span : DateSpan} {date : Date}

theorem selected_within (sources : Sources) (request : Request) (span : DateSpan) :
    (sources.within span).selected request =
      (sources.selected request).map (Validator.within span) := by
  rw [selected, selected, within, List.filter_map]
  simp only [Function.comp_def, Validator.index_within]

theorem draftsOn_within (inside : span.contains date = true) (sources : Sources) :
    (sources.within span).draftsOn request date = sources.draftsOn request date := by
  apply draftsOn_congr
  · rw [figuresOn, figuresOn, selected_within, List.map_map]
    apply List.map_congr_left
    intro validator _
    exact Validator.figuresOn_within inside validator
  · rw [nodesOn, nodesOn, within, List.filter_filter]
    congr 1
    apply List.filter_congr
    intro node _
    by_cases dated : node.date = date
    · simp [dated, inside]
    · simp [dated]

theorem contains_of_mem_draftsOn_within {sources : Sources} {draft : Draft}
    (covered : request.covers date = true)
    (member : draft ∈ (sources.within span).draftsOn request date) :
    span.contains date = true := by
  rcases (mem_dates.mp (mem_dates_of_mem_draftsOn covered member)).2 with
    ⟨validator, selected, dated⟩ | ⟨node, kept, rfl⟩
  · rw [selected_within] at selected
    rcases List.mem_map.mp selected with ⟨whole, -, rfl⟩
    exact Validator.contains_of_mem_dates_within dated
  · exact (List.mem_filter.mp kept).2

/-- The drafts of the income inside a span are those of all income for the dates inside it. -/
theorem drafts_within (sources : Sources) (request : Request) (span : DateSpan) :
    (sources.within span).drafts { request with span := none } =
      (sources.drafts { request with span := none }).filter fun draft =>
        span.contains draft.date := by
  apply drafts_eq_filter
  intro date
  rw [filter_date_coveredDrafts]
  split
  · rename_i inside
    rw [coveredDrafts, coveredDrafts, draftsOn_within inside]
  · rename_i outside
    apply List.eq_nil_iff_forall_not_mem.mpr
    intro draft member
    exact outside (contains_of_mem_draftsOn_within rfl member)

end Sources

/-! ### Faults of the income inside a span -/

/-- The faults of an entry that cannot be split. -/
inductive Fault.OfShare : Fault → Prop
  | noScheduleEntry (kind : ScheduleKind) (date : Date) : OfShare (.noScheduleEntry kind date)
  | scheduleValueTooLarge (kind : ScheduleKind) (effective : Date) (value : Nat) :
      OfShare (.scheduleValueTooLarge kind effective value)

theorem Schedule.Lacks.ofShare {schedule : Schedule} {kind : ScheduleKind} {limit : Nat}
    {date : Date} {fault : Fault} (lacking : schedule.Lacks kind limit date fault) :
    fault.OfShare := by
  cases lacking with
  | noEntry => exact .noScheduleEntry _ _
  | tooLarge => exact .scheduleValueTooLarge _ _ _

theorem OperatorSchedule.ofShare_of_share {schedule : OperatorSchedule} {entry : IncomeEntry}
    {fault : Fault} (refused : schedule.share entry = .error fault) : fault.OfShare := by
  cases refuses_iff.mpr refused with
  | bond lacking => exact lacking.ofShare
  | fee _ lacking => exact lacking.ofShare

namespace Validator

variable {request : Request} {validator : Validator} {fault : Fault}

/-- Whether the schedule of a validator has a part of each of its entries for the operator. -/
def Shareable (validator : Validator) : Prop :=
  ∀ schedule, validator.schedule? = some schedule →
    ∀ entry ∈ validator.income.entries, ∃ part, schedule.share entry = .ok part

theorem mem_entries_of_mem_countedEntries {entry : IncomeEntry}
    (member : entry ∈ validator.countedEntries request) : entry ∈ validator.income.entries := by
  rw [ValidatorIncome.entries, List.mem_append, List.mem_append]
  rw [countedEntries, List.mem_append, List.mem_append, consensusSource] at member
  rcases member with (consensus | execution) | withdrawals
  · split at consensus
    · exact .inr consensus
    · exact .inl (.inl consensus)
  · exact .inl (.inr execution)
  · exact .inr withdrawals

theorem exists_figures_within (span : DateSpan)
    (resolved : ∃ figures, validator.figures request = .ok figures) :
    ∃ figures, (validator.within span).figures request = .ok figures := by
  rcases exists_figures_iff.mp resolved with ⟨present, counted⟩
  apply exists_figures_iff.mpr
  constructor
  · rw [income_within, ValidatorIncome.within, Option.isSome_map]
    exact present
  · intro entry member
    rw [request.splitting?_congr (schedule?_within span validator)]
    rw [countedEntries_within] at member
    exact counted entry (DateSpan.dated_of_mem_entriesWithin member).1

/-- Without the entries outside a span, the figures of a validator fail as they did, unless one of
its entries cannot be split. -/
theorem fault?_figures_within (request : Request) (span : DateSpan) (validator : Validator) :
    Pass.fault? (validator.figures request) =
        Pass.fault? ((validator.within span).figures request) ∨
      (request.pooledColumns = true ∧ ¬validator.Shareable) ∧
        ∃ fault, Pass.fault? (validator.figures request) = some fault ∧ fault.OfShare := by
  cases outcome : validator.figures request with
  | ok figures =>
      have resolved := exists_figures_within span ⟨figures, outcome⟩
      exact .inl (Pass.fault?_eq_none_iff.mpr resolved).symm
  | error fault =>
      cases unresolved_iff.mpr outcome with
      | noConsensus wanted absent =>
          have again : (validator.within span).Unresolved request
              (.conflict (.noConsensusSeries (validator.within span).index)) := by
            apply Unresolved.noConsensus wanted
            rw [income_within, ValidatorIncome.within, absent, Option.map_none]
          rw [unresolved_iff.mp again, index_within]
          exact .inl rfl
      | @refused schedule before after entry _ present pooled given entries earlier refuses =>
          have refused := OperatorSchedule.refuses_iff.mp refuses
          have member : entry ∈ validator.countedEntries request := by simp [entries]
          refine .inr ⟨⟨pooled, ?_⟩, fault, rfl, OperatorSchedule.ofShare_of_share refused⟩
          intro shareable
          rcases shareable schedule given entry (mem_entries_of_mem_countedEntries member) with
            ⟨part, shared⟩
          rw [refused] at shared
          cases shared

end Validator

/-- The first that is found is the same, or else it is of the kind by which the values differ. -/
theorem findSome?_eq_or {α β : Type} {find otherFind : α → Option β} {kind : β → Prop}
    {values : List α}
    (alike : ∀ value ∈ values,
      find value = otherFind value ∨ ∃ found, find value = some found ∧ kind found) :
    values.findSome? find = values.findSome? otherFind ∨
      ∃ found, values.findSome? find = some found ∧ kind found := by
  induction values with
  | nil => exact .inl rfl
  | cons head tail induction =>
      have remaining := induction fun value member => alike value (List.mem_cons_of_mem _ member)
      rw [List.findSome?_cons, List.findSome?_cons]
      rcases alike head List.mem_cons_self with same | ⟨found, first, ofKind⟩
      · rw [← same]
        cases find head with
        | none => exact remaining
        | some found => exact .inl rfl
      · rw [first]
        exact .inr ⟨found, rfl, ofKind⟩

namespace Sources

variable {request : Request} {span : DateSpan}

theorem fault?_figures_selected_within (sources : Sources) (request : Request) (span : DateSpan) :
    (sources.within span).complaint? request .figures =
      (sources.selected request).findSome? fun validator =>
        Pass.fault? ((validator.within span).figures request) := by
  rw [complaint?, Pass.fault?_mapM, selected_within, List.findSome?_map]
  rfl

theorem complaint?_within_of_ne_figures (sources : Sources) {check : Check}
    (other : check ≠ .figures) :
    sources.complaint? request check = (sources.within span).complaint? request check := by
  cases check with
  | figures => exact absurd rfl other
  | schedules =>
      apply complaint?_schedules_congr
      intro _
      rw [selected_within, List.forall₂_map_right_iff, List.forall₂_same]
      intro validator _
      exact Validator.missingSchedule?_congr (validator.schedule?_within span).symm
        (validator.index_within span).symm
  | _ => rfl

/-- All checks find the same in the income inside a span, or else an entry cannot be split. -/
theorem openingFault?_within (sources : Sources) (request : Request) (span : DateSpan) :
    sources.openingFault? request = (sources.within span).openingFault? request ∨
      ∃ fault, sources.openingFault? request = some fault ∧ fault.OfShare := by
  apply findSome?_eq_or
  intro check _
  cases check with
  | figures =>
      rw [fault?_figures_selected_within, complaint?, Pass.fault?_mapM]
      apply findSome?_eq_or
      intro validator _
      exact (Validator.fault?_figures_within request span validator).imp_right And.right
  | _ => exact .inl (complaint?_within_of_ne_figures sources (by decide))

theorem openingFault?_within_of_shareable {sources : Sources}
    (shareable : request.pooledColumns = false ∨
      ∀ validator ∈ sources.selected request, validator.Shareable) :
    sources.openingFault? request = (sources.within span).openingFault? request := by
  apply openingFault?_congr
  intro check
  by_cases other : check = .figures
  · subst other
    rw [fault?_figures_selected_within, complaint?, Pass.fault?_mapM]
    apply findSome?_eq_of_forall₂
    apply List.forall₂_same.mpr
    intro validator member
    apply (Validator.fault?_figures_within request span validator).resolve_right
    intro refused
    rcases shareable with plain | shareable
    · rw [plain] at refused
      cases refused.1.1
    · exact refused.1.2 (shareable validator member)
  · exact complaint?_within_of_ne_figures sources other

/-! ### Reports of a span -/

theorem report_of_span_eq_within {sources : Sources} (ordered : span.start ≤ span.finish)
    (opening : sources.openingFault? { request with span := none } =
      (sources.within span).openingFault? { request with span := none }) :
    sources.report { request with span := some span } =
      (sources.within span).report { request with span := none } := by
  have prices : SamePrices sources (sources.within span) { request with span := some span }
      { request with span := none } := ⟨rfl, rfl⟩
  have drafts : sources.drafts { request with span := some span } =
      (sources.within span).drafts { request with span := none } := by
    rw [drafts_of_span, drafts_within]
  rw [report_eq_map, report_eq_map,
    reportRows_eq_of_drafts prices ((openingFault?_of_span ordered).trans opening) drafts]
  rfl

/-- A report of a span is the report without a span of the income inside it. Only an entry that
cannot be split makes a difference, and then it keeps the report of the span from being made. -/
theorem report_of_span (sources : Sources) (request : Request) (span : DateSpan)
    (ordered : span.start ≤ span.finish) :
    (request.pooledColumns = false ∨
        (∀ validator ∈ sources.selected request, validator.Shareable) →
      sources.report { request with span := some span } =
        (sources.within span).report { request with span := none }) ∧
    (sources.report { request with span := some span } =
        (sources.within span).report { request with span := none } ∨
      ∃ fault, sources.report { request with span := some span } = .error fault ∧
        fault.OfShare) := by
  constructor
  · intro shareable
    exact report_of_span_eq_within ordered (openingFault?_within_of_shareable shareable)
  · rcases openingFault?_within sources { request with span := none } span with
      opening | ⟨fault, found, ofShare⟩
    · exact .inl (report_of_span_eq_within ordered opening)
    · rw [← openingFault?_of_span ordered] at found
      refine .inr ⟨fault, ?_, ofShare⟩
      rw [report_eq_map, reportRows_of_openingFault? found]
      rfl

/-- A pool with a reward from before its first bond took effect. There are two bonds, so neither
holds for all dates. -/
def earlyPool (early first second : Date) : Sources :=
  { smallPool with
    income := { smallPool.income with
      validators := [
        .pooled { ValidatorIncome.new 8 with consensus := some [⟨early, 9⟩, ⟨second, 1000⟩] } {
          bonds := [⟨first, 8 * weiPerEth⟩, ⟨second, 16 * weiPerEth⟩]
          fees := [⟨first, 14 * weiPerEth / 100⟩] }] } }

/-- The second day of the small pool, and of a pool whose report for that day cannot be made. -/
theorem smallPool_report_of_span :
    let early : Date := ⟨2023, 12, 31, by decide⟩
    let first : Date := ⟨2024, 1, 1, by decide⟩
    let second : Date := ⟨2024, 1, 2, by decide⟩
    let span : DateSpan := ⟨second, second⟩
    let ranged : Request := { poolRequest with span := some span }
    let split : Sources := earlyPool early first second
    span.start ≤ span.finish ∧
      (∀ validator ∈ smallPool.selected poolRequest, validator.Shareable) ∧
      smallPool.report ranged = (smallPool.within span).report poolRequest ∧
      (∃ report, (split.within span).report poolRequest = .ok report) ∧
      split.report ranged = .error (.noScheduleEntry .bond early) ∧
      (split.report ranged = (split.within span).report poolRequest ∨
        ∃ fault, split.report ranged = .error fault ∧ fault.OfShare) := by
  have ordered : (⟨2024, 1, 2, by decide⟩ : Date) ≤ ⟨2024, 1, 2, by decide⟩ := by decide
  have shareable : ∀ validator ∈ smallPool.selected poolRequest, validator.Shareable := by
    intro validator member schedule given entry entryMember
    change validator ∈ [_, _] at member
    rcases List.mem_pair.mp member with rfl | rfl
    · cases given
    · cases given
      change entry ∈ [_, _] at entryMember
      rcases List.mem_pair.mp entryMember with rfl | rfl <;> exact ⟨_, rfl⟩
  refine ⟨ordered, shareable, ?_, ⟨_, rfl⟩, rfl, ?_⟩
  · exact (report_of_span smallPool poolRequest _ ordered).1 (.inr shareable)
  · exact (report_of_span (earlyPool _ _ _) poolRequest _ ordered).2

end Sources

end StakingIncome
