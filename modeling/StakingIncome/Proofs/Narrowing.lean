import StakingIncome.Proofs.Comparison

/-!
Reports of fewer validators or dates. A narrower request takes rows out of a report and changes none
of those that it leaves, so reports of one span after another make up the report of both.
-/

namespace StakingIncome

/-! ### Spans side by side -/

namespace DateSpan

/-- One span ends on the day before the other one starts. -/
def Meets (first second : DateSpan) : Prop :=
  first.finish < second.start ∧ ∀ date, ¬(first.finish < date ∧ date < second.start)

/-- From the start of one span to the end of the other. -/
def joined (first second : DateSpan) : DateSpan where
  start := first.start
  finish := second.finish

variable {first second : DateSpan}

theorem joined_ordered (ordered : first.start ≤ first.finish)
    (otherOrdered : second.start ≤ second.finish) (meets : first.Meets second) :
    (first.joined second).start ≤ (first.joined second).finish := by
  have apart := meets.1
  rw [Date.lt_def] at apart
  rw [Date.le_def] at ordered otherOrdered ⊢
  simp only [joined]
  omega

theorem contains_joined (ordered : first.start ≤ first.finish)
    (otherOrdered : second.start ≤ second.finish) (meets : first.Meets second) (date : Date) :
    (first.joined second).contains date = (first.contains date || second.contains date) := by
  have apart := meets.1
  have noGap := meets.2 date
  rw [Bool.eq_iff_iff, Bool.or_eq_true, contains_iff, contains_iff, contains_iff]
  simp only [Date.lt_def, Date.le_def, joined] at *
  omega

theorem Meets.not_contains_of_le {earlier later : Date} (meets : first.Meets second)
    (ascending : earlier ≤ later) (after : second.contains earlier = true) :
    first.contains later = false := by
  have apart := meets.1
  apply Bool.eq_false_iff.mpr
  intro before
  rw [contains_iff] at after before
  simp only [Date.lt_def, Date.le_def] at *
  omega

end DateSpan

/-- A list in which no value of the second kind comes before one of the first kind, with the values
of both kinds taken out. -/
theorem filter_or_of_pairwise {α : Type} {first second : α → Bool} {values : List α}
    (apart : ∀ value ∈ values, second value = true → first value = false)
    (ordered : values.Pairwise fun earlier later =>
      second earlier = true → first later = false) :
    (values.filter fun value => first value || second value) =
      values.filter first ++ values.filter second := by
  induction values with
  | nil => rfl
  | cons head tail induction =>
      rcases List.pairwise_cons.mp ordered with ⟨before, remaining⟩
      have rest := induction (fun value member => apart value (List.mem_cons_of_mem _ member))
        remaining
      cases later : second head with
      | false => cases earlier : first head <;> simp [later, earlier, rest]
      | true =>
          have notFirst := apart head List.mem_cons_self later
          have none : tail.filter first = [] := by
            apply List.filter_eq_nil_iff.mpr
            intro value member
            rw [before value member later]
            simp
          rw [none, List.nil_append] at rest
          simp [later, notFirst, rest, none]

namespace Sources

variable {sources : Sources} {request other : Request} {report : Report}

/-! ### Fewer drafts -/

/-- A request that comes to fewer drafts has the report with fewer rows. -/
theorem report_of_fewer_drafts (prices : SamePrices sources sources request other)
    (opens : sources.openingFault? other = none)
    (shape : sources.reportOf other = sources.reportOf request) {keep : Row → Bool}
    (fewer : sources.drafts other =
      (sources.drafts request).filter fun draft => keep (sources.priced draft))
    (made : sources.report request = .ok report) :
    sources.report other = .ok { report with rows := report.rows.filter keep } := by
  rcases report_eq_ok_iff.mp made with ⟨ledger, rows, opened, priced, rfl⟩
  rcases exists_opened_iff.mpr opens with ⟨narrow, narrowOpened⟩
  have kept : ∃ kept, narrow.rows = .ok kept := by
    rw [opened.rows_eq] at priced
    rw [narrowOpened.rows_eq, ← prices.price_eq opened narrowOpened, fewer,
      Pass.exists_mapM_eq_ok_iff]
    intro draft member
    exact Pass.step_ok_of_mapM_eq_ok priced draft (List.mem_filter.mp member).1
  rcases kept with ⟨kept, keptPriced⟩
  have narrowMade : sources.report other = .ok (sources.reportOf other kept) :=
    report_eq_ok_iff.mpr ⟨narrow, kept, narrowOpened, keptPriced, rfl⟩
  have rows_eq : rows = (sources.drafts request).map sources.priced := rows_of_report made
  have kept_eq : kept = (sources.drafts other).map sources.priced := rows_of_report narrowMade
  rw [narrowMade, shape, kept_eq, fewer, rows_eq]
  simp only [reportOf, List.filter_map, Function.comp_def]

/-! ### Fewer dates -/

theorem report_of_shorter_span (whole : request.span = none)
    (made : sources.report request = .ok report) {span : DateSpan}
    (ordered : span.start ≤ span.finish) :
    sources.report { request with span := some span } =
      .ok { report with rows := report.rows.filter fun row => span.contains row.date } := by
  have opens : sources.openingFault? { request with span := some span } = none := by
    rcases report_eq_ok_iff.mp made with ⟨ledger, -, opened, -⟩
    rw [openingFault?_of_span ordered, request.eq_of_span whole]
    exact exists_opened_iff.mp ⟨ledger, opened⟩
  have prices : SamePrices sources sources request { request with span := some span } :=
    ⟨rfl, rfl⟩
  refine report_of_fewer_drafts prices opens rfl ?_ made
  rw [drafts_of_span, request.eq_of_span whole]
  rfl

/-! ### Fewer validators -/

theorem selected_of_validator (all : request.validator = none) (index : UInt64) :
    sources.selected { request with validator := some index } =
      (sources.selected request).filter fun validator => validator.index == index := by
  have everyone : sources.selected request = sources.income.validators := by
    rw [selected]
    apply List.filter_eq_self.mpr
    intro validator _
    rw [Request.selects, all]
  rw [everyone]
  rfl

theorem openingFault?_of_validator (all : request.validator = none)
    (opens : sources.openingFault? request = none) (index : UInt64) :
    sources.openingFault? { request with validator := some index } = none := by
  have silent := openingFault?_eq_none_iff.mp opens
  have among : ∀ validator ∈ sources.selected { request with validator := some index },
      validator ∈ sources.selected request := by
    intro validator member
    rw [selected_of_validator all] at member
    exact (List.mem_filter.mp member).1
  apply openingFault?_eq_none_iff.mpr
  intro check
  cases check with
  | schedules =>
      have complete := complaint?_schedules_eq_none_iff.mp (silent .schedules)
      apply complaint?_schedules_eq_none_iff.mpr
      intro pooled validator member
      exact complete pooled validator (among validator member)
  | figures =>
      have resolved := complaint?_figures_eq_none_iff.mp (silent .figures)
      apply complaint?_figures_eq_none_iff.mpr
      intro validator member
      exact resolved validator (among validator member)
  | delimiter => exact silent .delimiter
  | span => exact silent .span
  | rplPrices => exact silent .rplPrices
  | ethDates => exact silent .ethDates
  | rplDates => exact silent .rplDates

/-- Separate drafts of one validator only. Node income belongs to none and stays. -/
theorem separateDrafts_of_validator (all : request.validator = none) (index : UInt64)
    (date : Date) :
    sources.separateDrafts { request with validator := some index } date =
      (sources.separateDrafts request date).filter fun draft =>
        draft.validatorIndex == some index || draft.nodeAddress.isSome := by
  have figures : sources.figuresOn { request with validator := some index } date =
      (sources.figuresOn request date).filter fun figures => figures.index == index := by
    rw [figuresOn, figuresOn, selected_of_validator all, List.filter_map]
    rfl
  have nodes : ((sources.nodesOn request date).map NodeIncome.draft).filter (fun draft =>
        draft.validatorIndex == some index || draft.nodeAddress.isSome) =
      (sources.nodesOn request date).map NodeIncome.draft := by
    apply List.filter_eq_self.mpr
    intro draft member
    rcases List.mem_map.mp member with ⟨node, -, rfl⟩
    rfl
  rw [separateDrafts, separateDrafts, figures, List.filter_append, nodes, List.filter_map,
    List.filter_comm]
  congr 2
  apply List.filter_congr
  intro figures _
  simp [DayFigures.draft]

theorem drafts_of_validator (separate : request.groupByDate = false)
    (all : request.validator = none) (index : UInt64) :
    sources.drafts { request with validator := some index } =
      (sources.drafts request).filter fun draft =>
        draft.validatorIndex == some index || draft.nodeAddress.isSome := by
  apply drafts_eq_filter
  intro date
  have narrow : sources.draftsOn { request with validator := some index } date =
      sources.separateDrafts { request with validator := some index } date :=
    if_neg (by simp [separate])
  have whole : sources.draftsOn request date = sources.separateDrafts request date :=
    if_neg (by simp [separate])
  have covers : Request.covers { request with validator := some index } date =
      request.covers date := rfl
  rw [coveredDrafts, coveredDrafts, covers, narrow, whole, separateDrafts_of_validator all]
  split <;> rfl

theorem report_of_one_validator (separate : request.groupByDate = false)
    (all : request.validator = none) (made : sources.report request = .ok report)
    (index : UInt64) :
    sources.report { request with validator := some index } =
      .ok { report with
        rows := report.rows.filter fun row =>
          row.validatorIndex == some index || row.nodeAddress.isSome } := by
  have prices : SamePrices sources sources request { request with validator := some index } :=
    ⟨rfl, rfl⟩
  rcases report_eq_ok_iff.mp made with ⟨ledger, -, opened, -⟩
  have opens := openingFault?_of_validator all (exists_opened_iff.mp ⟨ledger, opened⟩) index
  exact report_of_fewer_drafts prices opens rfl (drafts_of_validator separate all index) made

/-! ### One span after another -/

theorem drafts_of_joined (sources : Sources) (request : Request) {first second : DateSpan}
    (ordered : first.start ≤ first.finish) (otherOrdered : second.start ≤ second.finish)
    (meets : first.Meets second) :
    sources.drafts { request with span := some (first.joined second) } =
      sources.drafts { request with span := some first } ++
        sources.drafts { request with span := some second } := by
  simp only [drafts_of_span, DateSpan.contains_joined ordered otherOrdered meets]
  apply filter_or_of_pairwise
  · intro draft _ after
    exact meets.not_contains_of_le (Int.le_refl _) after
  · apply (drafts_pairwise_le sources _).imp
    intro earlier later ascending after
    exact meets.not_contains_of_le ascending after

/-- The rows of two spans side by side are the rows of the first and then those of the second. Where
one of the two has a fault, it is the one of both. -/
theorem reportRows_of_joined (sources : Sources) (request : Request) {first second : DateSpan}
    (ordered : first.start ≤ first.finish) (otherOrdered : second.start ≤ second.finish)
    (meets : first.Meets second) :
    sources.reportRows { request with span := some (first.joined second) } = do
      let earlier ← sources.reportRows { request with span := some first }
      let later ← sources.reportRows { request with span := some second }
      return earlier ++ later := by
  have joinedOpening : sources.openingFault? { request with span := some (first.joined second) } =
      sources.openingFault? { request with span := none } :=
    openingFault?_of_span (DateSpan.joined_ordered ordered otherOrdered meets)
  have firstOpening : sources.openingFault? { request with span := some first } =
      sources.openingFault? { request with span := none } := openingFault?_of_span ordered
  have secondOpening : sources.openingFault? { request with span := some second } =
      sources.openingFault? { request with span := none } := openingFault?_of_span otherOrdered
  cases found : sources.openingFault? { request with span := none } with
  | some fault =>
      rw [reportRows_of_openingFault? (joinedOpening.trans found),
        reportRows_of_openingFault? (firstOpening.trans found)]
      rfl
  | none =>
      rcases exists_opened_iff.mpr (joinedOpening.trans found) with ⟨ledger, opened⟩
      rcases exists_opened_iff.mpr (firstOpening.trans found) with ⟨firstLedger, firstOpened⟩
      rcases exists_opened_iff.mpr (secondOpening.trans found) with ⟨secondLedger, secondOpened⟩
      have firstPrices : SamePrices sources sources
          { request with span := some (first.joined second) }
          { request with span := some first } := ⟨rfl, rfl⟩
      have secondPrices : SamePrices sources sources
          { request with span := some (first.joined second) }
          { request with span := some second } := ⟨rfl, rfl⟩
      rw [reportRows_of_opened opened, reportRows_of_opened firstOpened,
        reportRows_of_opened secondOpened, opened.rows_eq, firstOpened.rows_eq,
        secondOpened.rows_eq, ← firstPrices.price_eq opened firstOpened,
        ← secondPrices.price_eq opened secondOpened,
        drafts_of_joined sources request ordered otherOrdered meets, List.mapM_append]

theorem report_of_joined (sources : Sources) (request : Request) {first second : DateSpan}
    (ordered : first.start ≤ first.finish) (otherOrdered : second.start ≤ second.finish)
    (meets : first.Meets second) :
    sources.report { request with span := some (first.joined second) } = do
      let earlier ← sources.report { request with span := some first }
      let later ← sources.report { request with span := some second }
      return { earlier with rows := earlier.rows ++ later.rows } := by
  rw [report_eq_map, report_eq_map, report_eq_map,
    reportRows_of_joined sources request ordered otherOrdered meets]
  cases sources.reportRows { request with span := some first } with
  | error fault => rfl
  | ok earlier => cases sources.reportRows { request with span := some second } <;> rfl

/-- A narrower request takes rows out of a report and changes nothing else: a span the rows of other
dates, and a single validator the rows of the others, if these are separate. Reports of two spans,
one right after the other, follow one another in the report of both. -/
theorem report_of_narrower (sources : Sources) (request : Request) (report : Report)
    (all : request.validator = none) (whole : request.span = none)
    (made : sources.report request = .ok report) :
    (∀ span : DateSpan, span.start ≤ span.finish →
      sources.report { request with span := some span } =
        .ok { report with rows := report.rows.filter fun row => span.contains row.date }) ∧
    (request.groupByDate = false → ∀ index : UInt64,
      sources.report { request with validator := some index } =
        .ok { report with
          rows := report.rows.filter fun row =>
            row.validatorIndex == some index || row.nodeAddress.isSome } ∧
      ∀ span : DateSpan, span.start ≤ span.finish →
        sources.report { request with validator := some index, span := some span } =
          .ok { report with
            rows := report.rows.filter fun row =>
              span.contains row.date &&
                (row.validatorIndex == some index || row.nodeAddress.isSome) }) ∧
    (∀ (validator : Option UInt64) (first second : DateSpan),
      first.start ≤ first.finish → second.start ≤ second.finish → first.Meets second →
      sources.report { request with validator, span := some (first.joined second) } = do
        let earlier ← sources.report { request with validator, span := some first }
        let later ← sources.report { request with validator, span := some second }
        return { earlier with rows := earlier.rows ++ later.rows }) := by
  refine ⟨fun span ordered => report_of_shorter_span whole made ordered, ?_, ?_⟩
  · intro separate index
    have single := report_of_one_validator separate all made index
    refine ⟨single, ?_⟩
    intro span ordered
    have narrow := @report_of_shorter_span sources { request with validator := some index } _ whole
      single span ordered
    simpa only [List.filter_filter] using narrow
  · intro validator first second ordered otherOrdered meets
    exact report_of_joined sources { request with validator } ordered otherOrdered meets

/-- The two days of the small pool, of which the pooled validator earned on the second. -/
theorem smallPool_report_of_narrower :
    let first : DateSpan := ⟨⟨2024, 1, 1, by decide⟩, ⟨2024, 1, 1, by decide⟩⟩
    let second : DateSpan := ⟨⟨2024, 1, 2, by decide⟩, ⟨2024, 1, 2, by decide⟩⟩
    poolRequest.validator = none ∧ poolRequest.span = none ∧ poolRequest.groupByDate = false ∧
      first.start ≤ first.finish ∧ second.start ≤ second.finish ∧ first.Meets second ∧
      ∃ report, smallPool.report poolRequest = .ok report ∧
        smallPool.report { poolRequest with span := some first } =
          .ok { report with rows := report.rows.filter fun row => first.contains row.date } ∧
        smallPool.report { poolRequest with validator := some 8, span := some second } =
          .ok { report with
            rows := report.rows.filter fun row =>
              second.contains row.date &&
                (row.validatorIndex == some 8 || row.nodeAddress.isSome) } ∧
        smallPool.report { poolRequest with span := some (first.joined second) } = do
          let earlier ← smallPool.report { poolRequest with span := some first }
          let later ← smallPool.report { poolRequest with span := some second }
          return { earlier with rows := earlier.rows ++ later.rows } := by
  have made : ∃ report, smallPool.report poolRequest = .ok report := ⟨_, rfl⟩
  rcases made with ⟨report, made⟩
  intro first second
  have ordered : first.start ≤ first.finish := by decide
  have otherOrdered : second.start ≤ second.finish := by decide
  have meets : first.Meets second := by
    refine ⟨by decide, ?_⟩
    intro date between
    simp only [first, second, Date.lt_def, Date.serial] at between
    omega
  have narrower := report_of_narrower smallPool poolRequest report rfl rfl made
  refine ⟨rfl, rfl, rfl, ordered, otherOrdered, meets, report, made, narrower.1 first ordered,
    ?_, ?_⟩
  · exact (narrower.2.1 rfl 8).2 second otherOrdered
  · exact narrower.2.2 none first second ordered otherOrdered meets

end Sources

end StakingIncome
