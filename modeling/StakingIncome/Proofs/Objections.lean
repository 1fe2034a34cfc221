import StakingIncome.Proofs.NeededPrices
import StakingIncome.Proofs.Opening

/-!
What there is to object to the sources of a report and to its request, told from these alone. The
first objection in the order of the checks is what keeps a ledger from being opened, and after it
is open a report can only lack prices.
-/

namespace StakingIncome

/-! ### Why a schedule has no value -/

/-- Why no value within a limit can be taken from a schedule for a date. -/
inductive Schedule.Lacks (schedule : Schedule) (kind : ScheduleKind) (limit : Nat) (date : Date) :
    Fault → Prop
  | noEntry (absent : schedule.entryOn? date = none) :
      Lacks schedule kind limit date (.noScheduleEntry kind date)
  | tooLarge {entry : ScheduleEntry} (found : schedule.entryOn? date = some entry)
      (exceeds : limit < entry.value) :
      Lacks schedule kind limit date (.scheduleValueTooLarge kind entry.effective entry.value)

theorem Schedule.lacks_iff {schedule : Schedule} {kind : ScheduleKind} {limit : Nat} {date : Date}
    {fault : Fault} :
    schedule.Lacks kind limit date fault ↔
      schedule.boundedValueOn kind limit date = .error fault := by
  rw [boundedValueOn]
  constructor
  · intro lacking
    cases lacking with
    | noEntry absent => rw [absent]
    | tooLarge found exceeds => simp only [found, if_neg (Nat.not_le.mpr exceeds)]
  · intro failed
    cases found : schedule.entryOn? date with
    | none =>
        rw [found] at failed
        cases failed
        exact .noEntry found
    | some entry =>
        simp only [found] at failed
        split at failed
        · cases failed
        · rename_i exceeds
          cases failed
          exact .tooLarge found (Nat.not_le.mp exceeds)

/-- Why an entry cannot be split. The bond is looked at before the fee. -/
inductive OperatorSchedule.Refuses (schedule : OperatorSchedule) (entry : IncomeEntry) :
    Fault → Prop
  | bond {fault : Fault} (lacking : schedule.bonds.Lacks .bond fullStake entry.date fault) :
      Refuses schedule entry fault
  | fee {fault : Fault}
      (bonded : ∀ other, ¬schedule.bonds.Lacks .bond fullStake entry.date other)
      (lacking : schedule.fees.Lacks .fee fullFee entry.date fault) :
      Refuses schedule entry fault

theorem OperatorSchedule.refuses_iff {schedule : OperatorSchedule} {entry : IncomeEntry}
    {fault : Fault} : schedule.Refuses entry fault ↔ schedule.share entry = .error fault := by
  rw [share, Pass.bind_eq_error_iff, ← Schedule.lacks_iff]
  constructor
  · intro refuses
    cases refuses with
    | bond lacking => exact .inl lacking
    | fee bonded lacking =>
        simp only [Schedule.lacks_iff] at bonded
        rcases Pass.exists_ok_iff_forall_ne_error.mpr bonded with ⟨bond, found⟩
        exact .inr ⟨bond, found, Pass.bind_eq_error_iff.mpr (.inl (Schedule.lacks_iff.mp lacking))⟩
  · intro failed
    rcases failed with lacking | ⟨bond, found, failed⟩
    · exact .bond lacking
    · rcases Pass.bind_eq_error_iff.mp failed with lacking | ⟨fee, -, impossible⟩
      · refine .fee ?_ (Schedule.lacks_iff.mpr lacking)
        simp only [Schedule.lacks_iff]
        exact Pass.exists_ok_iff_forall_ne_error.mp ⟨bond, found⟩
      · cases impossible

namespace Validator

/-- Which of its two schedules a pooled validator lacks, the bonds before the fees. -/
inductive Unscheduled (validator : Validator) : ScheduleKind → Prop
  | bond {schedule : OperatorSchedule} (given : validator.schedule? = some schedule)
      (empty : schedule.bonds = []) : Unscheduled validator .bond
  | fee {schedule : OperatorSchedule} (given : validator.schedule? = some schedule)
      (bonded : schedule.bonds ≠ []) (empty : schedule.fees = []) : Unscheduled validator .fee

/-- Why the figures of a validator cannot be told: it has no series to take consensus income from,
or one of its entries cannot be split. -/
inductive Unresolved (request : Request) (validator : Validator) : Fault → Prop
  | noConsensus (wanted : request.withdrawalsAsConsensus = false)
      (absent : validator.income.consensus = none) :
      Unresolved request validator (.conflict (.noConsensusSeries validator.index))
  | refused {schedule : OperatorSchedule} {before after : List IncomeEntry} {entry : IncomeEntry}
      {fault : Fault}
      (present : request.withdrawalsAsConsensus = false → validator.income.consensus.isSome = true)
      (pooled : request.pooledColumns = true) (given : validator.schedule? = some schedule)
      (entries : validator.countedEntries request = before ++ entry :: after)
      (earlier : ∀ other ∈ before, ∀ otherFault, ¬schedule.Refuses other otherFault)
      (refuses : schedule.Refuses entry fault) : Unresolved request validator fault

variable {request : Request} {validator : Validator} {fault : Fault}

theorem missingSchedule?_eq_some_iff :
    validator.missingSchedule? = some fault ↔
      ∃ kind, validator.Unscheduled kind ∧ fault = .missingSchedule validator.index kind := by
  constructor
  · intro missing
    rcases Option.bind_eq_some_iff.mp missing with ⟨schedule, given, missing⟩
    rcases Option.bind_eq_some_iff.mp missing with ⟨kind, first, missing⟩
    cases missing
    refine ⟨kind, ?_, rfl⟩
    rw [OperatorSchedule.missing?] at first
    split at first
    · rename_i empty
      cases first
      exact .bond given (List.isEmpty_iff.mp empty)
    · rename_i bonded
      split at first
      · rename_i empty
        cases first
        exact .fee given (fun empty => bonded (List.isEmpty_iff.mpr empty))
          (List.isEmpty_iff.mp empty)
      · cases first
  · intro missing
    rcases missing with ⟨kind, unscheduled, rfl⟩
    cases unscheduled with
    | bond given empty => simp [missingSchedule?, given, OperatorSchedule.missing?, empty]
    | fee given bonded empty =>
        simp [missingSchedule?, given, OperatorSchedule.missing?, bonded, empty]

theorem missingSchedule?_eq_none_iff :
    validator.missingSchedule? = none ↔ ∀ kind, ¬validator.Unscheduled kind := by
  rw [Option.eq_none_iff_forall_ne_some]
  constructor
  · intro complete kind unscheduled
    exact complete _ (missingSchedule?_eq_some_iff.mpr ⟨kind, unscheduled, rfl⟩)
  · intro complete fault missing
    rcases missingSchedule?_eq_some_iff.mp missing with ⟨kind, unscheduled, -⟩
    exact complete kind unscheduled

theorem splitting?_eq_some_iff {schedule : OperatorSchedule} :
    request.splitting? validator = some schedule ↔
      request.pooledColumns = true ∧ validator.schedule? = some schedule := by
  rw [Request.splitting?]
  cases request.pooledColumns <;> simp

theorem unresolved_iff :
    validator.Unresolved request fault ↔ validator.figures request = .error fault := by
  rw [figures_eq_error_iff]
  constructor
  · intro unresolved
    cases unresolved with
    | noConsensus wanted absent =>
        exact .inl (consensusEntries_eq_error_iff.mpr ⟨wanted, absent, rfl⟩)
    | refused present pooled given entries earlier refuses =>
        refine .inr ⟨⟨_, consensusEntries_eq_ok_iff.mpr ⟨present, rfl⟩⟩, ?_⟩
        rw [splitting?_eq_some_iff.mpr ⟨pooled, given⟩]
        simp only [OperatorSchedule.refuses_iff] at earlier refuses
        exact Pass.mapM_eq_error_iff.mpr ⟨_, _, _, entries, fun other member =>
          Pass.exists_ok_iff_forall_ne_error.mpr (earlier other member), refuses⟩
  · intro failed
    rcases failed with failed | ⟨⟨_, source⟩, failed⟩
    · rcases consensusEntries_eq_error_iff.mp failed with ⟨wanted, absent, rfl⟩
      exact .noConsensus wanted absent
    · rcases Pass.mapM_eq_error_iff.mp failed with
        ⟨before, entry, after, entries, counted, failed⟩
      cases splitting : request.splitting? validator with
      | none =>
          rw [splitting] at failed
          cases failed
      | some schedule =>
          rw [splitting] at counted failed
          rcases splitting?_eq_some_iff.mp splitting with ⟨pooled, given⟩
          refine .refused (consensusEntries_eq_ok_iff.mp source).1 pooled given entries ?_
            (OperatorSchedule.refuses_iff.mpr failed)
          simp only [OperatorSchedule.refuses_iff]
          exact fun other member =>
            Pass.exists_ok_iff_forall_ne_error.mp (counted other member)

end Validator

namespace Sources

/-- What there is to object to the sources and the request, check by check. -/
inductive Objection (sources : Sources) (request : Request) : Check → Fault → Prop
  | delimiter (unfit : request.delimiter = "" ∨ '\n' ∈ request.delimiter.toList ∨
        '\r' ∈ request.delimiter.toList) :
      Objection sources request .delimiter (.conflict (.delimiter request.delimiter))
  | span {span : DateSpan} (given : request.span = some span)
      (reversed : span.finish < span.start) :
      Objection sources request .span (.conflict (.reversedSpan span))
  | rplPrices (pooled : request.pooledColumns = true) (absent : sources.rplPrices = none) :
      Objection sources request .rplPrices (.conflict .noRplPrices)
  | schedules {before after : List Validator} {validator : Validator} {kind : ScheduleKind}
      (pooled : request.pooledColumns = true)
      (selected : sources.selected request = before ++ validator :: after)
      (earlier : ∀ other ∈ before, ∀ otherKind, ¬other.Unscheduled otherKind)
      (unscheduled : validator.Unscheduled kind) :
      Objection sources request .schedules (.missingSchedule validator.index kind)
  | figures {before after : List Validator} {validator : Validator} {fault : Fault}
      (selected : sources.selected request = before ++ validator :: after)
      (earlier : ∀ other ∈ before, ∀ otherFault, ¬other.Unresolved request otherFault)
      (unresolved : validator.Unresolved request fault) :
      Objection sources request .figures fault
  | ethDates {before after : List PriceEntry} {entry : PriceEntry}
      (entries : sources.ethPrices.entries = before ++ entry :: after)
      (distinct : (before.map (·.date)).Nodup) (again : entry.date ∈ before.map (·.date)) :
      Objection sources request .ethDates
        (.duplicatePrice sources.ethPrices.currency entry.date)
  | rplDates {series : PriceSeries} {before after : List PriceEntry} {entry : PriceEntry}
      (pooled : request.pooledColumns = true) (given : sources.rplPrices = some series)
      (entries : series.entries = before ++ entry :: after)
      (distinct : (before.map (·.date)).Nodup) (again : entry.date ∈ before.map (·.date)) :
      Objection sources request .rplDates (.duplicatePrice series.currency entry.date)

/-- The fault of the first check, in their order, that has an objection. -/
def FirstObjection (sources : Sources) (request : Request) (fault : Fault) : Prop :=
  ∃ before check after, Check.order = before ++ check :: after ∧
    sources.Objection request check fault ∧
    ∀ earlier ∈ before, ∀ other, ¬sources.Objection request earlier other

variable {sources : Sources} {request : Request} {fault : Fault}

theorem objection_delimiter_iff :
    sources.Objection request .delimiter fault ↔
      sources.complaint? request .delimiter = some fault := by
  rw [complaint?, Option.map_eq_some_iff]
  constructor
  · intro objection
    cases objection with
    | delimiter unfit =>
        exact ⟨_, Request.delimiterConflict?_eq_some_iff.mpr ⟨unfit, rfl⟩, rfl⟩
  · intro complaint
    rcases complaint with ⟨conflict, found, rfl⟩
    rcases Request.delimiterConflict?_eq_some_iff.mp found with ⟨unfit, rfl⟩
    exact .delimiter unfit

theorem objection_span_iff :
    sources.Objection request .span fault ↔ sources.complaint? request .span = some fault := by
  rw [complaint?, Option.map_eq_some_iff]
  constructor
  · intro objection
    cases objection with
    | span given reversed =>
        exact ⟨_, Request.spanConflict?_eq_some_iff.mpr ⟨_, given, reversed, rfl⟩, rfl⟩
  · intro complaint
    rcases complaint with ⟨conflict, found, rfl⟩
    rcases Request.spanConflict?_eq_some_iff.mp found with ⟨span, given, reversed, rfl⟩
    exact .span given reversed

theorem objection_rplPrices_iff :
    sources.Objection request .rplPrices fault ↔
      sources.complaint? request .rplPrices = some fault := by
  rw [complaint?, Option.map_eq_some_iff]
  constructor
  · intro objection
    cases objection with
    | rplPrices pooled absent =>
        exact ⟨_, Request.pricesConflict?_eq_some_iff.mpr ⟨pooled, absent, rfl⟩, rfl⟩
  · intro complaint
    rcases complaint with ⟨conflict, found, rfl⟩
    rcases Request.pricesConflict?_eq_some_iff.mp found with ⟨pooled, absent, rfl⟩
    exact .rplPrices pooled absent

theorem objection_schedules_iff :
    sources.Objection request .schedules fault ↔
      sources.complaint? request .schedules = some fault := by
  rw [complaint?, Pass.fault?_eq_some_iff, checkSchedules_eq_error_iff, List.findSome?_eq_some_iff]
  simp only [Validator.missingSchedule?_eq_some_iff, Validator.missingSchedule?_eq_none_iff]
  constructor
  · intro objection
    cases objection with
    | schedules pooled selected earlier unscheduled =>
        exact ⟨pooled, _, _, _, selected, ⟨_, unscheduled, rfl⟩, earlier⟩
  · intro complaint
    rcases complaint with
      ⟨pooled, before, validator, after, selected, ⟨kind, unscheduled, rfl⟩, earlier⟩
    exact .schedules pooled selected earlier unscheduled

theorem objection_figures_iff :
    sources.Objection request .figures fault ↔
      sources.complaint? request .figures = some fault := by
  rw [complaint?, Pass.fault?_eq_some_iff, Pass.mapM_eq_error_iff]
  simp only [Pass.exists_ok_iff_forall_ne_error, Ne, ← Validator.unresolved_iff]
  constructor
  · intro objection
    cases objection with
    | figures selected earlier unresolved =>
        exact ⟨_, _, _, selected, earlier, unresolved⟩
  · intro complaint
    rcases complaint with ⟨before, validator, after, selected, earlier, unresolved⟩
    exact .figures selected earlier unresolved

theorem objection_ethDates_iff :
    sources.Objection request .ethDates fault ↔
      sources.complaint? request .ethDates = some fault := by
  rw [complaint?, Pass.fault?_eq_some_iff, PriceSeries.index_eq_error_iff]
  constructor
  · intro objection
    cases objection with
    | ethDates entries distinct again => exact ⟨_, _, _, entries, distinct, again, rfl⟩
  · intro complaint
    rcases complaint with ⟨before, entry, after, entries, distinct, again, rfl⟩
    exact .ethDates entries distinct again

theorem objection_rplDates_iff :
    sources.Objection request .rplDates fault ↔
      sources.complaint? request .rplDates = some fault := by
  rw [complaint?, Pass.fault?_eq_some_iff, rplIndex_eq_error_iff]
  simp only [PriceSeries.index_eq_error_iff]
  constructor
  · intro objection
    cases objection with
    | rplDates pooled given entries distinct again =>
        exact ⟨pooled, _, given, _, _, _, entries, distinct, again, rfl⟩
  · intro complaint
    rcases complaint with
      ⟨pooled, series, given, before, entry, after, entries, distinct, again, rfl⟩
    exact .rplDates pooled given entries distinct again

/-- The objections to the sources and the request are what the checks would fail with. -/
theorem objection_iff {check : Check} :
    sources.Objection request check fault ↔ sources.complaint? request check = some fault := by
  cases check with
  | delimiter => exact objection_delimiter_iff
  | span => exact objection_span_iff
  | rplPrices => exact objection_rplPrices_iff
  | schedules => exact objection_schedules_iff
  | figures => exact objection_figures_iff
  | ethDates => exact objection_ethDates_iff
  | rplDates => exact objection_rplDates_iff

theorem firstObjection_iff :
    sources.FirstObjection request fault ↔ sources.ledger request = .error fault := by
  rw [ledger_eq_error_iff, openingFault?, List.findSome?_eq_some_iff]
  simp only [FirstObjection, objection_iff, Option.eq_none_iff_forall_ne_some, Ne]

theorem exists_opened_of_no_objection
    (accepted : ∀ check fault, ¬sources.Objection request check fault) :
    ∃ ledger, Ledger.Opened sources request ledger := by
  rw [exists_opened_iff, openingFault?_eq_none_iff]
  intro check
  rw [Option.eq_none_iff_forall_ne_some]
  intro fault complaint
  exact accepted check fault (objection_iff.mpr complaint)

/-- Every failure but a missing price comes before any row, and it is the first objection in the
order of the checks. Without an objection a report is made or lacks a price. -/
theorem report_raises_first_objection (sources : Sources) (request : Request) :
    (∀ fault, sources.FirstObjection request fault ↔ sources.ledger request = .error fault) ∧
    (∀ fault, sources.FirstObjection request fault → sources.report request = .error fault) ∧
    ((∀ check fault, ¬sources.Objection request check fault) →
      (∃ report, sources.report request = .ok report) ∨
        ∃ currency date, sources.report request = .error (.priceNotFound currency date)) := by
  refine ⟨fun fault => firstObjection_iff, ?_, ?_⟩
  · intro fault first
    exact report_eq_error_iff.mpr (.inl (firstObjection_iff.mp first))
  · intro accepted
    rcases exists_opened_of_no_objection accepted with ⟨ledger, opened⟩
    rcases Pass.exists_ok_or_error ledger.rows with ⟨rows, priced⟩ | ⟨fault, failed⟩
    · exact .inl ⟨_, report_eq_ok_iff.mpr ⟨ledger, rows, opened, priced, rfl⟩⟩
    · rcases opened.rows_eq_error_iff.mp failed with ⟨date, -, missing, -⟩
      have unmade : sources.report request = .error fault :=
        report_eq_error_iff.mpr (.inr ⟨ledger, opened, failed⟩)
      cases missing with
      | eth => exact .inr ⟨_, _, unmade⟩
      | rpl => exact .inr ⟨_, _, unmade⟩

/-- A validator without bonds is named although one before it has no consensus series. -/
theorem firstObjection_missingSchedule :
    let unfit : Sources := { smallPool with
      income := { smallPool.income with
        validators := [
          .plain { ValidatorIncome.new 7 with consensus := none },
          .pooled (ValidatorIncome.new 8) { bonds := [], fees := [] }] } }
    (∀ fault, ¬smallPool.FirstObjection poolRequest fault) ∧
      unfit.FirstObjection poolRequest (.missingSchedule 8 .bond) ∧
      unfit.report poolRequest = .error (.missingSchedule 8 .bond) ∧
      ((∃ report, smallPool.report poolRequest = .ok report) ∨
        ∃ currency date, smallPool.report poolRequest = .error (.priceNotFound currency date)) := by
  intro unfit
  have first : unfit.FirstObjection poolRequest (.missingSchedule 8 .bond) :=
    ((report_raises_first_objection unfit poolRequest).1 _).mpr rfl
  have accepted : ∀ check fault, ¬smallPool.Objection poolRequest check fault := by
    intro check fault objection
    have complaint := objection_iff.mp objection
    cases check <;> cases complaint
  refine ⟨?_, first, (report_raises_first_objection unfit poolRequest).2.1 _ first,
    (report_raises_first_objection smallPool poolRequest).2.2 accepted⟩
  intro fault objection
  cases ((report_raises_first_objection smallPool poolRequest).1 fault).mp objection

end Sources

end StakingIncome
