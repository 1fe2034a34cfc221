import StakingIncome.Ledger
import StakingIncome.Proofs.Passes

/-!
The figures of a validator on one date, told from its entries alone: each figure is the total of
what counts of the entries for the date. The figures that a ledger adds up are these.
-/

namespace StakingIncome

/-! ### Totals -/

theorem total_eq_zero_iff {amounts : List Nat} :
    total amounts = 0 ↔ ∀ amount ∈ amounts, amount = 0 := by
  induction amounts with
  | nil => simp [total]
  | cons amount rest induction => simp [total, induction]

theorem total_map_ne_zero_iff {α : Type} {amount : α → Nat} {values : List α} :
    total (values.map amount) ≠ 0 ↔ ∃ value ∈ values, amount value ≠ 0 := by
  rw [Ne, total_eq_zero_iff]
  simp

/-- Values with nothing to add can be left out of a total. -/
theorem total_map_filter {α : Type} {keep : α → Bool} {amount : α → Nat} {values : List α}
    (nothing : ∀ value ∈ values, keep value = false → amount value = 0) :
    total ((values.filter keep).map amount) = total (values.map amount) := by
  induction values with
  | nil => rfl
  | cons head tail induction =>
      have remaining := induction fun value member => nothing value (List.mem_cons_of_mem _ member)
      cases kept : keep head with
      | true => simp [kept, total, remaining]
      | false => simp [kept, total, remaining, nothing head List.mem_cons_self kept]

theorem total_eq_of_perm {left right : List Nat} (permuted : left.Perm right) :
    total left = total right := by
  induction permuted with
  | nil => rfl
  | cons amount _ induction => rw [total, total, induction]
  | swap first second rest => simp only [total, Nat.add_left_comm]
  | trans _ _ first second => exact first.trans second

def entriesOn (entries : List IncomeEntry) (date : Date) : List IncomeEntry :=
  entries.filter fun entry => decide (entry.date = date)

/-- All that a series earned on a date, before any part of it is taken. -/
def earnedOn (entries : List IncomeEntry) (date : Date) : Nat :=
  total ((entriesOn entries date).map (·.amount))

namespace DailyTotals

theorem amountOn_foldl_add (entries : List IncomeEntry) (totals : DailyTotals) (date : Date) :
    (entries.foldl add totals).amountOn date =
      totals.amountOn date + total ((entriesOn entries date).map (·.amount)) := by
  induction entries generalizing totals with
  | nil => simp [entriesOn, total]
  | cons entry rest induction =>
      rw [List.foldl_cons, induction, amountOn_add]
      by_cases same : entry.date = date
      · simp [entriesOn, same, total, Nat.add_assoc]
      · simp [entriesOn, same]

theorem amountOn_ofEntries (entries : List IncomeEntry) (date : Date) :
    (ofEntries entries).amountOn date = total ((entriesOn entries date).map (·.amount)) := by
  simp [ofEntries, amountOn_foldl_add]

end DailyTotals

/-! ### What counts of an entry -/

/-- What counts of an entry, in base units. Nothing does where the schedule has no part for it. -/
def countedAmount (schedule? : Option OperatorSchedule) (entry : IncomeEntry) : Nat :=
  match countedPart schedule? entry with
  | .ok part => part.amount
  | .error _ => 0

/-- What counts of all entries for a date. -/
def countedOn (schedule? : Option OperatorSchedule) (entries : List IncomeEntry) (date : Date) :
    Nat :=
  total ((entriesOn entries date).map (countedAmount schedule?))

theorem part_of_countedPart {schedule? : Option OperatorSchedule} {entry part : IncomeEntry}
    (counted : countedPart schedule? entry = .ok part) :
    part = { entry with amount := countedAmount schedule? entry } := by
  have dated : part.date = entry.date := by
    cases schedule? with
    | none =>
        cases counted
        rfl
    | some schedule =>
        rcases Pass.bind_eq_ok_iff.mp counted with ⟨bond, -, counted⟩
        rcases Pass.bind_eq_ok_iff.mp counted with ⟨fee, -, counted⟩
        cases counted
        rfl
  simp [countedAmount, counted, ← dated]

theorem parts_of_mapM_countedPart {schedule? : Option OperatorSchedule}
    {entries parts : List IncomeEntry}
    (counted : entries.mapM (countedPart schedule?) = .ok parts) :
    parts = entries.map fun entry => { entry with amount := countedAmount schedule? entry } := by
  have agree := Pass.map_of_mapM_eq_ok id _
    (fun entry _ part found => part_of_countedPart found) counted
  simpa using agree

theorem countedTotals_eq_error_iff {schedule? : Option OperatorSchedule}
    {entries : List IncomeEntry} {fault : Fault} :
    countedTotals schedule? entries = .error fault ↔
      entries.mapM (countedPart schedule?) = .error fault := by
  rw [countedTotals]
  cases entries.mapM (countedPart schedule?) <;> simp [bind, Except.bind, pure, Except.pure]

theorem exists_countedTotals_iff {schedule? : Option OperatorSchedule}
    {entries : List IncomeEntry} :
    (∃ totals, countedTotals schedule? entries = .ok totals) ↔
      ∃ parts, entries.mapM (countedPart schedule?) = .ok parts := by
  rw [countedTotals]
  cases entries.mapM (countedPart schedule?) <;> simp [bind, Except.bind, pure, Except.pure]

/-- The total of a date is the one over its entries, whatever the order of the series. -/
theorem amountOn_countedTotals {schedule? : Option OperatorSchedule} {entries : List IncomeEntry}
    {totals : DailyTotals} (counted : countedTotals schedule? entries = .ok totals) (date : Date) :
    totals.amountOn date = countedOn schedule? entries date := by
  rcases Pass.bind_eq_ok_iff.mp counted with ⟨parts, passed, added⟩
  cases added
  rw [DailyTotals.amountOn_ofEntries, parts_of_mapM_countedPart passed, entriesOn, List.filter_map,
    List.map_map]
  rfl

theorem exists_date_of_countedOn_ne_zero {schedule? : Option OperatorSchedule}
    {entries : List IncomeEntry} {date : Date} (something : countedOn schedule? entries date ≠ 0) :
    ∃ entry ∈ entries, entry.date = date := by
  rcases total_map_ne_zero_iff.mp something with ⟨entry, member, -⟩
  rw [entriesOn, List.mem_filter, decide_eq_true_eq] at member
  exact ⟨entry, member⟩

/-! ### The figures of a date -/

/-- The figures of one validator for one date. -/
structure DayFigures where
  index : UInt64
  consensus : Nat
  execution : Nat
  withdrawals : Nat

def ValidatorFigures.on (figures : ValidatorFigures) (date : Date) : DayFigures where
  index := figures.index
  consensus := figures.consensus.amountOn date
  execution := figures.execution.amountOn date
  withdrawals := figures.withdrawals.amountOn date

namespace Validator

/-- The entries behind the consensus figure. -/
def consensusSource (request : Request) (validator : Validator) : List IncomeEntry :=
  if request.withdrawalsAsConsensus then
    validator.income.withdrawals
  else
    validator.income.consensus.getD []

/-- All entries that are counted for a validator, in the order in which they are. Withdrawals come
twice where they stand for consensus income. -/
def countedEntries (request : Request) (validator : Validator) : List IncomeEntry :=
  validator.consensusSource request ++ validator.income.execution ++ validator.income.withdrawals

def figuresOn (request : Request) (validator : Validator) (date : Date) : DayFigures where
  index := validator.index
  consensus := countedOn (request.splitting? validator) (validator.consensusSource request) date
  execution := countedOn (request.splitting? validator) validator.income.execution date
  withdrawals := countedOn (request.splitting? validator) validator.income.withdrawals date

theorem consensusEntries_eq_ok_iff {request : Request} {validator : Validator}
    {entries : List IncomeEntry} :
    request.consensusEntries validator.income = .ok entries ↔
      (request.withdrawalsAsConsensus = false → validator.income.consensus.isSome = true) ∧
        entries = validator.consensusSource request := by
  rw [Request.consensusEntries, consensusSource]
  cases request.withdrawalsAsConsensus <;> cases validator.income.consensus <;> simp [eq_comm]

theorem consensusEntries_eq_error_iff {request : Request} {validator : Validator} {fault : Fault} :
    request.consensusEntries validator.income = .error fault ↔
      request.withdrawalsAsConsensus = false ∧ validator.income.consensus = none ∧
        fault = .conflict (.noConsensusSeries validator.index) := by
  rw [Request.consensusEntries]
  cases request.withdrawalsAsConsensus <;> cases validator.income.consensus <;>
    simp [eq_comm, index]

theorem on_of_figures {request : Request} {validator : Validator} {figures : ValidatorFigures}
    (resolved : validator.figures request = .ok figures) (date : Date) :
    figures.on date = validator.figuresOn request date := by
  rcases Pass.bind_eq_ok_iff.mp resolved with ⟨entries, source, resolved⟩
  rcases Pass.bind_eq_ok_iff.mp resolved with ⟨consensus, fromSource, resolved⟩
  rcases Pass.bind_eq_ok_iff.mp resolved with ⟨execution, fromExecution, resolved⟩
  rcases Pass.bind_eq_ok_iff.mp resolved with ⟨withdrawals, fromWithdrawals, resolved⟩
  cases resolved
  rw [(consensusEntries_eq_ok_iff.mp source).2] at fromSource
  simp [ValidatorFigures.on, figuresOn, index, amountOn_countedTotals fromSource,
    amountOn_countedTotals fromExecution, amountOn_countedTotals fromWithdrawals]

/-- Resolving a validator is one pass over all its counted entries, series by series. -/
theorem figures_eq_error_iff {request : Request} {validator : Validator} {fault : Fault} :
    validator.figures request = .error fault ↔
      request.consensusEntries validator.income = .error fault ∨
        (∃ entries, request.consensusEntries validator.income = .ok entries) ∧
          (validator.countedEntries request).mapM (countedPart (request.splitting? validator)) =
            .error fault := by
  rw [figures]
  cases source : request.consensusEntries validator.income with
  | error other => simp [bind, Except.bind]
  | ok entries =>
      have fromSource := (consensusEntries_eq_ok_iff.mp source).2
      subst fromSource
      simp only [countedEntries, Pass.mapM_append_eq_error_iff, List.append_assoc,
        ← countedTotals_eq_error_iff, ← exists_countedTotals_iff, Pass.bind_eq_error_iff]
      simp [pure, Except.pure]

/-- The figures of a validator can be told unless something is missing from it or refused. -/
theorem exists_figures_iff {request : Request} {validator : Validator} :
    (∃ figures, validator.figures request = .ok figures) ↔
      (request.withdrawalsAsConsensus = false → validator.income.consensus.isSome = true) ∧
        ∀ entry ∈ validator.countedEntries request,
          ∃ part, countedPart (request.splitting? validator) entry = .ok part := by
  rw [← Pass.exists_mapM_eq_ok_iff]
  constructor
  · intro resolved
    rcases resolved with ⟨figures, resolved⟩
    rcases Pass.bind_eq_ok_iff.mp resolved with ⟨entries, source, -⟩
    refine ⟨(consensusEntries_eq_ok_iff.mp source).1, ?_⟩
    apply Pass.exists_ok_iff_forall_ne_error.mpr
    intro fault refused
    have failed := figures_eq_error_iff.mpr (.inr ⟨⟨entries, source⟩, refused⟩)
    rw [resolved] at failed
    cases failed
  · intro accepted
    rcases accepted with ⟨present, parts, counted⟩
    apply Pass.exists_ok_iff_forall_ne_error.mpr
    intro fault failed
    rcases figures_eq_error_iff.mp failed with missing | ⟨-, refused⟩
    · rw [consensusEntries_eq_ok_iff.mpr ⟨present, rfl⟩] at missing
      cases missing
    · rw [counted] at refused
      cases refused

theorem mem_dates_of_figuresOn {request : Request} {validator : Validator} {date : Date}
    (something : (validator.figuresOn request date).consensus ≠ 0 ∨
      (validator.figuresOn request date).execution ≠ 0 ∨
      (validator.figuresOn request date).withdrawals ≠ 0) :
    date ∈ validator.income.dates := by
  have member : ∃ entry ∈ validator.income.entries, entry.date = date := by
    rcases something with consensus | execution | withdrawals
    · rcases exists_date_of_countedOn_ne_zero consensus with ⟨entry, member, same⟩
      refine ⟨entry, ?_, same⟩
      rw [consensusSource] at member
      rw [ValidatorIncome.entries]
      split at member <;> simp [member]
    · rcases exists_date_of_countedOn_ne_zero execution with ⟨entry, member, same⟩
      exact ⟨entry, by simp [ValidatorIncome.entries, member], same⟩
    · rcases exists_date_of_countedOn_ne_zero withdrawals with ⟨entry, member, same⟩
      exact ⟨entry, by simp [ValidatorIncome.entries, member], same⟩
  rcases member with ⟨entry, member, same⟩
  exact List.mem_map.mpr ⟨entry, member, same⟩

end Validator

end StakingIncome
