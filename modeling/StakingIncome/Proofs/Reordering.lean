import Mathlib.Data.List.Nodup
import StakingIncome.Proofs.LookAlike
import StakingIncome.Proofs.ScheduleLookup

/-!
Reports of the same data in another order. Income of a date is added up, the entry of a schedule in
effect is the latest before a date, and prices are looked up by date, so the order within any of the
lists shows nowhere in a report. The order of validators and nodes shows in separate rows, but not
in rows by date.
-/

namespace StakingIncome

section Related

variable {α β γ : Type} {related : α → β → Prop} {first : Option α} {second : Option β}

theorem isSome_eq_of_rel (paired : Option.Rel related first second) :
    first.isSome = second.isSome := by
  cases paired <;> rfl

theorem map_eq_of_rel {view : α → γ} {otherView : β → γ} (paired : Option.Rel related first second)
    (same : ∀ value other, related value other → view value = otherView other) :
    first.map view = second.map otherView := by
  cases paired with
  | none => rfl
  | some related => exact congrArg some (same _ _ related)

end Related

/-! ### Schedules -/

namespace Schedule

/-- The same entries in any order. Of two entries for one date the last one counts, so a schedule
that has a date twice keeps its order. -/
def Reordered (left right : Schedule) : Prop :=
  left = right ∨ left.Perm right ∧ (left.map (·.effective)).Nodup

variable {first second : ScheduleEntry} {left right : Schedule}

theorem later_comm_of_lt (best : Option ScheduleEntry)
    (earlier : first.effective < second.effective) :
    later (later best first) second = later (later best second) first := by
  cases best with
  | none =>
      change later (some first) second = later (some second) first
      rw [later_some_of_le (Int.le_of_lt earlier), later_some_of_lt earlier]
  | some current =>
      rcases Int.lt_or_le second.effective.serial current.effective.serial with above | below
      · rw [later_some_of_lt (Int.lt_trans earlier above), later_some_of_lt above,
          later_some_of_lt (Int.lt_trans earlier above)]
      · rw [later_some_of_le below, later_some_of_lt earlier, later]
        split
        · exact later_some_of_le (Int.le_of_lt earlier)
        · exact later_some_of_le below

theorem later_comm (best : Option ScheduleEntry)
    (different : first.effective ≠ second.effective) :
    later (later best first) second = later (later best second) first := by
  rcases Int.lt_trichotomy first.effective.serial second.effective.serial with
    earlier | same | after
  · exact later_comm_of_lt best earlier
  · exact absurd (Date.serial_injective same) different
  · exact (later_comm_of_lt best after).symm

/-- Which entry is in effect does not depend on the order of the schedule. -/
theorem Reordered.entryOn?_eq (reordered : left.Reordered right) (date : Date) :
    left.entryOn? date = right.entryOn? date := by
  rcases reordered with rfl | ⟨permuted, distinct⟩
  · rfl
  · by_cases single : left.length = 1
    · rcases List.length_eq_one_iff.mp single with ⟨only, rfl⟩
      rw [List.singleton_perm.mp permuted]
    · have otherSingle : right.length ≠ 1 := permuted.length_eq ▸ single
      rw [entryOn?_of_length_ne_one single, entryOn?_of_length_ne_one otherSingle]
      -- Entries of the same date would not commute, but here they are one and the same.
      apply (permuted.filter _).foldl_eq'
      intro first member second otherMember best
      by_cases same : first.effective = second.effective
      · rw [List.inj_on_of_nodup_map distinct (List.mem_filter.mp member).1
          (List.mem_filter.mp otherMember).1 same]
      · exact later_comm best same

theorem Reordered.perm (reordered : left.Reordered right) : left.Perm right := by
  rcases reordered with rfl | ⟨permuted, -⟩
  · exact .refl _
  · exact permuted

theorem Reordered.boundedValueOn_eq (reordered : left.Reordered right) (kind : ScheduleKind)
    (limit : Nat) (date : Date) :
    left.boundedValueOn kind limit date = right.boundedValueOn kind limit date := by
  rw [boundedValueOn, boundedValueOn, reordered.entryOn?_eq]

end Schedule

namespace OperatorSchedule

structure Reordered (left right : OperatorSchedule) : Prop where
  bonds : left.bonds.Reordered right.bonds
  fees : left.fees.Reordered right.fees

variable {left right : OperatorSchedule}

theorem Reordered.share_eq (reordered : left.Reordered right) : left.share = right.share := by
  funext entry
  rw [share, share, reordered.bonds.boundedValueOn_eq, reordered.fees.boundedValueOn_eq]

theorem Reordered.missing?_eq (reordered : left.Reordered right) :
    left.missing? = right.missing? := by
  rw [missing?, missing?, reordered.bonds.perm.isEmpty_eq, reordered.fees.perm.isEmpty_eq]

end OperatorSchedule

/-! ### Validators -/

/-- The same entries in each series, in any order. -/
structure ValidatorIncome.Reordered (left right : ValidatorIncome) : Prop where
  index_eq : left.index = right.index
  consensus : Option.Rel List.Perm left.consensus right.consensus
  execution : left.execution.Perm right.execution
  withdrawals : left.withdrawals.Perm right.withdrawals

namespace Validator

inductive Reordered : Validator → Validator → Prop
  | plain {left right : ValidatorIncome} (income : left.Reordered right) :
      Reordered (.plain left) (.plain right)
  | pooled {left right : ValidatorIncome} {schedule other : OperatorSchedule}
      (income : left.Reordered right) (schedules : schedule.Reordered other) :
      Reordered (.pooled left schedule) (.pooled right other)

namespace Reordered

variable {request : Request} {left right : Validator}

theorem income (reordered : left.Reordered right) : left.income.Reordered right.income := by
  cases reordered with
  | plain income => exact income
  | pooled income schedules => exact income

theorem index_eq (reordered : left.Reordered right) : left.index = right.index :=
  reordered.income.index_eq

theorem missingSchedule?_eq (reordered : left.Reordered right) :
    left.missingSchedule? = right.missingSchedule? := by
  cases reordered with
  | plain income => rfl
  | pooled income schedules =>
      simp only [missingSchedule?, schedule?, Option.bind_eq_bind, Option.bind_some,
        schedules.missing?_eq, index, Validator.income, income.index_eq]

/-- What counts of an entry is the same, since only the entry in effect is asked of a schedule. -/
theorem countedPart_eq (reordered : left.Reordered right) :
    countedPart (request.splitting? left) = countedPart (request.splitting? right) := by
  cases reordered with
  | plain income => rfl
  | pooled income schedules =>
      simp only [Request.splitting?, schedule?]
      cases request.pooledColumns with
      | false => rfl
      | true =>
          funext entry
          exact congrFun schedules.share_eq entry

theorem consensusSource_perm (reordered : left.Reordered right) :
    (left.consensusSource request).Perm (right.consensusSource request) := by
  rw [consensusSource, consensusSource]
  cases request.withdrawalsAsConsensus with
  | true => exact reordered.income.withdrawals
  | false =>
      have related := reordered.income.consensus
      generalize left.income.consensus = entries at related ⊢
      generalize right.income.consensus = others at related ⊢
      cases related with
      | none => exact .refl _
      | some permuted => exact permuted

theorem countedEntries_perm (reordered : left.Reordered right) :
    (left.countedEntries request).Perm (right.countedEntries request) :=
  (reordered.consensusSource_perm.append reordered.income.execution).append
    reordered.income.withdrawals

theorem exists_figures_iff_right (reordered : left.Reordered right) :
    (∃ figures, left.figures request = .ok figures) ↔
      ∃ figures, right.figures request = .ok figures := by
  rw [exists_figures_iff, exists_figures_iff, isSome_eq_of_rel reordered.income.consensus,
    reordered.countedPart_eq]
  simp only [reordered.countedEntries_perm.mem_iff]

theorem countedOn_eq_of_perm (reordered : left.Reordered right) {entries others : List IncomeEntry}
    (permuted : entries.Perm others) (date : Date) :
    countedOn (request.splitting? left) entries date =
      countedOn (request.splitting? right) others date := by
  have same :
      countedAmount (request.splitting? left) = countedAmount (request.splitting? right) := by
    funext entry
    rw [countedAmount, countedAmount, reordered.countedPart_eq]
  rw [countedOn, countedOn, same]
  exact total_eq_of_perm ((permuted.filter _).map _)

theorem figuresOn_eq (reordered : left.Reordered right) (date : Date) :
    left.figuresOn request date = right.figuresOn request date := by
  rw [figuresOn, figuresOn, reordered.index_eq,
    reordered.countedOn_eq_of_perm reordered.consensusSource_perm,
    reordered.countedOn_eq_of_perm reordered.income.execution,
    reordered.countedOn_eq_of_perm reordered.income.withdrawals]

end Reordered

end Validator

/-! ### Sources -/

/-- The same members, in any order where the rows of a request are by date. -/
def Request.SameUpToOrder {α : Type} (request : Request) (left right : List α) : Prop :=
  if request.groupByDate then left.Perm right else left = right

namespace Request.SameUpToOrder

variable {α β : Type} {request : Request} {left right : List α}

theorem refl (values : List α) : request.SameUpToOrder values values := by
  rw [SameUpToOrder]
  split <;> rfl

theorem perm (same : request.SameUpToOrder left right) : left.Perm right := by
  rw [SameUpToOrder] at same
  split at same
  · exact same
  · exact same ▸ .refl _

/-- What keeps any other order of a list as the order of its result keeps sameness. -/
theorem transform {change : List α → List β}
    (keeps : ∀ {values others : List α}, values.Perm others → (change values).Perm (change others))
    (same : request.SameUpToOrder left right) :
    request.SameUpToOrder (change left) (change right) := by
  rw [SameUpToOrder] at same ⊢
  split
  · rw [if_pos ‹_›] at same
    exact keeps same
  · rw [if_neg ‹_›] at same
    rw [same]

theorem filter (same : request.SameUpToOrder left right) (keep : α → Bool) :
    request.SameUpToOrder (left.filter keep) (right.filter keep) :=
  same.transform fun permuted => permuted.filter keep

theorem map (same : request.SameUpToOrder left right) (image : α → β) :
    request.SameUpToOrder (left.map image) (right.map image) :=
  same.transform fun permuted => permuted.map image

end Request.SameUpToOrder

namespace Sources

/-- The same data with the entries of each list in any order. Validators and nodes keep their order
where they have rows of their own. -/
structure Reordered (request : Request) (left right : Sources) : Prop where
  validators : ∃ middle, request.SameUpToOrder left.income.validators middle ∧
    List.Forall₂ Validator.Reordered middle right.income.validators
  nodes : request.SameUpToOrder left.income.nodes right.income.nodes
  ethPrices : left.ethPrices.Reordered right.ethPrices
  rplPrices : Option.Rel PriceSeries.Reordered left.rplPrices right.rplPrices

variable {request : Request} {left right : Sources}

namespace Reordered

theorem selected (reordered : Reordered request left right) :
    ∃ middle, request.SameUpToOrder (left.selected request) middle ∧
      List.Forall₂ Validator.Reordered middle (right.selected request) := by
  rcases reordered.validators with ⟨middle, same, paired⟩
  exact ⟨_, same.filter _,
    request.forall₂_filter_selects (fun _ _ related => related.index_eq) paired⟩

theorem forall_selected_iff (reordered : Reordered request left right) {holds : Validator → Prop}
    (kept : ∀ validator other, validator.Reordered other → (holds validator ↔ holds other)) :
    (∀ validator ∈ left.selected request, holds validator) ↔
      ∀ validator ∈ right.selected request, holds validator := by
  rcases reordered.selected with ⟨middle, same, paired⟩
  simp only [same.perm.mem_iff]
  exact forall_mem_iff_of_forall₂ paired kept

/-! ### Checks -/

/-- A check objects to both or to neither, but what it names first may not be the same. -/
theorem complaint?_eq_none_iff (reordered : Reordered request left right) (check : Check) :
    left.complaint? request check = none ↔ right.complaint? request check = none := by
  cases check with
  | delimiter => exact Iff.rfl
  | span => exact Iff.rfl
  | rplPrices =>
      rw [complaint?, complaint?, Request.pricesConflict?, Request.pricesConflict?,
        ← Option.not_isSome, ← Option.not_isSome, isSome_eq_of_rel reordered.rplPrices]
  | schedules =>
      rw [complaint?_schedules_eq_none_iff, complaint?_schedules_eq_none_iff,
        reordered.forall_selected_iff fun _ _ related => by rw [related.missingSchedule?_eq]]
  | figures =>
      rw [complaint?_figures_eq_none_iff, complaint?_figures_eq_none_iff,
        reordered.forall_selected_iff fun _ _ related => related.exists_figures_iff_right]
  | ethDates =>
      rw [complaint?_ethDates_eq_none_iff, complaint?_ethDates_eq_none_iff]
      exact (reordered.ethPrices.entries_perm.map _).nodup_iff
  | rplDates =>
      rw [complaint?_rplDates_eq_none_iff, complaint?_rplDates_eq_none_iff]
      have related := reordered.rplPrices
      generalize left.rplPrices = series at related ⊢
      generalize right.rplPrices = other at related ⊢
      cases related with
      | none => exact Iff.rfl
      | some same =>
          simp only [Option.some.injEq, forall_eq', PriceSeries.dates,
            (same.entries_perm.map _).nodup_iff]

/-! ### Drafts -/

theorem figuresOn_sameUpToOrder (reordered : Reordered request left right) (date : Date) :
    request.SameUpToOrder (left.figuresOn request date) (right.figuresOn request date) := by
  rcases reordered.selected with ⟨middle, same, paired⟩
  have figures : middle.map (fun validator => validator.figuresOn request date) =
      right.figuresOn request date :=
    map_eq_map_iff_forall₂.mpr (paired.imp fun _ _ related => related.figuresOn_eq date)
  rw [← figures]
  exact same.map _

theorem nodesOn_sameUpToOrder (reordered : Reordered request left right) (date : Date) :
    request.SameUpToOrder (left.nodesOn request date) (right.nodesOn request date) := by
  rw [nodesOn, nodesOn]
  cases request.pooledColumns with
  | false => exact .refl _
  | true => exact reordered.nodes.filter _

theorem totalsOn_eq (reordered : Reordered request left right) (date : Date) :
    left.totalsOn request date = right.totalsOn request date := by
  have figures (amount : DayFigures → Nat) :=
    total_eq_of_perm ((reordered.figuresOn_sameUpToOrder date).perm.map amount)
  have nodes (amount : NodeIncome → Nat) :=
    total_eq_of_perm ((reordered.nodesOn_sameUpToOrder date).perm.map amount)
  simp only [totalsOn, figures, nodes]

theorem draftsOn_eq (reordered : Reordered request left right) (date : Date) :
    left.draftsOn request date = right.draftsOn request date := by
  cases grouped : request.groupByDate with
  | true =>
      rw [draftsOn, draftsOn, if_pos grouped, if_pos grouped,
        groupedDrafts_congr (reordered.totalsOn_eq date)]
  | false =>
      have figures := reordered.figuresOn_sameUpToOrder date
      have nodes := reordered.nodesOn_sameUpToOrder date
      rw [Request.SameUpToOrder, if_neg (by simp [grouped])] at figures nodes
      exact draftsOn_congr figures nodes

theorem lookAlike (reordered : Reordered request left right) : LookAlike request left right where
  drafts := reordered.draftsOn_eq
  ethPrices := reordered.ethPrices
  rplPrices := fun _ => reordered.rplPrices

theorem reportOf_eq (reordered : Reordered request left right) :
    left.reportOf request = right.reportOf request := by
  funext rows
  rw [reportOf, reportOf, reordered.ethPrices.currency_eq,
    map_eq_of_rel reordered.rplPrices fun _ _ related => related.currency_eq]

/-- Either both reports are made and are equal, or neither is made. -/
theorem report_eq_ok_iff_right (reordered : Reordered request left right) {report : Report} :
    left.report request = .ok report ↔ right.report request = .ok report := by
  have opens : left.openingFault? request = none ↔ right.openingFault? request = none := by
    simp only [openingFault?_eq_none_iff, reordered.complaint?_eq_none_iff]
  rw [report_eq_map, report_eq_map, reordered.reportOf_eq]
  cases found : left.openingFault? request with
  | none =>
      rw [reordered.lookAlike.reportRows_eq (found.trans (opens.mp found).symm)]
  | some fault =>
      have refused : right.openingFault? request ≠ none := by
        rw [Ne, ← opens, found]
        exact Option.some_ne_none fault
      rcases Option.ne_none_iff_exists'.mp refused with ⟨otherFault, otherFound⟩
      rw [reportRows_of_openingFault? found, reportRows_of_openingFault? otherFound]
      constructor <;> intro made <;> cases made

end Reordered

/-- A report does not depend on the order of the data that it is made from. -/
theorem report_of_reordered (reordered : Reordered request left right) :
    (∀ report, left.report request = .ok report ↔ right.report request = .ok report) ∧
      ∀ text, left.reportText request = .ok text ↔ right.reportText request = .ok text := by
  refine ⟨fun report => reordered.report_eq_ok_iff_right, ?_⟩
  intro text
  simp only [reportText_eq_map, Pass.map_eq_ok_iff, reordered.report_eq_ok_iff_right]

/-- A pool with two bonds, told in an order of its own. -/
def turnedPool (early late first second : Date) (turn : {α : Type} → List α → List α) : Sources :=
  { smallPool with
    income := {
      validators := turn [
        .plain (ValidatorIncome.new 7),
        .pooled { ValidatorIncome.new 8 with
          withdrawals := turn [⟨first, 1000⟩, ⟨second, 500⟩] } {
            bonds := turn [⟨early, 16 * weiPerEth⟩, ⟨late, 8 * weiPerEth⟩]
            fees := [⟨early, 14 * weiPerEth / 100⟩] }]
      nodes := turn smallPool.income.nodes } }

def turnedRequest : Request :=
  { poolRequest with groupByDate := true, withdrawalsAsConsensus := true }

theorem turnedPool_reordered {early late first second : Date} (distinct : early ≠ late) :
    Reordered turnedRequest (turnedPool early late first second id)
      (turnedPool early late first second List.reverse) := by
  refine ⟨⟨_, (List.reverse_perm _).symm, ?_⟩, (List.reverse_perm _).symm, .refl _,
    .some (.refl _)⟩
  refine .cons (.pooled ⟨rfl, .some (.refl _), .refl _, ?_⟩ ⟨.inr ⟨?_, ?_⟩, .inl rfl⟩)
    (.cons (.plain ⟨rfl, .some (.refl _), .refl _, .refl _⟩) .nil)
  · exact (List.reverse_perm _).symm
  · exact (List.reverse_perm _).symm
  · simpa using distinct

theorem turnedPool_report_of_reordered :
    let pool : ({α : Type} → List α → List α) → Sources :=
      turnedPool ⟨2023, 12, 30, by decide⟩ ⟨2023, 12, 31, by decide⟩ ⟨2024, 1, 1, by decide⟩
        ⟨2024, 1, 2, by decide⟩
    Reordered turnedRequest (pool id) (pool List.reverse) ∧
      ∃ report, (pool id).report turnedRequest = .ok report ∧
        (pool List.reverse).report turnedRequest = .ok report := by
  refine ⟨turnedPool_reordered (by decide), _, rfl, ?_⟩
  exact ((report_of_reordered (turnedPool_reordered (by decide))).1 _).mp rfl

end Sources

end StakingIncome
