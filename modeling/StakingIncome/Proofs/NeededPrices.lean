import StakingIncome.Proofs.Pricing

/-!
Which prices a report needs. Once its ledger is open, a report is made exactly when each date in its
span has the prices that the amounts shown for the date call for, and else it fails at the earliest
date without one of them.
-/

namespace StakingIncome

namespace Sources

/-- Whether a report has a row for a date. -/
def NeedsEthPrice (sources : Sources) (request : Request) (date : Date) : Prop :=
  if request.groupByDate then
    (sources.totalsOn request date).consensus ≠ 0 ∨ (sources.totalsOn request date).execution ≠ 0 ∨
      (request.withdrawalsColumn = true ∧ (sources.totalsOn request date).withdrawals ≠ 0) ∨
      (sources.totalsOn request date).smoothingPool ≠ 0 ∨ (sources.totalsOn request date).rpl ≠ 0
  else
    (∃ validator ∈ sources.selected request,
      (validator.figuresOn request date).consensus ≠ 0 ∨
        (validator.figuresOn request date).execution ≠ 0 ∨
        (request.withdrawalsColumn = true ∧
          (validator.figuresOn request date).withdrawals ≠ 0)) ∨
      (request.pooledColumns = true ∧ ∃ node ∈ sources.income.nodes, node.date = date)

/-- Whether a report has a row with RPL income for a date. -/
def NeedsRplPrice (sources : Sources) (request : Request) (date : Date) : Prop :=
  request.pooledColumns = true ∧
    if request.groupByDate then sources.NeedsEthPrice request date
    else ∃ node ∈ sources.income.nodes, node.date = date

/-- The fault of a date that lacks a price, the one of ETH before the one of RPL. -/
inductive MissingPrice (sources : Sources) (request : Request) (date : Date) : Fault → Prop
  | eth (needed : sources.NeedsEthPrice request date) (missing : date ∉ sources.ethPrices.dates) :
      MissingPrice sources request date (.priceNotFound sources.ethPrices.currency date)
  | rpl {series : PriceSeries} (needed : sources.NeedsRplPrice request date)
      (present : date ∈ sources.ethPrices.dates) (given : sources.rplPrices = some series)
      (missing : date ∉ series.dates) :
      MissingPrice sources request date (.priceNotFound series.currency date)

variable {sources : Sources} {request : Request} {date : Date} {fault : Fault}

theorem MissingPrice.unique {other : Fault} (left : sources.MissingPrice request date fault)
    (right : sources.MissingPrice request date other) : fault = other := by
  cases left with
  | eth _ missing =>
      cases right with
      | eth => rfl
      | rpl _ present => exact absurd present missing
  | rpl _ present given =>
      cases right with
      | eth _ missing => exact absurd present missing
      | rpl _ _ otherGiven =>
          rw [given, Option.some.injEq] at otherGiven
          rw [otherGiven]

/-! ### Needed prices and drafts -/

theorem needsEthPrice_iff :
    sources.NeedsEthPrice request date ↔ ∃ draft, draft ∈ sources.draftsOn request date := by
  rw [NeedsEthPrice, draftsOn]
  split
  · rw [← Ledger.DayTotals.hasIncome_iff, groupedDrafts]
    split <;> simp_all
  · simp only [separateDrafts, figuresOn, List.mem_append, List.mem_map, List.mem_filter,
      DayFigures.isShown_iff, mem_nodesOn]
    constructor
    · intro needed
      rcases needed with ⟨validator, member, shown⟩ | ⟨pooled, node, member, dated⟩
      · exact ⟨_, .inl ⟨_, ⟨⟨validator, member, rfl⟩, shown⟩, rfl⟩⟩
      · exact ⟨_, .inr ⟨node, ⟨pooled, member, dated⟩, rfl⟩⟩
    · intro drafted
      rcases drafted with
        ⟨_, ⟨_, ⟨⟨validator, member, rfl⟩, shown⟩, -⟩ | ⟨node, ⟨pooled, member, dated⟩, -⟩⟩
      · exact .inl ⟨validator, member, shown⟩
      · exact .inr ⟨pooled, node, member, dated⟩

theorem needsRplPrice_iff :
    sources.NeedsRplPrice request date ↔
      ∃ draft ∈ sources.draftsOn request date, draft.rpl.isSome = true := by
  rw [NeedsRplPrice]
  cases grouped : request.groupByDate with
  | true =>
      rw [if_pos rfl, needsEthPrice_iff, draftsOn, if_pos grouped, groupedDrafts]
      cases pooled : request.pooledColumns <;> split <;> simp [Ledger.DayTotals.draft, pooled]
  | false =>
      rw [if_neg (by simp), draftsOn, if_neg (by simp [grouped]), separateDrafts]
      constructor
      · intro needed
        rcases needed with ⟨pooled, node, member, dated⟩
        refine ⟨node.draft, List.mem_append.mpr (.inr ?_), rfl⟩
        exact List.mem_map_of_mem (mem_nodesOn.mpr ⟨pooled, member, dated⟩)
      · intro drafted
        rcases drafted with ⟨draft, member, shown⟩
        rcases List.mem_append.mp member with member | member
        · rcases List.mem_map.mp member with ⟨figures, -, rfl⟩
          cases shown
        · rcases List.mem_map.mp member with ⟨node, kept, rfl⟩
          rcases mem_nodesOn.mp kept with ⟨pooled, member, dated⟩
          exact ⟨pooled, node, member, dated⟩

theorem NeedsRplPrice.needsEthPrice (needed : sources.NeedsRplPrice request date) :
    sources.NeedsEthPrice request date := by
  rcases needsRplPrice_iff.mp needed with ⟨draft, member, -⟩
  exact needsEthPrice_iff.mpr ⟨draft, member⟩

end Sources

namespace Ledger.Opened

variable {sources : Sources} {request : Request} {ledger : Ledger} {fault : Fault}

/-- What an open ledger fails with when it prices a draft of a date. -/
theorem price_eq_error_iff (opened : Opened sources request ledger) {date : Date} {draft : Draft}
    (member : draft ∈ sources.draftsOn request date) :
    ledger.price draft = .error fault ↔
      (date ∉ sources.ethPrices.dates ∧
        fault = .priceNotFound sources.ethPrices.currency date) ∨
      (date ∈ sources.ethPrices.dates ∧ draft.rpl.isSome = true ∧
        ∃ series, sources.rplPrices = some series ∧ date ∉ series.dates ∧
          fault = .priceNotFound series.currency date) := by
  have pooled := Sources.pooledColumns_of_mem_draftsOn member
  rw [price, Pass.bind_eq_error_iff, PriceSeries.priceOn_index_eq_error_iff opened.ethIndex,
    Sources.date_of_mem_draftsOn member, ← PriceSeries.exists_priceOn_index_iff opened.ethIndex]
  apply or_congr Iff.rfl
  cases shown : draft.rpl with
  | none => simp [pure, Except.pure]
  | some amount =>
      rcases opened.rplPrices_of_pooled (pooled (by simp [shown])) with
        ⟨series, index, given, indexed, kept⟩
      simp only [kept, given, Pass.bind_eq_error_iff, Option.some.injEq, exists_eq_left',
        PriceSeries.priceOn_index_eq_error_iff indexed]
      simp [pure, Except.pure]

/-- A draft of a date fails exactly with the fault of the date. -/
theorem missingPrice_iff (opened : Opened sources request ledger) {date : Date} :
    sources.MissingPrice request date fault ↔
      ∃ draft ∈ sources.draftsOn request date, ledger.price draft = .error fault := by
  constructor
  · intro lacking
    cases lacking with
    | eth needed missing =>
        rcases Sources.needsEthPrice_iff.mp needed with ⟨draft, member⟩
        exact ⟨draft, member, (opened.price_eq_error_iff member).mpr (.inl ⟨missing, rfl⟩)⟩
    | rpl needed present given missing =>
        rcases Sources.needsRplPrice_iff.mp needed with ⟨draft, member, shown⟩
        exact ⟨draft, member, (opened.price_eq_error_iff member).mpr
          (.inr ⟨present, shown, _, given, missing, rfl⟩)⟩
  · intro failing
    rcases failing with ⟨draft, member, failed⟩
    rcases (opened.price_eq_error_iff member).mp failed with
      ⟨missing, rfl⟩ | ⟨present, shown, series, given, missing, rfl⟩
    · exact .eth (Sources.needsEthPrice_iff.mpr ⟨draft, member⟩) missing
    · exact .rpl (Sources.needsRplPrice_iff.mpr ⟨draft, member, shown⟩) present given missing

theorem exists_rows_iff (opened : Opened sources request ledger) :
    (∃ rows, ledger.rows = .ok rows) ↔
      ∀ date, request.covers date = true → ∀ fault, ¬sources.MissingPrice request date fault := by
  rw [opened.rows_eq, Pass.exists_mapM_eq_ok_iff]
  constructor
  · intro priced date covered fault missing
    rcases opened.missingPrice_iff.mp missing with ⟨draft, member, failed⟩
    rcases Sources.date_of_mem_draftsOn member with rfl
    rcases priced draft (Sources.mem_drafts.mpr ⟨covered, member⟩) with ⟨row, found⟩
    rw [failed] at found
    cases found
  · intro complete draft member
    rcases Pass.exists_ok_or_error (ledger.price draft) with priced | ⟨fault, failed⟩
    · exact priced
    · rcases Sources.mem_drafts.mp member with ⟨covered, member⟩
      exact absurd (opened.missingPrice_iff.mpr ⟨draft, member, failed⟩)
        (complete draft.date covered fault)

end Ledger.Opened

namespace Sources

variable {sources : Sources} {request : Request} {ledger : Ledger} {fault : Fault}

/-- The fault of the earliest date in the span that lacks a price. -/
def EarliestMissingPrice (sources : Sources) (request : Request) (fault : Fault) : Prop :=
  ∃ date, request.covers date = true ∧ sources.MissingPrice request date fault ∧
    ∀ earlier, earlier < date → request.covers earlier = true →
      ∀ other, ¬sources.MissingPrice request earlier other

theorem EarliestMissingPrice.unique {other : Fault}
    (left : sources.EarliestMissingPrice request fault)
    (right : sources.EarliestMissingPrice request other) : fault = other := by
  rcases left with ⟨date, covered, missing, earliest⟩
  rcases right with ⟨otherDate, otherCovered, otherMissing, otherEarliest⟩
  have same : date = otherDate := by
    apply Date.serial_injective
    have notEarlier : ¬otherDate < date := fun ascending =>
      earliest otherDate ascending otherCovered _ otherMissing
    have notLater : ¬date < otherDate := fun ascending =>
      otherEarliest date ascending covered _ missing
    rw [Date.lt_def] at notEarlier notLater
    omega
  subst same
  exact missing.unique otherMissing

end Sources

namespace Ledger.Opened

variable {sources : Sources} {request : Request} {ledger : Ledger} {fault : Fault}

theorem earliestMissingPrice_of_rows (opened : Opened sources request ledger)
    (failed : ledger.rows = .error fault) : sources.EarliestMissingPrice request fault := by
  rw [opened.rows_eq, Pass.mapM_eq_error_iff] at failed
  rcases failed with ⟨before, draft, after, split, priced, failed⟩
  have member : draft ∈ sources.drafts request := by simp [split]
  rcases Sources.mem_drafts.mp member with ⟨covered, onDate⟩
  refine ⟨draft.date, covered, opened.missingPrice_iff.mpr ⟨draft, onDate, failed⟩, ?_⟩
  intro earlier ascending earlierCovered other missing
  rcases opened.missingPrice_iff.mp missing with ⟨otherDraft, otherOnDate, otherFailed⟩
  rcases Sources.date_of_mem_draftsOn otherOnDate with rfl
  -- drafts come in the order of their dates, so the other one has already been priced
  have otherMember := Sources.mem_drafts.mpr ⟨earlierCovered, otherOnDate⟩
  have sorted := Sources.drafts_pairwise_le sources request
  rw [split] at otherMember sorted
  rcases List.mem_append.mp otherMember with passed | remaining
  · rcases priced otherDraft passed with ⟨row, found⟩
    rw [otherFailed] at found
    cases found
  · have laterOrEqual : draft.date ≤ otherDraft.date := by
      rcases List.mem_cons.mp remaining with rfl | remaining
      · exact Int.le_refl _
      · exact (List.pairwise_cons.mp (List.pairwise_append.mp sorted).2.1).1 _ remaining
    rw [Date.lt_def] at ascending
    rw [Date.le_def] at laterOrEqual
    omega

/-- A report of an open ledger fails with the fault of the earliest date that lacks a price. -/
theorem rows_eq_error_iff (opened : Opened sources request ledger) :
    ledger.rows = .error fault ↔ sources.EarliestMissingPrice request fault := by
  constructor
  · exact opened.earliestMissingPrice_of_rows
  · intro earliest
    rcases Pass.exists_ok_or_error ledger.rows with made | ⟨other, failed⟩
    · rcases earliest with ⟨date, covered, missing, -⟩
      exact absurd missing (opened.exists_rows_iff.mp made date covered fault)
    · rw [failed, (opened.earliestMissingPrice_of_rows failed).unique earliest]

theorem no_missingPrice_iff (opened : Opened sources request ledger) {date : Date} :
    (∀ fault, ¬sources.MissingPrice request date fault) ↔
      (sources.NeedsEthPrice request date → date ∈ sources.ethPrices.dates) ∧
        (sources.NeedsRplPrice request date →
          ∃ series, sources.rplPrices = some series ∧ date ∈ series.dates) := by
  constructor
  · intro complete
    have ethPresent (needed : sources.NeedsEthPrice request date) :
        date ∈ sources.ethPrices.dates :=
      Classical.byContradiction fun missing => complete _ (.eth needed missing)
    refine ⟨ethPresent, ?_⟩
    intro needed
    rcases opened.rplPrices_of_pooled needed.1 with ⟨series, index, given, -⟩
    refine ⟨series, given, Classical.byContradiction fun missing => ?_⟩
    exact complete _ (.rpl needed (ethPresent needed.needsEthPrice) given missing)
  · intro complete fault lacking
    cases lacking with
    | eth needed missing => exact missing (complete.1 needed)
    | rpl needed _ given missing =>
        rcases complete.2 needed with ⟨series, otherGiven, present⟩
        rw [given, Option.some.injEq] at otherGiven
        subst otherGiven
        exact missing present

end Ledger.Opened

namespace Sources

variable {sources : Sources} {request : Request}

/-- Whether a report fails depends on the opening of its ledger and on missing prices only. -/
theorem report_eq_error_iff_missing {fault : Fault} :
    sources.report request = .error fault ↔
      sources.ledger request = .error fault ∨
        (∃ ledger, Ledger.Opened sources request ledger) ∧
          sources.EarliestMissingPrice request fault := by
  rw [report_eq_error_iff]
  apply or_congr Iff.rfl
  constructor
  · intro failed
    rcases failed with ⟨ledger, opened, failed⟩
    exact ⟨⟨ledger, opened⟩, opened.rows_eq_error_iff.mp failed⟩
  · intro failed
    rcases failed with ⟨⟨ledger, opened⟩, earliest⟩
    exact ⟨ledger, opened, opened.rows_eq_error_iff.mpr earliest⟩

/-- Exactly the needed prices are required of a report whose ledger can be opened. Without one of
them it fails at the earliest date that lacks one. -/
theorem report_requires_needed_prices
    (opens : ∃ ledger, sources.ledger request = .ok ledger) :
    ((∃ report, sources.report request = .ok report) ↔
      ∀ date, request.covers date = true →
        (sources.NeedsEthPrice request date → date ∈ sources.ethPrices.dates) ∧
          (sources.NeedsRplPrice request date →
            ∃ series, sources.rplPrices = some series ∧ date ∈ series.dates)) ∧
      ∀ fault, sources.report request = .error fault ↔
        sources.EarliestMissingPrice request fault := by
  rcases opens with ⟨ledger, made⟩
  have opened := ledger_eq_ok_iff.mp made
  rw [report_eq_of_opened opened]
  constructor
  · simp only [← opened.no_missingPrice_iff, ← opened.exists_rows_iff, Pass.map_eq_ok_iff]
    constructor
    · intro made
      rcases made with ⟨report, rows, priced, -⟩
      exact ⟨rows, priced⟩
    · intro made
      rcases made with ⟨rows, priced⟩
      exact ⟨_, rows, priced, rfl⟩
  · intro fault
    rw [Pass.map_eq_error_iff, opened.rows_eq_error_iff]

/-- Node income of a date without a price of RPL, although none of it is other than zero. -/
theorem smallPool_lacks_rplPrice :
    let sources : Sources := { smallPool with
      rplPrices := some { currency := "USD", entries := [⟨⟨2024, 1, 1, by decide⟩, 20⟩] } }
    (∃ ledger, sources.ledger poolRequest = .ok ledger) ∧
      sources.EarliestMissingPrice poolRequest (.priceNotFound "USD" ⟨2024, 1, 2, by decide⟩) := by
  refine ⟨⟨_, rfl⟩, ?_⟩
  exact ((report_requires_needed_prices ⟨_, rfl⟩).2 _).mp rfl

end Sources

end StakingIncome
