import StakingIncome.Proofs.LookAlike

/-!
Runs of different requests. Two runs that look prices up in the same series price drafts alike, so
their reports differ no more than what their checks find and the drafts that they come to.
-/

namespace StakingIncome

/-- Runs over the same series of prices. -/
structure SamePrices (left right : Sources) (request other : Request) : Prop where
  ethPrices_eq : left.ethPrices = right.ethPrices
  rplIndex_eq : left.rplIndex request = right.rplIndex other

section Runs

variable {left right : Sources} {request other : Request}

theorem SamePrices.price_eq (prices : SamePrices left right request other)
    {ledger otherLedger : Ledger} (opened : ledger.Opened left request)
    (otherOpened : otherLedger.Opened right other) : ledger.price = otherLedger.price := by
  have ethPrices : ledger.ethPrices = otherLedger.ethPrices := by
    have indexed := opened.ethIndex
    rw [prices.ethPrices_eq, otherOpened.ethIndex] at indexed
    exact (Except.ok.inj indexed).symm
  have rplPrices : ledger.rplPrices = otherLedger.rplPrices := by
    have indexed := opened.rplIndex
    rw [prices.rplIndex_eq, otherOpened.rplIndex] at indexed
    exact (Except.ok.inj indexed).symm
  exact Ledger.price_eq_of_priceOn (congrArg _ ethPrices) (congrArg _ rplPrices)

namespace Sources

/-- A change of the drafts that prices have no part in is the same change of the rows. -/
theorem reportRows_eq_map (prices : SamePrices left right request other)
    (opening : left.openingFault? request = right.openingFault? other)
    {draftImage : Draft → Draft} {rowImage : Row → Row}
    (drafts : right.drafts other = (left.drafts request).map draftImage)
    (priced : ∀ (ledger : Ledger) (draft : Draft),
      ledger.price (draftImage draft) = rowImage <$> ledger.price draft) :
    right.reportRows other = List.map rowImage <$> left.reportRows request := by
  cases found : left.openingFault? request with
  | some fault =>
      rw [reportRows_of_openingFault? found, reportRows_of_openingFault? (opening ▸ found)]
      rfl
  | none =>
      rcases exists_opened_iff.mpr found with ⟨ledger, opened⟩
      rcases exists_opened_iff.mpr (opening ▸ found) with ⟨otherLedger, otherOpened⟩
      have images : ledger.price ∘ draftImage = fun draft => rowImage <$> ledger.price draft :=
        funext (priced ledger)
      rw [reportRows_of_opened opened, reportRows_of_opened otherOpened, opened.rows_eq,
        otherOpened.rows_eq, ← prices.price_eq opened otherOpened, drafts, List.mapM_map, images,
        Pass.mapM_image]

theorem reportRows_eq_of_drafts (prices : SamePrices left right request other)
    (opening : left.openingFault? request = right.openingFault? other)
    (drafts : left.drafts request = right.drafts other) :
    left.reportRows request = right.reportRows other := by
  have unchanged (ledger : Ledger) (draft : Draft) :
      ledger.price (id draft) = id <$> ledger.price draft := by simp
  simpa using (reportRows_eq_map prices opening (by simp [drafts]) unchanged).symm

end Sources

end Runs

/-! ### Spans -/

namespace Request

variable {request : Request}

theorem spanConflict?_eq_none_iff :
    request.spanConflict? = none ↔
      ∀ span, request.span = some span → span.start ≤ span.finish := by
  rw [Option.eq_none_iff_forall_ne_some]
  constructor
  · intro silent span given
    apply Int.not_lt.mp
    intro reversed
    exact silent _ (spanConflict?_eq_some_iff.mpr ⟨span, given, reversed, rfl⟩)
  · intro ordered conflict found
    rcases spanConflict?_eq_some_iff.mp found with ⟨span, given, reversed, -⟩
    exact Int.not_lt.mpr (ordered span given) reversed

theorem eq_of_span (whole : request.span = none) : { request with span := none } = request := by
  rw [← whole]

end Request

namespace Sources

variable {sources : Sources} {request : Request} {span : DateSpan}

/-- No check objects to a span that is in order, and none of the others looks at it. -/
theorem openingFault?_of_span (ordered : span.start ≤ span.finish) :
    sources.openingFault? { request with span := some span } =
      sources.openingFault? { request with span := none } := by
  apply openingFault?_congr
  intro check
  cases check with
  | span =>
      have silent : { request with span := some span }.spanConflict? = none := by
        apply Request.spanConflict?_eq_none_iff.mpr
        intro given same
        cases same
        exact ordered
      rw [complaint?, silent]
      rfl
  | _ => rfl

/-- A span leaves out the drafts of other dates and changes none. -/
theorem drafts_of_span (sources : Sources) (request : Request) (span : DateSpan) :
    sources.drafts { request with span := some span } =
      (sources.drafts { request with span := none }).filter fun draft =>
        span.contains draft.date := by
  apply drafts_eq_filter
  intro date
  rw [filter_date_coveredDrafts]
  rfl

end Sources

end StakingIncome
