import Mathlib.Data.List.Nodup
import StakingIncome.Price
import StakingIncome.Proofs.Passes
import Std.Data.TreeMap.Lemmas

/-!
An index of prices against the series that it is made from. A series has an index unless a date
comes twice, and then the index finds the prices of the series and no others.
-/

namespace StakingIncome

namespace PriceIndex

/-- An index holds the entries of a series that have been added so far. -/
structure Holds (index : PriceIndex) (currency : String) (added : List PriceEntry) : Prop where
  currency_eq : index.currency = currency
  dates_nodup : (added.map (·.date)).Nodup
  prices_iff : ∀ date price, index.prices[date]? = some price ↔ ⟨date, price⟩ ∈ added

variable {index next : PriceIndex} {currency : String} {added : List PriceEntry}

theorem holds_empty (currency : String) : (empty currency).Holds currency [] where
  currency_eq := rfl
  dates_nodup := List.nodup_nil
  prices_iff := by simp [empty]

namespace Holds

theorem contains_iff (holds : index.Holds currency added) {date : Date} :
    index.prices.contains date = true ↔ date ∈ added.map (·.date) := by
  rw [Std.TreeMap.contains_eq_isSome_getElem?, Option.isSome_iff_exists]
  constructor
  · intro found
    rcases found with ⟨price, found⟩
    exact List.mem_map.mpr ⟨⟨date, price⟩, (holds.prices_iff date price).mp found, rfl⟩
  · intro dated
    rcases List.mem_map.mp dated with ⟨entry, member, rfl⟩
    exact ⟨entry.price, (holds.prices_iff _ _).mpr member⟩

theorem add_eq_error_iff (holds : index.Holds currency added) {entry : PriceEntry}
    {fault : Fault} :
    index.add entry = .error fault ↔
      entry.date ∈ added.map (·.date) ∧ fault = .duplicatePrice currency entry.date := by
  rw [← holds.contains_iff, ← holds.currency_eq, add]
  cases index.prices.contains entry.date <;> simp [eq_comm]

theorem add_eq_ok (holds : index.Holds currency added) {entry : PriceEntry}
    (accepted : index.add entry = .ok next) : next.Holds currency (added ++ [entry]) := by
  have fresh : entry.date ∉ added.map (·.date) := by
    intro member
    have refused := holds.add_eq_error_iff.mpr ⟨member, rfl⟩
    rw [accepted] at refused
    cases refused
  have absent := mt holds.contains_iff.mp fresh
  simp only [add, absent, Bool.false_eq_true, ite_false, Except.ok.injEq] at accepted
  subst accepted
  refine ⟨holds.currency_eq, ?_, ?_⟩
  · rw [List.map_append, List.nodup_append]
    refine ⟨holds.dates_nodup, by simp, ?_⟩
    intro date member other otherMember same
    simp only [List.map_cons, List.map_nil, List.mem_singleton] at otherMember
    exact fresh (otherMember ▸ same ▸ member)
  · intro date price
    rw [Std.TreeMap.getElem?_insert, List.mem_append, List.mem_singleton]
    by_cases same : entry.date = date
    · subst same
      have notAdded : (⟨entry.date, price⟩ : PriceEntry) ∉ added :=
        fun member => fresh (List.mem_map.mpr ⟨_, member, rfl⟩)
      rcases entry with ⟨date, other⟩
      simp [notAdded, eq_comm]
    · have different : (⟨date, price⟩ : PriceEntry) ≠ entry := by
        rintro rfl
        exact same rfl
      simp [same, different, holds.prices_iff date price]

/-- What one entry keeps, all of them keep. -/
theorem foldlM_add_eq_ok {entries : List PriceEntry} (holds : index.Holds currency added)
    (accepted : entries.foldlM add index = .ok next) :
    next.Holds currency (added ++ entries) := by
  induction entries generalizing index added with
  | nil =>
      cases accepted
      simpa using holds
  | cons entry rest induction =>
      rw [List.foldlM_cons] at accepted
      rcases Pass.bind_eq_ok_iff.mp accepted with ⟨middle, first, remaining⟩
      simpa using induction (holds.add_eq_ok first) remaining

/-- The fault is about the first entry whose date was there before. -/
theorem foldlM_add_eq_error_iff {entries : List PriceEntry} (holds : index.Holds currency added)
    {fault : Fault} :
    entries.foldlM add index = .error fault ↔
      ∃ before entry after, entries = before ++ entry :: after ∧
        ((added ++ before).map (·.date)).Nodup ∧ entry.date ∈ (added ++ before).map (·.date) ∧
        fault = .duplicatePrice currency entry.date := by
  induction entries generalizing index added with
  | nil => simp [pure, Except.pure]
  | cons entry rest induction =>
      rw [List.foldlM_cons, Pass.bind_eq_error_iff, holds.add_eq_error_iff]
      constructor
      · intro failed
        rcases failed with ⟨member, rfl⟩ | ⟨middle, first, failed⟩
        · exact ⟨[], entry, rest, rfl, by simpa using holds.dates_nodup, by simpa using member, rfl⟩
        · rcases (induction (holds.add_eq_ok first)).mp failed with
            ⟨before, other, after, rfl, nodup, member, rfl⟩
          exact ⟨entry :: before, other, after, rfl, by simpa using nodup, by simpa using member,
            rfl⟩
      · intro repeated
        rcases repeated with ⟨before, other, after, split, nodup, member, rfl⟩
        cases before with
        | nil =>
            rcases List.cons.inj split with ⟨rfl, rfl⟩
            exact .inl ⟨by simpa using member, rfl⟩
        | cons head before =>
            rcases List.cons.inj split with ⟨rfl, rfl⟩
            rcases Pass.exists_ok_or_error (index.add entry) with ⟨middle, first⟩ | ⟨fault, refused⟩
            · refine .inr ⟨middle, first, (induction (holds.add_eq_ok first)).mpr ?_⟩
              exact ⟨before, other, after, rfl, by simpa using nodup, by simpa using member, rfl⟩
            · exfalso
              have again := (holds.add_eq_error_iff.mp refused).1
              rw [List.map_append, List.nodup_append] at nodup
              exact nodup.2.2 _ again _ List.mem_cons_self rfl

end Holds

theorem priceOn_eq_error_iff {date : Date} {fault : Fault} :
    index.priceOn date = .error fault ↔
      index.prices[date]? = none ∧ fault = .priceNotFound index.currency date := by
  rw [priceOn]
  cases index.prices[date]? <;> simp [eq_comm]

theorem priceOn_eq_ok_iff {date : Date} {price : Float} :
    index.priceOn date = .ok price ↔ index.prices[date]? = some price := by
  rw [priceOn]
  cases index.prices[date]? <;> simp

end PriceIndex

namespace PriceSeries

/-- The dates that a series has a price for. -/
def dates (series : PriceSeries) : List Date :=
  series.entries.map (·.date)

/-- The first price of a series for a date, zero where it has none. -/
def priceOf (series : PriceSeries) (date : Date) : Float :=
  ((series.entries.find? fun entry => decide (entry.date = date)).map (·.price)).getD 0

variable {series : PriceSeries} {index : PriceIndex}

theorem mem_entries_of_mem_dates {date : Date} (dated : date ∈ series.dates) :
    ⟨date, series.priceOf date⟩ ∈ series.entries := by
  rcases List.mem_map.mp dated with ⟨entry, member, rfl⟩
  cases found : series.entries.find? fun other => decide (other.date = entry.date) with
  | none =>
      have missing := List.find?_eq_none.mp found entry member
      simp at missing
  | some first =>
      have same : first.date = entry.date := by simpa using List.find?_some found
      have firstMember := List.mem_of_find?_eq_some found
      rw [priceOf, found, ← same]
      exact firstMember

theorem holds_of_index (indexed : series.index = .ok index) :
    index.Holds series.currency series.entries := by
  simpa using (PriceIndex.holds_empty series.currency).foldlM_add_eq_ok indexed

theorem index_eq_error_iff {fault : Fault} :
    series.index = .error fault ↔
      ∃ before entry after, series.entries = before ++ entry :: after ∧
        (before.map (·.date)).Nodup ∧ entry.date ∈ before.map (·.date) ∧
        fault = .duplicatePrice series.currency entry.date := by
  simpa [index] using (PriceIndex.holds_empty series.currency).foldlM_add_eq_error_iff

theorem exists_index_iff : (∃ index, series.index = .ok index) ↔ series.dates.Nodup := by
  constructor
  · intro indexed
    rcases indexed with ⟨index, indexed⟩
    exact (holds_of_index indexed).dates_nodup
  · intro distinct
    apply Pass.exists_ok_iff_forall_ne_error.mpr
    intro fault failed
    rcases index_eq_error_iff.mp failed with ⟨before, entry, after, entries, -, again, -⟩
    rw [dates, entries, List.map_append, List.nodup_append] at distinct
    exact distinct.2.2 _ again _ List.mem_cons_self rfl

theorem priceOn_index_eq_ok_iff (indexed : series.index = .ok index) {date : Date}
    {price : Float} :
    index.priceOn date = .ok price ↔ ⟨date, price⟩ ∈ series.entries := by
  rw [PriceIndex.priceOn_eq_ok_iff, (holds_of_index indexed).prices_iff]

theorem priceOf_of_priceOn (indexed : series.index = .ok index) {date : Date} {price : Float}
    (found : index.priceOn date = .ok price) : price = series.priceOf date := by
  have member := (priceOn_index_eq_ok_iff indexed).mp found
  have dated : date ∈ series.dates := List.mem_map.mpr ⟨_, member, rfl⟩
  have again := (priceOn_index_eq_ok_iff indexed).mpr (mem_entries_of_mem_dates dated)
  rw [found] at again
  exact Except.ok.inj again

theorem exists_priceOn_index_iff (indexed : series.index = .ok index) {date : Date} :
    (∃ price, index.priceOn date = .ok price) ↔ date ∈ series.dates := by
  simp only [priceOn_index_eq_ok_iff indexed]
  constructor
  · intro found
    rcases found with ⟨price, member⟩
    exact List.mem_map.mpr ⟨_, member, rfl⟩
  · intro dated
    exact ⟨_, mem_entries_of_mem_dates dated⟩

theorem priceOn_index_eq_error_iff (indexed : series.index = .ok index) {date : Date}
    {fault : Fault} :
    index.priceOn date = .error fault ↔
      date ∉ series.dates ∧ fault = .priceNotFound series.currency date := by
  have holds := holds_of_index indexed
  rw [PriceIndex.priceOn_eq_error_iff, holds.currency_eq, dates, ← holds.contains_iff,
    Std.TreeMap.contains_eq_isSome_getElem?]
  cases index.prices[date]? <;> simp

/-! ### Dates that come twice -/

/-- The entry at a position has a date that an entry before it has. -/
def RepeatsAt (series : PriceSeries) (position : Nat) (entry : PriceEntry) : Prop :=
  series.entries[position]? = some entry ∧
    ∃ earlier ∈ series.entries.take position, earlier.date = entry.date

/-- The first entry whose date there was before. -/
structure FirstRepeat (series : PriceSeries) (position : Nat) (entry : PriceEntry) : Prop where
  repeats : series.RepeatsAt position entry
  first : ∀ sooner < position, ∀ other, ¬series.RepeatsAt sooner other

theorem nodup_iff_forall_not_repeatsAt :
    series.dates.Nodup ↔ ∀ position entry, ¬series.RepeatsAt position entry := by
  rw [dates, List.nodup_iff_getElem?_ne_getElem?]
  constructor
  · rintro distinct position entry ⟨found, earlier, taken, same⟩
    rcases List.mem_take_iff_getElem.mp taken with ⟨place, inside, rfl⟩
    rcases List.getElem?_eq_some_iff.mp found with ⟨within, rfl⟩
    rcases Nat.lt_min.mp inside with ⟨before, placed⟩
    refine distinct place position before (by simpa using within) ?_
    simpa [List.getElem?_map, within, placed] using same
  · intro unrepeated place position before within same
    rw [List.length_map] at within
    have placed := Nat.lt_trans before within
    refine unrepeated position series.entries[position]
      ⟨List.getElem?_eq_getElem within, series.entries[place], ?_, ?_⟩
    · exact List.mem_take_iff_getElem.mpr ⟨place, Nat.lt_min.mpr ⟨before, placed⟩, rfl⟩
    · simpa [List.getElem?_map, within, placed] using same

theorem firstRepeat_iff {position : Nat} {entry : PriceEntry} :
    series.FirstRepeat position entry ↔
      ∃ before after, series.entries = before ++ entry :: after ∧ before.length = position ∧
        (before.map (·.date)).Nodup ∧ entry.date ∈ before.map (·.date) := by
  constructor
  · rintro ⟨⟨found, again⟩, first⟩
    rcases List.getElem?_eq_some_iff.mp found with ⟨within, rfl⟩
    refine ⟨series.entries.take position, series.entries.drop (position + 1), ?_,
      List.length_take_of_le (Nat.le_of_lt within), ?_, List.mem_map.mpr again⟩
    · rw [← List.drop_eq_getElem_cons within, List.take_append_drop]
    · -- Up to the position the dates are those of a shorter series, in which none repeats.
      let shorter : PriceSeries := { series with entries := series.entries.take position }
      change shorter.dates.Nodup
      rw [nodup_iff_forall_not_repeatsAt]
      rintro sooner other ⟨foundSooner, againSooner⟩
      have before : sooner < position := by
        have inside := (List.getElem?_eq_some_iff.mp foundSooner).1
        exact Nat.lt_of_lt_of_le inside (List.length_take_le _ _)
      refine first sooner before other ⟨?_, ?_⟩
      · rwa [List.getElem?_take_of_lt before] at foundSooner
      · rwa [List.take_take, Nat.min_eq_left (Nat.le_of_lt before)] at againSooner
  · rintro ⟨before, after, entries, rfl, distinct, again⟩
    refine ⟨⟨?_, ?_⟩, ?_⟩
    · rw [entries, List.getElem?_append_right (Nat.le_refl _), Nat.sub_self]
      rfl
    · rw [entries, List.take_left]
      exact List.mem_map.mp again
    · rintro sooner inside other ⟨foundSooner, againSooner⟩
      let shorter : PriceSeries := { series with entries := before }
      change shorter.dates.Nodup at distinct
      refine nodup_iff_forall_not_repeatsAt.mp distinct sooner other ⟨?_, ?_⟩
      · rwa [entries, List.getElem?_append_left inside] at foundSooner
      · rwa [entries, List.take_append_of_le_length (Nat.le_of_lt inside)] at againSooner

theorem index_eq_error_iff_firstRepeat {fault : Fault} :
    series.index = .error fault ↔ ∃ position entry, series.FirstRepeat position entry ∧
      fault = .duplicatePrice series.currency entry.date := by
  simp only [index_eq_error_iff, firstRepeat_iff]
  constructor
  · rintro ⟨before, entry, after, entries, distinct, again, rfl⟩
    exact ⟨before.length, entry, ⟨before, after, entries, rfl, distinct, again⟩, rfl⟩
  · rintro ⟨_, entry, ⟨before, after, entries, rfl, distinct, again⟩, rfl⟩
    exact ⟨before, entry, after, entries, distinct, again, rfl⟩

theorem exists_index_error_iff : (∃ fault, series.index = .error fault) ↔ ¬series.dates.Nodup := by
  rw [← exists_index_iff]
  cases series.index <;> simp

/-- A series has an index unless two of its entries share a date, whatever their prices and their
order are. Then the fault names the date of the first entry that comes after another one for its
date. The index finds the prices of the series, each on its date, and no others. -/
theorem index_faithful (series : PriceSeries) :
    ((∃ fault, series.index = .error fault) ↔
        ∃ position entry, series.RepeatsAt position entry) ∧
      (∀ fault, series.index = .error fault ↔ ∃ position entry,
        series.FirstRepeat position entry ∧
          fault = .duplicatePrice series.currency entry.date) ∧
      (∀ index, series.index = .ok index → ∀ date,
        (∀ price, index.priceOn date = .ok price ↔ ⟨date, price⟩ ∈ series.entries) ∧
          ∀ fault, index.priceOn date = .error fault ↔
            (∀ entry ∈ series.entries, entry.date ≠ date) ∧
              fault = .priceNotFound series.currency date) ∧
      ∀ other : PriceSeries, other.dates.Perm series.dates →
        ((∃ fault, other.index = .error fault) ↔ ∃ fault, series.index = .error fault) := by
  refine ⟨?_, fun fault => index_eq_error_iff_firstRepeat, ?_, ?_⟩
  · rw [exists_index_error_iff, nodup_iff_forall_not_repeatsAt]
    simp only [not_forall, not_not]
  · intro index indexed date
    refine ⟨fun price => priceOn_index_eq_ok_iff indexed, ?_⟩
    intro fault
    rw [priceOn_index_eq_error_iff indexed, dates, List.mem_map]
    simp only [not_exists, not_and, ne_eq]
  · intro other sameDates
    rw [exists_index_error_iff, exists_index_error_iff, sameDates.nodup_iff]

/-- Two dates that come twice each, the later one of them first. -/
def tiedPrices (early late : Date) : PriceSeries where
  currency := "EUR"
  entries := [⟨late, 3⟩, ⟨early, 1⟩, ⟨late, 2⟩, ⟨early, 1⟩]

theorem tiedPrices_index_faithful :
    let early : Date := ⟨2023, 1, 1, by decide⟩
    let late : Date := ⟨2023, 1, 2, by decide⟩
    let next : Date := ⟨2023, 1, 3, by decide⟩
    let tied := tiedPrices early late
    let turned : PriceSeries := { currency := "USD", entries := tied.entries.reverse }
    let untied : PriceSeries := { tied with entries := tied.entries.take 2 }
    tied.index = .error (.duplicatePrice "EUR" late) ∧ (∃ fault, turned.index = .error fault) ∧
      ∃ index, untied.index = .ok index ∧ index.priceOn late = .ok 3 ∧
        index.priceOn early = .ok 1 ∧
        index.priceOn next = .error (.priceNotFound "EUR" next) := by
  intro early late next tied turned untied
  have first : tied.FirstRepeat 2 ⟨late, 2⟩ :=
    firstRepeat_iff.mpr ⟨untied.entries, [⟨early, 1⟩], rfl, rfl, by decide, by decide⟩
  have refused : tied.index = .error (.duplicatePrice "EUR" late) :=
    ((index_faithful tied).2.1 _).mpr ⟨2, _, first, rfl⟩
  rcases exists_index_iff.mpr (show untied.dates.Nodup by decide) with ⟨index, indexed⟩
  have faithful := (index_faithful untied).2.2.1 index indexed
  have undated : next ∉ untied.dates := by decide
  refine ⟨refused, ?_, index, indexed,
    ((faithful late).1 3).mpr (by simp [untied, tied, tiedPrices]),
    ((faithful early).1 1).mpr (by simp [untied, tied, tiedPrices]),
    ((faithful next).2 _).mpr ⟨?_, rfl⟩⟩
  · have sameDates : turned.dates.Perm tied.dates := by decide
    exact ((index_faithful tied).2.2.2 turned sameDates).mpr ⟨_, refused⟩
  · intro entry member same
    exact undated (List.mem_map.mpr ⟨entry, member, same⟩)

end PriceSeries

end StakingIncome
