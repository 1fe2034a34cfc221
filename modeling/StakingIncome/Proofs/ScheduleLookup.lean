import Mathlib.Data.List.Induction
import StakingIncome.OperatorShare

/-!
The entry of a schedule that is in effect on a date, told by its place in the list. The lookup reads
the entries from first to last and keeps the latest one before the date so far, so that of several
entries for one date the last one is found. What has been read is described entry by entry, and the
laws of the lookup over time and under new entries follow from that.
-/

namespace StakingIncome

namespace Schedule

variable {schedule : Schedule} {current entry : ScheduleEntry} {date : Date} {position : Nat}

/-! ### One more entry -/

theorem later_some_of_le (notEarlier : current.effective ≤ entry.effective) :
    later (some current) entry = some entry :=
  if_pos notEarlier

theorem later_some_of_lt (earlier : entry.effective < current.effective) :
    later (some current) entry = some current :=
  if_neg (Int.not_le.mpr earlier)

/-- The entry at a position is in effect on a date: it is before the date, no entry before the date
is later, and none for the same date stands behind it. -/
structure InEffectAt (schedule : Schedule) (date : Date) (position : Nat) (entry : ScheduleEntry) :
    Prop where
  found : schedule[position]? = some entry
  past : entry.effective < date
  latest : ∀ other ∈ schedule, other.effective < date → other.effective ≤ entry.effective
  last : ∀ place other, schedule[place]? = some other → other.effective = entry.effective →
    place ≤ position

/-- What is found in a schedule of any length for a date. -/
inductive LatestBefore (schedule : Schedule) (date : Date) : Option ScheduleEntry → Prop
  | nothing (future : ∀ entry ∈ schedule, ¬entry.effective < date) : LatestBefore schedule date none
  | entry {position : Nat} {entry : ScheduleEntry}
      (inEffect : schedule.InEffectAt date position entry) : LatestBefore schedule date (some entry)

theorem InEffectAt.unique {other : Nat} {otherEntry : ScheduleEntry}
    (inEffect : schedule.InEffectAt date position entry)
    (otherInEffect : schedule.InEffectAt date other otherEntry) :
    other = position ∧ otherEntry = entry := by
  have member := List.mem_of_getElem? inEffect.found
  have otherMember := List.mem_of_getElem? otherInEffect.found
  have sameDate : otherEntry.effective = entry.effective :=
    Date.serial_injective (Int.le_antisymm (inEffect.latest _ otherMember otherInEffect.past)
      (otherInEffect.latest _ member inEffect.past))
  have same : other = position :=
    Nat.le_antisymm (inEffect.last _ _ otherInEffect.found sameDate)
      (otherInEffect.last _ _ inEffect.found sameDate.symm)
  subst same
  exact ⟨rfl, Option.some.inj (otherInEffect.found.symm.trans inEffect.found)⟩

/-- An entry that nothing before the date is later than takes over when it comes last. -/
theorem inEffectAt_append (past : entry.effective < date)
    (latest : ∀ other ∈ schedule, other.effective < date → other.effective ≤ entry.effective) :
    (schedule ++ [entry]).InEffectAt date schedule.length entry where
  found := List.getElem?_concat_length
  past := past
  latest := by
    intro other member otherPast
    rcases List.mem_append.mp member with member | member
    · exact latest other member otherPast
    · rw [List.mem_singleton.mp member]
      exact Int.le_refl _
  last := by
    intro place other found _
    have inside := (List.getElem?_eq_some_iff.mp found).1
    rw [List.length_append] at inside
    exact Nat.le_of_lt_succ inside

/-- An entry that is not before the date, or earlier than the one in effect, changes nothing. -/
theorem InEffectAt.append (inEffect : schedule.InEffectAt date position current)
    (earlier : entry.effective < date → entry.effective < current.effective) :
    (schedule ++ [entry]).InEffectAt date position current where
  found := by
    have inside := (List.getElem?_eq_some_iff.mp inEffect.found).1
    rw [List.getElem?_append_left inside, inEffect.found]
  past := inEffect.past
  latest := by
    intro other member otherPast
    rcases List.mem_append.mp member with member | member
    · exact inEffect.latest other member otherPast
    · rw [List.mem_singleton.mp member] at otherPast ⊢
      exact Int.le_of_lt (earlier otherPast)
  last := by
    intro place other found same
    rcases Nat.lt_or_ge place schedule.length with inside | outside
    · rw [List.getElem?_append_left inside] at found
      exact inEffect.last place other found same
    · rw [List.getElem?_append_right outside] at found
      have added := List.mem_singleton.mp (List.mem_of_getElem? found)
      rw [added] at same
      have impossible := earlier (same ▸ inEffect.past)
      rw [same] at impossible
      exact absurd impossible (Int.lt_irrefl _)

/-- What reading one entry more does to what was found. -/
theorem LatestBefore.append {best : Option ScheduleEntry}
    (found : schedule.LatestBefore date best) (entry : ScheduleEntry) :
    (schedule ++ [entry]).LatestBefore date
      (if entry.effective < date then later best entry else best) := by
  by_cases past : entry.effective < date
  · rw [if_pos past]
    cases found with
    | nothing future =>
        exact .entry (inEffectAt_append past
          fun other member otherPast => absurd otherPast (future other member))
    | entry inEffect =>
        rename_i position current
        rcases Int.lt_or_le entry.effective.serial current.effective.serial with earlier | notEarlier
        · rw [later_some_of_lt earlier]
          exact .entry (inEffect.append fun _ => earlier)
        · rw [later_some_of_le notEarlier]
          exact .entry (inEffectAt_append past fun other member otherPast =>
            Int.le_trans (inEffect.latest other member otherPast) notEarlier)
  · rw [if_neg past]
    cases found with
    | nothing future =>
        refine .nothing ?_
        intro other member
        rcases List.mem_append.mp member with member | member
        · exact future other member
        · rw [List.mem_singleton.mp member]
          exact past
    | entry inEffect => exact .entry (inEffect.append fun isPast => absurd isPast past)

/-! ### All entries -/

theorem latestBefore_foldl (schedule : Schedule) (date : Date) :
    schedule.LatestBefore date
      ((schedule.filter fun entry => decide (entry.effective < date)).foldl later none) := by
  induction schedule using List.reverseRecOn with
  | nil => exact .nothing (List.forall_mem_nil _)
  | append_singleton rest entry induction =>
      have found := induction.append entry
      rw [List.filter_append, List.foldl_append]
      by_cases past : entry.effective < date
      · simpa [past] using found
      · simpa [past] using found

theorem entryOn?_of_length_ne_one {schedule : Schedule} (several : schedule.length ≠ 1)
    (date : Date) :
    schedule.entryOn? date =
      (schedule.filter fun entry => decide (entry.effective < date)).foldl later none := by
  rw [entryOn?]
  rintro only rfl
  exact several rfl

theorem latestBefore_entryOn? (several : schedule.length ≠ 1) (date : Date) :
    schedule.LatestBefore date (schedule.entryOn? date) := by
  rw [entryOn?_of_length_ne_one several]
  exact latestBefore_foldl schedule date

theorem entryOn?_eq_none_iff (several : schedule.length ≠ 1) :
    schedule.entryOn? date = none ↔ ∀ entry ∈ schedule, ¬entry.effective < date := by
  have found := latestBefore_entryOn? several date
  cases answer : schedule.entryOn? date with
  | none =>
      rw [answer] at found
      cases found with
      | nothing future => simpa using future
  | some entry =>
      rw [answer] at found
      cases found with
      | entry inEffect =>
          simp only [reduceCtorEq, false_iff]
          intro future
          exact future entry (List.mem_of_getElem? inEffect.found) inEffect.past

theorem entryOn?_eq_some_iff (several : schedule.length ≠ 1) :
    schedule.entryOn? date = some entry ↔ ∃ position, schedule.InEffectAt date position entry := by
  constructor
  · intro answer
    have found := latestBefore_entryOn? several date
    rw [answer] at found
    cases found with
    | entry inEffect => exact ⟨_, inEffect⟩
  · intro inEffect
    rcases inEffect with ⟨position, inEffect⟩
    have found := latestBefore_entryOn? several date
    cases answer : schedule.entryOn? date with
    | none =>
        have future := (entryOn?_eq_none_iff several).mp answer
        exact absurd inEffect.past (future entry (List.mem_of_getElem? inEffect.found))
    | some other =>
        rw [answer] at found
        cases found with
        | entry otherInEffect => rw [(inEffect.unique otherInEffect).2]

/-! ### Later dates and new entries -/

theorem exists_entryOn?_of_le (several : schedule.length ≠ 1) {later : Date}
    (notEarlier : date ≤ later) (answer : schedule.entryOn? date = some entry) :
    ∃ chosen, schedule.entryOn? later = some chosen ∧ entry.effective ≤ chosen.effective := by
  rcases (entryOn?_eq_some_iff several).mp answer with ⟨position, inEffect⟩
  have member := List.mem_of_getElem? inEffect.found
  have past : entry.effective < later := Int.lt_of_lt_of_le inEffect.past notEarlier
  cases chosen : schedule.entryOn? later with
  | none => exact absurd past ((entryOn?_eq_none_iff several).mp chosen entry member)
  | some other =>
      rcases (entryOn?_eq_some_iff several).mp chosen with ⟨_, otherInEffect⟩
      exact ⟨other, rfl, otherInEffect.latest entry member past⟩

/-- With two entries or more there is no entry that applies to every date, also after another one
has come in, and one that is not before the date is passed over. -/
theorem entryOn?_insert {before after : Schedule} (several : 2 ≤ (before ++ after).length)
    (notBefore : date ≤ entry.effective) :
    entryOn? (before ++ entry :: after) date = entryOn? (before ++ after) date := by
  have future : ¬entry.effective < date := Int.not_lt.mpr notBefore
  have more : (before ++ entry :: after).length ≠ 1 := by
    simp only [List.length_append, List.length_cons] at several ⊢
    omega
  rw [entryOn?_of_length_ne_one more, entryOn?_of_length_ne_one (Nat.ne_of_gt several),
    List.filter_append, List.filter_append, List.filter_cons_of_neg (by simpa using future)]

theorem valueOn_eq_error_iff {kind : ScheduleKind} {fault : Fault} :
    schedule.valueOn kind date = .error fault ↔
      schedule.entryOn? date = none ∧ fault = .noScheduleEntry kind date := by
  rw [valueOn]
  cases schedule.entryOn? date <;> simp [eq_comm]

/-- The value for a date. A sole entry has its value on every date. Of any other schedule it is the
value of the latest entry before the date, of several for the same date the last one, and without an
entry before the date there is none. While time passes a schedule of two entries or more never goes
back to an earlier entry, and its values of the past stay when entries for later dates come in. -/
theorem valueOn_latest_before (schedule : Schedule) (kind : ScheduleKind) (date : Date) :
    (∀ only, schedule = [only] → schedule.valueOn kind date = .ok only.value) ∧
      (schedule.length ≠ 1 →
        (∀ fault, schedule.valueOn kind date = .error fault ↔
          (∀ entry ∈ schedule, ¬entry.effective < date) ∧ fault = .noScheduleEntry kind date) ∧
        ((∃ entry ∈ schedule, entry.effective < date) →
          ∃ position entry, schedule.InEffectAt date position entry ∧
            (∀ other otherEntry, schedule.InEffectAt date other otherEntry →
              other = position ∧ otherEntry = entry) ∧
            schedule.entryOn? date = some entry ∧
            schedule.valueOn kind date = .ok entry.value)) ∧
      (2 ≤ schedule.length →
        (∀ later entry, date ≤ later → schedule.entryOn? date = some entry →
          ∃ chosen, schedule.entryOn? later = some chosen ∧
            entry.effective ≤ chosen.effective) ∧
        ∀ before after entry, schedule = before ++ after → date ≤ entry.effective →
          valueOn (before ++ entry :: after) kind date = schedule.valueOn kind date) := by
  refine ⟨?_, ?_, ?_⟩
  · rintro only rfl
    rfl
  · intro several
    refine ⟨?_, ?_⟩
    · intro fault
      rw [valueOn_eq_error_iff, entryOn?_eq_none_iff several]
    · rintro ⟨entry, member, past⟩
      cases answer : schedule.entryOn? date with
      | none => exact absurd past ((entryOn?_eq_none_iff several).mp answer entry member)
      | some chosen =>
          rcases (entryOn?_eq_some_iff several).mp answer with ⟨position, inEffect⟩
          refine ⟨position, chosen, inEffect, fun _ _ => inEffect.unique, rfl, ?_⟩
          rw [valueOn, answer]
  · intro several
    refine ⟨?_, ?_⟩
    · intro later entry notEarlier answer
      exact exists_entryOn?_of_le (Nat.ne_of_gt several) notEarlier answer
    · rintro before after entry rfl notBefore
      rw [valueOn, valueOn, entryOn?_insert several notBefore]

/-- Three bonds out of order, two of them for the same date. -/
def tiedBonds (early late : Date) : Schedule :=
  [⟨late, 8⟩, ⟨early, 16⟩, ⟨late, 9⟩]

theorem tiedBonds_valueOn_latest_before :
    let early : Date := ⟨2022, 1, 1, by decide⟩
    let late : Date := ⟨2023, 5, 1, by decide⟩
    let next : Date := ⟨2023, 5, 2, by decide⟩
    let bonds := tiedBonds early late
    bonds.length ≠ 1 ∧ bonds.valueOn .bond early = .error (.noScheduleEntry .bond early) ∧
      bonds.valueOn .bond late = .ok 16 ∧ bonds.valueOn .bond next = .ok 9 ∧
      (∃ position entry, bonds.InEffectAt next position entry ∧
        (∀ other otherEntry, bonds.InEffectAt next other otherEntry →
          other = position ∧ otherEntry = entry) ∧
        bonds.entryOn? next = some entry ∧ bonds.valueOn .bond next = .ok entry.value) ∧
      (∃ chosen, bonds.entryOn? next = some chosen ∧ early ≤ chosen.effective) ∧
      valueOn (⟨next, 4⟩ :: bonds) .bond next = bonds.valueOn .bond next := by
  intro early late next bonds
  have several : bonds.length ≠ 1 := by decide
  have onEarly := (bonds.valueOn_latest_before .bond early).2.1 several
  have onLate := (bonds.valueOn_latest_before .bond late).2.2 (by decide)
  have onNext := bonds.valueOn_latest_before .bond next
  refine ⟨several, (onEarly.1 _).mpr ⟨by decide, rfl⟩, by decide +kernel, by decide +kernel,
    (onNext.2.1 several).2 ⟨⟨early, 16⟩, by decide, by decide⟩, ?_, ?_⟩
  · exact onLate.1 next ⟨early, 16⟩ (by decide) (by decide +kernel)
  · exact (onNext.2.2 (by decide)).2 [] bonds ⟨next, 4⟩ rfl (Int.le_refl _)

end Schedule

end StakingIncome
