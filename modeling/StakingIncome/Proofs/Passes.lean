/-!
Computations that can fail, and passes over a list that end at the first failure. A pass succeeds
when each of its steps does, and its failure is the one of the first step that fails.
-/

namespace StakingIncome.Pass

variable {ε α β γ : Type}

/-! ### One step after another -/

theorem bind_eq_ok_iff {first : Except ε α} {next : α → Except ε β} {result : β} :
    first >>= next = .ok result ↔ ∃ value, first = .ok value ∧ next value = .ok result := by
  cases first <;> simp [bind, Except.bind]

theorem bind_eq_error_iff {first : Except ε α} {next : α → Except ε β} {fault : ε} :
    first >>= next = .error fault ↔
      first = .error fault ∨ ∃ value, first = .ok value ∧ next value = .error fault := by
  cases first <;> simp [bind, Except.bind]

theorem map_eq_ok_iff {first : Except ε α} {image : α → β} {result : β} :
    image <$> first = .ok result ↔ ∃ value, first = .ok value ∧ image value = result := by
  cases first <;> simp [Functor.map, Except.map]

theorem map_eq_error_iff {first : Except ε α} {image : α → β} {fault : ε} :
    image <$> first = .error fault ↔ first = .error fault := by
  cases first <;> simp [Functor.map, Except.map]

theorem mapError_eq_ok_iff {first : Except ε α} {image : ε → β} {result : α} :
    first.mapError image = .ok result ↔ first = .ok result := by
  cases first with
  | error fault => exact iff_of_false nofun nofun
  | ok value =>
      change Except.ok value = Except.ok result ↔ _
      rw [Except.ok.injEq, Except.ok.injEq]

theorem exists_ok_or_error (outcome : Except ε α) :
    (∃ value, outcome = .ok value) ∨ ∃ fault, outcome = .error fault := by
  cases outcome with
  | error fault => exact .inr ⟨fault, rfl⟩
  | ok value => exact .inl ⟨value, rfl⟩

theorem exists_ok_iff_forall_ne_error {outcome : Except ε α} :
    (∃ value, outcome = .ok value) ↔ ∀ fault, outcome ≠ .error fault := by
  cases outcome <;> simp

/-- Computations that fail alike succeed together. -/
theorem exists_ok_iff_of_error_iff {left : Except ε α} {right : Except ε β}
    (alike : ∀ fault, left = .error fault ↔ right = .error fault) :
    (∃ value, left = .ok value) ↔ ∃ value, right = .ok value := by
  cases left with
  | error fault =>
      have failed := (alike fault).mp rfl
      simp [failed]
  | ok value =>
      cases right with
      | error fault =>
          have failed := (alike fault).mpr rfl
          cases failed
      | ok other => simp

/-! ### The fault alone -/

/-- The fault of a computation that fails. -/
def fault? (outcome : Except ε α) : Option ε :=
  match outcome with
  | .error fault => some fault
  | .ok _ => none

theorem fault?_eq_some_iff {outcome : Except ε α} {fault : ε} :
    fault? outcome = some fault ↔ outcome = .error fault := by
  cases outcome <;> simp [fault?]

theorem fault?_eq_none_iff {outcome : Except ε α} :
    fault? outcome = none ↔ ∃ value, outcome = .ok value := by
  cases outcome <;> simp [fault?]

/-- When what follows fails alike for all results of the first step, the first fault decides. -/
theorem fault?_bind {first : Except ε α} {next : α → Except ε β} {rest : Option ε}
    (alike : ∀ value, first = .ok value → fault? (next value) = rest) :
    fault? (first >>= next) = (fault? first).or rest := by
  cases first with
  | error fault => rfl
  | ok value => exact alike value rfl

theorem findSome?_cons_eq_or {find : α → Option β} {head : α} {tail : List α} :
    (head :: tail).findSome? find = (find head).or (tail.findSome? find) := by
  rw [List.findSome?_cons]
  cases find head <;> rfl

/-! ### A step for each value of a list -/

theorem mapM_congr {step other : α → Except ε β} {values : List α}
    (agree : ∀ value ∈ values, step value = other value) :
    values.mapM step = values.mapM other := by
  induction values with
  | nil => rfl
  | cons head tail induction =>
      rw [List.mapM_cons, List.mapM_cons, agree head List.mem_cons_self,
        induction fun value member => agree value (List.mem_cons_of_mem _ member)]

theorem mapM_cons_eq_ok_iff {step : α → Except ε β} {head : α} {tail : List α}
    {results : List β} :
    (head :: tail).mapM step = .ok results ↔
      ∃ result rest, step head = .ok result ∧ tail.mapM step = .ok rest ∧
        results = result :: rest := by
  rw [List.mapM_cons]
  cases step head with
  | error fault => simp [bind, Except.bind]
  | ok result =>
      cases tail.mapM step with
      | error fault => simp [bind, Except.bind]
      | ok rest => simp [bind, Except.bind, pure, Except.pure, eq_comm]

/-- What a pass gives, seen through any view of results that is a view of the values. -/
theorem map_of_mapM_eq_ok {step : α → Except ε β} {values : List α} {results : List β}
    (view : β → γ) (source : α → γ)
    (agree : ∀ value ∈ values, ∀ result, step value = .ok result → view result = source value)
    (passed : values.mapM step = .ok results) : results.map view = values.map source := by
  induction values generalizing results with
  | nil =>
      cases passed
      rfl
  | cons head tail induction =>
      rcases mapM_cons_eq_ok_iff.mp passed with ⟨result, rest, first, remaining, rfl⟩
      rw [List.map_cons, List.map_cons, agree head List.mem_cons_self result first,
        induction (fun value member => agree value (List.mem_cons_of_mem _ member)) remaining]

/-- A pass whose results are changed as they come is the pass with its results changed. -/
theorem mapM_image (image : β → γ) (step : α → Except ε β) (values : List α) :
    (values.mapM fun value => image <$> step value) = List.map image <$> values.mapM step := by
  induction values with
  | nil => rfl
  | cons head tail induction =>
      rw [List.mapM_cons, List.mapM_cons, induction]
      cases step head with
      | error fault => rfl
      | ok result => cases tail.mapM step <;> rfl

theorem step_ok_of_mapM_eq_ok {step : α → Except ε β} {values : List α} {results : List β}
    (passed : values.mapM step = .ok results) :
    ∀ value ∈ values, ∃ result, step value = .ok result := by
  induction values generalizing results with
  | nil => simp
  | cons head tail induction =>
      rcases mapM_cons_eq_ok_iff.mp passed with ⟨result, rest, first, remaining, -⟩
      intro value member
      rcases List.mem_cons.mp member with rfl | member
      · exact ⟨result, first⟩
      · exact induction remaining value member

/-- The fault of a pass is the one of the first value that a step fails on. -/
theorem mapM_eq_error_iff {step : α → Except ε β} {values : List α} {fault : ε} :
    values.mapM step = .error fault ↔
      ∃ before value after, values = before ++ value :: after ∧
        (∀ earlier ∈ before, ∃ result, step earlier = .ok result) ∧ step value = .error fault := by
  induction values with
  | nil => simp [pure, Except.pure]
  | cons head tail induction =>
      rw [List.mapM_cons, bind_eq_error_iff]
      constructor
      · intro failed
        rcases failed with failed | ⟨result, first, remaining⟩
        · exact ⟨[], head, tail, rfl, by simp, failed⟩
        · have failed : tail.mapM step = .error fault := by
            rcases bind_eq_error_iff.mp remaining with failed | ⟨rest, -, impossible⟩
            · exact failed
            · cases impossible
          rcases induction.mp failed with ⟨before, value, after, rfl, passed, failed⟩
          refine ⟨head :: before, value, after, rfl, ?_, failed⟩
          intro earlier member
          rcases List.mem_cons.mp member with rfl | member
          · exact ⟨result, first⟩
          · exact passed earlier member
      · intro failed
        rcases failed with ⟨before, value, after, split, passed, failed⟩
        cases before with
        | nil =>
            rcases List.cons.inj split with ⟨rfl, rfl⟩
            exact .inl failed
        | cons other before =>
            rcases List.cons.inj split with ⟨rfl, rfl⟩
            rcases passed head List.mem_cons_self with ⟨result, first⟩
            refine .inr ⟨result, first, bind_eq_error_iff.mpr (.inl (induction.mpr ?_))⟩
            exact ⟨before, value, after, rfl,
              fun earlier member => passed earlier (List.mem_cons_of_mem _ member), failed⟩

theorem exists_mapM_eq_ok_iff {step : α → Except ε β} {values : List α} :
    (∃ results, values.mapM step = .ok results) ↔
      ∀ value ∈ values, ∃ result, step value = .ok result := by
  constructor
  · intro passed
    rcases passed with ⟨results, passed⟩
    exact step_ok_of_mapM_eq_ok passed
  · intro steps
    rcases exists_ok_or_error (values.mapM step) with passed | ⟨fault, failed⟩
    · exact passed
    · rcases mapM_eq_error_iff.mp failed with ⟨before, value, after, rfl, -, refused⟩
      rcases steps value (by simp) with ⟨result, accepted⟩
      rw [accepted] at refused
      cases refused

theorem mapM_append_eq_error_iff {step : α → Except ε β} {left right : List α} {fault : ε} :
    (left ++ right).mapM step = .error fault ↔
      left.mapM step = .error fault ∨
        (∃ results, left.mapM step = .ok results) ∧ right.mapM step = .error fault := by
  rw [List.mapM_append]
  cases left.mapM step with
  | error other => simp [bind, Except.bind]
  | ok first => cases right.mapM step <;> simp [bind, Except.bind, pure, Except.pure]

/-- A pass fails with the first fault that there is among its steps. -/
theorem fault?_mapM (step : α → Except ε β) (values : List α) :
    fault? (values.mapM step) = values.findSome? fun value => fault? (step value) := by
  induction values with
  | nil => rfl
  | cons head tail induction =>
      rw [List.mapM_cons, List.findSome?_cons, ← induction]
      cases step head with
      | error fault => rfl
      | ok result => cases tail.mapM step <;> rfl

/-- A pass over groups with a pass over each of them is one pass over all their members. -/
theorem flatten_mapM_mapM {step : β → Except ε γ} {members : α → List β} {groups : List α} :
    (do return (← groups.mapM fun group => (members group).mapM step).flatten) =
      (groups.flatMap members).mapM step := by
  induction groups with
  | nil => rfl
  | cons head tail induction =>
      rw [List.flatMap_cons, List.mapM_append, ← induction, List.mapM_cons]
      cases (members head).mapM step with
      | error fault => rfl
      | ok first =>
          cases tail.mapM fun group => (members group).mapM step <;> rfl

end StakingIncome.Pass
