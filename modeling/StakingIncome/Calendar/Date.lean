/-!
Days of the Gregorian calendar, extended to all years before its introduction and with a year
zero. A date is a day that exists, so its parts always fit together, and dates are ordered by
time.
-/

namespace StakingIncome

namespace Calendar

def isLeapYear (year : Int) : Bool :=
  year % 4 == 0 && (year % 100 != 0 || year % 400 == 0)

def daysInMonth (year : Int) (month : Nat) : Nat :=
  match month with
  | 2 => if isLeapYear year then 29 else 28
  | 4 | 6 | 9 | 11 => 30
  | _ => 31

def firstYear : Int := -262143

def lastYear : Int := 262142

/-- Whether year, month and day name a day of the calendar. -/
def Exists (year : Int) (month day : Nat) : Prop :=
  firstYear ≤ year ∧ year ≤ lastYear ∧ 1 ≤ month ∧ month ≤ 12 ∧
    1 ≤ day ∧ day ≤ daysInMonth year month

instance (year : Int) (month day : Nat) : Decidable (Exists year month day) :=
  inferInstanceAs (Decidable (_ ∧ _))

theorem daysInMonth_le (year : Int) (month : Nat) : daysInMonth year month ≤ 31 := by
  unfold daysInMonth
  split <;> first | split <;> decide | decide

end Calendar

structure Date where
  year : Int
  month : Nat
  day : Nat
  exists_day : Calendar.Exists year month day
  deriving DecidableEq

namespace Date

def of? (year : Int) (month day : Nat) : Option Date :=
  if exists_day : Calendar.Exists year month day then
    some { year, month, day, exists_day }
  else
    none

@[simp] theorem of?_parts (date : Date) : of? date.year date.month date.day = some date := by
  simp [of?, date.exists_day]

example : of? 2023 2 29 = none := by decide

example : (of? 0 2 29).isSome = true := by decide

/-! ### Order

A number that grows from each date to the next decides the order: a year counts as sixteen months
and a month as thirty-two days, which leaves gaps but keeps two dates apart. -/

def serial (date : Date) : Int :=
  (date.year * 16 + date.month) * 32 + date.day

theorem serial_injective {left right : Date} (equal : left.serial = right.serial) :
    left = right := by
  obtain ⟨leftYear, leftMonth, leftDay, leftExists⟩ := left
  obtain ⟨rightYear, rightMonth, rightDay, rightExists⟩ := right
  have leftBound := Calendar.daysInMonth_le leftYear leftMonth
  have rightBound := Calendar.daysInMonth_le rightYear rightMonth
  simp only [serial] at equal
  obtain ⟨_, _, _, _, _, _⟩ := leftExists
  obtain ⟨_, _, _, _, _, _⟩ := rightExists
  obtain rfl : leftYear = rightYear := by omega
  obtain rfl : leftMonth = rightMonth := by omega
  obtain rfl : leftDay = rightDay := by omega
  rfl

instance : Ord Date where
  compare left right := compare left.serial right.serial

instance : LT Date where
  lt left right := left.serial < right.serial

instance : LE Date where
  le left right := left.serial ≤ right.serial

instance (left right : Date) : Decidable (left < right) :=
  inferInstanceAs (Decidable (left.serial < right.serial))

instance (left right : Date) : Decidable (left ≤ right) :=
  inferInstanceAs (Decidable (left.serial ≤ right.serial))

theorem lt_def {left right : Date} : left < right ↔ left.serial < right.serial :=
  Iff.rfl

theorem le_def {left right : Date} : left ≤ right ↔ left.serial ≤ right.serial :=
  Iff.rfl

instance : Std.TransOrd Date where
  eq_swap := fun {left right} => (Std.OrientedOrd.eq_swap : compare left.serial right.serial = _)
  isLE_trans := fun {first _ third} lower upper =>
    (Std.TransOrd.isLE_trans lower upper : (compare first.serial third.serial).isLE = true)

instance : Std.LawfulEqOrd Date where
  compare_self := fun {date} => (Std.ReflOrd.compare_self : compare date.serial date.serial = .eq)
  eq_of_compare := fun equal => serial_injective (Std.LawfulEqOrd.eq_of_compare equal)

theorem compare_eq_lt {left right : Date} : compare left right = .lt ↔ left < right :=
  Int.compare_eq_lt

end Date

end StakingIncome
