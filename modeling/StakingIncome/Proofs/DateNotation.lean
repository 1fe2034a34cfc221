import StakingIncome.Calendar.Notation
import StakingIncome.Proofs.Numerals

/-!
Dates are read back from their notation, in every year of the calendar. Each part is read by itself:
a year without sign has four digits, a year with one has all digits that follow it, and what comes
behind a part is a hyphen or the end and never another digit.
-/

namespace StakingIncome

namespace Date

open Text

/-! ### Reading the parts -/

/-- A numeral of at most the given width is read as a whole when no digit follows it. -/
theorem readNumber_append {width : Nat} {digits rest : List Char}
    (numeral : isNumeral digits = true) (fits : digits.length ≤ width)
    (ends : rest.head?.any Char.isDigit = false) (small : digitsValue digits < numberLimit) :
    readNumber width (digits ++ rest) = .ok (digitsValue digits, rest) := by
  have digit := (isNumeral_iff.mp numeral).2
  have taken : ((digits ++ rest).take width).takeWhile Char.isDigit = digits := by
    rw [List.take_append, List.take_of_length_le fits, List.takeWhile_append_of_pos digit]
    cases rest with
    | nil => simp
    | cons next more =>
        have stops : next.isDigit = false := by simpa using ends
        cases width - digits.length <;> simp [stops]
  rcases exists_cons_of_isNumeral numeral with ⟨first, others, rfl, isDigit⟩
  rw [List.cons_append] at taken ⊢
  rw [readNumber]
  simp only [isDigit, if_true, taken, small]
  rw [← List.cons_append, List.drop_left]

theorem readPart_append {last value : Nat} (within : 1 ≤ value ∧ value ≤ last)
    (short : last < 10 ^ 2) {rest : List Char} (ends : rest.head?.any Char.isDigit = false) :
    readPart last (paddedDecimal 2 value ++ rest) = .ok (value, rest) := by
  have fits : (paddedDecimal 2 value).length ≤ 2 :=
    length_paddedDecimal_le (by decide) (Nat.lt_of_le_of_lt within.2 short)
  have small : digitsValue (paddedDecimal 2 value) < numberLimit := by
    rw [digitsValue_paddedDecimal, numberLimit]
    omega
  rw [readPart, readNumber_append (isNumeral_paddedDecimal 2 value) fits ends small,
    digitsValue_paddedDecimal]
  exact if_pos within

theorem signedYear_of_within {negative : Bool} {value : Nat} {year : Int} {rest : List Char}
    (denotes : (if negative then -(value : Int) else value) = year)
    (within : -yearLimit ≤ year ∧ year < yearLimit) :
    signedYear negative (value, rest) = .ok (year, rest) := by
  simp only [signedYear, denotes]
  exact if_pos within

/-- A year that starts with a digit has no sign. -/
theorem readYear_of_isDigit {first : Char} {more : List Char} (digit : first.isDigit = true) :
    readYear (first :: more) = (readNumber 4 (first :: more)).bind (signedYear false) := by
  unfold readYear
  split
  · rename_i signed
    cases signed
    cases digit
  · rename_i signed
    cases signed
    cases digit
  · rfl

theorem readYear_append {year : Int} (first : Calendar.firstYear ≤ year)
    (last : year ≤ Calendar.lastYear) {rest : List Char}
    (ends : rest.head?.any Char.isDigit = false) :
    readYear (writtenYear year ++ rest) = .ok (year, rest) := by
  rw [Calendar.firstYear] at first
  rw [Calendar.lastYear] at last
  have within : -yearLimit ≤ year ∧ year < yearLimit := by
    rw [yearLimit]
    omega
  have numeral := isNumeral_paddedDecimal 4 year.natAbs
  have value := digitsValue_paddedDecimal 4 year.natAbs
  have small : digitsValue (paddedDecimal 4 year.natAbs) < numberLimit := by
    rw [value, numberLimit]
    omega
  have read (negative : Bool) (width : Nat)
      (fits : (paddedDecimal 4 year.natAbs).length ≤ width)
      (denotes : (if negative then -(year.natAbs : Int) else year.natAbs) = year) :
      (readNumber width (paddedDecimal 4 year.natAbs ++ rest)).bind (signedYear negative)
        = .ok (year, rest) := by
    rw [readNumber_append numeral fits ends small, value]
    exact signedYear_of_within denotes within
  rw [writtenYear]
  split
  · rename_i short
    have fits : (paddedDecimal 4 year.natAbs).length ≤ 4 :=
      length_paddedDecimal_le (by decide) (by omega)
    have found := read false 4 fits (Int.natAbs_of_nonneg short.1)
    rcases exists_cons_of_isNumeral numeral with ⟨digit, more, shape, isDigit⟩
    rw [shape, List.cons_append] at found ⊢
    rw [readYear_of_isDigit isDigit]
    exact found
  · by_cases below : year < 0
    · have denotes : -(year.natAbs : Int) = year := by omega
      rw [if_pos below]
      exact read true _ (by simp) denotes
    · rw [if_neg below]
      exact read false _ (by simp) (Int.natAbs_of_nonneg (Int.not_lt.mp below))

/-! ### Nothing blank in a date -/

theorem solid_writtenYear (year : Int) :
    ∀ character ∈ writtenYear year, isBlank character = false := by
  have digits := isBlank_of_mem_isNumeral (isNumeral_paddedDecimal 4 year.natAbs)
  rw [writtenYear]
  split
  · exact digits
  · rw [List.forall_mem_cons]
    refine ⟨?_, digits⟩
    split <;> rfl

theorem solid_written (date : Date) : ∀ character ∈ date.written, isBlank character = false := by
  have part (value : Nat) :
      ∀ character ∈ '-' :: paddedDecimal 2 value, isBlank character = false :=
    List.forall_mem_cons.mpr ⟨rfl, isBlank_of_mem_isNumeral (isNumeral_paddedDecimal 2 value)⟩
  rw [written, List.forall_mem_append, List.forall_mem_append]
  exact ⟨⟨solid_writtenYear date.year, part date.month⟩, part date.day⟩

/-! ### Reading a date -/

theorem dropBlanks_writtenYear (year : Int) (rest : List Char) :
    dropBlanks (writtenYear year ++ rest) = writtenYear year ++ rest := by
  rw [writtenYear]
  split
  · exact dropBlanks_of_isNumeral (isNumeral_paddedDecimal 4 _) rest
  · split <;> rfl

/-- A date is read back wherever the hyphens may stand that are not where they should be. -/
theorem readWith_written {gap : List Char → List Char}
    (hyphen : ∀ rest, gap ('-' :: rest) = '-' :: rest) (nothing : gap [] = []) (date : Date) :
    readWith gap date.written = .ok date := by
  rcases date.exists_day with ⟨firstYear, lastYear, firstMonth, lastMonth, firstDay, lastDay⟩
  have lastDay := Nat.le_trans lastDay (Calendar.daysInMonth_le _ _)
  have month := dropBlanks_of_isNumeral (isNumeral_paddedDecimal 2 date.month)
  have day := dropBlanks_of_isNumeral (isNumeral_paddedDecimal 2 date.day) []
  have dayRead : readPart 31 (paddedDecimal 2 date.day ++ []) = .ok (date.day, []) :=
    readPart_append ⟨firstDay, lastDay⟩ (by decide) rfl
  rw [List.append_nil] at day dayRead
  rw [written, List.append_assoc, List.cons_append, readWith, dropBlanks_writtenYear,
    readYear_append firstYear lastYear rfl]
  simp only [bind, Except.bind, hyphen, readHyphen]
  rw [month, readPart_append ⟨firstMonth, lastMonth⟩ (by decide) rfl]
  simp only [hyphen]
  rw [day, dayRead]
  simp only [nothing, of?_parts]

theorem read_written (date : Date) : read date.written = .ok date :=
  readWith_written (fun _ => rfl) rfl date

theorem readLoose_written (date : Date) : readLoose date.written = .ok date :=
  readWith_written (fun _ => rfl) rfl date

end Date

end StakingIncome
