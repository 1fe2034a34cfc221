import Mathlib.Algebra.Group.Nat.Defs
import Mathlib.Data.List.DropRight
import Mathlib.Data.List.Induction
import StakingIncome.Text.Blank
import StakingIncome.Text.Numeral

/-!
Numerals as texts: their length, zeros in front of them, that nothing in them is blank, and which
texts are read as a number or a word.
-/

namespace StakingIncome

namespace Text

theorem isNumeral_iff {text : List Char} :
    isNumeral text = true ↔ text ≠ [] ∧ ∀ character ∈ text, character.isDigit = true := by
  simp [isNumeral]

theorem decimal_ne_nil (value : Nat) : decimal value ≠ [] :=
  Nat.toDigits_ne_nil

theorem length_decimal_le_iff {value width : Nat} (positive : 0 < width) :
    (decimal value).length ≤ width ↔ value < 10 ^ width :=
  Nat.length_toDigits_le_iff (by decide) positive

/-- Only zero itself starts with the digit zero. -/
theorem head?_decimal {value : Nat} (positive : 0 < value) : (decimal value).head? ≠ some '0' := by
  induction value using Nat.strongRecOn with
  | ind value induction =>
      by_cases small : value < 10
      · have table : ∀ digit < 10, 0 < digit → Nat.digitChar digit ≠ '0' := by decide
        rw [decimal, Nat.toDigits_of_lt_base small]
        simpa using table value small positive
      · have fewer := induction (value / 10) (by omega) (by omega)
        rw [decimal, Nat.toDigits_of_base_le (by decide) (Nat.not_lt.mp small),
          List.head?_append]
        rcases List.exists_cons_of_ne_nil (decimal_ne_nil (value / 10)) with ⟨first, rest, shape⟩
        rw [decimal] at shape
        simpa [decimal, shape] using fewer

theorem digitsValue_paddedDecimal (width value : Nat) :
    digitsValue (paddedDecimal width value) = value := by
  rw [digitsValue, paddedDecimal, Nat.ofDigitChars_append, Nat.ofDigitChars_replicate_zero,
    Nat.mul_zero]
  exact digitsValue_decimal value

theorem isNumeral_paddedDecimal (width value : Nat) :
    isNumeral (paddedDecimal width value) = true := by
  rw [isNumeral_iff]
  constructor
  · exact List.append_ne_nil_of_right_ne_nil _ (decimal_ne_nil value)
  · intro character member
    rcases List.mem_append.mp member with padding | digit
    · rw [List.eq_of_mem_replicate padding]
      rfl
    · exact isDigit_of_mem_decimal digit

theorem length_paddedDecimal_le {width value : Nat} (positive : 0 < width)
    (fits : value < 10 ^ width) : (paddedDecimal width value).length ≤ width := by
  have short := (length_decimal_le_iff positive).mpr fits
  rw [paddedDecimal, List.length_append, List.length_replicate]
  omega

/-- A numeral starts with a digit, so nothing in front of it is blank. -/
theorem exists_cons_of_isNumeral {text : List Char} (numeral : isNumeral text = true) :
    ∃ first rest, text = first :: rest ∧ first.isDigit = true := by
  rcases isNumeral_iff.mp numeral with ⟨something, digits⟩
  rcases List.exists_cons_of_ne_nil something with ⟨first, rest, rfl⟩
  exact ⟨first, rest, rfl, digits first List.mem_cons_self⟩

theorem toNat_of_isDigit {digit : Char} (isDigit : digit.isDigit = true) :
    0x30 ≤ digit.toNat ∧ digit.toNat ≤ 0x39 := by
  simp only [Char.isDigit, ge_iff_le, Bool.and_eq_true, decide_eq_true_eq, UInt32.le_iff_toNat_le]
    at isDigit
  exact isDigit

theorem isBlank_of_isDigit {character : Char} (digit : character.isDigit = true) :
    isBlank character = false := by
  have bounds := toNat_of_isDigit digit
  simp only [isBlank, Bool.or_eq_false_iff, Bool.and_eq_false_iff, decide_eq_false_iff_not,
    beq_eq_false_iff_ne]
  omega

theorem dropBlanks_of_isNumeral {text : List Char} (numeral : isNumeral text = true)
    (rest : List Char) : dropBlanks (text ++ rest) = text ++ rest := by
  rcases exists_cons_of_isNumeral numeral with ⟨first, more, rfl, digit⟩
  exact List.dropWhile_cons_of_neg (by simp [isBlank_of_isDigit digit])

theorem trimmed_of_solid {text : List Char}
    (solid : ∀ character ∈ text, isBlank character = false) : trimmed text = text := by
  have kept {characters : List Char} (solid : ∀ character ∈ characters, isBlank character = false) :
      dropBlanks characters = characters := by
    cases characters with
    | nil => rfl
    | cons first rest =>
        exact List.dropWhile_cons_of_neg (by simp [solid first List.mem_cons_self])
  rw [trimmed, kept solid, kept (by simpa using solid), List.reverse_reverse]

theorem isBlank_of_mem_isNumeral {text : List Char} (numeral : isNumeral text = true) :
    ∀ character ∈ text, isBlank character = false :=
  fun character member => isBlank_of_isDigit ((isNumeral_iff.mp numeral).2 character member)

theorem trimmed_of_isNumeral {text : List Char} (numeral : isNumeral text = true) :
    trimmed text = text :=
  trimmed_of_solid (isBlank_of_mem_isNumeral numeral)

theorem exists_blanks_around_trimmed (text : List Char) :
    ∃ before after, isBlankText before = true ∧ isBlankText after = true ∧
      text = before ++ trimmed text ++ after := by
  refine ⟨text.takeWhile isBlank, ((dropBlanks text).reverse.takeWhile isBlank).reverse,
    List.all_takeWhile, by simp [isBlankText], ?_⟩
  rw [trimmed, List.append_assoc, ← List.reverse_append, dropBlanks, dropBlanks,
    List.takeWhile_append_dropWhile, List.reverse_reverse, List.takeWhile_append_dropWhile]

theorem trimmed_eq_nil_iff {text : List Char} : trimmed text = [] ↔ isBlankText text = true := by
  constructor
  · intro nothing
    rcases exists_blanks_around_trimmed text with ⟨before, after, blankBefore, blankAfter, shape⟩
    rw [nothing, List.append_nil] at shape
    rw [shape, isBlankText, List.all_append, Bool.and_eq_true]
    exact ⟨blankBefore, blankAfter⟩
  · intro blank
    rw [trimmed, dropBlanks, dropBlanks, List.dropWhile_eq_nil_iff.mpr (List.all_eq_true.mp blank)]
    rfl

/-- No beginning of a text without blanks in front has blanks there. -/
theorem dropBlanks_of_prefix {front text : List Char} (leads : front <+: dropBlanks text) :
    dropBlanks front = front := by
  cases front with
  | nil => rfl
  | cons first rest =>
      rcases leads with ⟨after, shape⟩
      have start := List.head?_dropWhile_not isBlank text
      rw [← dropBlanks, ← shape] at start
      exact List.dropWhile_cons_of_neg (by simpa using start)

theorem trimmed_trimmed (text : List Char) : trimmed (trimmed text) = trimmed text := by
  have leads : trimmed text <+: dropBlanks text := by
    rw [trimmed, ← List.reverse_suffix, List.reverse_reverse]
    exact List.dropWhile_suffix isBlank
  have back : dropBlanks (trimmed text).reverse = (trimmed text).reverse := by
    rw [trimmed, List.reverse_reverse]
    exact List.dropWhile_idempotent isBlank _
  rw [trimmed, dropBlanks_of_prefix leads, back, List.reverse_reverse]

/-! ### Words -/

theorem word?_eq_some_iff {value : Nat} {word : UInt64} :
    word? value = some word ↔ value = word.toNat := by
  constructor
  · intro found
    exact (toNat_of_word? found).symm
  · rintro rfl
    exact word?_toNat word

theorem le_ofDigitChars (digits : List Char) (start : Nat) :
    start ≤ Nat.ofDigitChars 10 digits start := by
  rw [Nat.ofDigitChars_eq_ofDigitChars_zero]
  have scale : 0 < 10 ^ digits.length := Nat.pow_pos (by decide)
  exact Nat.le_trans (Nat.le_mul_of_pos_left start scale) (Nat.le_add_right _ _)

/-- A number that is too large does not become smaller by the digits that follow, so that it may be
refused before they are read. -/
theorem wordOfDigits_eq_ok_iff {text : List Char} {start : Nat} {word : UInt64} :
    wordOfDigits start text = .ok word ↔
      (∀ digit ∈ text, digit.isDigit = true) ∧
        Nat.ofDigitChars 10 text start = word.toNat := by
  induction text generalizing start with
  | nil =>
      rw [wordOfDigits, Nat.ofDigitChars_nil, ← word?_eq_some_iff]
      cases word? start <;> simp
  | cons digit rest induction =>
      rw [wordOfDigits, Nat.ofDigitChars_cons, List.forall_mem_cons]
      generalize 10 * start + (digit.toNat - '0'.toNat) = value
      by_cases large : wordLimit ≤ value
      · have least := Nat.le_trans large (le_ofDigitChars rest value)
        have most : word.toNat < wordLimit := word.toNat_lt
        have different := Nat.ne_of_gt (Nat.lt_of_lt_of_le most least)
        cases digit.isDigit <;> simp [large, different]
      · cases digit.isDigit <;> simp [large, induction]

/-- The numerals of a word: digits, with a plus sign in front or without one. -/
inductive WordText (word : UInt64) : List Char → Prop
  | bare {digits : List Char} (numeral : isNumeral digits = true)
      (value : digitsValue digits = word.toNat) : WordText word digits
  | signed {digits : List Char} (numeral : isNumeral digits = true)
      (value : digitsValue digits = word.toNat) : WordText word ('+' :: digits)

theorem readWord_eq_ok_iff {text : List Char} {word : UInt64} :
    readWord text = .ok word ↔ WordText word text := by
  have digitsRead {digits : List Char} (something : digits ≠ []) :
      wordOfDigits 0 digits = .ok word ↔
        isNumeral digits = true ∧ digitsValue digits = word.toNat := by
    rw [wordOfDigits_eq_ok_iff, isNumeral_iff, digitsValue]
    simp [something]
  constructor
  · intro found
    unfold readWord at found
    split at found
    · cases found
    · cases found
    · rename_i digits more
      rcases (digitsRead more).mp found with ⟨numeral, value⟩
      exact .signed numeral value
    · rename_i something _ _
      rcases (digitsRead something).mp found with ⟨numeral, value⟩
      exact .bare numeral value
  · intro text
    cases text with
    | bare numeral value =>
        rcases exists_cons_of_isNumeral numeral with ⟨first, rest, rfl, isDigit⟩
        have noSign : first ≠ '+' := by
          rintro rfl
          cases isDigit
        rw [readWord]
        · exact (digitsRead (List.cons_ne_nil first rest)).mpr ⟨numeral, value⟩
        · exact List.cons_ne_nil first rest
        all_goals simp [noSign]
    | signed numeral value =>
        rcases exists_cons_of_isNumeral numeral with ⟨first, rest, rfl, -⟩
        exact (digitsRead (List.cons_ne_nil first rest)).mpr ⟨numeral, value⟩

/-! ### Numbers of any size -/

theorem naturalOfDigits_of_digits {digits : List Char}
    (each : ∀ digit ∈ digits, digit.isDigit = true) (value : Nat) :
    naturalOfDigits value digits = .ok (Nat.ofDigitChars 10 digits value) := by
  induction digits generalizing value with
  | nil => rfl
  | cons digit rest induction =>
      have isDigit := each digit List.mem_cons_self
      rw [naturalOfDigits, if_pos isDigit, Nat.ofDigitChars_cons]
      · exact induction (fun other member => each other (List.mem_cons_of_mem digit member)) _
      · rintro rfl
        cases isDigit

/-- Neither a sign nor an underscore is a digit, so a numeral has no fault at all. -/
theorem readNatural_of_isNumeral {digits : List Char} (numeral : isNumeral digits = true) :
    readNatural digits = .ok (digitsValue digits) := by
  have found := naturalOfDigits_of_digits (isNumeral_iff.mp numeral).2 0
  rcases exists_cons_of_isNumeral numeral with ⟨first, rest, rfl, isDigit⟩
  rw [readNatural, readUnsigned]
  · exact found
  · exact List.cons_ne_nil first rest
  all_goals
    rintro _ ⟨⟩
    cases isDigit

/-! ### Zeros in front -/

theorem digitChar_of_isDigit {digit : Char} (isDigit : digit.isDigit = true) :
    digit.toNat - '0'.toNat < 10 ∧ Nat.digitChar (digit.toNat - '0'.toNat) = digit := by
  rcases toNat_of_isDigit isDigit with ⟨lower, upper⟩
  have table : ∀ value < 10, Nat.digitChar value = Char.ofNat (0x30 + value) := by decide
  have zero : '0'.toNat = 0x30 := rfl
  have small : digit.toNat - 0x30 < 10 := by omega
  rw [zero, table _ small, Nat.add_sub_cancel' lower, Char.ofNat_toNat]
  exact ⟨small, rfl⟩

/-- The digit that follows a number, which is not zero, belongs to its notation. -/
theorem decimal_append_digit {value digit : Nat} (positive : 0 < value) (small : digit < 10) :
    decimal value ++ [Nat.digitChar digit] = decimal (10 * value + digit) := by
  have quotient : (10 * value + digit) / 10 = value := by omega
  have remainder : (10 * value + digit) % 10 = digit := by omega
  rw [decimal, decimal, Nat.toDigits_of_base_le (n := 10 * value + digit) (by decide) (by omega),
    quotient, remainder]

/-- A numeral is the notation of its number but for zeros in front. -/
theorem exists_zeros_of_isNumeral {digits : List Char} (numeral : isNumeral digits = true) :
    ∃ zeros, digits = List.replicate zeros '0' ++ decimal (digitsValue digits) := by
  rcases isNumeral_iff.mp numeral with ⟨something, each⟩
  clear numeral
  induction digits using List.reverseRecOn with
  | nil => exact absurd rfl something
  | append_singleton front last induction =>
      rcases digitChar_of_isDigit (each last (by simp)) with ⟨small, shown⟩
      have value : digitsValue (front ++ [last]) =
          10 * digitsValue front + (last.toNat - '0'.toNat) := by
        simp [digitsValue, Nat.ofDigitChars]
      have single : decimal (last.toNat - '0'.toNat) = [last] := by
        rw [decimal, Nat.toDigits_of_lt_base small, shown]
      by_cases empty : front = []
      · subst empty
        have nothing : digitsValue [] = 0 := rfl
        refine ⟨0, ?_⟩
        rw [value, nothing, Nat.mul_zero, Nat.zero_add, single]
        rfl
      · rcases induction empty (fun digit member => each digit (by simp [member]))
          with ⟨zeros, shape⟩
        rcases Nat.eq_zero_or_pos (digitsValue front) with zero | positive
        · -- The front holds nothing but zeros, and its last one is none of the notation any more.
          refine ⟨zeros + 1, ?_⟩
          rw [value, zero, Nat.mul_zero, Nat.zero_add, single]
          rw [zero] at shape
          rw [shape, List.replicate_succ']
          rfl
        · refine ⟨zeros, ?_⟩
          rw [value, ← decimal_append_digit positive small, shown, ← List.append_assoc, ← shape]

theorem paddedDecimal_digitsValue {digits : List Char} (numeral : isNumeral digits = true) :
    paddedDecimal digits.length (digitsValue digits) = digits := by
  rcases exists_zeros_of_isNumeral numeral with ⟨zeros, shape⟩
  have length : digits.length = zeros + (decimal (digitsValue digits)).length := by
    conv_lhs => rw [shape]
    simp
  rw [paddedDecimal, length, Nat.add_sub_cancel]
  exact shape.symm

end Text

end StakingIncome
