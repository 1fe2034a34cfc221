import StakingIncome.Json.Token
import StakingIncome.Proofs.Numerals

/-!
Number literals in JSON and the texts they may be written in. A literal is read back with every one
of its digits wherever it stands in front of something that could not belong to it.
-/

namespace StakingIncome.Json

open Decimal (Literal Exponent)
open Text

/-! ### Spellings of a literal -/

/-- No zero stands in front of another digit. -/
def IsWhole (digits : List Char) : Prop :=
  isNumeral digits = true ∧ (digits = ['0'] ∨ digits.head? ≠ some '0')

instance (digits : List Char) : Decidable (IsWhole digits) :=
  inferInstanceAs (Decidable (_ ∧ _))

inductive FractionText : List Char → List Char → Prop
  | absent : FractionText [] []
  | point {digits : List Char} (numeral : isNumeral digits = true) :
      FractionText digits ('.' :: digits)

inductive SignText : Bool → List Char → Prop
  | absent : SignText false []
  | plus : SignText false ['+']
  | minus : SignText true ['-']

inductive ExponentText : Option Exponent → List Char → Prop
  | absent : ExponentText none []
  | power {letter : Char} {negative : Bool} {sign digits : List Char}
      (isLetter : letter = 'e' ∨ letter = 'E') (signed : SignText negative sign)
      (numeral : isNumeral digits = true) :
      ExponentText (some { negative, digits }) (letter :: sign ++ digits)

inductive LiteralText (literal : Literal) : List Char → Prop
  | parts {fraction exponent : List Char} (isWhole : IsWhole literal.whole)
      (isFraction : FractionText literal.fraction fraction)
      (isExponent : ExponentText literal.exponent exponent) :
      LiteralText literal
        ((if literal.negative then ['-'] else []) ++ literal.whole ++ fraction ++ exponent)

theorem literalText_ofNatural (value : Nat) : LiteralText (.ofNatural value) (decimal value) := by
  have isWhole : IsWhole (decimal value) := by
    rcases Nat.eq_zero_or_pos value with rfl | positive
    · decide
    · exact ⟨isNumeral_decimal value, .inr (head?_decimal positive)⟩
  have parts : LiteralText (.ofNatural value) ([] ++ decimal value ++ [] ++ []) :=
    .parts isWhole .absent .absent
  rwa [List.nil_append, List.append_nil, List.append_nil] at parts

/-! ### Literals with digits alone -/

/-- Without a sign, a fraction and an exponent. -/
def IsPlain (literal : Literal) : Prop :=
  literal.negative = false ∧ literal.fraction = [] ∧ literal.exponent = none

theorem FractionText.eq_nil_of_digits {digits text : List Char} (spelled : FractionText digits text)
    (each : ∀ character ∈ text, character.isDigit = true) : digits = [] := by
  cases spelled with
  | absent => rfl
  | point _ => cases each '.' List.mem_cons_self

theorem ExponentText.eq_none_of_digits {exponent : Option Exponent} {text : List Char}
    (spelled : ExponentText exponent text) (each : ∀ character ∈ text, character.isDigit = true) :
    exponent = none := by
  cases spelled with
  | absent => rfl
  | power isLetter _ _ =>
      rcases isLetter with rfl | rfl <;> cases each _ List.mem_cons_self

theorem LiteralText.eq_whole {literal : Literal} {text : List Char}
    (spelled : LiteralText literal text) (plain : IsPlain literal) : text = literal.whole := by
  rcases literal with ⟨negative, whole, fraction, exponent⟩
  rcases plain with ⟨rfl, rfl, rfl⟩
  cases spelled with
  | parts _ isFraction isExponent =>
      cases isExponent
      cases isFraction with
      | absent => simp
      | point numeral => cases numeral

theorem LiteralText.isNumeral_iff {literal : Literal} {text : List Char}
    (spelled : LiteralText literal text) : isNumeral text = true ↔ IsPlain literal := by
  constructor
  · intro numeral
    have each := (Text.isNumeral_iff.mp numeral).2
    cases spelled with
    | parts _ isFraction isExponent =>
        refine ⟨?_, isFraction.eq_nil_of_digits ?_, isExponent.eq_none_of_digits ?_⟩
        · cases negative : literal.negative with
          | false => rfl
          | true => cases each '-' (by simp [negative])
        · exact fun character member => each character (by simp [member])
        · exact fun character member => each character (by simp [member])
  · intro plain
    rw [spelled.eq_whole plain]
    cases spelled with
    | parts isWhole _ _ => exact isWhole.1

/-- The text that a literal is shown in is one of its spellings. -/
theorem LiteralText.of_written {literal : Literal} {text : List Char}
    (spelled : LiteralText literal text) : LiteralText literal literal.written := by
  rcases literal with ⟨negative, whole, fraction, exponent⟩
  cases spelled with
  | parts isWhole isFraction isExponent =>
      refine .parts isWhole ?_ ?_
      · cases isFraction with
        | absent => exact .absent
        | point numeral =>
            rcases exists_cons_of_isNumeral numeral with ⟨first, rest, rfl, _⟩
            exact .point numeral
      · cases isExponent with
        | absent => exact .absent
        | power _ signed numeral =>
            cases signed with
            | absent => exact .power (.inl rfl) .plus numeral
            | plus => exact .power (.inl rfl) .plus numeral
            | minus => exact .power (.inl rfl) .minus numeral

theorem FractionText.solid {digits text : List Char} (spelled : FractionText digits text) :
    ∀ character ∈ text, isBlank character = false := by
  cases spelled with
  | absent => exact List.forall_mem_nil _
  | point numeral => exact List.forall_mem_cons.mpr ⟨rfl, isBlank_of_mem_isNumeral numeral⟩

theorem ExponentText.solid {exponent : Option Exponent} {text : List Char}
    (spelled : ExponentText exponent text) : ∀ character ∈ text, isBlank character = false := by
  cases spelled with
  | absent => exact List.forall_mem_nil _
  | power isLetter signed numeral =>
      have digits := isBlank_of_mem_isNumeral numeral
      rcases isLetter with rfl | rfl <;> cases signed <;> simpa [isBlank] using digits

/-- Nothing in a literal is blank, so that there is nothing to trim. -/
theorem LiteralText.solid {literal : Literal} {text : List Char}
    (spelled : LiteralText literal text) : ∀ character ∈ text, isBlank character = false := by
  cases spelled with
  | parts isWhole isFraction isExponent =>
      have sign : ∀ character ∈ if literal.negative then ['-'] else [],
          isBlank character = false := by
        cases literal.negative with
        | false => exact List.forall_mem_nil _
        | true => exact List.forall_mem_singleton.mpr rfl
      simp only [List.forall_mem_append]
      exact ⟨⟨⟨sign, isBlank_of_mem_isNumeral isWhole.1⟩, isFraction.solid⟩, isExponent.solid⟩

/-! ### Reading the parts -/

/-- Whether a character could belong to the number in front of it. -/
def continuesNumber (character : Char) : Bool :=
  character.isDigit || character == '.' || character == 'e' || character == 'E'

/-- A text in front of which a number comes to its end. -/
def EndsNumber (rest : List Char) : Prop :=
  rest.head?.any continuesNumber = false

theorem lexDigits_append {digits rest : List Char} (numeral : isNumeral digits = true)
    (ends : startsWithDigit rest = false) : lexDigits (digits ++ rest) = .ok (digits, rest) := by
  have digit := (isNumeral_iff.mp numeral).2
  rcases exists_cons_of_isNumeral numeral with ⟨first, more, rfl, isDigit⟩
  have others : ∀ character ∈ more, character.isDigit = true :=
    fun character member => digit character (List.mem_cons_of_mem first member)
  rw [List.cons_append, lexDigits, if_pos isDigit, List.takeWhile_append_of_pos others,
    List.dropWhile_append_of_pos others]
  cases rest with
  | nil => simp
  | cons next rest =>
      have stops : next.isDigit = false := by simpa [startsWithDigit] using ends
      simp [stops]

theorem lexWhole_append {digits rest : List Char} (isWhole : IsWhole digits)
    (ends : startsWithDigit rest = false) : lexWhole (digits ++ rest) = .ok (digits, rest) := by
  rcases isWhole with ⟨numeral, rfl | noZero⟩
  · simp [lexWhole, ends]
  · have found := lexDigits_append numeral ends
    rcases exists_cons_of_isNumeral numeral with ⟨first, more, rfl, _⟩
    have other : first ≠ '0' := by simpa using noZero
    rw [List.cons_append] at found ⊢
    rw [lexWhole]
    · exact found
    · simp [other]

theorem lexFraction_append {digits text rest : List Char} (spelled : FractionText digits text)
    (ends : startsWithDigit rest = false) (noPoint : rest.head? ≠ some '.') :
    lexFraction (text ++ rest) = .ok (digits, rest) := by
  cases spelled with
  | absent =>
      rw [List.nil_append]
      unfold lexFraction
      split
      · simp at noPoint
      · rfl
  | point numeral => exact lexDigits_append numeral ends

theorem lexSignedExponent_append {negative : Bool} {sign digits rest : List Char}
    (signed : SignText negative sign) (numeral : isNumeral digits = true)
    (ends : startsWithDigit rest = false) :
    lexSignedExponent (sign ++ digits ++ rest) = .ok (some { negative, digits }, rest) := by
  have found (negative : Bool) :
      lexExponentDigits negative (digits ++ rest) = .ok (some { negative, digits }, rest) := by
    rw [lexExponentDigits, lexDigits_append numeral ends]
    rfl
  cases signed with
  | absent =>
      rw [List.nil_append]
      have found := found false
      rcases exists_cons_of_isNumeral numeral with ⟨first, more, rfl, isDigit⟩
      rw [List.cons_append] at found ⊢
      rw [lexSignedExponent]
      · exact found
      all_goals rintro rest ⟨⟩; cases isDigit
  | plus => exact found false
  | minus => exact found true

theorem EndsNumber.no_digit {rest : List Char} (ends : EndsNumber rest) :
    startsWithDigit rest = false := by
  cases rest with
  | nil => rfl
  | cons next rest =>
      have stops : continuesNumber next = false := by simpa [EndsNumber] using ends
      simp only [continuesNumber, Bool.or_eq_false_iff] at stops
      simpa [startsWithDigit] using stops.1.1.1

theorem EndsNumber.head?_ne {rest : List Char} (ends : EndsNumber rest) {character : Char}
    (continues : continuesNumber character = true) : rest.head? ≠ some character := by
  intro head
  rw [EndsNumber, head, Option.any_some, continues] at ends
  cases ends

theorem lexExponent_append {exponent : Option Exponent} {text rest : List Char}
    (spelled : ExponentText exponent text) (ends : EndsNumber rest) :
    lexExponent (text ++ rest) = .ok (exponent, rest) := by
  cases spelled with
  | absent =>
      have lower := ends.head?_ne (by decide : continuesNumber 'e' = true)
      have upper := ends.head?_ne (by decide : continuesNumber 'E' = true)
      rw [List.nil_append]
      unfold lexExponent
      split
      · simp at lower
      · simp at upper
      · rfl
  | power isLetter signed numeral =>
      have found := lexSignedExponent_append signed numeral ends.no_digit
      rcases isLetter with rfl | rfl <;> exact found

/-! ### Reading a literal -/

theorem ExponentText.no_digit_or_point {exponent : Option Exponent} {text rest : List Char}
    (spelled : ExponentText exponent text) (ends : EndsNumber rest) :
    startsWithDigit (text ++ rest) = false ∧ (text ++ rest).head? ≠ some '.' := by
  cases spelled with
  | absent => exact ⟨ends.no_digit, ends.head?_ne (by decide)⟩
  | power isLetter _ _ =>
      rcases isLetter with rfl | rfl <;> exact ⟨rfl, by simp⟩

theorem FractionText.no_digit {digits text rest : List Char} (spelled : FractionText digits text)
    (ends : startsWithDigit rest = false) : startsWithDigit (text ++ rest) = false := by
  cases spelled with
  | absent => exact ends
  | point _ => rfl

/-- A number without sign starts with a digit. -/
theorem lexNumber_of_startsWithDigit {text : List Char} (starts : startsWithDigit text = true) :
    lexNumber text = lexMagnitude false text := by
  unfold lexNumber
  split
  · cases starts
  · rfl

theorem IsWhole.startsWithDigit_append {digits : List Char} (isWhole : IsWhole digits)
    (rest : List Char) : startsWithDigit (digits ++ rest) = true := by
  rcases exists_cons_of_isNumeral isWhole.1 with ⟨first, more, rfl, isDigit⟩
  simpa [startsWithDigit] using isDigit

theorem lexNumber_append {literal : Literal} {text rest : List Char}
    (spelled : LiteralText literal text) (ends : EndsNumber rest) :
    lexNumber (text ++ rest) = .ok (literal, rest) := by
  cases spelled with
  | parts isWhole isFraction isExponent =>
      rename_i fraction exponent
      have magnitude : lexMagnitude literal.negative
          (literal.whole ++ (fraction ++ (exponent ++ rest))) = .ok (literal, rest) := by
        rcases isExponent.no_digit_or_point ends with ⟨noDigit, noPoint⟩
        rw [lexMagnitude, lexWhole_append isWhole (isFraction.no_digit noDigit)]
        simp only [bind, Except.bind]
        rw [lexFraction_append isFraction noDigit noPoint]
        simp only
        rw [lexExponent_append isExponent ends]
        rfl
      simp only [List.append_assoc]
      cases negative : literal.negative with
      | true =>
          rw [negative] at magnitude
          exact magnitude
      | false =>
          rw [negative] at magnitude
          exact (lexNumber_of_startsWithDigit (isWhole.startsWithDigit_append _)).trans magnitude

theorem LiteralText.exists_cons {literal : Literal} {text : List Char}
    (spelled : LiteralText literal text) :
    ∃ first more, text = first :: more ∧ (first = '-' ∨ first.isDigit = true) := by
  cases spelled with
  | parts isWhole _ _ =>
      rcases exists_cons_of_isNumeral isWhole.1 with ⟨first, more, shape, isDigit⟩
      cases literal.negative with
      | true => exact ⟨'-', _, rfl, .inl rfl⟩
      | false => exact ⟨first, _, by rw [shape]; rfl, .inr isDigit⟩

/-- What starts with a sign or a digit starts with no other token than a number. -/
theorem nextToken?_of_number {first : Char} (starts : first = '-' ∨ first.isDigit = true)
    (more : List Char) : nextToken? (first :: more) = some (lexValue (first :: more)) := by
  rw [nextToken?]
  case x_1 => exact List.cons_ne_nil first more
  all_goals
    rintro rest ⟨⟩
    revert starts
    decide

theorem nextToken?_literalText {literal : Literal} {text rest : List Char}
    (spelled : LiteralText literal text) (ends : EndsNumber rest) :
    nextToken? (text ++ rest) = some (.scalar (.number literal), rest) := by
  have found := lexNumber_append spelled ends
  rcases spelled.exists_cons with ⟨first, more, rfl, starts⟩
  have chosen : (startsWithDigit (first :: more ++ rest) ||
      (first :: more ++ rest).head? == some '-') = true := by
    simpa [startsWithDigit, or_comm] using starts
  rw [List.cons_append] at found chosen ⊢
  rw [nextToken?_of_number starts, lexValue, if_pos chosen, found]
  rfl

end StakingIncome.Json
