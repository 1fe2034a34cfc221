import StakingIncome.Proofs.IncomeTexts

/-!
Amounts are read from digits and from nothing else, and they are never rounded. A number is an
amount when its text is made of digits alone, whatever its value is, and a string when its text
without the blanks at either end is.
-/

namespace StakingIncome.Json

namespace Decoder

open Text

/-! ### Amounts in texts -/

/-- How a text is refused that is no numeral between its blanks. -/
def notNumeral (text : List Char) : DecodeFault :=
  .explained ("expecting a non-negative integer amount, got " ++
    String.ofList (quoted (trimmed text)))

/-- Since the digits are looked at first, reading the number cannot fail any more. -/
theorem amountOfText_eq (text : List Char) :
    amountOfText text =
      if isNumeral (trimmed text) then .ok (digitsValue (trimmed text))
      else .error (notNumeral text) := by
  rw [amountOfText]
  split
  · rename_i numeral
    rw [readNatural_of_isNumeral numeral]
    rfl
  · rfl

theorem amountOfText_eq_ok_iff {text : List Char} {value : Nat} :
    amountOfText text = .ok value ↔
      isNumeral (trimmed text) = true ∧ digitsValue (trimmed text) = value := by
  rw [amountOfText_eq]
  split <;> simp_all

theorem amountOfText_eq_error_iff {text : List Char} {fault : DecodeFault} :
    amountOfText text = .error fault ↔
      isNumeral (trimmed text) = false ∧ notNumeral text = fault := by
  rw [amountOfText_eq]
  split <;> simp_all

/-! ### Amounts in values -/

theorem amount_number_eq_ok_iff {literal : Decimal.Literal} {text : List Char}
    (spelled : LiteralText literal text) {levels value : Nat} :
    amount levels (Value.number literal).node = .ok value ↔
      isNumeral text = true ∧ digitsValue text = value := by
  have shown := spelled.of_written
  have read : amount levels (Value.number literal).node = amountOfText literal.written := rfl
  rw [read, amountOfText_eq_ok_iff, trimmed_of_solid shown.solid, spelled.isNumeral_iff,
    shown.isNumeral_iff]
  refine and_congr_right fun plain => ?_
  rw [shown.eq_whole plain, spelled.eq_whole plain]

theorem amount_string_eq_ok_iff {content : String} {levels value : Nat} :
    amount levels (Value.string content).node = .ok value ↔
      isNumeral (trimmed content.toList) = true ∧
        digitsValue (trimmed content.toList) = value :=
  amountOfText_eq_ok_iff

/-- An array or an object is read as a whole first, and may be refused for something inside it. -/
theorem amount_refuses {value : Value} (noNumber : ∀ literal, value ≠ .number literal)
    (noString : ∀ content, value ≠ .string content)
    (noKey : ∀ first rest, value = .object (first :: rest) → first.1 ≠ Node.numberKey)
    (levels : Nat) : ∃ fault, amount levels value.node = .error fault := by
  cases value with
  | null => exact ⟨_, rfl⟩
  | bool => exact ⟨_, rfl⟩
  | number literal => exact absurd rfl (noNumber literal)
  | string content => exact absurd rfl (noString content)
  | array items =>
      rw [Value.node, amount]
      cases levels with
      | zero => exact ⟨_, rfl⟩
      | succ levels =>
          rw [Node.value]
          cases Node.itemValues levels (Value.nodes items) <;> exact ⟨_, rfl⟩
  | object members =>
      have unreserved : Node.reserved? (Value.memberNodes members) = none := by
        cases members with
        | nil => rfl
        | cons first rest => exact if_neg (noKey first rest rfl)
      rw [Value.node, amount]
      cases levels with
      | zero => exact ⟨_, rfl⟩
      | succ levels =>
          simp only [Node.value, unreserved]
          cases Node.memberValues levels (Value.memberNodes members) <;> exact ⟨_, rfl⟩

/-! ### Amounts in documents -/

theorem isVisible_of_isDigit {character : Char} (isDigit : character.isDigit = true) :
    isVisible character = true := by
  have lower := (toNat_of_isDigit isDigit).1
  have noQuote : character ≠ '"' := by
    rintro rfl
    cases isDigit
  have noBackslash : character ≠ '\\' := by
    rintro rfl
    cases isDigit
  simp only [isVisible, Bool.and_eq_true, decide_eq_true_eq, bne_iff_ne]
  exact ⟨⟨Nat.le_trans (by decide) lower, noQuote⟩, noBackslash⟩

theorem decode_decimal (value : Nat) : decode amount (decimal value) = .ok value :=
  decode_of_reads amount_reads (Nat.zero_le _) .number
    (ValueText.number (literalText_ofNatural value)).element

theorem decode_quoted_decimal (value : Nat) :
    decode amount ('"' :: decimal value ++ ['"']) = .ok value := by
  have visible : (decimal value).all isVisible = true :=
    List.all_eq_true.mpr fun digit member => isVisible_of_isDigit (isDigit_of_mem_decimal member)
  have spelled : StringText (String.ofList (decimal value)) ('"' :: decimal value ++ ['"']) :=
    .quoted (by simpa using contentText_of_visible visible)
  exact decode_of_reads amount_reads (Nat.zero_le _)
    (.quoted (isNumeral_decimal value) (digitsValue_decimal value))
    (ValueText.string spelled).element

/-- Wherever an amount stands in a document, a number is read when its text is digits alone, and a
string when nothing but digits is left between its blanks. Either is read as what the digits denote,
however many they are, so that they could be written down again from the result and their count. -/
theorem amount_of_digits_alone :
    (∀ literal text, LiteralText literal text → ∀ levels value,
      amount levels (Value.number literal).node = .ok value ↔
        isNumeral text = true ∧ digitsValue text = value) ∧
    (∀ content levels value, amount levels (Value.string content).node = .ok value ↔
      isNumeral (trimmed content.toList) = true ∧
        digitsValue (trimmed content.toList) = value) ∧
    (∀ value : Value, (∀ literal, value ≠ .number literal) → (∀ content, value ≠ .string content) →
      (∀ first rest, value = .object (first :: rest) → first.1 ≠ Node.numberKey) →
      ∀ levels, ∃ fault, amount levels value.node = .error fault) ∧
    (∀ digits, isNumeral digits = true → readNatural digits = .ok (digitsValue digits) ∧
      paddedDecimal digits.length (digitsValue digits) = digits) ∧
    (∀ text fault, amountOfText text = .error fault ↔
      isNumeral (trimmed text) = false ∧ notNumeral text = fault) ∧
    (∀ value text, ElementText value text →
      decode amount text = amount mostLevels value.node) ∧
    (∀ value, decode amount (decimal value) = .ok value ∧
      decode amount ('"' :: decimal value ++ ['"']) = .ok value) :=
  ⟨fun _ _ spelled _ _ => amount_number_eq_ok_iff spelled,
    fun _ _ _ => amount_string_eq_ok_iff,
    fun _ noNumber noString noKey => amount_refuses noNumber noString noKey,
    fun _ numeral => ⟨readNatural_of_isNumeral numeral, paddedDecimal_digitsValue numeral⟩,
    fun _ _ => amountOfText_eq_error_iff,
    fun _ _ => decode_elementText amount,
    fun value => ⟨decode_decimal value, decode_quoted_decimal value⟩⟩

/-! ### Texts that only look like amounts -/

/-- A whole number, but written with an exponent. -/
def etherInWei : Decimal.Literal where
  negative := false
  whole := ['1']
  fraction := []
  exponent := some { negative := false, digits := ['1', '8'] }

def negativeZero : Decimal.Literal where
  negative := true
  whole := ['0']
  fraction := []
  exponent := none

def pointedFive : Decimal.Literal where
  negative := false
  whole := ['5']
  fraction := ['0']
  exponent := none

theorem amount_of_near_misses :
    (∀ literal ∈ [etherInWei, negativeZero, pointedFive], ∀ value,
      amount 0 (Value.number literal).node ≠ .ok value) ∧
    (∀ content ∈ ["", " ", "+7", "1_000", "1 000", "0x7", "\u0667"], ∀ value,
      amount 0 (Value.string content).node ≠ .ok value) ∧
    (∃ fault, amount 1 (Value.array [.string "7"]).node = .error fault) ∧
    amount 0 (Value.string "\u3000007\n").node = .ok 7 ∧
    readNatural "+1_000".toList = .ok 1000 ∧
    readNatural "0018446744073709551616".toList = .ok wordLimit ∧
    decode amount (decimal (wordLimit + 1)) = .ok (wordLimit + 1) := by
  rcases amount_of_digits_alone with ⟨numbers, strings, others, digits, _, _, decimals⟩
  have misses {literal text} (spelled : LiteralText literal text)
      (noNumeral : isNumeral text = false) (value : Nat) :
      amount 0 (Value.number literal).node ≠ .ok value := by
    intro read
    rw [((numbers literal text spelled 0 value).mp read).1] at noNumeral
    cases noNumeral
  have power : LiteralText etherInWei ([] ++ ['1'] ++ [] ++ ('E' :: [] ++ ['1', '8'])) :=
    .parts (by decide) .absent (.power (.inr rfl) .absent (by decide))
  have signed : LiteralText negativeZero (['-'] ++ ['0'] ++ [] ++ []) :=
    .parts (by decide) .absent .absent
  have pointed : LiteralText pointedFive ([] ++ ['5'] ++ ['.', '0'] ++ []) :=
    .parts (by decide) (.point (by decide)) .absent
  have noNumerals : ∀ content ∈ ["", " ", "+7", "1_000", "1 000", "0x7", "\u0667"],
      isNumeral (trimmed content.toList) = false := by decide
  have leading := (digits "0018446744073709551616".toList (by decide)).1
  refine ⟨?_, ?_, others (.array [.string "7"]) nofun nofun nofun 1,
    (strings _ 0 7).mpr (by decide), by decide, ?_, (decimals _).1⟩
  · simp only [List.forall_mem_cons]
    exact ⟨misses power (by decide), misses signed (by decide), misses pointed (by decide), nofun⟩
  · intro content listed value read
    have numeral := ((strings content 0 value).mp read).1
    rw [noNumerals content listed] at numeral
    cases numeral
  · exact leading.trans (congrArg Except.ok (by decide))

end Decoder

end StakingIncome.Json
