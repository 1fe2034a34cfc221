/-!
Natural numbers in decimal notation, as a list of the digits from `0` to `9` with the most
significant one first.
-/

namespace StakingIncome.Text

def decimal (value : Nat) : List Char :=
  Nat.toDigits 10 value

/-- The decimal notation, with zeros in front up to the given number of digits. -/
def paddedDecimal (width value : Nat) : List Char :=
  List.replicate (width - (decimal value).length) '0' ++ decimal value

/-- The number that a list of digits denotes. -/
def digitsValue (digits : List Char) : Nat :=
  Nat.ofDigitChars 10 digits 0

def isNumeral (text : List Char) : Bool :=
  !text.isEmpty && text.all Char.isDigit

theorem digitsValue_decimal (value : Nat) : digitsValue (decimal value) = value :=
  Nat.ofDigitChars_ten_toDigits

theorem isDigit_of_mem_decimal {value : Nat} {digit : Char} (member : digit ∈ decimal value) :
    digit.isDigit = true :=
  Nat.isDigit_of_mem_toDigits (by decide) (by decide) member

theorem isNumeral_decimal (value : Nat) : isNumeral (decimal value) = true := by
  simp only [isNumeral, Bool.and_eq_true, Bool.not_eq_true', List.isEmpty_eq_false_iff,
    List.all_eq_true]
  exact ⟨Nat.toDigits_ne_nil, fun _ => isDigit_of_mem_decimal⟩

/-! ### Words of 64 bits -/

/-- The number of words, 2^64. -/
def wordLimit : Nat :=
  0x10000000000000000

/-- The word that denotes a natural number, when the number has one. -/
def word? (value : Nat) : Option UInt64 :=
  if value < wordLimit then some (UInt64.ofNat value) else none

theorem toNat_of_word? {value : Nat} {word : UInt64} (found : word? value = some word) :
    word.toNat = value := by
  unfold word? at found
  split at found
  · cases found
    exact UInt64.toNat_ofNat_of_lt' (by assumption)
  · cases found

theorem word?_toNat (word : UInt64) : word? word.toNat = some word := by
  have below : word.toNat < wordLimit := word.toNat_lt
  rw [word?, if_pos below, UInt64.ofNat_toNat]

/-- Why a text is no numeral of a word. -/
inductive NumeralError where
  | empty
  | invalidDigit
  | tooLarge
  deriving DecidableEq, Repr

def NumeralError.message : NumeralError → String
  | .empty => "cannot parse integer from empty string"
  | .invalidDigit => "invalid digit found in string"
  | .tooLarge => "number too large to fit in target type"

/-- Read digits one after the other. A character that is no digit is refused where it stands, and a
digit that leads beyond the words is refused before the characters that follow it are looked at. -/
def wordOfDigits (value : Nat) : List Char → Except NumeralError UInt64
  | [] =>
    match word? value with
    | some word => .ok word
    | none => .error .tooLarge
  | digit :: rest =>
    if !digit.isDigit then
      .error .invalidDigit
    else if wordLimit ≤ 10 * value + (digit.toNat - '0'.toNat) then
      .error .tooLarge
    else
      wordOfDigits (10 * value + (digit.toNat - '0'.toNat)) rest

/-- A word in decimal notation, with an optional plus sign in front. -/
def readWord : List Char → Except NumeralError UInt64
  | [] => .error .empty
  | '+' :: [] => .error .invalidDigit
  | '+' :: digits => wordOfDigits 0 digits
  | digits => wordOfDigits 0 digits

example : (readWord "+007".toList).toOption = some 7 := by decide

example : readWord "18446744073709551616x".toList = .error .tooLarge := by rfl

/-! ### Numbers of any size -/

/-- Read digits one after the other, and pass over the underscores between them. -/
def naturalOfDigits (value : Nat) : List Char → Except NumeralError Nat
  | [] => .ok value
  | '_' :: rest => naturalOfDigits value rest
  | digit :: rest =>
    if digit.isDigit then
      naturalOfDigits (10 * value + (digit.toNat - '0'.toNat)) rest
    else
      .error .invalidDigit

def readUnsigned : List Char → Except NumeralError Nat
  | [] => .error .empty
  | '_' :: _ => .error .invalidDigit
  | digits => naturalOfDigits 0 digits

/-- A number in decimal notation, with an optional plus sign in front and with underscores behind
its first digit. -/
def readNatural : List Char → Except NumeralError Nat
  | '+' :: digits => readUnsigned digits
  | digits => readUnsigned digits

example : (readNatural "+18_446_744_073_709_551_616".toList).toOption = some wordLimit := by decide

end StakingIncome.Text
