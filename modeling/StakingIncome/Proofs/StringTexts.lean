import StakingIncome.Json.Token

/-!
JSON strings and the texts they may be written in. Every character has several spellings: itself,
one of the short escapes, or its UTF-16 units as escapes of four hexadecimal digits each. Whichever
is chosen for each of its characters, a string is read back as it was.
-/

namespace StakingIncome.Json

/-! ### Spellings of a character -/

def IsHexDigit (value : Nat) (digit : Char) : Prop :=
  value < 16 ∧ (digit = Nat.digitChar value ∨ digit = (Nat.digitChar value).toUpper)

instance (value : Nat) (digit : Char) : Decidable (IsHexDigit value digit) :=
  inferInstanceAs (Decidable (_ ∧ _))

/-- An escape of 16 bits by four digits of either case. -/
inductive UnitEscape : Nat → List Char → Prop
  | digits {a b c d : Nat} {first second third fourth : Char} (isFirst : IsHexDigit a first)
      (isSecond : IsHexDigit b second) (isThird : IsHexDigit c third)
      (isFourth : IsHexDigit d fourth) :
      UnitEscape (16 * (16 * (16 * a + b) + c) + d) ['\\', 'u', first, second, third, fourth]

/-- The letters of the short escapes with the characters they stand for. -/
def shortEscapes : List (Char × Char) :=
  [('"', '"'), ('\\', '\\'), ('/', '/'), ('b', Char.ofNat 0x8), ('f', Char.ofNat 0xc),
    ('n', Char.ofNat 0xa), ('r', Char.ofNat 0xd), ('t', Char.ofNat 0x9)]

inductive CharacterText (character : Char) : List Char → Prop
  | plain (visible : 0x20 ≤ character.toNat) (noQuote : character ≠ '"')
      (noBackslash : character ≠ '\\') : CharacterText character [character]
  | short {letter : Char} (escape : (letter, character) ∈ shortEscapes) :
      CharacterText character ['\\', letter]
  | unit {text : List Char} (escape : UnitEscape character.toNat text) :
      CharacterText character text
  | pair {high low : Nat} {highText lowText : List Char} (isHigh : 0xd800 ≤ high ∧ high < 0xdc00)
      (isLow : 0xdc00 ≤ low ∧ low < 0xe000)
      (value : character.toNat = 0x10000 + (high - 0xd800) * 0x400 + (low - 0xdc00))
      (highEscape : UnitEscape high highText) (lowEscape : UnitEscape low lowText) :
      CharacterText character (highText ++ lowText)

inductive ContentText : List Char → List Char → Prop
  | nil : ContentText [] []
  | cons {character : Char} {content text more : List Char} (first : CharacterText character text)
      (rest : ContentText content more) : ContentText (character :: content) (text ++ more)

/-- A string in its quotes. -/
inductive StringText (string : String) : List Char → Prop
  | quoted {text : List Char} (content : ContentText string.toList text) :
      StringText string ('"' :: text ++ ['"'])

/-- Whether a character may stand for itself. -/
def isVisible (character : Char) : Bool :=
  0x20 ≤ character.toNat && character != '"' && character != '\\'

theorem contentText_of_visible {content : List Char} (visible : content.all isVisible = true) :
    ContentText content content := by
  induction content with
  | nil => exact .nil
  | cons first rest induction =>
      simp only [List.all_cons, isVisible, Bool.and_eq_true, decide_eq_true_eq, bne_iff_ne]
        at visible
      rcases visible with ⟨⟨⟨shown, noQuote⟩, noBackslash⟩, others⟩
      exact .cons (.plain shown noQuote noBackslash) (induction others)

/-! ### Reading a character -/

theorem hexDigit?_of_isHexDigit {value : Nat} {digit : Char} (isDigit : IsHexDigit value digit) :
    hexDigit? digit = some value := by
  have table : ∀ value < 16, hexDigit? (Nat.digitChar value) = some value ∧
      hexDigit? (Nat.digitChar value).toUpper = some value := by decide
  rcases isDigit with ⟨small, rfl | rfl⟩
  · exact (table value small).1
  · exact (table value small).2

theorem shortEscape?_of_mem {letter character : Char}
    (escape : (letter, character) ∈ shortEscapes) :
    letter ≠ 'u' ∧ shortEscape? letter = some character := by
  have table : ∀ entry ∈ shortEscapes,
      entry.1 ≠ 'u' ∧ shortEscape? entry.1 = some entry.2 := by decide
  exact table _ escape

namespace QuotedPieces

theorem scan_unitEscape {unit : Nat} {text : List Char} (escape : UnitEscape unit text)
    (rest : List Char) : scan (text ++ rest) = (scan rest).after (.ofUnit unit) := by
  cases escape with
  | digits isFirst isSecond isThird isFourth =>
      simp [scan, unit?, hexDigit?_of_isHexDigit isFirst, hexDigit?_of_isHexDigit isSecond,
        hexDigit?_of_isHexDigit isThird, hexDigit?_of_isHexDigit isFourth]

theorem scan_shortEscape {letter character : Char}
    (escape : (letter, character) ∈ shortEscapes) (rest : List Char) :
    scan ('\\' :: letter :: rest) = (scan rest).after (.plain character) := by
  rcases shortEscape?_of_mem escape with ⟨notUnit, found⟩
  rw [scan]
  · rw [found]
  all_goals simp [notUnit]

theorem scan_plain {character : Char} (visible : 0x20 ≤ character.toNat)
    (noQuote : character ≠ '"') (noBackslash : character ≠ '\\') (rest : List Char) :
    scan (character :: rest) = (scan rest).after (.plain character) := by
  rw [scan]
  · exact if_neg (Nat.not_lt.mpr visible)
  all_goals simp [noQuote, noBackslash]

end QuotedPieces

namespace Piece

/-- No character has the number of a surrogate. -/
theorem ofUnit_toNat (character : Char) : ofUnit character.toNat = .plain character := by
  have valid : character.toNat < 0xd800 ∨ 0xdfff < character.toNat ∧ character.toNat < 0x110000 :=
    character.valid
  rw [ofUnit, if_neg (by omega), if_neg (by omega), Char.ofNat_toNat]

theorem ofUnit_high {unit : Nat} (isHigh : 0xd800 ≤ unit ∧ unit < 0xdc00) :
    ofUnit unit = .highSurrogate unit :=
  if_pos isHigh

theorem ofUnit_low {unit : Nat} (isLow : 0xdc00 ≤ unit ∧ unit < 0xe000) :
    ofUnit unit = .lowSurrogate unit := by
  rw [ofUnit, if_neg (by omega), if_pos isLow]

end Piece

/-! ### Reading a string -/

namespace QuotedPieces

/-- What is read of a quoted text, where one character more stands in front. -/
def Prepends (character : Char) (quoted more : QuotedPieces) : Prop :=
  more.rest = quoted.rest ∧
    Piece.text? more.pieces = (Piece.text? quoted.pieces).map (character :: ·)

theorem scan_characterText {character : Char} {text : List Char}
    (spelled : CharacterText character text) (rest : List Char) :
    Prepends character (scan rest) (scan (text ++ rest)) := by
  cases spelled with
  | plain visible noQuote noBackslash =>
      rw [List.singleton_append, scan_plain visible noQuote noBackslash]
      exact ⟨rfl, rfl⟩
  | short escape =>
      rw [List.cons_append, List.singleton_append, scan_shortEscape escape]
      exact ⟨rfl, rfl⟩
  | unit escape =>
      rw [scan_unitEscape escape, Piece.ofUnit_toNat]
      exact ⟨rfl, rfl⟩
  | pair isHigh isLow value highEscape lowEscape =>
      rename_i high low highText lowText
      have paired : Piece.pair high low = character := by
        rw [Piece.pair, ← value, Char.ofNat_toNat]
      rw [List.append_assoc, scan_unitEscape highEscape, scan_unitEscape lowEscape,
        Piece.ofUnit_high isHigh, Piece.ofUnit_low isLow, ← paired]
      exact ⟨rfl, rfl⟩

theorem scan_contentText {content text : List Char} (spelled : ContentText content text)
    (rest : List Char) : (scan (text ++ '"' :: rest)).rest = .ok rest ∧
      Piece.text? (scan (text ++ '"' :: rest)).pieces = some content := by
  induction spelled with
  | nil => exact ⟨rfl, rfl⟩
  | cons first _ induction =>
      rw [List.append_assoc]
      rcases scan_characterText first _ with ⟨sameRest, front⟩
      rw [sameRest, front, induction.1, induction.2]
      exact ⟨rfl, rfl⟩

end QuotedPieces

theorem nextToken?_stringText {string : String} {text : List Char}
    (spelled : StringText string text) (rest : List Char) :
    nextToken? (text ++ rest) = some (.scalar (.string (some string)), rest) := by
  cases spelled with
  | quoted content =>
      rename_i inside
      have scanned := QuotedPieces.scan_contentText content rest
      have found : lexString (inside ++ '"' :: rest) = .ok (.string (some string), rest) := by
        rw [lexString]
        simp only [scanned, Option.map_some, String.ofList_toList]
      rw [List.cons_append, List.cons_append, List.append_assoc, List.singleton_append,
        nextToken?, found, tokenOr]

end StakingIncome.Json
