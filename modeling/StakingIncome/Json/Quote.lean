import StakingIncome.Json.Fault

/-!
JSON strings. A string may escape any character by four hexadecimal digits, and a character beyond
the first 65536 by two such escapes in a row, a surrogate pair. Half a pair is no character, but is
only found out when the string is read.
-/

namespace StakingIncome.Json

/-- What one character or escape inside a string stands for. -/
inductive Piece where
  | plain (character : Char)
  | highSurrogate (unit : Nat)
  | lowSurrogate (unit : Nat)
  deriving DecidableEq, Repr

namespace Piece

/-- The piece for an escaped number of 16 bits. -/
def ofUnit (unit : Nat) : Piece :=
  if 0xd800 ≤ unit ∧ unit < 0xdc00 then .highSurrogate unit
  else if 0xdc00 ≤ unit ∧ unit < 0xe000 then .lowSurrogate unit
  else .plain (Char.ofNat unit)

def pair (high low : Nat) : Char :=
  Char.ofNat (0x10000 + (high - 0xd800) * 0x400 + (low - 0xdc00))

/-- The text that pieces make up, if all surrogates are paired. -/
def text? : List Piece → Option (List Char)
  | [] => some []
  | .plain character :: rest => (text? rest).map (character :: ·)
  | .highSurrogate high :: .lowSurrogate low :: rest => (text? rest).map (pair high low :: ·)
  | _ => none

/-- Whether a surrogate is not paired, whatever follows the pieces. -/
def unpaired : List Piece → Bool
  | [] => false
  | .plain _ :: rest => unpaired rest
  | .highSurrogate _ :: .lowSurrogate _ :: rest => unpaired rest
  | [.highSurrogate _] => false
  | _ => true

end Piece

def hexDigit? (character : Char) : Option Nat :=
  if character.isDigit then some (character.toNat - '0'.toNat)
  else if 'a' ≤ character ∧ character ≤ 'f' then some (character.toNat - 'a'.toNat + 10)
  else if 'A' ≤ character ∧ character ≤ 'F' then some (character.toNat - 'A'.toNat + 10)
  else none

def unit? (digits : List Char) : Option Nat :=
  (digits.mapM hexDigit?).map fun values => values.foldl (fun unit value => 16 * unit + value) 0

/-- The character for the letter of a short escape. -/
def shortEscape? : Char → Option Char
  | '"' => some '"'
  | '\\' => some '\\'
  | '/' => some '/'
  | 'b' => some '\x08'
  | 'f' => some '\x0c'
  | 'n' => some '\n'
  | 'r' => some '\r'
  | 't' => some '\t'
  | _ => none

/-- Whether a text holds the bytes of four digits, which decides whether an escape that is no escape
was cut off by the end of the text. -/
def holdsFourBytes (text : List Char) : Bool :=
  4 ≤ (String.ofList (text.take 4)).utf8ByteSize

/-- The inside of a string: its pieces, and either the text behind the closing quote or the flaw
that keeps the string from being closed. -/
structure QuotedPieces where
  pieces : List Piece
  rest : Except Flaw (List Char)

namespace QuotedPieces

def closed (rest : List Char) : QuotedPieces where
  pieces := []
  rest := .ok rest

def broken (flaw : Flaw) : QuotedPieces where
  pieces := []
  rest := .error flaw

def after (piece : Piece) (quoted : QuotedPieces) : QuotedPieces :=
  { quoted with pieces := piece :: quoted.pieces }

/-- Read the inside of a string, behind its opening quote. -/
def scan : List Char → QuotedPieces
  | [] => broken .endOfText
  | '"' :: rest => closed rest
  | ['\\'] => broken .endOfText
  | '\\' :: 'u' :: first :: second :: third :: fourth :: rest =>
    match unit? [first, second, third, fourth] with
    | some unit => (scan rest).after (.ofUnit unit)
    | none => broken .malformed
  | '\\' :: 'u' :: rest => broken (if holdsFourBytes rest then .malformed else .endOfText)
  | '\\' :: letter :: rest =>
    match shortEscape? letter with
    | some character => (scan rest).after (.plain character)
    | none => broken .malformed
  | character :: rest =>
    if character.toNat < 0x20 then
      broken .malformed
    else
      (scan rest).after (.plain character)

end QuotedPieces

end StakingIncome.Json
