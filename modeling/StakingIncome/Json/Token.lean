import StakingIncome.Decimal.Literal
import StakingIncome.Json.Quote

/-!
The tokens of a JSON text: brackets, commas and colons, and the values without parts. A token that
starts but does not end in its form is a token too, since only its place decides whether a flaw
inside it matters or whether it should not have been there at all.
-/

namespace StakingIncome.Json

open Decimal (Literal Exponent)

/-- A value without parts. A string has no content when a surrogate in it is not paired. -/
inductive Scalar where
  | null
  | bool (value : Bool)
  | number (literal : Literal)
  | string (content : Option String)
  deriving DecidableEq, Repr

inductive Token where
  | openArray
  | closeArray
  | openObject
  | closeObject
  | comma
  | colon
  | scalar (scalar : Scalar)
  | brokenString (breach : Breach)
  | brokenValue (breach : Breach)
  deriving DecidableEq, Repr

/-- Take one token off the begin of a text, or only the rest of one whose begin was already taken.
-/
abbrev Lexer (α : Type) := List Char → Except Breach (α × List Char)

/-! ### Numbers -/

/-- A number that ends with the text where a digit has to follow. -/
def Breach.unfinishedNumber : Breach where
  reading := .endOfText
  skipping := .malformed

/-- One digit or more. -/
def lexDigits : Lexer (List Char)
  | [] => .error .unfinishedNumber
  | first :: rest =>
    if first.isDigit then
      .ok (first :: rest.takeWhile Char.isDigit, rest.dropWhile Char.isDigit)
    else
      .error (.of .malformed)

def startsWithDigit (text : List Char) : Bool :=
  text.head?.any Char.isDigit

/-- The whole part, which is a single zero or starts with another digit. -/
def lexWhole : Lexer (List Char)
  | '0' :: rest => if startsWithDigit rest then .error (.of .malformed) else .ok (['0'], rest)
  | text => lexDigits text

def lexFraction : Lexer (List Char)
  | '.' :: rest => lexDigits rest
  | rest => .ok ([], rest)

def lexExponentDigits (negative : Bool) : Lexer (Option Exponent) := fun text => do
  let (digits, rest) ← lexDigits text
  return (some { negative, digits }, rest)

def lexSignedExponent : Lexer (Option Exponent)
  | '+' :: rest => lexExponentDigits false rest
  | '-' :: rest => lexExponentDigits true rest
  | rest => lexExponentDigits false rest

def lexExponent : Lexer (Option Exponent)
  | 'e' :: rest => lexSignedExponent rest
  | 'E' :: rest => lexSignedExponent rest
  | rest => .ok (none, rest)

def lexMagnitude (negative : Bool) : Lexer Literal := fun text => do
  let (whole, rest) ← lexWhole text
  let (fraction, rest) ← lexFraction rest
  let (exponent, rest) ← lexExponent rest
  return ({ negative, whole, fraction, exponent }, rest)

/-- A number literal. -/
def lexNumber : Lexer Literal
  | '-' :: rest => lexMagnitude true rest
  | text => lexMagnitude false text

/-! ### Names and strings -/

/-- The letters of a name that still have to follow. -/
def lexLetters (scalar : Scalar) : List Char → Lexer Scalar
  | [], rest => .ok (scalar, rest)
  | _ :: _, [] => .error (.of .endOfText)
  | letter :: letters, character :: rest =>
    if letter = character then lexLetters scalar letters rest else .error (.of .malformed)

/-- A string behind its opening quote. -/
def lexString : Lexer Scalar := fun text =>
  let quoted := QuotedPieces.scan text
  match quoted.rest with
  | .ok rest => .ok (.string ((Piece.text? quoted.pieces).map String.ofList), rest)
  | .error flaw =>
    .error {
      skipping := flaw
      reading := if Piece.unpaired quoted.pieces then .malformed else flaw }

/-! ### Tokens -/

def isSpace (character : Char) : Bool :=
  character == ' ' || character == '\t' || character == '\n' || character == '\r'

/-- The token that a lexer found, with nothing left to read behind a broken one. -/
def tokenOr (broken : Breach → Token) (found : Except Breach (Scalar × List Char)) :
    Token × List Char :=
  match found with
  | .ok (scalar, rest) => (.scalar scalar, rest)
  | .error breach => (broken breach, [])

def lexValue (text : List Char) : Token × List Char :=
  if startsWithDigit text || text.head? == some '-' then
    tokenOr .brokenValue ((lexNumber text).map fun (literal, rest) => (.number literal, rest))
  else
    (.brokenValue (.of .malformed), [])

/-- The first token of a text without spaces in front, and the text behind it. -/
def nextToken? : List Char → Option (Token × List Char)
  | [] => none
  | '[' :: rest => some (.openArray, rest)
  | ']' :: rest => some (.closeArray, rest)
  | '\x7b' :: rest => some (.openObject, rest)
  | '\x7d' :: rest => some (.closeObject, rest)
  | ',' :: rest => some (.comma, rest)
  | ':' :: rest => some (.colon, rest)
  | '"' :: rest => some (tokenOr .brokenString (lexString rest))
  | 'n' :: rest => some (tokenOr .brokenValue (lexLetters .null "ull".toList rest))
  | 't' :: rest => some (tokenOr .brokenValue (lexLetters (.bool true) "rue".toList rest))
  | 'f' :: rest => some (tokenOr .brokenValue (lexLetters (.bool false) "alse".toList rest))
  | text => some (lexValue text)

/-! ### Every token takes something off the text

The text behind a token is shorter than the text in front of it, so that reading token by token
comes to an end. -/

theorem length_rest_lexDigits {text digits rest : List Char}
    (found : lexDigits text = .ok (digits, rest)) : rest.length < text.length := by
  unfold lexDigits at found
  split at found
  · cases found
  · rename_i first tail
    split at found
    · cases found
      exact Nat.lt_succ_of_le (List.dropWhile_suffix _).length_le
    · cases found

theorem length_rest_lexWhole {text digits rest : List Char}
    (found : lexWhole text = .ok (digits, rest)) : rest.length < text.length := by
  unfold lexWhole at found
  split at found
  · split at found
    · cases found
    · cases found
      exact Nat.lt_succ_self _
  · exact length_rest_lexDigits found

theorem length_rest_lexFraction {text digits rest : List Char}
    (found : lexFraction text = .ok (digits, rest)) : rest.length ≤ text.length := by
  unfold lexFraction at found
  split at found
  · exact Nat.le_succ_of_le (Nat.le_of_lt (length_rest_lexDigits found))
  · cases found
    exact Nat.le_refl _

theorem length_rest_lexExponentDigits {negative : Bool} {text rest : List Char}
    {exponent : Option Exponent} (found : lexExponentDigits negative text = .ok (exponent, rest)) :
    rest.length ≤ text.length := by
  unfold lexExponentDigits at found
  cases digits : lexDigits text with
  | error breach => simp [digits, bind, Except.bind] at found
  | ok parts =>
    simp only [digits, bind, Except.bind, pure, Except.pure, Except.ok.injEq,
      Prod.mk.injEq] at found
    obtain ⟨_, rfl⟩ := found
    exact Nat.le_of_lt (length_rest_lexDigits digits)

theorem length_rest_lexSignedExponent {text rest : List Char} {exponent : Option Exponent}
    (found : lexSignedExponent text = .ok (exponent, rest)) : rest.length ≤ text.length := by
  unfold lexSignedExponent at found
  split at found
  · exact Nat.le_succ_of_le (length_rest_lexExponentDigits found)
  · exact Nat.le_succ_of_le (length_rest_lexExponentDigits found)
  · exact length_rest_lexExponentDigits found

theorem length_rest_lexExponent {text rest : List Char} {exponent : Option Exponent}
    (found : lexExponent text = .ok (exponent, rest)) : rest.length ≤ text.length := by
  unfold lexExponent at found
  split at found
  · exact Nat.le_succ_of_le (length_rest_lexSignedExponent found)
  · exact Nat.le_succ_of_le (length_rest_lexSignedExponent found)
  · cases found
    exact Nat.le_refl _

theorem length_rest_lexMagnitude {negative : Bool} {text rest : List Char} {literal : Literal}
    (found : lexMagnitude negative text = .ok (literal, rest)) : rest.length < text.length := by
  unfold lexMagnitude at found
  cases whole : lexWhole text with
  | error breach => simp [whole, bind, Except.bind] at found
  | ok first =>
    cases fraction : lexFraction first.2 with
    | error breach => simp [whole, fraction, bind, Except.bind] at found
    | ok second =>
      cases exponent : lexExponent second.2 with
      | error breach => simp [whole, fraction, exponent, bind, Except.bind] at found
      | ok third =>
        simp only [whole, fraction, exponent, bind, Except.bind, pure, Except.pure,
          Except.ok.injEq, Prod.mk.injEq] at found
        obtain ⟨_, rfl⟩ := found
        have := length_rest_lexWhole whole
        have := length_rest_lexFraction fraction
        have := length_rest_lexExponent exponent
        omega

theorem length_rest_lexNumber {text rest : List Char} {literal : Literal}
    (found : lexNumber text = .ok (literal, rest)) : rest.length < text.length := by
  unfold lexNumber at found
  split at found
  · exact Nat.lt_succ_of_lt (length_rest_lexMagnitude found)
  · exact length_rest_lexMagnitude found

theorem length_rest_lexLetters {scalar named : Scalar} {letters text rest : List Char}
    (found : lexLetters scalar letters text = .ok (named, rest)) : rest.length ≤ text.length := by
  fun_induction lexLetters scalar letters text with
  | case1 => cases found; exact Nat.le_refl _
  | case2 => cases found
  | case3 letters character text induction => exact Nat.le_succ_of_le (induction found)
  | case4 => cases found

theorem QuotedPieces.length_rest_scan {text rest : List Char}
    (found : (scan text).rest = .ok rest) : rest.length ≤ text.length := by
  fun_induction scan text <;> simp_all [closed, broken, after] <;> omega

theorem length_rest_lexString {text rest : List Char} {scalar : Scalar}
    (found : lexString text = .ok (scalar, rest)) : rest.length ≤ text.length := by
  unfold lexString at found
  dsimp only at found
  split at found
  · rename_i closed
    cases found
    exact QuotedPieces.length_rest_scan closed
  · cases found

theorem length_rest_tokenOr {broken : Breach → Token} {found : Except Breach (Scalar × List Char)}
    {limit : Nat} (bounded : ∀ scalar rest, found = .ok (scalar, rest) → rest.length ≤ limit) :
    (tokenOr broken found).2.length ≤ limit := by
  unfold tokenOr
  split
  · exact bounded _ _ rfl
  · exact Nat.zero_le _

theorem length_rest_lexValue {first : Char} {text : List Char} :
    (lexValue (first :: text)).2.length ≤ text.length := by
  unfold lexValue
  split
  · apply length_rest_tokenOr
    intro scalar rest found
    cases number : lexNumber (first :: text) with
    | error breach => simp [number, Except.map] at found
    | ok parts =>
      simp only [number, Except.map, Except.ok.injEq, Prod.mk.injEq] at found
      obtain ⟨_, rfl⟩ := found
      exact Nat.le_of_lt_succ (length_rest_lexNumber number)
  · exact Nat.zero_le _

private theorem length_rest_lt {parts : Token × List Char} {token : Token} {text rest : List Char}
    {first : Char} (found : some parts = some (token, rest))
    (bounded : parts.2.length ≤ text.length) : rest.length < (first :: text).length := by
  cases found
  exact Nat.lt_succ_of_le bounded

theorem length_rest_nextToken? {text rest : List Char} {token : Token}
    (found : nextToken? text = some (token, rest)) : rest.length < text.length := by
  unfold nextToken? at found
  split at found
  case h_1 => cases found
  case h_8 => exact length_rest_lt found (length_rest_tokenOr fun _ _ => length_rest_lexString)
  case h_9 => exact length_rest_lt found (length_rest_tokenOr fun _ _ => length_rest_lexLetters)
  case h_10 => exact length_rest_lt found (length_rest_tokenOr fun _ _ => length_rest_lexLetters)
  case h_11 => exact length_rest_lt found (length_rest_tokenOr fun _ _ => length_rest_lexLetters)
  case h_12 =>
    cases text with
    | nil => exact absurd rfl ‹_›
    | cons first text => exact length_rest_lt found length_rest_lexValue
  all_goals exact length_rest_lt found (Nat.le_refl _)

end StakingIncome.Json
