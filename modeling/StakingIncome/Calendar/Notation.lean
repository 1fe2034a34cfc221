import StakingIncome.Calendar.Date
import StakingIncome.Text.Blank
import StakingIncome.Text.Numeral

/-!
Dates as texts: year, month and day in this order with hyphens between. A date is written with four
digits of the year at least and two each of month and day; a year outside 0 to 9999 carries a sign.
Reading takes shorter parts too, and blanks before each part; the loose form takes blanks before the
hyphens and at the end as well.
-/

namespace StakingIncome

open Text

/-- Why a text is no date. -/
inductive DateError where
  | outOfRange
  | invalidCharacter
  | prematureEnd
  | trailingText
  deriving DecidableEq, Repr

def DateError.message : DateError → String
  | .outOfRange => "input is out of range"
  | .invalidCharacter => "input contains invalid characters"
  | .prematureEnd => "premature end of input"
  | .trailingText => "trailing input"

namespace Date

def writtenYear (year : Int) : List Char :=
  if 0 ≤ year ∧ year ≤ 9999 then
    paddedDecimal 4 year.natAbs
  else
    (if year < 0 then '-' else '+') :: paddedDecimal 4 year.natAbs

def written (date : Date) : List Char :=
  writtenYear date.year ++ '-' :: paddedDecimal 2 date.month ++ '-' :: paddedDecimal 2 date.day

instance : ToString Date where
  toString date := String.ofList date.written

/-! ### Reading

The first part that cannot be read decides the error. Whether the parts make up an existing day is
asked last, after the whole text was read. -/

/-- Numbers from 2^63 on are out of range for any part of a date. -/
def numberLimit : Nat := 9223372036854775808

/-- Years are out of range from 2^31 on, and below the negative of it. -/
def yearLimit : Int := 2147483648

/-- A number at the begin of a text and the text after it, taking at most `width` digits. -/
def readNumber (width : Nat) (text : List Char) : Except DateError (Nat × List Char) :=
  match text with
  | [] => .error .prematureEnd
  | first :: _ =>
    if first.isDigit then
      let digits := (text.take width).takeWhile Char.isDigit
      if digitsValue digits < numberLimit then
        .ok (digitsValue digits, text.drop digits.length)
      else
        .error .outOfRange
    else
      .error .invalidCharacter

def signedYear (negative : Bool) : Nat × List Char → Except DateError (Int × List Char)
  | (value, rest) =>
    let year : Int := if negative then -value else value
    if -yearLimit ≤ year ∧ year < yearLimit then .ok (year, rest) else .error .outOfRange

/-- A year with a sign has any number of digits, one without has four at most. -/
def readYear (text : List Char) : Except DateError (Int × List Char) :=
  match text with
  | '-' :: digits => do signedYear true (← readNumber digits.length digits)
  | '+' :: digits => do signedYear false (← readNumber digits.length digits)
  | digits => do signedYear false (← readNumber 4 digits)

/-- A month or a day: one or two digits and a value from one to `last`. -/
def readPart (last : Nat) (text : List Char) : Except DateError (Nat × List Char) := do
  let (value, rest) ← readNumber 2 text
  if 1 ≤ value ∧ value ≤ last then .ok (value, rest) else .error .outOfRange

def readHyphen : List Char → Except DateError (List Char)
  | [] => .error .prematureEnd
  | '-' :: rest => .ok rest
  | _ => .error .invalidCharacter

/-- Read a date, where `gap` drops what may stand before a hyphen and at the end. -/
def readWith (gap : List Char → List Char) (text : List Char) : Except DateError Date := do
  let (year, rest) ← readYear (dropBlanks text)
  let rest ← readHyphen (gap rest)
  let (month, rest) ← readPart 12 (dropBlanks rest)
  let rest ← readHyphen (gap rest)
  let (day, rest) ← readPart 31 (dropBlanks rest)
  match gap rest, of? year month day with
  | _ :: _, _ => .error .trailingText
  | [], none => .error .outOfRange
  | [], some date => .ok date

def read (text : List Char) : Except DateError Date :=
  readWith id text

def readLoose (text : List Char) : Except DateError Date :=
  readWith dropBlanks text

end Date

end StakingIncome
