import StakingIncome.Calendar.Notation
import StakingIncome.Json.Document
import StakingIncome.Json.Value
import StakingIncome.Text.Quoted

/-!
From trees to values of the domain. A decoder is given how many brackets may still be opened, and it
reads its tree in the order of the text, so that the first fault it meets is the first one there.
-/

namespace StakingIncome.Json

abbrev Decoder (α : Type) := (levels : Nat) → Node → Except DecodeFault α

/-- The brackets that a text may have open at a time. -/
def mostLevels : Nat := 127

def decode {α : Type} (decoder : Decoder α) (text : List Char) : Except DecodeFault α := do
  let document := Document.read text
  let value ← decoder mostLevels document.root
  if document.trailing then .error .malformed else .ok value

namespace Decoder

def string : Decoder String := fun _ node =>
  node.text

def date : Decoder Date := fun levels node => do
  match Date.readLoose (← string levels node).toList with
  | .ok date => return date
  | .error error => throw (.explained error.message)

/-- A whole number in the range of words, with digits alone. -/
def word : Decoder UInt64 := fun _ node =>
  match node with
  | .scalar (.number literal) =>
    match literal.word?, literal.approximate? with
    | some word, _ => .ok word
    | none, none => .error .malformed
    | none, some _ => .error .unexplained
  | node => .error node.unexpected

def price : Decoder Float := fun _ node =>
  match node with
  | .scalar (.number literal) =>
    match literal.approximate? with
    | some price => .ok price
    | none => .error .malformed
  | node => .error node.unexpected

/-- The amount that a text denotes, which may have blanks around it. -/
def amountOfText (text : List Char) : Except DecodeFault Nat :=
  let digits := Text.trimmed text
  if Text.isNumeral digits then
    (Text.readNatural digits).mapError fun error => .explained
      ("invalid amount " ++ String.ofList (Text.quoted digits) ++ ": " ++ error.message)
  else
    .error (.explained
      ("expecting a non-negative integer amount, got " ++ String.ofList (Text.quoted digits)))

/-- An amount of any size, as a number or as a string. -/
def amount : Decoder Nat := fun levels node => do
  match ← node.value levels with
  | .number literal => amountOfText literal.written
  | .string content => amountOfText content.toList
  | value =>
    throw (.explained ("expecting an integer amount, got " ++ String.ofList value.compact))

def nullable {α : Type} (decoder : Decoder α) : Decoder (Option α) := fun levels node =>
  match node with
  | .scalar .null => .ok none
  | node => some <$> decoder levels node

def array {α : Type} (item : Decoder α) : Decoder (List α) := fun levels node =>
  match levels, node with
  | 0, .array .. => .error .malformed
  | levels + 1, .array items breach => do
    let values ← items.mapM (item levels)
    Node.close breach
    return values
  | _, node => .error node.unexpected

/-! ### Records

A record is written as an object with the names of its fields as keys, or as an array of its
fields in their order. While it is read its fields fill a draft. -/

/-- A field of the drafts of a record. -/
structure Field (δ : Type) where
  name : String
  isFilled : δ → Bool
  fill : Decoder (δ → δ)

def field {α δ : Type} (name : String) (value? : δ → Option α) (set : α → δ → δ)
    (decoder : Decoder α) : Field δ where
  name
  isFilled draft := (value? draft).isSome
  fill levels node := set <$> decoder levels node

/-- The value of a field that every record has. -/
def required {α : Type} (name : String) : Option α → Except DecodeFault α
  | some value => .ok value
  | none => .error (.explained ("missing field \x60" ++ name ++ "\x60"))

/-- Fill a draft from the members of an object. A key without field is passed over with its value,
and the key of a field that was filled before is refused before its value is looked at. -/
def fillMembers {δ : Type} (fields : List (Field δ)) (levels : Nat) (draft : δ) :
    List Member → Except DecodeFault δ
  | [] => .ok draft
  | (key, value) :: rest => do
    let name ← Node.key key
    match fields.find? fun field => field.name == name with
    | none =>
      value.skip
      fillMembers fields levels draft rest
    | some field =>
      if field.isFilled draft then
        .error (.explained ("duplicate field \x60" ++ name ++ "\x60"))
      else
        let set ← field.fill levels value
        fillMembers fields levels (set draft) rest

/-- Fill a draft from the items of an array. There may be less of them than fields, but not more. -/
def fillItems {δ : Type} (levels : Nat) (draft : δ) :
    List (Field δ) → List Node → Except DecodeFault δ
  | _, [] => .ok draft
  | [], _ :: _ => .error .malformed
  | field :: fields, item :: rest => do
    let set ← field.fill levels item
    fillItems levels (set draft) fields rest

/-- A record, where `finish` names the first field that is missing. An array without that field is
only of another form. -/
def record {α δ : Type} (fields : List (Field δ)) (empty : δ)
    (finish : δ → Except DecodeFault α) : Decoder α := fun levels node =>
  match levels, node with
  | 0, .object .. => .error .malformed
  | 0, .array .. => .error .malformed
  | levels + 1, .object members breach => do
    let draft ← fillMembers fields levels empty members
    Node.close breach
    finish draft
  | levels + 1, .array items breach => do
    let draft ← fillItems levels empty fields items
    Node.close breach
    match finish draft with
    | .ok value => return value
    | .error _ => throw .unexplained
  | _, node => .error node.unexpected

end Decoder

end StakingIncome.Json
