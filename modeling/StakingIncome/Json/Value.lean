import StakingIncome.Json.Node

/-!
Values of any form. A value is read from a tree as a whole, so that it can be shown where another
form was asked for. A number may also be written as an object, which holds the literal as a string
under a reserved key.
-/

namespace StakingIncome.Json

open Decimal (Literal)

/-- The members of an object keep the order of the text, with all members of one key. -/
inductive Value where
  | null
  | bool (value : Bool)
  | number (literal : Literal)
  | string (content : String)
  | array (items : List Value)
  | object (members : List (String × Value))

namespace Value

def ofScalar : Scalar → Except DecodeFault Value
  | .null => .ok null
  | .bool value => .ok (bool value)
  | .number literal => .ok (number literal)
  | .string (some content) => .ok (string content)
  | .string none => .error .malformed

/-! ### Compact text

Values are shown without spaces, the members of an object in the order of their keys, and of members
with one key only the last. -/

def writtenCharacter (character : Char) : List Char :=
  match character with
  | '"' => ['\\', '"']
  | '\\' => ['\\', '\\']
  | '\x08' => ['\\', 'b']
  | '\x0c' => ['\\', 'f']
  | '\n' => ['\\', 'n']
  | '\r' => ['\\', 'r']
  | '\t' => ['\\', 't']
  | _ =>
    if character.toNat < 0x20 then
      let digits := Nat.toDigits 16 character.toNat
      ['\\', 'u'] ++ List.replicate (4 - digits.length) '0' ++ digits
    else
      [character]

def writtenString (text : String) : List Char :=
  '"' :: text.toList.flatMap writtenCharacter ++ ['"']

/-- Put a member among those in the order of their keys, in the place of one with the same key. -/
def insertMember {α : Type} (name : String) (value : α) :
    List (String × α) → List (String × α)
  | [] => [(name, value)]
  | (other, present) :: rest =>
    if name < other then (name, value) :: (other, present) :: rest
    else if name = other then (name, value) :: rest
    else (other, present) :: insertMember name value rest

def sortMembers {α : Type} (members : List (String × α)) : List (String × α) :=
  members.foldl (fun sorted member => insertMember member.1 member.2 sorted) []

def joinedBy (separator : Char) (parts : List (List Char)) : List Char :=
  [separator].intercalate parts

mutual

def compact : Value → List Char
  | null => "null".toList
  | bool true => "true".toList
  | bool false => "false".toList
  | number literal => literal.written
  | string content => writtenString content
  | array items => '[' :: joinedBy ',' (compactItems items) ++ [']']
  | object members =>
    let shown := (sortMembers (compactMembers members)).map fun (name, value) =>
      writtenString name ++ ':' :: value
    '\x7b' :: joinedBy ',' shown ++ ['\x7d']

def compactItems : List Value → List (List Char)
  | [] => []
  | item :: rest => compact item :: compactItems rest

def compactMembers : List (String × Value) → List (String × List Char)
  | [] => []
  | (name, value) :: rest => (name, compact value) :: compactMembers rest

end

end Value

namespace Node

/-! ### Numbers as objects -/

/-- The key that is reserved for the text of a number. -/
def numberKey : String := "$serde_json::private::Number"

/-- What the reserved key leads to, with the members behind it. The key counts only where it comes
first in its object. -/
def reserved? : List Member → Option (Node × List Member)
  | (.ok name, node) :: rest => if name = numberKey then some (node, rest) else none
  | _ => none

/-- The literal that a string is made of, without anything in front or behind. -/
def literal (node : Node) : Except DecodeFault Literal := do
  match lexNumber (← node.text).toList with
  | .ok (literal, []) => return literal
  | _ => throw .unexplained

/-- Read an object that is a number, from the value of the reserved key on. There is no second
member, whatever it may be. -/
def numberObject (node : Node) (rest : List Member) (breach : Option Breach) :
    Except DecodeFault Literal := do
  let literal ← node.literal
  if rest.isEmpty then
    close breach
    return literal
  else
    throw .malformed

/-! ### Reading -/

mutual

/-- Read a value of any form, with a limit to the number of brackets that are open at a time. -/
def value (levels : Nat) : Node → Except DecodeFault Value
  | .scalar content => Value.ofScalar content
  | .broken breach => .error (.flaw breach.reading)
  | .array items breach =>
    match levels with
    | 0 => .error .malformed
    | levels + 1 => do
      let values ← itemValues levels items
      close breach
      return .array values
  | .object members breach =>
    match levels, reserved? members with
    | 0, _ => .error .malformed
    | _ + 1, some (node, rest) => .number <$> numberObject node rest breach
    | levels + 1, none => do
      let values ← memberValues levels members
      close breach
      return .object values

def itemValues (levels : Nat) : List Node → Except DecodeFault (List Value)
  | [] => .ok []
  | item :: rest => do
    let first ← value levels item
    return first :: (← itemValues levels rest)

def memberValues (levels : Nat) : List (Key × Node) → Except DecodeFault (List (String × Value))
  | [] => .ok []
  | (name, node) :: rest => do
    let name ← key name
    let first ← value levels node
    return (name, first) :: (← memberValues levels rest)

end

example :
    let number : Node := .object [(.ok numberKey, .scalar (.string (some "1E5")))] none
    ((value 1 number).toOption.map Value.compact) = some "1e+5".toList := by decide +kernel

/-- Anywhere but in front, the key is one like any other. -/
example :
    let members : List Member :=
      [(.ok "a", .scalar .null), (.ok numberKey, .scalar (.string (some "5")))]
    (reserved? members).isNone = true := by decide +kernel

end Node

end StakingIncome.Json
