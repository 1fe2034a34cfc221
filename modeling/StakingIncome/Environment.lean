import StakingIncome.Settings
import StakingIncome.Text.Delimited

/-!
Environment files, which hold a name and a value in each line, with an equals sign between. Lines
that are blank or start with a number sign hold nothing. A value may be quoted, and may be
followed by a comment. Lines from the first wrong one on do not count, and neither do those from
one on whose bytes are no text.
-/

namespace StakingIncome.Environment

open Text

inductive Quoting where
  | bare
  | single
  | double
  deriving DecidableEq

/-- The character for the letter behind a backslash. -/
def escaped? (character : Char) : Option Char :=
  if character = 'n' then some '\n'
  else if character ∈ ['\\', '\'', '"', '$', ' '] then some character
  else none

/-- Whether nothing but a comment follows a value. -/
def endsLine : List Char → Bool
  | [] => true
  | character :: rest =>
    if character = ' ' ∨ character = '\t' then endsLine rest else character == '#'

def readValue (quoting : Quoting) : List Char → Option (List Char)
  | [] => if quoting = .bare then some [] else none
  | character :: rest =>
    match quoting, character with
    | .single, '\'' => readValue .bare rest
    | .single, _ => (readValue .single rest).map (character :: ·)
    | .double, '"' => readValue .bare rest
    | .bare, '\'' => readValue .single rest
    | .bare, '"' => readValue .double rest
    | _, '\\' =>
      match rest with
      | [] => if quoting = .bare then some [] else none
      | letter :: rest => do return (← escaped? letter) :: (← readValue quoting rest)
    | .bare, ' ' => if endsLine rest then some [] else none
    | .bare, '\t' => if endsLine rest then some [] else none
    | _, _ => (readValue quoting rest).map (character :: ·)

def isNameStart (character : Char) : Bool :=
  character.isAlpha || character == '_'

def isNamePart (character : Char) : Bool :=
  character.isAlphanum || character == '_' || character == '.'

/-- A name and what follows it. -/
def readName (text : List Char) : Option (List Char × List Char) :=
  if text.head?.any isNameStart then
    some (text.takeWhile isNamePart, dropBlanks (text.dropWhile isNamePart))
  else
    none

def readAssignment (name : List Char) : List Char → Option (String × String)
  | '=' :: text =>
    let value := dropBlanks text
    let read := if value.head? == some '#' then some [] else readValue .bare value
    read.map fun value => (String.ofList name, String.ofList value)
  | _ => none

/-- A line with content, which may start with the word `export`. -/
def readLine (line : List Char) : Option (String × String) := do
  let (name, rest) ← readName line
  if name = "export".toList ∧ rest.head? ≠ some '=' then
    let (name, rest) ← readName rest
    readAssignment name rest
  else
    readAssignment name rest

def readLines : List (List Char) → List (String × String)
  | [] => []
  | line :: rest =>
    let content := trimmed line
    if content.isEmpty || content.head? == some '#' then
      readLines rest
    else
      match readLine content with
      | some assignment => assignment :: readLines rest
      | none => []

/-- The byte that a line ends with. -/
def lineFeed : UInt8 := 10

/-- The texts of lines, up to the first line that has none. -/
def lineTexts : List (List UInt8) → List (List Char)
  | [] => []
  | line :: rest =>
    match String.fromUTF8? line.toByteArray with
    | some text => text.toList :: lineTexts rest
    | none => []

/-- The variables of an environment file. -/
def readFile (bytes : ByteArray) : List (String × String) :=
  readLines (lineTexts (split [lineFeed] bytes.toList))

/-- An environment with the variables of a file behind it. What the environment sets itself wins,
even when it is empty, and of two lines for one name the first does. -/
def withFile (environment : Environment) (file : List (String × String)) : Environment :=
  fun name => environment name <|> file.lookup name

end StakingIncome.Environment
