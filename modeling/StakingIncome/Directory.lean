import StakingIncome.Fault
import StakingIncome.Text.Delimited
import Std.Data.TreeMap.Basic

/-!
Files and the paths that lead to them. Every file has a place in the directory. Which paths lead
there is up to the directory: more than one may lead to the same place, and some lead nowhere.
-/

namespace StakingIncome

structure Directory where
  /-- The files by their places. -/
  files : Std.TreeMap String ByteArray
  /-- The place that a path leads to, which a file need not have yet. -/
  place? : String → Option String

namespace Directory

def read (directory : Directory) (path : String) : Except Fault ByteArray :=
  match (directory.place? path).bind (directory.files[·]?) with
  | some bytes => .ok bytes
  | none => .error .file

/-- The directory after a file was written or replaced. -/
def write (directory : Directory) (path text : String) : Except Fault Directory :=
  match directory.place? path with
  | some place => .ok { directory with files := directory.files.insert place text.toUTF8 }
  | none => .error .file

/-- Files whose places are the paths themselves. -/
def byPath (files : Std.TreeMap String ByteArray) : Directory where
  files := files
  place? := some

/-! ### Plain files

A directory without directories inside it. Paths are relative to it and lead to a file of it or
nowhere. -/

/-- A name that a file can have. -/
def isFileName (name : List Char) : Bool :=
  name != [] && name != ['.'] && name != ['.', '.'] && !name.contains '\x00' &&
    (String.ofList name).utf8ByteSize ≤ 255

/-- The bytes that a path may have. -/
def mostPathBytes : Nat := 4095

/-- The name of the file that a path leads to. The directory itself may be named in front of it any
number of times. -/
def fileName? (path : String) : Option String :=
  match (Text.split ['/'] path.toList).reverse with
  | [] => none
  | name :: above =>
    let stays := above.all (fun part => part == ['.'] || part == []) && above.getLast? != some []
    if isFileName name && stays && path.utf8ByteSize ≤ mostPathBytes then
      some (String.ofList name)
    else
      none

def flat (files : Std.TreeMap String ByteArray) : Directory where
  files := files
  place? := fileName?

example : fileName? ".//./rewards.json" = some "rewards.json" := by decide +kernel

example : fileName? "rewards.json/" = none := by decide +kernel

end Directory

end StakingIncome
