/-!
Fields between delimiters. A line is the fields with the delimiter between each two, and nothing
is quoted: reading a line back looks for the delimiter from the left and never inside one that was
found.
-/

namespace StakingIncome.Text

def joined (delimiter : List Char) (fields : List (List Char)) : List Char :=
  delimiter.intercalate fields

section Splitting

variable {α : Type} [BEq α]

/-- The fields of a text of which `field` was already read as the begin of the first one, in
reverse, and of which the next `pending` characters belong to the delimiter that was found last.
An empty delimiter separates nothing. -/
def splitFrom (delimiter : List α) (pending : Nat) (field : List α) : List α → List (List α)
  | [] => [field.reverse]
  | character :: rest =>
    if 0 < pending then
      splitFrom delimiter (pending - 1) field rest
    else if !delimiter.isEmpty && delimiter.isPrefixOf (character :: rest) then
      field.reverse :: splitFrom delimiter (delimiter.length - 1) [] rest
    else
      splitFrom delimiter 0 (character :: field) rest

/-- The fields of a text, which may be one of characters or of bytes. -/
def split (delimiter text : List α) : List (List α) :=
  splitFrom delimiter 0 [] text

end Splitting

example : split "::".toList "a:::b::".toList = ["a".toList, ":b".toList, []] := by decide

end StakingIncome.Text
