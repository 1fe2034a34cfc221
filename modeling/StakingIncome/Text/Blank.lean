/-!
White space at the ends of a text, and letters that differ in case only. Blank characters are those
with the Unicode property White_Space: the no-break space and the ideographic space are blank, the
zero width space and the byte order mark are not. Case is folded for the letters A to Z alone.
-/

namespace StakingIncome.Text

def isBlank (character : Char) : Bool :=
  let code := character.toNat
  (0x9 ≤ code && code ≤ 0xd) || code == 0x20 || code == 0x85 || code == 0xa0 || code == 0x1680 ||
    (0x2000 ≤ code && code ≤ 0x200a) || code == 0x2028 || code == 0x2029 || code == 0x202f ||
    code == 0x205f || code == 0x3000

def dropBlanks (text : List Char) : List Char :=
  text.dropWhile isBlank

/-- The text without the blanks at either end. -/
def trimmed (text : List Char) : List Char :=
  (dropBlanks (dropBlanks text).reverse).reverse

/-- Whether a text holds nothing but blanks, or nothing at all. -/
def isBlankText (text : List Char) : Bool :=
  text.all isBlank

def lowered (text : List Char) : List Char :=
  text.map Char.toLower

example : trimmed "\u00a0 Gwei\t".toList = "Gwei".toList := by decide

example : trimmed "\u200b1".toList = "\u200b1".toList := by decide

end StakingIncome.Text
