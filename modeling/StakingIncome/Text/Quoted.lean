import StakingIncome.Text.Printable

/-!
Texts inside double quotes, as messages show them. The double quote, the backslash, and the tab,
line feed, carriage return and null characters have an escape of two characters; any other
character that does not stand for itself is written as its code point in hexadecimal, in lower
case, between braces.
-/

namespace StakingIncome.Text

def hexadecimal (value : Nat) : List Char :=
  Nat.toDigits 16 value

def quotedCharacter (character : Char) : List Char :=
  match character with
  | '\x00' => ['\\', '0']
  | '\t' => ['\\', 't']
  | '\n' => ['\\', 'n']
  | '\r' => ['\\', 'r']
  | '"' => ['\\', '"']
  | '\\' => ['\\', '\\']
  | _ =>
    if isPrintable character then
      [character]
    else
      ['\\', 'u', '\x7b'] ++ hexadecimal character.toNat ++ ['\x7d']

def quoted (text : List Char) : List Char :=
  '"' :: text.flatMap quotedCharacter ++ ['"']

example : quoted "it's \t\x1b".toList = "\"it's \\t\\u\x7b1b\x7d\"".toList := by decide +kernel

end StakingIncome.Text
