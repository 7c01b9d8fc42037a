import Tablewright.Text.Mark
import Tablewright.Text.Printable

/-!
# String literals of the generated code

Double quotes and backslashes are escaped, common control characters have short escapes, and every
other character that does not show by itself is written by its code point.
-/

namespace Tablewright.Code

/-- Hexadecimal digits of a number, in lower case. -/
def hexDigits (n : Nat) : List Char :=
  Nat.toDigits 16 n

/-- Whether a text begins with an octal digit. -/
def beginsOctal : List Char → Bool
  | [] => false
  | c :: _ => '0' ≤ c && c ≤ '7'

/-- Spelling of one character that `rest` follows. -/
def escapedChar
    (c : Char)
    (rest : List Char) : List Char :=
  if c = '\x00' then if beginsOctal rest then "\\x00".toList else "\\0".toList
  else if c = '\t' then "\\t".toList
  else if c = '\n' then "\\n".toList
  else if c = '\r' then "\\r".toList
  else if c = '"' then "\\\"".toList
  else if c = '\\' then "\\\\".toList
  else if Text.isExtending c || !Text.isPrintable c then
    "\\u\x7b".toList ++ hexDigits c.toNat ++ "\x7d".toList
  else [c]

/-- Spelling of the characters between the quotes. -/
def escaped : List Char → List Char
  | [] => []
  | c :: rest => escapedChar c rest ++ escaped rest

/-- The string literal of a text. -/
def quoted (text : String) : String :=
  String.ofList ('"' :: (escaped text.toList ++ ['"']))

end Tablewright.Code
