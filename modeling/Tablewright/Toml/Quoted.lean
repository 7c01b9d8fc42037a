import Tablewright.Toml.Basic

/-!
# Strings in TOML

Basic strings stand between double quotes and know escapes, literal strings between single quotes
and know none.  Between three quotes a string may span lines; a line end right after the opening
quotes is left out, and up to two quotes may stand before the closing ones.
-/

namespace Tablewright.Toml

/-- The character of a code point given by a number of hexadecimal digits. -/
def codePoint (count : Nat) : Reader Char := fun cs =>
  let digits := cs.take count
  let value := Text.numeralValue 16 digits
  if digits.length = count ∧ digits.all Text.isHexDigit ∧ value.isValidChar then
    some (Char.ofNat value, cs.drop count)
  else none

/-- The escaped character after a backslash. -/
def escape : Reader Char
  | 'b' :: rest => some ('\x08', rest)
  | 't' :: rest => some ('\t', rest)
  | 'n' :: rest => some ('\n', rest)
  | 'f' :: rest => some ('\x0c', rest)
  | 'r' :: rest => some ('\r', rest)
  | 'e' :: rest => some ('\x1b', rest)
  | '"' :: rest => some ('"', rest)
  | '\\' :: rest => some ('\\', rest)
  | 'x' :: rest => codePoint 2 rest
  | 'u' :: rest => codePoint 4 rest
  | 'U' :: rest => codePoint 8 rest
  | _ => none

/-- A kind of string. -/
structure Style where
  /-- The quote. -/
  quote : Char
  /-- Whether there are escapes. -/
  hasEscapes : Bool
  /-- Whether there are three quotes at each end. -/
  spansLines : Bool

namespace Style

/-- The text after the closing quotes, and the quotes before them, if the string ends here. -/
def closing? (style : Style) : Reader (List Char) := fun cs =>
  let quotes := (cs.takeWhile (· = style.quote)).take 5
  if style.spansLines then
    if quotes.length < 3 then none else some (quotes.drop 3, cs.drop quotes.length)
  else if quotes.isEmpty then none
  else some ([], cs.drop 1)

/-- The text after blanks and line ends that a backslash removes; at least one line must end. -/
def afterJoin? (cs : List Char) : Option (List Char) :=
  (afterLineEnd? (skipSpace cs)).map fun rest =>
    rest.dropWhile fun c => isSpace c || c = '\n' || c = '\r'

/-- The next characters of a string, one or none, or more for the end of a line. -/
def step (style : Style) : Reader (List Char)
  | [] => none
  | c :: rest =>
    if c = '\\' ∧ style.hasEscapes then
      match if style.spansLines then afterJoin? rest else none with
      | some rest => some ([], rest)
      | none => (escape rest).map fun (c, rest) => ([c], rest)
    else if isPlain c then some ([c], rest)
    else if style.spansLines then
      (afterLineEnd? (c :: rest)).map fun after =>
        ((c :: rest).take (rest.length + 1 - after.length), after)
    else none

/-- The rest of a string, given the characters so far from the last one on, and no more than a
number of steps to come. -/
def restWithin (style : Style) : Nat → List Char → Reader String
  | 0, _, _ => none
  | n + 1, back, cs =>
    match style.closing? cs with
    | some (quotes, rest) => some (String.ofList (back.reverse ++ quotes), rest)
    | none =>
      match style.step cs with
      | some (more, rest) => style.restWithin n (more.reverse ++ back) rest
      | none => none

/-- The rest of a string after its opening quotes. -/
def rest (style : Style) : Reader String := fun cs =>
  let cs := if style.spansLines then (afterLineEnd? cs).getD cs else cs
  style.restWithin (cs.length + 1) [] cs

end Style

/-- The kind of string that a text begins with, and the text after the opening quotes. -/
def opening? : Reader Style
  | '"' :: '"' :: '"' :: rest => some (⟨'"', true, true⟩, rest)
  | '"' :: rest => some (⟨'"', true, false⟩, rest)
  | '\'' :: '\'' :: '\'' :: rest => some (⟨'\'', false, true⟩, rest)
  | '\'' :: rest => some (⟨'\'', false, false⟩, rest)
  | _ => none

end Tablewright.Toml
