import Tablewright.Text.Numeral

/-!
# Reading TOML

A reader takes what it reads from the front of a text, if it is there.  Lines end with a line feed,
which a carriage return may precede; a comment runs to the end of its line.
-/

namespace Tablewright.Toml

/-- How a value is read. -/
abbrev Reader (α : Type) := List Char → Option (α × List Char)

/-- A space or a tab. -/
def isSpace (c : Char) : Bool :=
  c = ' ' || c = '\t'

/-- A character that shows, or a tab. -/
def isPlain (c : Char) : Bool :=
  c = '\t' || (0x20 ≤ c.toNat && c.toNat ≠ 0x7F)

/-- A text without the spaces and tabs at its beginning. -/
def skipSpace (cs : List Char) : List Char :=
  cs.dropWhile isSpace

/-- The text after the end of a line, if it begins with one. -/
def afterLineEnd? : List Char → Option (List Char)
  | '\n' :: rest => some rest
  | '\r' :: '\n' :: rest => some rest
  | _ => none

/-- A text without the comment at its beginning. -/
def skipComment : List Char → List Char
  | '#' :: rest => rest.dropWhile isPlain
  | cs => cs

/-- The text after the current line, of which nothing but a comment may be left. -/
def nextLine? (cs : List Char) : Option (List Char) :=
  match skipComment (skipSpace cs) with
  | [] => some []
  | cs => afterLineEnd? cs

/-- A text without spaces, comments and line ends at its beginning, as long as there are no more
than a number of lines. -/
def skipLinesWithin : Nat → List Char → List Char
  | 0, cs => cs
  | n + 1, cs =>
    match afterLineEnd? (skipComment (skipSpace cs)) with
    | some rest => skipLinesWithin n rest
    | none => skipComment (skipSpace cs)

/-- A text without spaces, comments and line ends at its beginning. -/
def skipLines (cs : List Char) : List Char :=
  skipLinesWithin cs.length cs

end Tablewright.Toml
