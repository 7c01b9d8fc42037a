/-!
# Reading JSON

A reader takes what it reads from the front of a text, or says what is wrong there.  The first
fault from left to right is the one reported.
-/

namespace Tablewright.Json

/-- What is wrong with a text. -/
inductive Fault where
  /-- It is no JSON. -/
  | malformed
  /-- It is JSON of another form than the one asked for. -/
  | mismatched
  /-- It ends too early. -/
  | truncated
  deriving DecidableEq, Repr

/-- How a value is read. -/
abbrev Reader (α : Type) := List Char → Except Fault (α × List Char)

/-- A character that may stand between tokens. -/
def isSpace (c : Char) : Bool :=
  c = ' ' || c = '\n' || c = '\t' || c = '\r'

/-- A text without the spaces at its beginning. -/
def skipSpace (cs : List Char) : List Char :=
  cs.dropWhile isSpace

/-- The fault of a text that does not go on as it must. -/
def unexpected : List Char → Fault
  | [] => .truncated
  | _ :: _ => .malformed

/-- Passes over the given characters. -/
def skipWord : List Char → Reader Unit
  | [], cs => .ok ((), cs)
  | _ :: _, [] => .error .truncated
  | expected :: word, c :: cs => if c = expected then skipWord word cs else .error .malformed

/-- Passes over one character that spaces may precede. -/
def skipMark (mark : Char) : Reader Unit := fun cs =>
  match skipSpace cs with
  | c :: rest => if c = mark then .ok ((), rest) else .error .malformed
  | [] => .error .truncated

end Tablewright.Json
