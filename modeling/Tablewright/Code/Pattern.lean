import Tablewright.Code.TypeRead
import Tablewright.Text.Numeral

/-!
# Reading patterns

Names, literals, ranges, paths, macros, references, tuples, slices and structures, and alternatives
of them.  The three dots of an old inclusive range become the two dots and equals sign of a new one.
-/

namespace Tablewright.Code

/-! ## Members -/

/-- The whole number that a literal without a suffix spells. -/
def wholeNumber? (literal : List Char) : Option Nat :=
  let (base, digits) : Nat × List Char :=
    match literal with
    | '0' :: 'x' :: digits => (16, digits)
    | '0' :: 'o' :: digits => (8, digits)
    | '0' :: 'b' :: digits => (2, digits)
    | digits => (10, digits)
  let digits := digits.filter (· ≠ '_')
  if digits.isEmpty || !digits.all (Text.isDigitOf base) then none
  else some (Text.numeralValue base digits)

/-- The position in a tuple that a literal spells, in decimal; positions have 32 bits. -/
def position? (literal : List Char) : Option Token :=
  match wholeNumber? literal with
  | some number => if number < 4294967296 then some (.literal (toString number)) else none
  | none => none

/-- Takes the name of a field or a position in a tuple. -/
def takeMember : Reader
  | .literal text :: rest => (position? text.toList).map fun position => ([position], rest)
  | ts => Reader.name ts

/-- Takes a member with a value after a colon; a name may stand alone. -/
def takeField (value : Reader) : Reader :=
  Reader.either (fun ts => peekName ts && !peekOp ":" (ts.drop 1)) Reader.name
    (Reader.inOrder [takeMember, takeOp ":", value])

/-- Whether an alternative follows a pattern. -/
def peekAlternative : Peek :=
  fun ts => peekOp "|" ts && !peekOp "||" ts && !peekOp "|=" ts

/-- Whether a range in a pattern has no upper bound. -/
def peekUnbounded : Peek :=
  fun ts =>
    ts.isEmpty || peekOp "|" ts || peekOp "=" ts || peekColon ts || peekOp "," ts ||
      peekOp ";" ts || peekWord "if" ts

/-- Whether a pattern begins with a path. -/
def peekPatternPath : Peek :=
  fun ts =>
    let next := ts.drop 1
    (peekName ts &&
      (peekOp "::" next || peekOp "!" next || peekGroup .brace next ||
        peekGroup .parenthesis next || peekOp ".." next)) ||
      (peekWord "self" ts && peekOp "::" next) || peekOp "::" ts || peekOp "<" ts ||
      peekWords ["Self", "super", "crate"] ts

namespace Grammar

open Reader

variable (g : Grammar)

/-- Reads a pattern, perhaps with alternatives. -/
def readPatterns (ts : List Token) : Option PatternRead := do
  let (leading, ts) ← maybeOp "|" ts
  let first ← g.pattern ts
  if leading.isEmpty && !peekAlternative first.rest then some first
  else do
    let (more, rest) ←
      repeated peekAlternative (inOrder [takeOp "|", g.takePattern]) first.rest
    some { code := leading ++ first.code ++ more, rest }

/-- Takes a pattern, perhaps with alternatives. -/
def takePatterns : Reader :=
  fun ts => (g.readPatterns ts).map fun pattern => (pattern.code, pattern.rest)

/-- Takes a path of an expression, perhaps the member of a type. -/
def takeQualified : Reader :=
  fun ts => (g.readQualified true ts).map fun path => (path.code, path.rest)

/-- Takes a constant block. -/
def takeConstantBlock : Reader :=
  inOrder [takeWord "const", g.attributedBlock]

/-! ## Ranges -/

/-- Takes a bound of a range in a pattern. -/
def takeRangeBound : Reader :=
  firstOf
    [(peekLiteral, takeLiteral), (peekPath, g.takeQualified),
      (peekWord "const", g.takeConstantBlock)]

/-- Reads what follows the lower bound of a range, if there is one, from the dots on. -/
def readRangeAfter
    (lower : Code)
    (ts : List Token) : Option PatternRead := do
  let isClosed := peekOp "..=" ts || peekOp "..." ts
  let dots := Token.marks (if isClosed then "..=" else "..").toList
  let (upper, rest) ←
    given (!peekUnbounded ·) g.takeRangeBound (ts.drop dots.length)
  if isClosed && upper.isEmpty then none
  else
    some { code := lower ++ dots ++ upper, isOpen := lower.isEmpty != upper.isEmpty, rest }

/-- Reads a literal, a constant block or a range that begins with one. -/
def readLiteralPattern (ts : List Token) : Option PatternRead := do
  let (lower, rest) ← g.takeRangeBound ts
  if peekOp ".." rest then g.readRangeAfter lower rest else some { code := lower, rest }

/-! ## Structures, tuples and slices -/

/-- Takes a field of a structure. -/
def takeFieldPattern : Reader :=
  either (peekWords ["box", "ref", "mut"])
    (inOrder [maybeWord "box", maybeWord "ref", maybeWord "mut", name])
    (takeField g.takePatterns)

/-- Takes the fields of a structure; two dots stand for those left out. -/
def takeFieldPatterns : Reader :=
  commasToLast g.attributes (peekOp "..") (takeOp "..") fun _ => g.takeFieldPattern

/-- Takes an element of a slice; a range without a bound needs parentheses. -/
def takeElementPattern : Reader := fun ts =>
  match g.readPatterns ts with
  | some pattern => if pattern.isOpen then none else some (pattern.code, pattern.rest)
  | none => none

/-- Reads a pattern that begins with a path: a macro, a structure, a tuple, a range or a path. -/
def readPathPattern (ts : List Token) : Option PatternRead := do
  let path ← g.readQualified true ts
  let inside (reader : Reader) : Option PatternRead :=
    (inOrder [after path.code, reader] path.rest).map fun (code, rest) => { code, rest }
  if !path.isMember && peekBang path.rest && !path.isGeneric then inside macroInput
  else if peekGroup .brace path.rest then inside (group .brace g.takeFieldPatterns)
  else if peekGroup .parenthesis path.rest then
    inside (group .parenthesis (commas g.takePatterns))
  else if peekOp ".." path.rest then g.readRangeAfter path.code path.rest
  else inside nothing

/-- Takes a name that is bound, with what it is bound to. -/
def takeBinding : Reader :=
  inOrder
    [maybeWord "ref", maybeWord "mut", nameOr ["self"],
      given (peekOp "@") (inOrder [takeOp "@", g.takePattern])]

/-- Reads a pattern without alternatives. -/
def readPattern (ts : List Token) : Option PatternRead :=
  let plain (reader : Reader) : Option PatternRead :=
    (reader ts).map fun (code, rest) => { code, rest }
  if peekPatternPath ts then g.readPathPattern ts
  else if peekWord "_" ts then plain (takeWord "_")
  else if peekWord "box" ts then plain (inOrder [takeWord "box", g.takePattern])
  else if peekLiteral ts || peekWord "const" ts then g.readLiteralPattern ts
  else if peekName ts || peekWords ["ref", "mut", "self"] ts then plain g.takeBinding
  else if peekOp "&" ts then plain (inOrder [takeOp "&", maybeWord "mut", g.takePattern])
  else if peekGroup .parenthesis ts then plain (group .parenthesis (commas g.takePatterns))
  else if peekGroup .bracket ts then plain (group .bracket (commas g.takeElementPattern))
  else if peekOp ".." ts && !peekOp "..." ts then g.readRangeAfter [] ts
  else none

end Grammar
end Tablewright.Code
