import Tablewright.Code.Identifier
import Tablewright.Code.Token

/-!
# Looking at tokens

What a grammar asks of the tokens ahead, and the leaves it takes from them.  A leaf is taken in
normalized spelling: the marks of an operator stand together, all other marks stand alone.
-/

namespace Tablewright.Code

/-- Code taken from the front of a token sequence, and the rest. -/
abbrev Taken := Option (Code × List Token)

/-- Whether the next tokens are the marks of an operator. -/
def peekMarks : List Char → List Token → Bool
  | [], _ => true
  | [c], .mark d _ :: _ => c = d
  | c :: cs, .mark d joint :: rest => c = d && joint && peekMarks cs rest
  | _, _ => false

/-- Whether the next tokens are the given operator. -/
def peekOp
    (op : String)
    (ts : List Token) : Bool :=
  peekMarks op.toList ts

/-- Whether the next token is the given word. -/
def peekWord
    (word : String) : List Token → Bool
  | .word text :: _ => text = word
  | _ => false

/-- Whether the next token names something. -/
def peekName : List Token → Bool
  | .word text :: _ => !isReserved text
  | _ => false

/-- Whether the next token is a word, reserved or not. -/
def peekAnyWord : List Token → Bool
  | .word _ :: _ => true
  | _ => false

/-- Whether the next token is a group in the given brackets. -/
def peekGroup (delimiter : Delimiter) : List Token → Bool
  | .group d _ :: _ => d = delimiter
  | _ => false

/-- Whether the next tokens are a lifetime. -/
def peekLifetime : List Token → Bool
  | .mark '\'' true :: .word _ :: _ => true
  | _ => false

/-- Whether a literal is a number. -/
def isNumeral (literal : String) : Bool :=
  match literal.toList with
  | c :: _ => c.isDigit
  | [] => false

/-- Whether the next tokens are a literal: text, a number with or without a sign, or a truth
value. -/
def peekLiteral : List Token → Bool
  | .literal _ :: _ => true
  | .mark '-' _ :: .literal text :: _ => isNumeral text
  | .word text :: _ => text = "true" || text = "false"
  | _ => false

/-- Takes an operator. -/
def takeOp
    (op : String)
    (ts : List Token) : Taken :=
  if peekOp op ts then some (Token.marks op.toList, ts.drop op.length) else none

/-- Takes a word. -/
def takeWord
    (word : String)
    (ts : List Token) : Taken :=
  if peekWord word ts then some ([.word word], ts.drop 1) else none

/-- Takes a lifetime. -/
def takeLifetime : List Token → Taken
  | .mark '\'' true :: .word text :: rest => some ([.mark '\'' true, .word text], rest)
  | _ => none

/-- Takes a literal; a sign before a number is a mark of its own. -/
def takeLiteral : List Token → Taken
  | .literal text :: rest => some ([.literal text], rest)
  | .mark '-' _ :: .literal text :: rest =>
    if isNumeral text then some ([.mark '-' false, .literal text], rest) else none
  | .word text :: rest =>
    if text = "true" || text = "false" then some ([.word text], rest) else none
  | _ => none

/-- Takes a group in the given brackets whose body `reader` takes as a whole. -/
def takeGroup
    (delimiter : Delimiter)
    (reader : List Token → Option Code) : List Token → Taken
  | .group d body :: rest =>
    if d = delimiter then (reader body).map fun code => ([.group d code], rest) else none
  | _ => none

/-- The code that a reader takes from a whole sequence. -/
def whole (taken : Taken) : Option Code :=
  match taken with
  | some (code, []) => some code
  | _ => none

end Tablewright.Code
