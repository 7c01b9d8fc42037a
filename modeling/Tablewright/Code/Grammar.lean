import Tablewright.Code.Reader

/-!
# Grammar

Types, expressions, patterns, statements and items contain each other.  A grammar holds one reader
for each of these kinds of code; the readers of the following modules are given a grammar for what
they contain.  Reading yields code in normalized spelling, and of a type its shape, which is all
that the choice of a column type asks for.
-/

namespace Tablewright.Code

/-! ## What is read -/

/-- What a type looks like from outside. -/
inductive Shape where
  /-- A reference to a type. -/
  | reference (target : Shape)
  /-- A path with the given last name, without arguments or with a first argument that is no
  type. -/
  | named (name : String)
  /-- A path with the given last name whose first argument is a type. -/
  | applied (name : String) (argument : Shape)
  /-- A slice. -/
  | slice (element : Shape)
  /-- Any other type. -/
  | other
  deriving DecidableEq, Repr

/-- The last name of a path. -/
def Shape.lastName? : Shape → Option String
  | named name | applied name _ => some name
  | _ => none

/-- Tells the shape of the type that a text spells, if it spells one. -/
abbrev ShapeReader := String → Option Shape

/-- How a type may be joined to what surrounds it. -/
inductive Joinable where
  /-- A path with a single name, which a binding may follow. -/
  | name
  /-- Another path, which may stand as a bound. -/
  | path
  /-- A single bound without a keyword. -/
  | bound
  /-- Neither path nor bound. -/
  | no
  deriving DecidableEq

/-- A type at the beginning of a token sequence. -/
structure TypeRead where
  /-- Its code. -/
  code : Code
  /-- Its shape. -/
  shape : Shape
  /-- How it may be joined. -/
  joinable : Joinable := .no
  /-- The tokens after it. -/
  rest : List Token

/-- A generic argument or parameter with the comma after it. -/
structure Argument where
  /-- Whether it is a lifetime. -/
  isLifetime : Bool
  /-- Its shape, if it is a type. -/
  shape : Option Shape := none
  /-- Its code. -/
  code : Code
  /-- Whether a comma follows. -/
  hasComma : Bool := false

/-- Reads an argument at the beginning of a token sequence. -/
abbrev ArgumentReader := List Token → Option (Argument × List Token)

/-- What an expression allows after it. -/
inductive ExpressionKind where
  /-- A range, after which no operator may stand. -/
  | range
  /-- A comparison, which is compared no further. -/
  | comparison
  /-- A block or what ends with one, which is a statement by itself. -/
  | block
  /-- A macro with braces, which is a statement by itself, too. -/
  | bracedMacro
  /-- Any other expression. -/
  | other
  deriving DecidableEq

/-- An expression at the beginning of a token sequence. -/
structure ExpressionRead where
  /-- Its code. -/
  code : Code
  /-- What it allows after it. -/
  kind : ExpressionKind := .other
  /-- The tokens after it. -/
  rest : List Token

/-- How tightly operators bind, the loosest first. -/
inductive Precedence where
  | any
  | assign
  | range
  | or
  | and
  | condition
  | compare
  | bitOr
  | bitXor
  | bitAnd
  | shift
  | sum
  | product
  | cast
  deriving DecidableEq

namespace Precedence

instance : LT Precedence := ⟨fun p q => p.ctorIdx < q.ctorIdx⟩

instance : LE Precedence := ⟨fun p q => p.ctorIdx ≤ q.ctorIdx⟩

instance (p q : Precedence) : Decidable (p < q) :=
  inferInstanceAs (Decidable (p.ctorIdx < q.ctorIdx))

instance (p q : Precedence) : Decidable (p ≤ q) :=
  inferInstanceAs (Decidable (p.ctorIdx ≤ q.ctorIdx))

end Precedence

/-- A pattern at the beginning of a token sequence. -/
structure PatternRead where
  /-- Its code. -/
  code : Code
  /-- Whether it is a range without a bound on one side. -/
  isOpen : Bool := false
  /-- The tokens after it. -/
  rest : List Token

/-! ## Grammars -/

/-- Readers of the kinds of code that contain each other. -/
structure Grammar where
  /-- Reads a type, to which further bounds may be added if `plus`. -/
  type (plus : Bool) : List Token → Option TypeRead
  /-- Reads a generic argument. -/
  argument : ArgumentReader
  /-- Reads an operand with the signs before it; a brace after a path begins its fields if
  `braces`. -/
  operand (braces : Bool) : List Token → Option ExpressionRead
  /-- Reads the operators that bind at least as tightly as `base`, with their right operands, after
  a left operand. -/
  operators (braces : Bool) (base : Precedence) : ExpressionRead → Option ExpressionRead
  /-- Reads an expression that stands alone: one that ends with a block is not gone on with by an
  operator. -/
  standalone : List Token → Option ExpressionRead
  /-- Reads a pattern without alternatives. -/
  pattern : List Token → Option PatternRead
  /-- Takes the statements of a block. -/
  statements : Reader
  /-- Takes an item with its attributes. -/
  item : Reader
  /-- Takes what is imported; a leading double colon may stand in its braces if `rooted`. -/
  imports (rooted : Bool) : Reader

namespace Grammar

open Reader

/-- The grammar that reads nothing. -/
def empty : Grammar where
  type _ _ := none
  argument _ := none
  operand _ _ := none
  operators _ _ _ := none
  standalone _ := none
  pattern _ := none
  statements _ := none
  item _ := none
  imports _ _ := none

variable (g : Grammar)

/-- Takes a type. -/
def takeType (plus : Bool) : Reader :=
  fun ts => (g.type plus ts).map fun type => (type.code, type.rest)

/-- Reads an expression. -/
def expression
    (braces : Bool)
    (ts : List Token) : Option ExpressionRead := do
  let operand ← g.operand braces ts
  g.operators braces .any operand

/-- Takes an expression. -/
def takeExpression (braces : Bool) : Reader :=
  fun ts => (g.expression braces ts).map fun expression => (expression.code, expression.rest)

/-- Takes a pattern without alternatives. -/
def takePattern : Reader :=
  fun ts => (g.pattern ts).map fun pattern => (pattern.code, pattern.rest)

/-! ## Paths without arguments -/

/-- Words that may begin a path without being names. -/
def pathWords : List String :=
  ["super", "self", "Self", "crate"]

/-- Takes a path whose names have no arguments. -/
def plainPath : Reader :=
  inOrder
    [maybeOp "::", nameOr pathWords,
      repeated (peekOp "::") (inOrder [takeOp "::", nameOr pathWords])]

/-- Takes an exclamation mark and the group that a macro is given. -/
def macroInput : Reader :=
  inOrder [takeOp "!", anyGroup]

/-! ## Attributes -/

/-- Takes the value of an attribute: a literal if there is nothing else. -/
def attributeValue : Reader := fun ts =>
  match whole (takeLiteral ts) with
  | some code => some (code, [])
  | none =>
    if peekOp "#" ts && peekGroup .bracket (ts.drop 1) then none else g.takeExpression true ts

/-- Takes what stands in the brackets of an attribute. -/
def attributeBody : Reader :=
  inOrder
    [either (peekWord "unsafe") (takeWord "unsafe") plainPath,
      either peekAnyGroup anyGroup
        (given (peekOp "=") (inOrder [takeOp "=", g.attributeValue]))]

/-- Takes the attributes of what follows them. -/
def attributes : Reader :=
  repeated (peekOp "#") (inOrder [takeOp "#", group .bracket g.attributeBody])

/-- Takes the attributes of what they stand in. -/
def innerAttributes : Reader :=
  repeated (fun ts => peekOp "#" ts && peekOp "!" (ts.drop 1))
    (inOrder [takeOp "#", takeOp "!", group .bracket g.attributeBody])

/-! ## Blocks -/

/-- Takes a block. -/
def block : Reader :=
  group .brace g.statements

/-- Takes a block that may begin with attributes of its own. -/
def attributedBlock : Reader :=
  group .brace (inOrder [g.innerAttributes, g.statements])

end Grammar
end Tablewright.Code
