import Tablewright.Code.Item
import Tablewright.Code.Lexeme
import Tablewright.Code.TypeNoAsync
import Tablewright.Text.Blank

/-!
# Type expressions

The types that fields, parameters and results are declared with, as texts spell them.
-/

namespace Tablewright.Code

/-- The grammar whose readers are given another grammar for what is nested. -/
def Grammar.next (g : Grammar) : Grammar where
  type := g.readType
  argument := g.readArgument
  operand := g.readOperand
  operators := g.readOperators
  standalone := g.readStandalone
  pattern := g.readPattern
  statements := g.takeStatements
  item := g.takeItem
  imports := g.takeImported

/-- The grammar of code that is nested less deeply than the given number. -/
def Grammar.within : Nat → Grammar
  | 0 => .empty
  | depth + 1 => (within depth).next

/-- Asynchronous blocks of types stand in brackets at every depth. -/
theorem Grammar.noAsync_within (depth : Nat) : (within depth).NoAsync := by
  induction depth with
  | zero =>
    constructor
    · rintro _ _ _ ⟨⟩
    · rintro _ _ _ ⟨⟩
  | succ depth ih =>
    constructor
    · exact fun _ _ _ => hasNoAsync_of_readType ih
    · exact noAsync_readArgument ih

/-- A type as it was declared. -/
structure TypeExpr where
  /-- The text of the declaration. -/
  text : String
  /-- Its code in normalized spelling. -/
  code : Code
  /-- Its shape. -/
  shape : Shape
  /-- It holds no asynchronous function outside of brackets. -/
  noAsync : hasNoAsync code = true := by decide

namespace TypeExpr

/-- The type that a text spells, blanks and comments around it included. -/
def read? (text : String) : Option TypeExpr :=
  match Code.read? text with
  | none => none
  | some tokens =>
    let depth := 16 * (text.length + 1)
    match read : (Grammar.within depth).type true tokens with
    | some { code, shape, rest := [], .. } =>
      some { text, code, shape, noAsync := (Grammar.noAsync_within depth).type _ _ _ read }
    | _ => none

/-- The shape of the type that a text spells, blanks and comments around it included. -/
def shape? : ShapeReader :=
  fun text => (read? text).map (·.shape)

/-- The type that a text spells once the blanks at its ends are gone. -/
def ofText? (text : String) : Option TypeExpr :=
  read? (Text.trimmed text)

end TypeExpr
end Tablewright.Code
