import Tablewright.Sql.Operator
import Tablewright.Text.Affix
import Tablewright.Text.CaseMap

/-!
# Operators in names

A condition names a field and, at its end, an operator; `Not` before a capital means inequality,
and nothing at all means equality.  Longer suffixes come first, and the field is never empty.
-/

namespace Tablewright.Query

open Sql (Operator)

/-- Suffixes that spell operators, each before those that end it. -/
def suffixes : List (String × Operator) :=
  [("GreaterThanOrEqual", .gte), ("LessThanOrEqual", .lte), ("GreaterThan", .gt),
    ("LessThan", .lt), ("StartingWith", .startsWith), ("EndingWith", .endsWith),
    ("Containing", .contains), ("Like", .like), ("NotIn", .notIn), ("In", .isIn),
    ("IsNotNull", .isNotNull), ("IsNull", .isNull)]

/-- The field and operator that a text names by a suffix. -/
def suffixed? (cs : List Char) : Option (List Char × Operator) :=
  suffixes.findSome? fun (suffix, operator) =>
    (Text.beforeSuffix? suffix.toList cs).map fun field => (field, operator)

/-- The field that a text negates. -/
def negated? : List Char → Option (List Char)
  | 'N' :: 'o' :: 't' :: c :: rest => if Text.isUpperChar c then some (c :: rest) else none
  | _ => none

/-- The field and operator that a text names. -/
def splitOperator (cs : List Char) : List Char × Operator :=
  match suffixed? cs with
  | some (field, operator) => (field, operator)
  | none =>
    match negated? cs with
    | some field => (field, .ne)
    | none => (cs, .eq)

end Tablewright.Query
