import Tablewright.Sql.Operator

/-!
# Conditions

Comparisons of columns with numbered placeholders, joined by connectors.
-/

namespace Tablewright.Sql

/-- A placeholder for the value bound at a position, counted from one. -/
def placeholder (position : Nat) : String :=
  "$" ++ toString position

/-- A column with the placeholder of its value. -/
structure Slot where
  /-- The column. -/
  column : String
  /-- Position of the value. -/
  position : Nat
  deriving DecidableEq, Repr

/-- The assignment of the value to the column. -/
def Slot.assignment (slot : Slot) : String :=
  slot.column ++ " = " ++ placeholder slot.position

/-- Slots of columns whose values follow each other from a position on. -/
def slots
    (columns : List String)
    (first : Nat) : List Slot :=
  (columns.zipIdx first).map fun (column, position) => { column, position }

/-- A comparison within a list of conditions. -/
structure Condition where
  /-- The column. -/
  column : String
  /-- The comparison. -/
  operator : Operator
  /-- Position of the value, if there is one. -/
  position : Option Nat
  /-- Connector to the next condition. -/
  connector : Option Connector
  deriving DecidableEq, Repr

namespace Condition

/-- The comparison as SQL spells it; without a position the value is left out. -/
def spelling (condition : Condition) : String :=
  condition.operator.comparison condition.column ((condition.position.map placeholder).getD "")

/-- Conditions as SQL spells them; a missing connector reads as AND. -/
def spelled : List Condition → String
  | [] => ""
  | [condition] => condition.spelling
  | condition :: next :: rest =>
    condition.spelling ++ " " ++ (condition.connector.getD .and).keyword ++ " " ++
      spelled (next :: rest)

/-- Positions of the values of conditions, left to right. -/
def positions (conditions : List Condition) : List Nat :=
  conditions.filterMap (·.position)

/-- The condition that a column equals the value of its slot. -/
def equals (slot : Slot) : Condition :=
  { column := slot.column, operator := .eq, position := some slot.position, connector := none }

/-- The conditions that columns equal the values from a position on. -/
def allEqual
    (columns : List String)
    (first : Nat) : List Condition :=
  (slots columns first).map equals

end Condition
end Tablewright.Sql
