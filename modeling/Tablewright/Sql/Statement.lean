import Tablewright.Sql.Condition

/-!
# Statements

The statements of generated repositories, as values first and as text after.
-/

namespace Tablewright.Sql

/-- Texts with commas between them. -/
def commas (texts : List String) : String :=
  ", ".intercalate texts

/-- Placeholders of the first positions. -/
def placeholders (count : Nat) : String :=
  commas ((List.range' 1 count).map placeholder)

/-- The selection of columns from a table. -/
def selection
    (columns : List String)
    (table : String) : String :=
  "SELECT " ++ commas columns ++ " FROM " ++ table

/-- An order and a limit of rows. -/
structure Window where
  /-- What the rows are ordered by. -/
  order : Option String := none
  /-- How many rows are taken. -/
  limit : Option Nat := none
  deriving DecidableEq, Repr

/-- The order and limit as SQL spells them. -/
def Window.spelling (window : Window) : String :=
  ((window.order.map (" ORDER BY " ++ ·)).getD "") ++
    ((window.limit.map fun limit => " LIMIT " ++ toString limit).getD "")

/-- A statement on one table. -/
inductive Statement where
  /-- A new row, its values from the first position on. -/
  | insert (table : String) (columns : List String) (returning : Option (List String))
  /-- A change of rows. -/
  | update (table : String) (sets : List Slot) (conditions : List Condition)
      (returning : Option (List String))
  /-- The removal of rows. -/
  | delete (table : String) (conditions : List Condition)
  /-- Rows. -/
  | select (columns : List String) (table : String) (conditions : List Condition)
      (window : Window)
  /-- The number of rows. -/
  | count (table : String) (conditions : List Condition)
  /-- Whether there are rows. -/
  | existence (table : String) (conditions : List Condition) (window : Window)
  deriving DecidableEq, Repr

namespace Statement

/-- The conditions as SQL spells them after the rest of a statement. -/
def filter (conditions : List Condition) : String :=
  if conditions.isEmpty then "" else " WHERE " ++ Condition.spelled conditions

/-- The columns that a changing statement returns. -/
def returned (returning : Option (List String)) : String :=
  (returning.map fun columns => " RETURNING " ++ commas columns).getD ""

/-- The statement as SQL spells it. -/
def text : Statement → String
  | insert table columns returning =>
    "INSERT INTO " ++ table ++
      (if columns.isEmpty then " DEFAULT VALUES"
      else " (" ++ commas columns ++ ") VALUES (" ++ placeholders columns.length ++ ")") ++
      returned returning
  | update table sets conditions returning =>
    "UPDATE " ++ table ++ " SET " ++ commas (sets.map (·.assignment)) ++ " WHERE " ++
      Condition.spelled conditions ++ returned returning
  | delete table conditions => "DELETE FROM " ++ table ++ filter conditions
  | select columns table conditions window =>
    selection columns table ++ filter conditions ++ window.spelling
  | count table conditions => "SELECT COUNT(*) FROM " ++ table ++ filter conditions
  | existence table conditions window =>
    "SELECT EXISTS(SELECT 1 FROM " ++ table ++ filter conditions ++ window.spelling ++ ")"

theorem text_insert
    (table : String)
    (columns : List String)
    (returning : Option (List String)) :
    (insert table columns returning).text =
      "INSERT INTO " ++ table ++
        (if columns.isEmpty then " DEFAULT VALUES"
        else " (" ++ commas columns ++ ") VALUES (" ++ placeholders columns.length ++ ")") ++
        returned returning :=
  rfl

theorem text_update
    (table : String)
    (sets : List Slot)
    (conditions : List Condition)
    (returning : Option (List String)) :
    (update table sets conditions returning).text =
      "UPDATE " ++ table ++ " SET " ++ commas (sets.map (·.assignment)) ++ " WHERE " ++
        Condition.spelled conditions ++ returned returning :=
  rfl

theorem text_delete
    (table : String)
    (conditions : List Condition) :
    (delete table conditions).text = "DELETE FROM " ++ table ++ filter conditions :=
  rfl

theorem text_select
    (columns : List String)
    (table : String)
    (conditions : List Condition)
    (window : Window) :
    (select columns table conditions window).text =
      selection columns table ++ filter conditions ++ window.spelling :=
  rfl

theorem text_count
    (table : String)
    (conditions : List Condition) :
    (count table conditions).text = "SELECT COUNT(*) FROM " ++ table ++ filter conditions :=
  rfl

theorem text_existence
    (table : String)
    (conditions : List Condition)
    (window : Window) :
    (existence table conditions window).text =
      "SELECT EXISTS(SELECT 1 FROM " ++ table ++ filter conditions ++ window.spelling ++ ")" :=
  rfl

/-- Positions of the bound values, left to right. -/
def positions : Statement → List Nat
  | insert _ columns _ => List.range' 1 columns.length
  | update _ sets conditions _ => sets.map (·.position) ++ Condition.positions conditions
  | delete _ conditions | select _ _ conditions _ | count _ conditions
  | existence _ conditions _ => Condition.positions conditions

/-- The conditions that pick the rows. -/
def conditions : Statement → List Condition
  | insert _ _ _ => []
  | update _ _ conditions _ | delete _ conditions | select _ _ conditions _ | count _ conditions
  | existence _ conditions _ => conditions

end Statement
end Tablewright.Sql
