import Tablewright.Entity.Group
import Tablewright.Sql.Statement

/-!
# Tables

The table of an entity: its columns, then the constraints over several columns.  A key of one
column stands with the column, a longer one after all columns; the same holds for foreign keys.
-/

namespace Tablewright

namespace Schema

/-- Actions of a foreign key. -/
structure Actions where
  /-- Action on deletion. -/
  onDelete : Option ReferentialAction
  /-- Action on update. -/
  onUpdate : Option ReferentialAction
  deriving DecidableEq, Repr

/-- The actions as SQL spells them. -/
def Actions.spelling (actions : Actions) : String :=
  ((actions.onDelete.map fun action => " ON DELETE " ++ action.sqlSpelling).getD "") ++
    ((actions.onUpdate.map fun action => " ON UPDATE " ++ action.sqlSpelling).getD "")

/-- A foreign key of one column. -/
structure ColumnReference where
  /-- The referenced table and column. -/
  target : Reference
  /-- What happens to the row. -/
  actions : Actions
  deriving DecidableEq, Repr

/-- The reference as SQL spells it. -/
def ColumnReference.spelling (reference : ColumnReference) : String :=
  "REFERENCES " ++ reference.target.table ++ "(" ++ reference.target.column ++ ")" ++
    reference.actions.spelling

/-- A column of a table. -/
structure Column where
  /-- Column name. -/
  name : String
  /-- Column type. -/
  type : ColumnType
  /-- Whether the database fills it in. -/
  isIdentity : Bool
  /-- Whether it alone is the primary key. -/
  isKey : Bool
  /-- Whether its values are unique. -/
  isUnique : Bool
  /-- Expression of a check. -/
  check : Option String
  /-- Allowed values; none means any. -/
  allowed : List String
  /-- Expression of a default. -/
  default : Option String
  /-- Foreign key. -/
  reference : Option ColumnReference
  deriving DecidableEq, Repr

namespace Column

/-- The column that stores a field of an entity, given how the shape of a type is told. -/
def ofFieldBy
    (shape? : Code.ShapeReader)
    (length : Option Nat)
    (entity : Entity)
    (field : Field) : Column :=
  { name := field.column
    type := ColumnType.ofTextBy shape? length field.type
    isIdentity := field.isPrimary && (entity.identityBy? shape?).isSome
    isKey := field.isPrimary && !entity.hasCompositeKey
    isUnique := field.constraint.isUnique && field.constraint.uniqueGroup.isNone
    check := field.constraint.check
    allowed := field.constraint.allowed
    default := field.constraint.default
    reference :=
      if field.constraint.foreignKeyGroup.isNone then
        field.constraint.reference.map fun target =>
          { target
            actions :=
              { onDelete := field.constraint.onDelete, onUpdate := field.constraint.onUpdate } }
      else none }

/-- The column that stores a field of an entity. -/
def ofField : Option Nat → Entity → Field → Column :=
  ofFieldBy Code.TypeExpr.shape?

/-- What is said of the column after its name and type. -/
def clauses (column : Column) : List String :=
  let name := Sql.quotedName column.name
  (if column.isIdentity then ["GENERATED BY DEFAULT AS IDENTITY"] else []) ++
  (if column.isKey then ["PRIMARY KEY"]
    else if column.type.nullable then [] else ["NOT NULL"]) ++
  (if column.isUnique then ["UNIQUE"] else []) ++
  (column.check.map fun check => "CHECK (" ++ check ++ ")").toList ++
  (if column.allowed.isEmpty then []
    else
      ["CHECK (" ++ name ++ " IN (" ++ Sql.commas (column.allowed.map Sql.quotedText) ++ "))"]) ++
  (if column.type.needsCheck then ["CHECK (" ++ name ++ " >= 0)"] else []) ++
  (column.default.map fun default => "DEFAULT " ++ default).toList ++
  (column.reference.map (·.spelling)).toList

/-- The line that defines the column. -/
def line (column : Column) : String :=
  " ".intercalate
    (("    " ++ Sql.quotedName column.name) :: column.type.spelling :: column.clauses)

end Column

/-- A constraint over several columns. -/
inductive TableConstraint where
  /-- The primary key. -/
  | primaryKey (columns : List String)
  /-- Unique combinations of values. -/
  | unique (name : String) (columns : List String)
  /-- A composite foreign key. -/
  | foreignKey (name : String) (columns : List String) (table : String) (targets : List String)
      (actions : Actions)
  deriving DecidableEq, Repr

namespace TableConstraint

/-- The line that states the constraint. -/
def line : TableConstraint → String
  | primaryKey columns => "    PRIMARY KEY (" ++ Sql.commas columns ++ ")"
  | unique name columns =>
    "    CONSTRAINT " ++ Sql.quotedName name ++ " UNIQUE (" ++ Sql.commas columns ++ ")"
  | foreignKey name columns table targets actions =>
    "    CONSTRAINT " ++ Sql.quotedName name ++ " FOREIGN KEY (" ++ Sql.commas columns ++
      ") REFERENCES " ++ table ++ " (" ++ Sql.commas targets ++ ")" ++ actions.spelling

/-- The composite foreign key of a group: its first member names the table, and the first member
that has an action gives it. -/
def ofForeignKeyGroup (group : FieldGroup) : TableConstraint :=
  let references := group.members.filterMap (·.constraint.reference)
  .foreignKey group.name group.columns ((references.head?.map (·.table)).getD "")
    (references.map (·.column))
    { onDelete := group.members.findSome? (·.constraint.onDelete)
      onUpdate := group.members.findSome? (·.constraint.onUpdate) }

/-- The constraints of an entity over several columns. -/
def ofEntity (entity : Entity) : List TableConstraint :=
  (if entity.hasCompositeKey then [.primaryKey (entity.primaryKey.map (·.column))] else []) ++
  ((entity.uniqueGroups.filter (·.isRendered)).map fun group => .unique group.name group.columns) ++
  ((entity.foreignKeyGroups.filter (·.isRendered)).map ofForeignKeyGroup)

end TableConstraint

/-- A table. -/
structure Table where
  /-- Table name in quotes. -/
  name : String
  /-- Columns in order. -/
  columns : List Column
  /-- Constraints over several columns. -/
  constraints : List TableConstraint
  deriving DecidableEq, Repr

/-- The table of an entity. -/
def Table.ofEntity
    (length : Option Nat)
    (entity : Entity) : Table :=
  { name := entity.table
    columns := entity.stored.map (Column.ofField length entity)
    constraints := TableConstraint.ofEntity entity }

/-- Words that let a definition pass over what is already there. -/
def existence (ifNotExists : Bool) : String :=
  if ifNotExists then "IF NOT EXISTS " else ""

/-- The statement that defines a table. -/
def Table.text
    (table : Table)
    (ifNotExists : Bool) : String :=
  "CREATE TABLE " ++ existence ifNotExists ++ table.name ++ " (\n" ++
    ",\n".intercalate (table.columns.map (·.line) ++ table.constraints.map (·.line)) ++ "\n);\n"

end Schema
end Tablewright
