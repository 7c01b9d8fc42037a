import Tablewright.Tag.Reading

/-!
# Constraints of a field

The tokens of a tag folded into one value: tokens apply from left to right, and a later token of a
kind overwrites the earlier ones.
-/

namespace Tablewright

/-- Target of a foreign key. -/
structure Reference where
  /-- Referenced table, as the tag writes it. -/
  table : String
  /-- Referenced column. -/
  column : String
  deriving DecidableEq, Repr

/-- What the tag of a field says about it. -/
structure Constraint where
  /-- Member of the primary key. -/
  isPrimary : Bool := false
  /-- Unique, alone or in a group. -/
  isUnique : Bool := false
  /-- Left out of schema and code. -/
  isIgnored : Bool := false
  /-- Unique constraint over several columns that the field belongs to. -/
  uniqueGroup : Option String := none
  /-- Index name as the tag gives it. -/
  indexGroup : Option String := none
  /-- Composite foreign key that the field belongs to. -/
  foreignKeyGroup : Option String := none
  /-- Index that the field belongs to. -/
  indexName : Option String := none
  /-- Whether that index is unique. -/
  indexIsUnique : Bool := false
  /-- Expression of a check. -/
  check : Option String := none
  /-- Expression of a default. -/
  default : Option String := none
  /-- Allowed values, in order; none means any. -/
  allowed : List String := []
  /-- Target of the foreign key. -/
  reference : Option Reference := none
  /-- Action on deletion. -/
  onDelete : Option ReferentialAction := none
  /-- Action on update. -/
  onUpdate : Option ReferentialAction := none
  /-- Name of the record's table. -/
  tableName : Option String := none
  deriving DecidableEq, Repr

namespace Constraint

/-- Name of an index that the tag leaves unnamed. -/
def defaultIndexName (column : String) : String :=
  column ++ "_idx"

/-- The constraint after one more token, for the field stored in `column`. -/
def apply
    (column : String)
    (constraint : Constraint) : Tag.Token → Constraint
  | .primaryKey => { constraint with isPrimary := true }
  | .unique => { constraint with isUnique := true }
  | .ignore => { constraint with isIgnored := true }
  | .index isUnique name =>
    { constraint with
      indexName := some (name.getD (defaultIndexName column))
      indexGroup := name
      indexIsUnique := isUnique }
  | .uniqueGroup name => { constraint with isUnique := true, uniqueGroup := some name }
  | .check expression => { constraint with check := some expression }
  | .default expression => { constraint with default := some expression }
  | .values allowed => { constraint with allowed := allowed }
  | .foreignKey key =>
    { constraint with
      foreignKeyGroup := key.group
      reference := some ⟨key.table, key.column⟩
      onDelete := key.onDelete
      onUpdate := key.onUpdate }
  | .table name => { constraint with tableName := some name }
  | .unrecognized _ => constraint

/-- The constraint that a list of tokens states for the field stored in `column`. -/
def ofTokens
    (column : String)
    (tokens : List Tag.Token) : Constraint :=
  tokens.foldl (apply column) {}

/-- The constraint that a tag states for the field stored in `column`. -/
def ofTag
    (tag column : String) : Constraint :=
  ofTokens column (Tag.read tag)

/-- Whether the field references another table. -/
def hasForeignKey (constraint : Constraint) : Bool :=
  constraint.reference.isSome

/-- Tokens that state a constraint, in normalized order. -/
def tokens (constraint : Constraint) : List Tag.Token :=
  (if constraint.isPrimary then [.primaryKey] else []) ++
  (match constraint.uniqueGroup with
    | some group => [.uniqueGroup group]
    | none => if constraint.isUnique then [.unique] else []) ++
  (if constraint.isIgnored then [.ignore] else []) ++
  (if constraint.indexName.isSome then
    [.index constraint.indexIsUnique constraint.indexGroup] else []) ++
  (constraint.tableName.map .table).toList ++
  (constraint.check.map .check).toList ++
  (constraint.default.map .default).toList ++
  (if constraint.allowed.isEmpty then [] else [.values constraint.allowed]) ++
  (constraint.reference.map fun reference =>
    .foreignKey
      { group := constraint.foreignKeyGroup
        table := reference.table
        column := reference.column
        onDelete := constraint.onDelete
        onUpdate := constraint.onUpdate }).toList

/-- Normalized tag of a constraint. -/
def tag (constraint : Constraint) : String :=
  Tag.spelled constraint.tokens

end Constraint
end Tablewright
