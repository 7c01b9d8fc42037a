import Tablewright.Tag.Action

/-!
# Tag tokens

The constraints that a tag can state about one field, and their normalized spelling.
-/

namespace Tablewright

/-- Target and actions of a foreign key as a tag states them. -/
structure ForeignKey where
  /-- Label of the composite key that the column belongs to. -/
  group : Option String
  /-- Referenced table. -/
  table : String
  /-- Referenced column. -/
  column : String
  /-- Action on deletion. -/
  onDelete : Option ReferentialAction
  /-- Action on update. -/
  onUpdate : Option ReferentialAction
  deriving DecidableEq, Repr

/-- One statement of a tag. -/
inductive Tag.Token where
  /-- Member of the primary key. -/
  | primaryKey
  /-- Unique by itself. -/
  | unique
  /-- Left out of schema and code. -/
  | ignore
  /-- Indexed, under a name of its own or the default one. -/
  | index (isUnique : Bool) (name : Option String)
  /-- Member of a unique constraint over several columns. -/
  | uniqueGroup (name : String)
  /-- Checked by an SQL expression. -/
  | check (expression : String)
  /-- Filled by an SQL expression. -/
  | default (expression : String)
  /-- Restricted to a list of values. -/
  | values (allowed : List String)
  /-- A reference to another table. -/
  | foreignKey (key : ForeignKey)
  /-- The name of the record's table. -/
  | table (name : String)
  /-- Anything else, as written. -/
  | unrecognized (text : String)
  deriving DecidableEq, Repr

namespace Tag

/-- Words that stand before the colon of a token with a value. -/
inductive Key where
  | uniqueIndex
  | default
  | uniqueGroup
  | check
  | index
  | table
  | values
  | foreignKey
  deriving DecidableEq, Repr

namespace Key

/-- All keys. -/
def all : List Key :=
  [uniqueIndex, default, uniqueGroup, check, index, table, values, foreignKey]

/-- The key with its colon. -/
def spelling : Key → String
  | uniqueIndex => "unique_index:"
  | default => "default:"
  | uniqueGroup => "unique:"
  | check => "check:"
  | index => "index:"
  | table => "table:"
  | values => "enum:"
  | foreignKey => "fk:"

/-- Whether the value may hold commas, and so takes the segments after it. -/
def absorbs : Key → Bool
  | check | default | values | foreignKey => true
  | uniqueIndex | uniqueGroup | index | table => false

end Key

/-- Arguments of a foreign key in the order in which a tag lists them. -/
def foreignKeyArguments (key : ForeignKey) : List String :=
  key.group.toList ++ [key.table, key.column] ++
    (key.onDelete.map fun action => "on_delete:" ++ action.tagSpelling).toList ++
    (key.onUpdate.map fun action => "on_update:" ++ action.tagSpelling).toList

/-- Normalized spelling of a token. -/
def Token.spelling : Token → String
  | .primaryKey => "pk"
  | .unique => "unique"
  | .ignore => "-"
  | .index false none => "index"
  | .index true none => "unique_index"
  | .index false (some name) => Key.index.spelling ++ name
  | .index true (some name) => Key.uniqueIndex.spelling ++ name
  | .uniqueGroup name => Key.uniqueGroup.spelling ++ name
  | .check expression => Key.check.spelling ++ expression
  | .default expression => Key.default.spelling ++ expression
  | .values allowed => Key.values.spelling ++ ",".intercalate allowed
  | .foreignKey key => Key.foreignKey.spelling ++ ",".intercalate (foreignKeyArguments key)
  | .table name => Key.table.spelling ++ name
  | .unrecognized text => text

/-- A tag that states the given tokens in order. -/
def spelled (tokens : List Token) : String :=
  ",".intercalate (tokens.map Token.spelling)

end Tag
end Tablewright
