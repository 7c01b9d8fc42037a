import Tablewright.Entity.Basic
import Tablewright.Schema.ColumnType
import Tablewright.Sql.Quoted

/-!
# Views of an entity

Its table, its columns and its key.  Only stored fields count.
-/

namespace Tablewright.Entity

/-- Table name without quotes: the one that a tag gives, else the snake case of the name. -/
def bareTable (entity : Entity) : String :=
  entity.tableOverride.getD (Text.snakeCase entity.name)

/-- Table name in quotes. -/
def table (entity : Entity) : String :=
  Sql.quotedName entity.bareTable

/-- Stored fields in order. -/
def stored (entity : Entity) : List Field :=
  entity.fields.filter (·.isStored)

/-- Names of the columns in order. -/
def columns (entity : Entity) : List String :=
  entity.stored.map (·.column)

/-- Fields of the primary key in order. -/
def primaryKey (entity : Entity) : List Field :=
  entity.stored.filter (·.isPrimary)

/-- Whether the primary key spans several columns. -/
def hasCompositeKey (entity : Entity) : Bool :=
  1 < entity.primaryKey.length

/-- Name of the key when no field is declared as one. -/
def fallbackKey : String := "id"

/-- Columns of the key. -/
def keyColumns (entity : Entity) : List String :=
  if entity.primaryKey.isEmpty then [fallbackKey] else entity.primaryKey.map (·.column)

/-- Names and columns of the key fields. -/
def keyFields (entity : Entity) : List (String × String) :=
  if entity.primaryKey.isEmpty then [(fallbackKey, fallbackKey)]
  else entity.primaryKey.map fun field => (field.name, field.column)

/-- Whether a stored field belongs to the key. -/
def isKey
    (entity : Entity)
    (field : Field) : Bool :=
  if entity.primaryKey.isEmpty then field.column = fallbackKey else field.isPrimary

/-- Stored fields outside the key. -/
def updatable (entity : Entity) : List Field :=
  entity.stored.filter fun field => !entity.isKey field

/-- The key that the database fills in, given how the shape of a type is told: the only key field,
of a whole number type and without a default. -/
def identityBy?
    (shape? : Code.ShapeReader)
    (entity : Entity) : Option Field :=
  match entity.primaryKey with
  | [field] =>
    if isIntegerTypeBy shape? field.type && field.constraint.default.isNone then some field
    else none
  | _ => none

/-- The key that the database fills in. -/
def identity? : Entity → Option Field :=
  identityBy? Code.TypeExpr.shape?

end Tablewright.Entity
