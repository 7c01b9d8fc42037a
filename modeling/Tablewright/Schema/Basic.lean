import Tablewright.Schema.Table

/-!
# Schema

The definitions of the tables and indexes of entities, in the order of the entities.
-/

namespace Tablewright

/-- How definitions are written. -/
structure SchemaSettings where
  /-- Length of character columns; none stores strings as text. -/
  stringLength : Option Nat
  /-- Whether definitions pass over what is already there. -/
  ifNotExists : Bool
  deriving DecidableEq, Repr

namespace Schema

/-- The statement that defines an index of an entity. -/
def indexText
    (settings : SchemaSettings)
    (entity : Entity)
    (index : Index) : String :=
  "CREATE " ++ (if index.isUnique then "UNIQUE " else "") ++ "INDEX " ++
    existence settings.ifNotExists ++ Sql.quotedName index.name ++ " ON " ++ entity.table ++ " (" ++
    Sql.commas (index.members.map (·.column)) ++ ");\n"

/-- The definitions of an entity: its table, its indexes, and an empty line. -/
def block
    (settings : SchemaSettings)
    (entity : Entity) : String :=
  (Table.ofEntity settings.stringLength entity).text settings.ifNotExists ++
    String.join (entity.indexes.map (indexText settings entity)) ++ "\n"

/-- The definitions of a list of entities. -/
def text
    (settings : SchemaSettings)
    (entities : List Entity) : String :=
  String.join (entities.map (block settings))

end Schema
end Tablewright
