import Tablewright.Entity.Field

/-!
# Entities

A record whose name is not blank and whose fields have names of their own.  Of several violations
the first in the order of `Entity.Defect` is reported.
-/

namespace Tablewright

/-- A record with the constraints of its fields. -/
structure Entity where
  /-- Record name. -/
  name : String
  /-- Fields in order. -/
  fields : List Field
  /-- Table name that a tag gives, if any. -/
  tableOverride : Option String
  /-- Package that the record comes from. -/
  package : String
  deriving DecidableEq, Repr

namespace Entity

/-- Why a record is no entity. -/
inductive Defect where
  /-- The name is blank. -/
  | emptyName
  /-- There are no fields. -/
  | noFields (entity : String)
  /-- Two fields share a name. -/
  | duplicateField (entity field : String)
  /-- A field has a blank name. -/
  | unnamedField (entity : String) (position : Nat)
  deriving DecidableEq, Repr

/-- The defect in words. -/
def Defect.message : Defect → String
  | emptyName => "entity name must not be empty"
  | noFields entity => "entity `" ++ entity ++ "` has no fields"
  | duplicateField entity field =>
    "entity `" ++ entity ++ "` declares field `" ++ field ++ "` more than once"
  | unnamedField entity position =>
    "entity `" ++ entity ++ "` has an unnamed field at position " ++ toString position

/-- The first name that occurs among those before it. -/
def firstRepeated? (seen : List String) : List String → Option String
  | [] => none
  | name :: rest => if seen.contains name then some name else firstRepeated? (name :: seen) rest

/-- The first defect of an entity, if it has any. -/
def defect? (entity : Entity) : Option Defect :=
  let names := entity.fields.map (·.name)
  if Text.isBlankText entity.name then some .emptyName
  else if entity.fields.isEmpty then some (.noFields entity.name)
  else
    match firstRepeated? [] names with
    | some field => some (.duplicateField entity.name field)
    | none =>
      (names.findIdx? Text.isBlankText).map (.unnamedField entity.name)

/-- A record taken as it is declared, without a check. -/
def ofFields
    (name : String)
    (fields : List Field)
    (package : String) : Entity :=
  { name, fields, package, tableOverride := fields.findSome? (·.constraint.tableName) }

/-- The entity that a record declares. -/
def ofDecl (decl : RecordDecl) : Except Defect Entity :=
  let entity := ofFields decl.name (decl.fields.map Field.ofDecl) decl.package
  match entity.defect? with
  | some defect => .error defect
  | none => .ok entity

end Entity
end Tablewright
