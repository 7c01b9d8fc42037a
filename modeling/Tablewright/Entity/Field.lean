import Tablewright.Constraint
import Tablewright.Declaration
import Tablewright.Text.Casing

/-!
# Fields

A field of an entity with the constraint that its tag states.
-/

namespace Tablewright

/-- A field of an entity. -/
structure Field where
  /-- Field name. -/
  name : String
  /-- Type, as written. -/
  type : String
  /-- What the tag states. -/
  constraint : Constraint
  deriving DecidableEq, Repr

namespace Field

/-- The field with a tag still to be read. -/
def ofTag
    (name type tag : String) : Field :=
  { name, type, constraint := Constraint.ofTag tag (Text.snakeCase name) }

/-- A declared field. -/
def ofDecl (decl : FieldDecl) : Field :=
  ofTag decl.name decl.type decl.tag

/-- Name of the column that stores the field. -/
def column (field : Field) : String :=
  Text.snakeCase field.name

/-- Whether the field is stored and appears in the code. -/
def isStored (field : Field) : Bool :=
  !field.constraint.isIgnored && !Text.isBlankText field.type

/-- Whether the field belongs to the primary key. -/
def isPrimary (field : Field) : Bool :=
  field.constraint.isPrimary

end Field
end Tablewright
