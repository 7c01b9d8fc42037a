import Tablewright.Entity.View

/-!
# Groups of fields

Stored fields that share a group name form one constraint over several columns.  A unique or
foreign key group needs two members; with a single one it is dropped, and nothing stands in for
it.  An index needs no more than one column.
-/

namespace Tablewright

/-- Fields that share a name. -/
structure FieldGroup where
  /-- The name. -/
  name : String
  /-- Members in order. -/
  members : List Field
  deriving DecidableEq, Repr

namespace FieldGroup

/-- Whether there are members enough for a constraint. -/
def isRendered (group : FieldGroup) : Bool :=
  group.members.length ≠ 1

/-- Columns of the members. -/
def columns (group : FieldGroup) : List String :=
  group.members.map (·.column)

/-- The groups with one more member for the group of the given name; a new name makes a new group,
which comes last. -/
def addMember
    (name : String)
    (field : Field) : List FieldGroup → List FieldGroup
  | [] => [{ name, members := [field] }]
  | group :: groups =>
    if group.name = name then { group with members := group.members ++ [field] } :: groups
    else group :: addMember name field groups

/-- The groups with one more field; a field without a name, or with an empty one, joins no group. -/
def addField
    (key : Field → Option String)
    (groups : List FieldGroup)
    (field : Field) : List FieldGroup :=
  match (key field).filter (· ≠ "") with
  | some name => addMember name field groups
  | none => groups

/-- Fields grouped by a key, one after the other. -/
def collect
    (key : Field → Option String)
    (fields : List Field) : List FieldGroup :=
  fields.foldl (addField key) []

end FieldGroup

/-- A unique constraint. -/
structure UniqueConstraint where
  /-- The column if there is one, else the group. -/
  name : String
  /-- Members in order. -/
  members : List Field
  /-- Whether it comes from a group. -/
  isGrouped : Bool
  deriving DecidableEq, Repr

/-- An index. -/
structure Index where
  /-- Index name. -/
  name : String
  /-- Whether the index is unique, as its first member says. -/
  isUnique : Bool
  /-- Members in order. -/
  members : List Field
  deriving DecidableEq, Repr

namespace Field

/-- Group of the unique constraint that a field belongs to. -/
def uniqueGroup? (field : Field) : Option String :=
  field.constraint.uniqueGroup

/-- Group of the composite foreign key that a field belongs to. -/
def foreignKeyGroup? (field : Field) : Option String :=
  if field.constraint.hasForeignKey then field.constraint.foreignKeyGroup else none

/-- Index that a field belongs to. -/
def index? (field : Field) : Option String :=
  field.constraint.indexName

end Field

namespace Entity

/-- Unique constraints over several columns. -/
def uniqueGroups (entity : Entity) : List FieldGroup :=
  FieldGroup.collect Field.uniqueGroup? entity.stored

/-- Composite foreign keys. -/
def foreignKeyGroups (entity : Entity) : List FieldGroup :=
  FieldGroup.collect Field.foreignKeyGroup? entity.stored

/-- The rendered group of the given name. -/
def rendered?
    (groups : List FieldGroup)
    (name : String) : Option FieldGroup :=
  (groups.find? (·.name = name)).filter (·.isRendered)

/-- Each field with the fields before it. -/
def withEarlier (earlier : List Field) : List Field → List (List Field × Field)
  | [] => []
  | field :: rest => (earlier, field) :: withEarlier (earlier ++ [field]) rest

/-- Whether a field is the first of its group. -/
def isFirst
    (key : Field → Option String)
    (earlier : List Field)
    (name : String) : Bool :=
  earlier.all fun field => key field ≠ some name

/-- Unique constraints in the order in which they first appear. -/
def uniqueConstraints (entity : Entity) : List UniqueConstraint :=
  let groups := entity.uniqueGroups
  (withEarlier [] entity.stored).filterMap fun (earlier, field) =>
    match field.uniqueGroup? with
    | none =>
      if field.constraint.isUnique then
        some { name := field.column, members := [field], isGrouped := false }
      else none
    | some name =>
      match rendered? groups name with
      | some group =>
        if isFirst Field.uniqueGroup? earlier name then
          some { name, members := group.members, isGrouped := true }
        else none
      | none => none

/-- Indexes in the order in which they first appear. -/
def indexes (entity : Entity) : List Index :=
  (FieldGroup.collect Field.index? entity.stored).map fun group =>
    { name := group.name
      isUnique := (group.members.head?.map (·.constraint.indexIsUnique)).getD false
      members := group.members }

end Entity
end Tablewright
