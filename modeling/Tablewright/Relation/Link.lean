import Tablewright.Entity.Group

/-!
# Links

The foreign keys of an entity as links to tables: one for each field with a reference of its own,
one for each composite key that is rendered.
-/

namespace Tablewright

/-- A foreign key. -/
structure Link where
  /-- Field name, or label of the composite key. -/
  label : String
  /-- Referenced table, as the tag writes it. -/
  table : String
  /-- Pairs of a column and the column it references. -/
  pairs : List (String × String)
  deriving DecidableEq, Repr

namespace Link

/-- The pair of columns that a field with a reference contributes. -/
def pair? (field : Field) : Option (String × String) :=
  field.constraint.reference.map fun reference => (field.column, reference.column)

/-- The link that begins at a field, given the stored fields before it. -/
def beginning?
    (groups : List FieldGroup)
    (earlier : List Field)
    (field : Field) : Option Link :=
  field.constraint.reference.bind fun reference =>
    match field.constraint.foreignKeyGroup with
    | none =>
      some
        { label := field.name
          table := reference.table
          pairs := [(field.column, reference.column)] }
    | some name =>
      match Entity.rendered? groups name with
      | some group =>
        if Entity.isFirst Field.foreignKeyGroup? earlier name then
          some
            { label := name
              table := reference.table
              pairs := group.members.filterMap pair? }
        else none
      | none => none

end Link

/-- Links of an entity in the order in which they first appear. -/
def Entity.links (entity : Entity) : List Link :=
  let groups := entity.foreignKeyGroups
  (withEarlier [] entity.stored).filterMap fun (earlier, field) =>
    Link.beginning? groups earlier field

end Tablewright
