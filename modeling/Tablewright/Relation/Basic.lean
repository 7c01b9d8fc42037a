import Tablewright.Contract.Building
import Tablewright.Relation.Link

/-!
# Relations

The joins that load an entity together with the entities it references.  A link is followed to the
first entity that has its table; links to tables outside the batch are left out.  Each join gets a
result type and a role, the name of its field in the result; where a role is taken, the position
of the join is appended.
-/

namespace Tablewright

/-- A foreign key followed to the entity that it references. -/
structure Join where
  /-- Name of the result type. -/
  name : String
  /-- Field that holds the referenced row. -/
  role : String
  /-- The referenced entity. -/
  related : Entity
  /-- Pairs of a column and the column it references. -/
  pairs : List (String × String)
  deriving DecidableEq, Repr

/-- The joins of an entity. -/
structure Relations where
  /-- The entity. -/
  entity : Entity
  /-- Field that holds its own row. -/
  role : String
  /-- Key parameters, one for each key column. -/
  keys : List Param
  /-- The joins in order. -/
  joins : List Join

/-- A query along one or more joins. -/
structure JoinQuery where
  /-- Name of the result type. -/
  name : String
  /-- The joins in order. -/
  joins : List Join
  deriving DecidableEq, Repr

/-- Name of the function that runs a query. -/
def JoinQuery.functionName (query : JoinQuery) : String :=
  "get_" ++ Text.snakeCase query.name

/-- A link with the entity that it leads to. -/
abbrev ResolvedLink := Link × Entity

namespace Relations

/-- Role of a link: its label in snake case, without `_id` at the end if more is left. -/
def roleOf (label : String) : String :=
  let snake := Text.snakeCase label
  match Text.beforeSuffix? "_id".toList snake.toList with
  | some role => String.ofList role
  | none => snake

/-- Key fields of an entity that are stored. -/
def keyFields (entity : Entity) : List Field :=
  entity.keyColumns.filterMap fun column => entity.stored.find? (·.column = column)

/-- The entity that a link leads to. -/
def target?
    (entities : List Entity)
    (link : Link) : Option Entity :=
  entities.find? (·.bareTable = link.table)

/-- Links of an entity that lead to an entity of the batch. -/
def resolved
    (entity : Entity)
    (entities : List Entity) : List ResolvedLink :=
  entity.links.filterMap fun link => (target? entities link).map fun related => (link, related)

/-- Whether several links lead to the same table. -/
def isShared
    (links : List ResolvedLink)
    (table : String) : Bool :=
  1 < links.countP fun (link, _) => link.table = table

/-- Name of the result type of a single join. -/
def resultName
    (entity : Entity)
    (links : List ResolvedLink)
    (link : ResolvedLink) : String :=
  entity.name ++ "With" ++ link.2.name ++
    (if isShared links link.1.table then "Via" ++ Text.pascalCase link.1.label else "")

/-- A role that is not among those taken, or the one with the position appended. -/
def freeRole
    (taken : List String)
    (position : Nat)
    (role : String) : String :=
  if taken.contains role then role ++ "_" ++ toString position else role

/-- Joins of links, the first of which stands at a position, given the roles taken so far. -/
def joinsFrom
    (entity : Entity)
    (all : List ResolvedLink)
    (taken : List String)
    (position : Nat) : List ResolvedLink → List Join
  | [] => []
  | link :: rest =>
    let role := freeRole taken position (roleOf link.1.label)
    { name := resultName entity all link, role, related := link.2, pairs := link.1.pairs } ::
      joinsFrom entity all (taken ++ [role]) (position + 1) rest

/-- The key parameter of a field. -/
def keyParam (field : Field) : Except Contract.Defect Param := do
  let type ← checkedType field.type
  return { name := Text.snakeCase field.name, type }

/-- The first join to each referenced entity. -/
def firstJoins (joins : List Join) : List Join :=
  joins.foldl (fun chosen join =>
    if chosen.any fun other => other.related.bareTable = join.related.bareTable then chosen
    else chosen ++ [join]) []

/-- The queries of relations: one for each join, and one along the first joins to all referenced
entities when there are two or more. -/
def queries (relations : Relations) : List JoinQuery :=
  let combined := firstJoins relations.joins
  (relations.joins.map fun join => { name := join.name, joins := [join] }) ++
    (if 1 < combined.length then
      [{ name := relations.entity.name ++ "WithRelations", joins := combined }]
    else [])

/-- Names that the code of relations needs. -/
def names (relations : Relations) : List String :=
  [relations.entity.name, relations.role] ++
  (relations.keys.map (·.name)) ++
  (relations.entity.stored.map (·.name)) ++
  (relations.joins.flatMap fun join =>
    join.role :: join.related.name :: join.related.stored.map (·.name)) ++
  (relations.queries.flatMap fun query => [query.functionName, query.name])

/-- Relations of an entity within a batch; none if there is nothing to join, or no key to look
rows up by. -/
def ofEntity
    (entity : Entity)
    (entities : List Entity) : Except Contract.Defect (Option Relations) := do
  let links := resolved entity entities
  if (keyFields entity).isEmpty || links.isEmpty then return none
  let role := Text.snakeCase entity.name
  let joins := joinsFrom entity links [role] 1 links
  let keys ← (keyFields entity).mapM keyParam
  let relations := { entity, role, keys, joins }
  checkNames relations.names
  return some relations

end Relations
end Tablewright
