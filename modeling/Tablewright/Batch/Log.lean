import Tablewright.Batch.Generator

/-!
# Log

What happens during a run, in order: records, then the schema, contracts and join queries, and a
summary at the end.  Every failure is a warning; what is passed over silently otherwise is noted
for debugging.
-/

namespace Tablewright

open Code (Unspellable)

/-- How much an event matters. -/
inductive Level where
  | debug
  | info
  | warn
  deriving DecidableEq, Repr

/-- The level in capitals. -/
def Level.name : Level → String
  | debug => "DEBUG"
  | info => "INFO"
  | warn => "WARN"

/-- Something that happens during a run. -/
inductive Event where
  /-- A token of a tag means nothing. -/
  | strangeToken (column token : String)
  /-- A unique group has a single member. -/
  | lonelyUnique (entity group field : String)
  /-- A foreign key group has a single member. -/
  | lonelyForeignKey (entity group field : String)
  /-- A method name describes no query. -/
  | strangeMethod (method : String)
  /-- An entity with foreign keys has no key to look rows up by. -/
  | missingKey (entity : String)
  /-- No entity has a table that a foreign key references. -/
  | strangeTable (entity table : String)
  /-- Something is rejected. -/
  | rejected (failure : Failure)
  /-- The run ends, with the numbers of what came of it. -/
  | finished (entities repositories relations failures : Nat)
  deriving DecidableEq, Repr

namespace Event

/-- The level of an event. -/
def level : Event → Level
  | rejected _ => .warn
  | finished _ _ _ _ => .info
  | _ => .debug

/-- The event in words. -/
def message : Event → String
  | strangeToken _ _ => "skipping unrecognized tag token"
  | lonelyUnique _ _ _ => "dropping unique group with a single member"
  | lonelyForeignKey _ _ _ => "dropping foreign key group with a single member"
  | strangeMethod _ => "method name does not describe a query"
  | missingKey _ => "no key column, skipping joins"
  | strangeTable _ _ => "referenced table is outside the batch"
  | rejected failure =>
    match failure.subject with
    | .record _ => "skipping record"
    | .contract _ => "skipping contract"
    | .relations _ => "skipping join queries"
  | finished _ _ _ _ => "batch generated"

/-- What a failure concerns, under the name of its kind. -/
def subjectField : Subject → String × String
  | .record name => ("record", name)
  | .contract name => ("contract", name)
  | .relations entity => ("entity", entity)

/-- The details of an event by their names. -/
def fields : Event → List (String × String)
  | strangeToken column token => [("column", column), ("token", token)]
  | lonelyUnique entity group field | lonelyForeignKey entity group field =>
    [("entity", entity), ("group", group), ("field", field)]
  | strangeMethod method => [("method", method)]
  | missingKey entity => [("entity", entity)]
  | strangeTable entity table => [("entity", entity), ("table", table)]
  | rejected failure => [subjectField failure.subject, ("error", failure.cause.message)]
  | finished entities repositories relations failures =>
    [("entities", toString entities), ("repositories", toString repositories),
      ("relations", toString relations), ("failures", toString failures)]

/-- Events of reading the tag of a field. -/
def ofField (decl : FieldDecl) : List Event :=
  (Tag.read decl.tag).filterMap fun
    | .unrecognized token => some (strangeToken (Text.snakeCase decl.name) token)
    | _ => none

/-- Events of a record. -/
def ofRecord (decl : RecordDecl) : List Event :=
  decl.fields.flatMap ofField ++ ((Failure.ofRecord? decl).map rejected).toList

/-- The first member of each group that is not rendered. -/
def lonely (groups : List FieldGroup) : List (String × String) :=
  (groups.filter (!·.isRendered)).filterMap fun group =>
    group.members.head?.map fun field => (group.name, field.name)

/-- Events of the schema of an entity. -/
def ofSchema (entity : Entity) : List Event :=
  ((lonely entity.uniqueGroups).map fun (group, field) => lonelyUnique entity.name group field) ++
    (lonely entity.foreignKeyGroups).map fun (group, field) =>
      lonelyForeignKey entity.name group field

/-- Events of a contract. -/
def ofContract
    (entities : List Entity)
    (decl : ContractDecl) : List Event :=
  match Failure.ofContract? entities decl with
  | none => []
  | some failure =>
    match failure.cause with
    | .contract (.unresolvedMethod method) => [strangeMethod method, rejected failure]
    | _ => [rejected failure]

/-- Events of following the links of an entity. -/
def ofLinks
    (entities : List Entity)
    (entity : Entity) : List Event :=
  if (Relations.keyFields entity).isEmpty then [missingKey entity.name]
  else
    (entity.links.filter fun link => (Relations.target? entities link).isNone).map fun link =>
      strangeTable entity.name link.table

/-- Events of the join queries of an entity. -/
def ofRelations
    (entities : List Entity)
    (entity : Entity) : List Event :=
  (if entity.stored.any (·.constraint.hasForeignKey) then ofLinks entities entity else []) ++
    ((Failure.ofRelations? entities entity).map rejected).toList

end Event

/-- The event that ends a run. -/
def Batch.summary
    (batch : Batch)
    (output : Output) : Event :=
  .finished batch.entities.length output.repositories.length output.relations.length
    output.failures.length

/-- All events of a run, given its output. -/
def Batch.log
    (batch : Batch)
    (output : Output) : List Event :=
  let entities := batch.entities
  batch.records.flatMap Event.ofRecord ++ entities.flatMap Event.ofSchema ++
    batch.contracts.flatMap (Event.ofContract entities) ++
    entities.flatMap (Event.ofRelations entities) ++ [batch.summary output]

/-- The events of running a generator on a batch. -/
def Generator.log
    (generator : Generator)
    (batch : Batch) : Except Unspellable (List Event) :=
  (generator.run batch).map batch.log

end Tablewright
