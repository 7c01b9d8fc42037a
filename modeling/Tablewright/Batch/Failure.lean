import Tablewright.Relation.Basic

/-!
# Failures

A record, a contract or the join queries of an entity may be rejected; the rest of the batch does
not depend on it.  Contracts and join queries only ever look at the entities that were accepted.
-/

namespace Tablewright

/-- What was rejected. -/
inductive Subject where
  /-- A record. -/
  | record (name : String)
  /-- A contract. -/
  | contract (name : String)
  /-- The join queries of an entity. -/
  | relations (entity : String)
  deriving DecidableEq, Repr

/-- Why it was rejected. -/
inductive Cause where
  /-- A record is no entity. -/
  | entity (defect : Entity.Defect)
  /-- A contract, or join queries, cannot be implemented. -/
  | contract (defect : Contract.Defect)
  deriving DecidableEq, Repr

/-- The cause in words. -/
def Cause.message : Cause → String
  | entity defect => defect.message
  | contract defect => defect.message

/-- A rejection. -/
structure Failure where
  /-- What was rejected. -/
  subject : Subject
  /-- Why. -/
  cause : Cause
  deriving DecidableEq, Repr

/-- A contract and the entity that it serves: the first one with the name that it gives. -/
def Contract.resolve
    (entities : List Entity)
    (decl : ContractDecl) : Except Contract.Defect (Entity × Contract) :=
  match entities.find? (·.name = decl.entity) with
  | none => .error (.unknownEntity decl.name decl.entity)
  | some entity => (Contract.ofDecl entity decl).map fun contract => (entity, contract)

namespace Failure

/-- The defect of a result, if it has one. -/
def defect?
    {ε α : Type} : Except ε α → Option ε
  | .ok _ => none
  | .error defect => some defect

/-- The failure of a record. -/
def ofRecord? (decl : RecordDecl) : Option Failure :=
  (defect? (Entity.ofDecl decl)).map fun defect =>
    { subject := .record decl.name, cause := .entity defect }

/-- The failure of a contract. -/
def ofContract?
    (entities : List Entity)
    (decl : ContractDecl) : Option Failure :=
  (defect? (Contract.resolve entities decl)).map fun defect =>
    { subject := .contract decl.name, cause := .contract defect }

/-- The failure of the join queries of an entity. -/
def ofRelations?
    (entities : List Entity)
    (entity : Entity) : Option Failure :=
  (defect? (Relations.ofEntity entity entities)).map fun defect =>
    { subject := .relations entity.name, cause := .contract defect }

end Failure

namespace Batch

/-- The records that are entities. -/
def entities (batch : Batch) : List Entity :=
  batch.records.filterMap fun decl => (Entity.ofDecl decl).toOption

/-- The contracts that can be implemented, each with its entity. -/
def resolved (batch : Batch) : List (Entity × Contract) :=
  let entities := batch.entities
  batch.contracts.filterMap fun decl => (Contract.resolve entities decl).toOption

/-- The relations of the entities that have any. -/
def relations (batch : Batch) : List Relations :=
  let entities := batch.entities
  entities.filterMap fun entity => (Relations.ofEntity entity entities).toOption.bind id

/-- All failures: those of records, then of contracts, then of join queries. -/
def failures (batch : Batch) : List Failure :=
  let entities := batch.entities
  batch.records.filterMap Failure.ofRecord? ++
    batch.contracts.filterMap (Failure.ofContract? entities) ++
    entities.filterMap (Failure.ofRelations? entities)

end Batch
end Tablewright
