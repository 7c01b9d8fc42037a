import Tablewright.Batch.Failure
import Tablewright.Config
import Tablewright.Relation.Code

/-!
# Generators

A generator holds checked settings and turns batches into schema and code.  Where code needs a name
that no identifier spells, there is no output at all.
-/

namespace Tablewright

open Code (Unspellable)

/-- The implementation of a contract. -/
structure RepositoryCode where
  /-- Contract name. -/
  name : String
  /-- Name of the entity that it serves. -/
  entity : String
  /-- Source text. -/
  code : String
  deriving DecidableEq, Repr

/-- The join queries of an entity. -/
structure RelationCode where
  /-- Entity name. -/
  entity : String
  /-- Source text. -/
  code : String
  deriving DecidableEq, Repr

/-- What a batch is turned into. -/
structure Output where
  /-- Definitions of the tables of all entities. -/
  schema : String
  /-- Implementations of the contracts that have one. -/
  repositories : List RepositoryCode
  /-- Join queries of the entities that have some. -/
  relations : List RelationCode
  /-- What was rejected. -/
  failures : List Failure
  deriving DecidableEq, Repr

/-- A generator. -/
structure Generator where
  /-- Settings of the schema. -/
  schema : SchemaSettings
  /-- Settings of repositories. -/
  repository : RepositorySettings

namespace Generator

/-- The generator that a configuration describes. -/
def ofConfig (config : Config) : Except RepositoryConfig.Defect Generator := do
  let repository ← RepositorySettings.ofConfig config.repository
  return { schema := config.schema.settings, repository }

/-- The implementation of a contract for its entity. -/
def repositoryCode
    (generator : Generator)
    (entity : Entity)
    (contract : Contract) : Except Unspellable RepositoryCode := do
  let code ← Repository.source generator.repository entity contract
  return { name := contract.name, entity := entity.name, code }

/-- The join queries of an entity. -/
def relationCode
    (generator : Generator)
    (relations : Relations) : Except Unspellable RelationCode := do
  let code ← relations.source generator.repository
  return { entity := relations.entity.name, code }

/-- The output for a batch. -/
def run
    (generator : Generator)
    (batch : Batch) : Except Unspellable Output := do
  let repositories ← batch.resolved.mapM fun (entity, contract) =>
    generator.repositoryCode entity contract
  let relations ← batch.relations.mapM generator.relationCode
  return {
    schema := Schema.text generator.schema batch.entities
    repositories
    relations
    failures := batch.failures }

end Generator
end Tablewright
