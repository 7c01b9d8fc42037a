import Tablewright.Batch.Generator
import Tablewright.Proofs.Relation.Outline
import Tablewright.Proofs.Repository.Outline

/-!
# Outlines of batches

A run goes by what is rejected among the records, the entities that are accepted, and the contracts.
Of the entities it needs no more than their outlines.
-/

namespace Tablewright

open Code (Unspellable)
open Entity (outline name_outline)

/-! ## Contracts and relations -/

/-- A contract finds the outline of its entity among outlines. -/
theorem Contract.resolve_outline
    (entities : List Entity)
    (decl : ContractDecl) :
    resolve (entities.map outline) decl =
      (resolve entities decl).map fun (entity, contract) => (entity.outline, contract) := by
  have found : (entities.map outline).find? (·.name = decl.entity) =
      (entities.find? (·.name = decl.entity)).map outline := by
    rw [List.find?_map]
    rfl
  rw [resolve, resolve, found]
  cases entities.find? (·.name = decl.entity) with
  | none => rfl
  | some entity =>
    simp only [Option.map_some, ofDecl_outline]
    cases ofDecl entity decl <;> rfl

theorem Contract.filterMap_resolve_outline
    (entities : List Entity)
    (contracts : List ContractDecl) :
    (contracts.filterMap fun decl => (resolve (entities.map outline) decl).toOption) =
      (contracts.filterMap fun decl => (resolve entities decl).toOption).map
        fun (entity, contract) => (entity.outline, contract) := by
  rw [List.map_filterMap]
  apply List.filterMap_congr
  intro decl _
  rw [resolve_outline]
  cases resolve entities decl <;> rfl

theorem Relations.filterMap_ofEntity_outline (entities : List Entity) :
    ((entities.map Entity.outline).filterMap fun entity =>
        (ofEntity entity (entities.map Entity.outline)).toOption.bind id) =
      (entities.filterMap fun entity => (ofEntity entity entities).toOption.bind id).map
        outline := by
  rw [List.filterMap_map, List.map_filterMap]
  apply List.filterMap_congr
  intro entity _
  rw [Function.comp_apply, ofEntity_outline]
  cases ofEntity entity entities <;> rfl

/-! ## Failures -/

namespace Failure

/-- A step on the value of a result keeps its defect. -/
theorem defect?_map
    {ε α β : Type}
    (step : α → β)
    (result : Except ε α) :
    defect? (result.map step) = defect? result := by
  cases result <;> rfl

theorem ofContract?_outline (entities : List Entity) :
    ofContract? (entities.map outline) = ofContract? entities := by
  funext decl
  rw [ofContract?, ofContract?, Contract.resolve_outline, defect?_map]

theorem ofRelations?_outline
    (entities : List Entity)
    (entity : Entity) :
    ofRelations? (entities.map outline) entity.outline = ofRelations? entities entity := by
  rw [ofRelations?, ofRelations?, Relations.ofEntity_outline, defect?_map, name_outline]

theorem filterMap_ofRelations?_outline (entities : List Entity) :
    (entities.map outline).filterMap (ofRelations? (entities.map outline)) =
      entities.filterMap (ofRelations? entities) := by
  rw [List.filterMap_map]
  simp only [Function.comp_def, ofRelations?_outline]

end Failure

/-! ## Runs -/

namespace Generator

/-- The output for accepted entities and declared contracts, given the failures of records. -/
def runOn
    (generator : Generator)
    (rejected : List Failure)
    (entities : List Entity)
    (contracts : List ContractDecl) : Except Unspellable Output := do
  let resolved := contracts.filterMap fun decl => (Contract.resolve entities decl).toOption
  let joined := entities.filterMap fun entity =>
    (Relations.ofEntity entity entities).toOption.bind id
  let repositories ← resolved.mapM fun (entity, contract) =>
    generator.repositoryCode entity contract
  let relations ← joined.mapM generator.relationCode
  return {
    schema := Schema.text generator.schema entities
    repositories
    relations
    failures := rejected ++ contracts.filterMap (Failure.ofContract? entities) ++
      entities.filterMap (Failure.ofRelations? entities) }

/-- No rejected record is seen by a run but where its failure is reported. -/
theorem run_eq_runOn
    (generator : Generator)
    (batch : Batch) :
    generator.run batch =
      generator.runOn (batch.records.filterMap Failure.ofRecord?) batch.entities batch.contracts :=
  rfl

theorem repositoryCode_outline
    (generator : Generator)
    (entity : Entity) :
    generator.repositoryCode entity.outline = generator.repositoryCode entity := by
  funext contract
  rw [repositoryCode, repositoryCode, Repository.source_outline, name_outline]

theorem relationCode_outline
    (generator : Generator)
    (relations : Relations) :
    generator.relationCode relations.outline = generator.relationCode relations := by
  rw [relationCode, relationCode, Relations.source_outline]
  rfl

/-- Outlines have the output of their entities. -/
theorem runOn_outline
    (generator : Generator)
    (rejected : List Failure)
    (entities : List Entity)
    (contracts : List ContractDecl) :
    generator.runOn rejected (entities.map outline) contracts =
      generator.runOn rejected entities contracts := by
  have repositories : (contracts.filterMap fun decl =>
      (Contract.resolve (entities.map outline) decl).toOption).mapM
        (fun (entity, contract) => generator.repositoryCode entity contract) =
      (contracts.filterMap fun decl => (Contract.resolve entities decl).toOption).mapM
        fun (entity, contract) => generator.repositoryCode entity contract := by
    rw [Contract.filterMap_resolve_outline, List.mapM_map]
    simp only [Function.comp_def, repositoryCode_outline]
  have relations : ((entities.map outline).filterMap fun entity =>
      (Relations.ofEntity entity (entities.map outline)).toOption.bind id).mapM
        generator.relationCode =
      (entities.filterMap fun entity =>
        (Relations.ofEntity entity entities).toOption.bind id).mapM generator.relationCode := by
    rw [Relations.filterMap_ofEntity_outline, List.mapM_map]
    simp only [Function.comp_def, relationCode_outline]
  rw [runOn, runOn]
  dsimp only
  rw [repositories, relations, Schema.text_outline, Failure.ofContract?_outline,
    Failure.filterMap_ofRelations?_outline]

/-- Batches have one output if their contracts, the failures of their records, and the outlines of
their entities are the same. -/
theorem run_eq_run_of_outlines
    (generator : Generator)
    {first second : Batch}
    (contracts : first.contracts = second.contracts)
    (rejected :
      first.records.filterMap Failure.ofRecord? = second.records.filterMap Failure.ofRecord?)
    (outlines : first.entities.map outline = second.entities.map outline) :
    generator.run first = generator.run second := by
  rw [run_eq_runOn, run_eq_runOn, ← runOn_outline generator _ first.entities,
    ← runOn_outline generator _ second.entities, contracts, rejected, outlines]

end Generator

end Tablewright
