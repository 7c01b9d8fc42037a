import Tablewright.Proofs.Relation.ForeignKey
import Tablewright.Proofs.Repository.Agreement
import Tablewright.Proofs.Repository.Key
import Tablewright.Relation.Code
import Tablewright.Schema.Basic

/-!
# The key of an entity

The key of an entity is worked out for its table, for its repository and for its joins.  All of them
come to the same columns in the same order, and the column that the database fills in is the one
that a new row is given no value for.
-/

namespace Tablewright

open Schema (Column Table)
open Sql (Condition)

namespace Relations

/-- The statement of a join query up to its conditions. -/
def joinedRows
    (relations : Relations)
    (query : JoinQuery) : String :=
  let all := tables relations query
  Sql.selection (all.flatMap (·.selected)) (relations.entity.table ++ " " ++ tableAlias 0) ++
    String.join ((all.drop 1).map (·.joined))

/-- The function of a join query finds the row of the entity by the columns of a key. -/
def FindsByKey
    (relations : Relations)
    (key : List String)
    (query : JoinQuery)
    (function : JoinFunction) : Prop :=
  function.sql = joinedRows relations query ++ " WHERE " ++
    Condition.spelled (Condition.allEqual (key.map (qualified 0)) 1)

/-- A function is made for a query of relations. -/
structure JoinFunction.IsFor
    (relations : Relations)
    (query : JoinQuery)
    (function : JoinFunction) : Prop where
  /-- Its result is named after the query. -/
  result : function.result.text = query.name
  /-- So is the function. -/
  name : function.name.text = query.functionName
  /-- Its parts have the roles of the tables and are rebuilt from them. -/
  parts : List.Forall₂
    (fun table part => part.1.text = table.role ∧ RowLiteral.ofTable table = .ok part.2)
    (tables relations query) function.parts
  /-- Its parameters are the keys. -/
  params : Repository.signatureParams relations.keys = .ok function.params
  /-- The keys are bound. -/
  bindings : Repository.paramBindings relations.keys = .ok function.bindings
  /-- It runs the statement of the query. -/
  sql : function.sql = relations.sql query

theorem isFor_of_joinFunction
    {relations : Relations}
    {query : JoinQuery}
    {function : JoinFunction}
    (made : joinFunction relations query = .ok function) :
    function.IsFor relations query := by
  unfold joinFunction at made
  obtain ⟨result, result_ok, made⟩ := bind_eq_ok_iff.mp made
  obtain ⟨name, name_ok, made⟩ := bind_eq_ok_iff.mp made
  obtain ⟨parts, parts_ok, made⟩ := bind_eq_ok_iff.mp made
  obtain ⟨params, params_ok, made⟩ := bind_eq_ok_iff.mp made
  obtain ⟨bindings, bindings_ok, made⟩ := bind_eq_ok_iff.mp made
  cases made
  refine ⟨Repository.text_of_ofName result_ok, Repository.text_of_ofName name_ok, ?_, params_ok,
    bindings_ok, rfl⟩
  refine (mapM_eq_ok_iff.mp parts_ok).imp fun table part part_ok => ?_
  obtain ⟨role, role_ok, part_ok⟩ := bind_eq_ok_iff.mp part_ok
  obtain ⟨literal, literal_ok, part_ok⟩ := bind_eq_ok_iff.mp part_ok
  cases part_ok
  exact ⟨Repository.text_of_ofName role_ok, literal_ok⟩

/-- Join queries have one function each, which finds rows by the key of the entity. -/
theorem forall₂_findsByKey
    {relations : Relations}
    {code : JoinCode}
    (declared : relations.entity.primaryKey ≠ [])
    (made : JoinCode.ofRelations relations = .ok code) :
    List.Forall₂ (relations.FindsByKey (relations.entity.primaryKey.map (·.column)))
      relations.queries code.functions := by
  unfold JoinCode.ofRelations at made
  obtain ⟨subject, -, made⟩ := bind_eq_ok_iff.mp made
  obtain ⟨name, -, made⟩ := bind_eq_ok_iff.mp made
  obtain ⟨functions, functions_ok, made⟩ := bind_eq_ok_iff.mp made
  cases made
  refine (mapM_eq_ok_iff.mp functions_ok).imp fun query function function_ok => ?_
  rw [FindsByKey, (isFor_of_joinFunction function_ok).sql, ← Repository.keyColumns_eq declared]
  rfl

end Relations

/-- Table, repository and joins of an entity agree on its key, and table and repository on the
column that the database fills in. -/
structure Entity.AgreesOnKey
    (entity : Entity)
    (settings : SchemaSettings)
    (key : List String) : Prop where
  /-- The table declares the key exactly once. -/
  declares : (Table.ofEntity settings.stringLength entity).DeclaresKey key
  /-- Functions of accepted contracts use the key, and give values for the columns of the table that
  the database does not fill in. -/
  functions : ∀ repository decl contract implementation,
    Contract.ofDecl entity decl = .ok contract →
    Repository.Implementation.ofContract repository entity contract = .ok implementation →
      List.Forall₂
        (Repository.UsesKey entity key
          (((Table.ofEntity settings.stringLength entity).columns.filter (!·.isGenerated)).map
            (·.name)))
        contract.methods implementation.functions
  /-- Functions of join queries find rows by the key. -/
  joins : ∀ entities relations code,
    Relations.ofEntity entity entities = .ok (some relations) →
    Relations.JoinCode.ofRelations relations = .ok code →
      List.Forall₂ (relations.FindsByKey key) relations.queries code.functions
  /-- The database fills in the column of a field exactly if a new row is given no value for it. -/
  generated_iff : ∀ field ∈ entity.stored,
    (Column.ofField settings.stringLength entity field).isGenerated ↔
      field ∉ Repository.insertedFields entity
  /-- It fills in one column at most. -/
  generated_unique :
    ((Table.ofEntity settings.stringLength entity).columns.filter (·.isGenerated)).length ≤ 1
  /-- That column is the whole key, holds a whole number that is always there, and has no
  default. -/
  generated_key : ∀ column ∈ (Table.ofEntity settings.stringLength entity).columns,
    column.isGenerated →
      entity.primaryKey.map (Column.ofField settings.stringLength entity) = [column] ∧
        key = [column.name] ∧ column.type.nullable = false ∧
        column.type.spelling ∈ ["SMALLINT", "INTEGER", "BIGINT"] ∧ column.default = none

namespace Entity

/-- Everything generated for a valid entity with a declared key agrees on the key. -/
theorem agreesOnKey_of_valid
    {entity : Entity}
    (valid : entity.defect? = none)
    (declared : entity.primaryKey ≠ [])
    (settings : SchemaSettings) :
    entity.AgreesOnKey settings (entity.primaryKey.map (·.column)) where
  declares := declaresKey_ofEntity declared settings.stringLength
  functions := by
    intro repository decl contract implementation built made
    rw [← Repository.map_column_insertedFields valid settings.stringLength]
    exact Repository.forall₂_usesKey declared built made
  joins := by
    intro entities relations code resolved made
    obtain ⟨keys, -, -, rfl⟩ := Relations.of_ofEntity resolved
    exact Relations.forall₂_findsByKey declared made
  generated_iff := by
    intro field member
    exact Repository.isGenerated_ofField_iff_notMem valid settings.stringLength member
  generated_unique := by
    rw [filter_isGenerated_columns, List.length_map]
    cases entity.identity? with
    | none => exact Nat.zero_le 1
    | some field => exact Nat.le_refl 1
  generated_key := by
    intro column member generated
    obtain ⟨key_eq, present, integer, no_default⟩ := of_isGenerated member generated
    have named := congrArg (List.map Column.name) key_eq
    rw [List.map_map] at named
    exact ⟨key_eq, named, present, integer, no_default⟩

/-- The number of a user is the key and is filled in by the database, so that a new user is given a
name only. -/
theorem agreesOnKey_of_valid_users :
    Repository.users.defect? = none ∧ Repository.users.primaryKey ≠ [] ∧
      Repository.users.AgreesOnKey { stringLength := some 255, ifNotExists := false } ["id"] ∧
      ((Table.ofEntity (some 255) Repository.users).columns.filter (·.isGenerated)).map (·.name) =
        ["id"] ∧
      (Repository.insertedFields Repository.users).map (·.column) = ["name"] := by
  have valid : Repository.users.defect? = none := by decide +kernel
  have declared : Repository.users.primaryKey ≠ [] := by decide +kernel
  have key_eq : Repository.users.primaryKey.map (·.column) = ["id"] := by decide +kernel
  have agrees :=
    agreesOnKey_of_valid valid declared { stringLength := some 255, ifNotExists := false }
  rw [key_eq] at agrees
  refine ⟨valid, declared, agrees, ?_, ?_⟩
  · decide +kernel
  · decide +kernel

end Entity

end Tablewright
