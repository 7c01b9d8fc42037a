import Tablewright.Proofs.Repository.Numbering
import Tablewright.Proofs.Schema.PrimaryKey
import Tablewright.Repository.Implementation

/-!
# Keys in repositories

An accepted contract has a function for each of its methods.  Those that find one row compare the
columns of the key with their values, the one that finds all rows orders by these columns, and a new
row is given values for all columns that the database does not fill in.
-/

namespace Tablewright.Repository

open Schema (Column Table)
open Sql (Condition Statement)

/-! ## Functions of contracts -/

/-- Results that are all there stay paired with what they are results of. -/
theorem forall₂_filterMap_id
    {α β : Type}
    {relates : α → Option β → Prop}
    {values : List α}
    {results : List (Option β)}
    (pairs : List.Forall₂ relates values results)
    (found : ∀ value ∈ values, ∀ result, relates value result → ∃ last, result = some last) :
    List.Forall₂ (fun value last => relates value (some last)) values (results.filterMap id) := by
  induction pairs with
  | nil => exact .nil
  | cons first _ ih =>
    obtain ⟨last, rfl⟩ := found _ List.mem_cons_self _ first
    exact .cons first (ih fun value member => found value (List.mem_cons_of_mem _ member))

section

variable {settings : RepositorySettings} {entity : Entity} {decl : ContractDecl}
  {contract : Contract} {implementation : Implementation}

/-- A method of an accepted contract has a function if its names can be spelled. -/
theorem exists_function_of_mem
    {name : Code.Identifier}
    {method : Method}
    {result : Option Function}
    (built : Contract.ofDecl entity decl = .ok contract)
    (member : method ∈ contract.methods)
    (made : implementation? entity name method = .ok result) :
    ∃ function, result = some function := by
  obtain ⟨_, -, declared⟩ := Contract.exists_ofDecl_of_mem built member
  rcases Method.follows_of_ofDecl declared with ⟨sql, carries⟩ | ⟨convention, follows⟩
  · unfold implementation? at made
    rw [carries.plan_eq, carries.customSql_eq] at made
    obtain ⟨function, -, result_eq⟩ := map_eq_ok_iff.mp made
    exact ⟨function, result_eq.symm⟩
  · obtain ⟨function, result_eq, -⟩ := implements_of_follows follows made
    exact ⟨function, result_eq⟩

/-- An implementation has one function for each method of its contract, in their order, and all of
them call the entity by its name. -/
theorem exists_functions_of_ofContract
    (built : Contract.ofDecl entity decl = .ok contract)
    (made : Implementation.ofContract settings entity contract = .ok implementation) :
    ∃ name, Code.Identifier.ofName entity.name = .ok name ∧
      List.Forall₂
        (fun method function => implementation? entity name method = .ok (some function))
        contract.methods implementation.functions := by
  unfold Implementation.ofContract at made
  obtain ⟨name, name_ok, made⟩ := bind_eq_ok_iff.mp made
  obtain ⟨contractName, -, made⟩ := bind_eq_ok_iff.mp made
  obtain ⟨ownName, -, made⟩ := bind_eq_ok_iff.mp made
  obtain ⟨results, results_ok, made⟩ := bind_eq_ok_iff.mp made
  cases made
  exact ⟨name, name_ok, forall₂_filterMap_id (mapM_eq_ok_iff.mp results_ok)
    fun method member result => exists_function_of_mem built member⟩

theorem forall₂_functions_of_ofContract
    (built : Contract.ofDecl entity decl = .ok contract)
    (made : Implementation.ofContract settings entity contract = .ok implementation) :
    List.Forall₂
      (fun method function => ∃ name, implementation? entity name method = .ok (some function))
      contract.methods implementation.functions := by
  obtain ⟨name, -, pairs⟩ := exists_functions_of_ofContract built made
  exact pairs.imp fun _ _ function_ok => ⟨name, function_ok⟩

end

/-! ## Statements by the key -/

/-- The statement of a fixed convention on a table whose key and whose given columns are listed. -/
def keyedStatement?
    (entity : Entity)
    (key given : List String)
    (isReturned : Bool) : Convention → Option Statement
  | .create => some (.insert entity.table given (returning entity isReturned))
  | .getById => some (.select entity.columns entity.table (Condition.allEqual key 1) {})
  | .update =>
    let columns := entity.updatable.map (·.column)
    some
      (.update entity.table (Sql.slots columns 1) (Condition.allEqual key (columns.length + 1))
        (returning entity isReturned))
  | .delete => some (.delete entity.table (Condition.allEqual key 1))
  | .list =>
    some (.select entity.columns entity.table [] { order := some (Sql.commas key), limit := none })
  | .findBy _ | .query _ => none

/-- A function uses a key, and gives values for the given columns, as the convention of its method
asks for. -/
def UsesKey
    (entity : Entity)
    (key given : List String)
    (method : Method)
    (function : Function) : Prop :=
  ∀ convention statement, method.Follows entity convention →
    keyedStatement? entity key given method.returnsEntity convention = some statement →
      function.body.sql = statement.text

variable {entity : Entity}

theorem keyColumns_eq (declared : entity.primaryKey ≠ []) :
    entity.keyColumns = entity.primaryKey.map (·.column) := by
  rw [Entity.keyColumns, if_neg (by rwa [List.isEmpty_iff])]

/-- A new row of a valid entity is given values for the columns that the database does not fill
in. -/
theorem map_column_insertedFields
    (valid : entity.defect? = none)
    (length : Option Nat) :
    (insertedFields entity).map (·.column) =
      ((Table.ofEntity length entity).columns.filter (!·.isGenerated)).map (·.name) := by
  have same : insertedFields entity =
      entity.stored.filter ((!·.isGenerated) ∘ Column.ofField length entity) := by
    apply List.filter_congr
    intro field member
    rw [Function.comp_apply, decide_not]
    refine congrArg (!·) (Bool.eq_iff_iff.mpr ?_)
    rw [decide_eq_true_iff, Entity.isGenerated_ofField_iff valid member]
  rw [same, Table.ofEntity, List.filter_map, List.map_map]
  rfl

/-- The database fills in the column of a stored field exactly if a new row is given no value for
the field. -/
theorem isGenerated_ofField_iff_notMem
    (valid : entity.defect? = none)
    (length : Option Nat)
    {field : Field}
    (member : field ∈ entity.stored) :
    (Column.ofField length entity field).isGenerated ↔ field ∉ insertedFields entity := by
  rw [Entity.isGenerated_ofField_iff valid member, insertedFields, List.mem_filter,
    decide_eq_true_iff, and_iff_right member, not_not]

theorem statementOf_eq_of_keyedStatement?
    (declared : entity.primaryKey ≠ [])
    {isReturned : Bool}
    {convention : Convention}
    {statement : Statement}
    (keyed : keyedStatement? entity (entity.primaryKey.map (·.column))
      ((insertedFields entity).map (·.column)) isReturned convention = some statement) :
    statementOf entity isReturned convention = statement := by
  rw [← keyColumns_eq declared] at keyed
  cases convention with
  | update =>
    rw [← map_keyFields] at keyed
    exact Option.some.inj keyed
  | findBy fields => cases keyed
  | query found => cases keyed
  | _ => exact Option.some.inj keyed

/-- The functions of an accepted contract use the key of the entity. -/
theorem forall₂_usesKey
    {settings : RepositorySettings}
    {decl : ContractDecl}
    {contract : Contract}
    {implementation : Implementation}
    (declared : entity.primaryKey ≠ [])
    (built : Contract.ofDecl entity decl = .ok contract)
    (made : Implementation.ofContract settings entity contract = .ok implementation) :
    List.Forall₂
      (UsesKey entity (entity.primaryKey.map (·.column))
        ((insertedFields entity).map (·.column)))
      contract.methods implementation.functions := by
  refine (forall₂_functions_of_ofContract built made).imp ?_
  rintro method function ⟨name, function_ok⟩ convention statement follows keyed
  obtain ⟨emitted, same, implements⟩ := implements_of_follows follows function_ok
  cases same
  rw [implements.sql_eq, statementOf_eq_of_keyedStatement? declared keyed]

end Tablewright.Repository
