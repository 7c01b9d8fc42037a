import Tablewright.Proofs.Repository.Agreement
import Tablewright.Proofs.Repository.Key

/-!
# Columns of changes

A change gives values to columns and picks its row by others.  Where the columns of an entity are
distinct, the two lists part them: the row is picked by the key, declared or not, and all other
columns are given values.
-/

namespace Tablewright

/-! ## Parted columns -/

/-- The columns of an entity are parted into those that are given values and those of its key. -/
structure Entity.IsParted
    (entity : Entity)
    (given key : List String) : Prop where
  /-- A column is given a value. -/
  given_ne : given ≠ []
  /-- The key has a column. -/
  key_ne : key ≠ []
  /-- No column of the key is given a value. -/
  apart : given.Disjoint key
  /-- All other columns are, in their order. -/
  given_eq : given = entity.columns.filter fun column => column ∉ key
  /-- None of them is given two values. -/
  given_nodup : given.Nodup
  /-- Each column stands once in the two lists together. -/
  count_eq_one : ∀ column ∈ entity.columns, (given ++ key).count column = 1
  /-- A declared key is the key. -/
  of_declared : entity.primaryKey ≠ [] → key = entity.primaryKey.map (·.column)
  /-- The key is the column `id` if none is declared. -/
  of_undeclared : entity.primaryKey = [] → key = ["id"] ∧ "id" ∉ given

namespace Entity

variable {entity : Entity}

theorem nodup_keyColumns (distinct : entity.columns.Nodup) : entity.keyColumns.Nodup := by
  unfold keyColumns
  split
  · exact List.nodup_singleton fallbackKey
  · exact (List.filter_sublist.map _).nodup distinct

/-- A stored field is of the key exactly if its column is, where columns are distinct. -/
theorem isKey_iff
    (distinct : entity.columns.Nodup)
    {field : Field}
    (member : field ∈ entity.stored) :
    entity.isKey field ↔ field.column ∈ entity.keyColumns := by
  unfold isKey keyColumns
  split
  · rw [decide_eq_true_iff, List.mem_singleton]
  · constructor
    · intro primary
      exact List.mem_map_of_mem (List.mem_filter.mpr ⟨member, primary⟩)
    · intro in_key
      obtain ⟨other, other_primary, same⟩ := List.mem_map.mp in_key
      obtain ⟨other_member, primary⟩ := List.mem_filter.mp other_primary
      rwa [← List.inj_on_of_nodup_map distinct other_member member same]

/-- The columns outside the key are those of the fields outside the key. -/
theorem map_column_updatable (distinct : entity.columns.Nodup) :
    entity.updatable.map (·.column) =
      entity.columns.filter fun column => column ∉ entity.keyColumns := by
  rw [columns, List.filter_map]
  apply congrArg
  apply List.filter_congr
  intro field member
  rw [Function.comp_apply, decide_not]
  refine congrArg (!·) (Bool.eq_iff_iff.mpr ?_)
  rw [decide_eq_true_iff, isKey_iff distinct member]

/-- The key and the fields outside of it part distinct columns, if there are such fields. -/
theorem isParted_of_nodup
    (distinct : entity.columns.Nodup)
    (updatable_ne : entity.updatable ≠ []) :
    entity.IsParted (entity.updatable.map (·.column)) entity.keyColumns := by
  have given_eq := map_column_updatable distinct
  have given_nodup : (entity.updatable.map (·.column)).Nodup :=
    given_eq ▸ distinct.filter _
  have mem_given_iff {column : String} :
      column ∈ entity.updatable.map (·.column) ↔
        column ∈ entity.columns ∧ column ∉ entity.keyColumns := by
    rw [given_eq, List.mem_filter, decide_eq_true_iff]
  have apart : (entity.updatable.map (·.column)).Disjoint entity.keyColumns :=
    fun column given => (mem_given_iff.mp given).2
  refine
    { given_ne := fun none_given => updatable_ne (List.map_eq_nil_iff.mp none_given)
      key_ne := Repository.keyColumns_ne_nil entity
      apart := apart
      given_eq := given_eq
      given_nodup := given_nodup
      count_eq_one := ?_
      of_declared := Repository.keyColumns_eq
      of_undeclared := ?_ }
  · intro column member
    refine List.count_eq_one_of_mem (given_nodup.append (nodup_keyColumns distinct) apart) ?_
    rw [List.mem_append, mem_given_iff]
    by_cases in_key : column ∈ entity.keyColumns
    · exact .inr in_key
    · exact .inl ⟨member, in_key⟩
  · intro undeclared
    have key_eq : entity.keyColumns = ["id"] := by
      rw [keyColumns, undeclared]
      rfl
    refine ⟨key_eq, fun given => apart given ?_⟩
    rw [key_eq]
    exact List.mem_singleton_self "id"

end Entity

namespace Repository

open Code (Identifier)
open Sql (Condition Statement)

/-- The function of an accepted update gives values to all columns outside the key and picks the row
by the key.  Where the columns are distinct, each of them stands once in the two lists, and neither
list is empty. -/
theorem exists_isParted_of_update
    {entity : Entity}
    {decl : ContractDecl}
    {contract : Contract}
    {method : Method}
    (distinct : entity.columns.Nodup)
    (built : Contract.ofDecl entity decl = .ok contract)
    (member : method ∈ contract.methods)
    (updates : method.plan = .update) :
    ∃ given key, entity.IsParted given key ∧
      ∀ name result, implementation? entity name method = .ok result →
        ∃ function, result = some function ∧
          function.body.sql =
            (Statement.update entity.table (Sql.slots given 1)
              (Condition.allEqual key (given.length + 1))
              (returning entity method.returnsEntity)).text := by
  have follows : method.Follows entity .update :=
    follows_of_plan_eq built member rfl updates
  refine ⟨entity.updatable.map (·.column), entity.keyColumns,
    Entity.isParted_of_nodup distinct (follows.updatable rfl), ?_⟩
  intro name result made
  obtain ⟨function, result_eq, implements⟩ := implements_of_follows follows made
  refine ⟨function, result_eq, ?_⟩
  rw [implements.sql_eq, statementOf, change, map_keyFields]

/-- The update of users gives a value to the name and picks the row by the key. -/
theorem exists_isParted_of_update_userUpdate :
    users.IsParted ["name"] ["id"] ∧
      updateFunction.body.sql =
        "UPDATE \"user\" SET name = $1 WHERE id = $2 RETURNING id, name" := by
  obtain ⟨given, key, parted, emitted⟩ :=
    exists_isParted_of_update (by decide +kernel) ofDecl_updateRepository
      (List.mem_singleton.mpr rfl) rfl
  have key_eq : key = ["id"] := (parted.of_declared (by decide)).trans (by decide +kernel)
  have given_eq : given = ["name"] := by
    rw [parted.given_eq, key_eq]
    decide +kernel
  subst key_eq given_eq
  obtain ⟨function, same, sql_eq⟩ := emitted _ _ implementation?_userUpdate
  cases same
  exact ⟨parted, sql_eq.trans (by decide +kernel)⟩

end Repository
end Tablewright
