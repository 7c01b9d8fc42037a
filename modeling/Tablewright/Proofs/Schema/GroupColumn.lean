import Tablewright.Proofs.Entity.Group
import Tablewright.Proofs.Schema.Clause

/-!
# Columns of groups

Unique constraints, composite foreign keys and indexes part the stored fields of an entity by the
names that their tags give, each in its own way.  So whatever is said of a group in the definition
of a table is said of columns of that table.
-/

namespace Tablewright

open FieldGroup (IsStablePartition collect isPartition_collect)
open Schema (Table TableConstraint)

/-! ## Sizes of groups -/

section

variable {key : Field → Option String} {fields : List Field} {group : FieldGroup}

/-- A group is rendered exactly if it has two members at least. -/
theorem FieldGroup.isRendered_iff (found : group ∈ collect key fields) :
    group.isRendered ↔ 2 ≤ group.members.length := by
  have size_pos : 0 < group.members.length := List.length_pos_iff.mpr (members_ne found)
  rw [isRendered, decide_eq_true_iff]
  omega

theorem FieldGroup.not_isRendered_iff (group : FieldGroup) :
    ¬ group.isRendered ↔ group.members.length = 1 := by
  rw [isRendered, decide_eq_true_iff, not_not]

end

/-! ## Indexes -/

/-- The fields of an index as a group. -/
def Index.group (index : Index) : FieldGroup :=
  { name := index.name, members := index.members }

theorem Entity.map_group_indexes (entity : Entity) :
    entity.indexes.map (·.group) = collect Field.index? entity.stored := by
  rw [indexes, List.map_map]
  exact List.map_id _

/-- An index is unique exactly if its first member says so. -/
theorem Entity.isUnique_iff_of_mem_indexes
    {entity : Entity}
    {index : Index}
    (found : index ∈ entity.indexes) :
    index.isUnique ↔ ∃ first ∈ index.members.head?, first.constraint.indexIsUnique := by
  obtain ⟨group, -, rfl⟩ := List.mem_map.mp found
  dsimp only
  cases group.members.head? with
  | none => simp
  | some first => simp

/-! ## Columns -/

/-- Columns of its own table that a constraint names. -/
def Schema.TableConstraint.columns : TableConstraint → List String
  | .primaryKey columns | .unique _ columns | .foreignKey _ columns _ _ _ => columns

namespace Entity

variable {entity : Entity}

/-- Members of groups of stored fields have columns. -/
theorem map_column_members_subset
    {key : Field → Option String}
    {group : FieldGroup}
    (found : group ∈ collect key entity.stored) :
    group.members.map (·.column) ⊆ entity.columns :=
  List.map_subset _ fun _ member => ((FieldGroup.mem_members_iff found).mp member).1

theorem columns_subset_of_mem_constraints
    {constraint : TableConstraint}
    (member : constraint ∈ TableConstraint.ofEntity entity) :
    constraint.columns ⊆ entity.columns := by
  rw [TableConstraint.ofEntity, List.mem_append, List.mem_append] at member
  rcases member with (key | unique) | foreign
  · split at key
    · rw [List.mem_singleton.mp key]
      exact List.map_subset _ (List.filter_subset_self _)
    · cases key
  · obtain ⟨group, found, rfl⟩ := List.mem_map.mp unique
    exact map_column_members_subset (List.mem_of_mem_filter found)
  · obtain ⟨group, found, rfl⟩ := List.mem_map.mp foreign
    exact map_column_members_subset (List.mem_of_mem_filter found)

/-- The three groupings of an entity part its stored fields by the names that their tags give.  A
group of a unique constraint or a foreign key is rendered exactly if it has two members at least,
and dropped exactly if it has one; an index is unique exactly if its first member says so.  Every
column that a constraint or an index of the table names is a column of the table. -/
theorem isStablePartition_groups
    (length : Option Nat)
    (entity : Entity) :
    IsStablePartition (fun field => field.constraint.uniqueGroup) entity.stored
        entity.uniqueGroups ∧
      IsStablePartition
        (fun field => field.constraint.reference.bind fun _ => field.constraint.foreignKeyGroup)
        entity.stored entity.foreignKeyGroups ∧
      IsStablePartition (fun field => field.constraint.indexName) entity.stored
        (entity.indexes.map (·.group)) ∧
      (∀ group ∈ entity.uniqueGroups ++ entity.foreignKeyGroups,
        (group.isRendered ↔ 2 ≤ group.members.length) ∧
          (¬ group.isRendered ↔ group.members.length = 1)) ∧
      (∀ index ∈ entity.indexes,
        index.isUnique ↔ ∃ first ∈ index.members.head?, first.constraint.indexIsUnique) ∧
      (∀ constraint ∈ (Table.ofEntity length entity).constraints,
        constraint.columns ⊆ (Table.ofEntity length entity).columns.map (·.name)) ∧
      ∀ index ∈ entity.indexes,
        index.members.map (·.column) ⊆ (Table.ofEntity length entity).columns.map (·.name) := by
  have foreign_key : Field.foreignKeyGroup? = fun field =>
      field.constraint.reference.bind fun _ => field.constraint.foreignKeyGroup := by
    funext field
    rw [Field.foreignKeyGroup?, Constraint.hasForeignKey]
    cases field.constraint.reference <;> rfl
  rw [← foreign_key, map_group_indexes, Table.map_name_columns]
  refine ⟨(isPartition_collect _ _).isStablePartition, (isPartition_collect _ _).isStablePartition,
    (isPartition_collect _ _).isStablePartition, fun group found => ⟨?_, group.not_isRendered_iff⟩,
    fun index found => isUnique_iff_of_mem_indexes found,
    fun constraint member => columns_subset_of_mem_constraints member, fun index found => ?_⟩
  · rcases List.mem_append.mp found with unique | foreign
    · exact FieldGroup.isRendered_iff unique
    · exact FieldGroup.isRendered_iff foreign
  · have group_found : index.group ∈ collect Field.index? entity.stored := by
      rw [← map_group_indexes]
      exact List.mem_map_of_mem found
    exact map_column_members_subset group_found

end Entity
end Tablewright
