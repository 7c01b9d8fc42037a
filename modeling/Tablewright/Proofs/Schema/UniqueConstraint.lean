import Tablewright.Proofs.Entity.Group
import Tablewright.Proofs.Schema.Clause

/-!
# Unique constraints of tables

An entity lists its unique constraints in the order in which they first appear among its fields.
Its table states those of single fields with their columns and those of groups behind all columns,
and it states no other.
-/

namespace Tablewright

open Schema (Column Table TableConstraint)

/-! ## Constraints as they are stated -/

/-- Name and columns of a unique constraint. -/
def UniqueConstraint.stated (constraint : UniqueConstraint) : String × List String :=
  (constraint.name, constraint.members.map (·.column))

/-- Name and columns of the constraint that a column states. -/
def Schema.Column.unique (column : Column) : String × List String :=
  (column.name, [column.name])

/-- Name and columns of the unique constraint that a constraint over several columns is. -/
def Schema.TableConstraint.unique? : TableConstraint → Option (String × List String)
  | .unique name columns => some (name, columns)
  | .primaryKey _ | .foreignKey _ _ _ _ _ => none

/-- Unique constraints that columns state, in order. -/
def Schema.Table.inlineUniques (table : Table) : List (String × List String) :=
  (table.columns.filter (·.isDeclaredUnique)).map (·.unique)

/-- Unique constraints that stand behind the columns, in order. -/
def Schema.Table.trailingUniques (table : Table) : List (String × List String) :=
  table.constraints.filterMap TableConstraint.unique?

/-- Whether a field is unique by itself. -/
def Field.isUniqueAlone (field : Field) : Bool :=
  field.constraint.isUnique && field.uniqueGroup?.isNone

/-- The unique constraint of a single field. -/
def UniqueConstraint.ofField (field : Field) : UniqueConstraint :=
  { name := field.column, members := [field], isGrouped := false }

/-- The unique constraint of a group. -/
def UniqueConstraint.ofGroup (group : FieldGroup) : UniqueConstraint :=
  { name := group.name, members := group.members, isGrouped := true }

namespace Entity

variable {entity : Entity}

/-! ## Constraints of entities -/

/-- The constraints of single fields come in the order of the fields. -/
theorem filter_not_isGrouped_uniqueConstraints (entity : Entity) :
    entity.uniqueConstraints.filter (!·.isGrouped) =
      (entity.stored.filter (·.isUniqueAlone)).map UniqueConstraint.ofField := by
  rw [uniqueConstraints, List.filter_filterMap, ← List.filterMap_eq_map, List.filterMap_filter]
  refine filterMap_withEarlier fun earlier field rest _ => ?_
  rw [Field.isUniqueAlone]
  cases group_eq : field.uniqueGroup? with
  | none =>
    simp only [group_eq, Option.isNone_none, Bool.and_true]
    split <;> rfl
  | some name =>
    simp only [group_eq, Option.isNone_some, Bool.and_false]
    split
    · split <;> rfl
    · rfl

/-- The constraints of groups come in the order of the groups. -/
theorem filter_isGrouped_uniqueConstraints (entity : Entity) :
    entity.uniqueConstraints.filter (·.isGrouped) =
      (entity.uniqueGroups.filter (·.isRendered)).map UniqueConstraint.ofGroup := by
  rw [uniqueGroups, ← filterMap_rendered?_withEarlier, List.map_filterMap, uniqueConstraints,
    List.filter_filterMap]
  refine List.filterMap_congr ?_
  rintro ⟨earlier, field⟩ -
  cases group_eq : field.uniqueGroup? with
  | none =>
    simp only [group_eq, Option.bind_none, Option.map_none]
    split <;> rfl
  | some name =>
    simp only [group_eq, Option.bind_some, uniqueGroups]
    cases rendered_eq : rendered? (FieldGroup.collect Field.uniqueGroup? entity.stored) name with
    | none => simp only [ite_self, Option.filter_none, Option.map_none]
    | some group =>
      obtain ⟨-, rfl, -⟩ := rendered?_eq_some_iff.mp rendered_eq
      dsimp only
      split <;> rfl

theorem mem_uniqueConstraints_iff {constraint : UniqueConstraint} :
    constraint ∈ entity.uniqueConstraints ↔
      (∃ field ∈ entity.stored, field.isUniqueAlone ∧ UniqueConstraint.ofField field = constraint) ∨
        ∃ group ∈ entity.uniqueGroups, group.isRendered ∧
          UniqueConstraint.ofGroup group = constraint := by
  have of_single : constraint ∈ entity.uniqueConstraints.filter (!·.isGrouped) ↔
      ∃ field ∈ entity.stored, field.isUniqueAlone ∧
        UniqueConstraint.ofField field = constraint := by
    rw [filter_not_isGrouped_uniqueConstraints]
    simp only [List.mem_map, List.mem_filter, and_assoc]
  have of_group : constraint ∈ entity.uniqueConstraints.filter (·.isGrouped) ↔
      ∃ group ∈ entity.uniqueGroups, group.isRendered ∧
        UniqueConstraint.ofGroup group = constraint := by
    rw [filter_isGrouped_uniqueConstraints]
    simp only [List.mem_map, List.mem_filter, and_assoc]
  rw [← of_single, ← of_group, List.mem_filter, List.mem_filter, ← and_or_left]
  cases constraint.isGrouped <;> simp

/-! ## Constraints of tables -/

theorem isDeclaredUnique_ofField
    (length : Option Nat)
    (entity : Entity)
    (field : Field) :
    (Column.ofField length entity field).isDeclaredUnique = field.isUniqueAlone :=
  Column.isDeclaredUnique_eq _

/-- Columns state the constraints of single fields. -/
theorem inlineUniques_ofEntity
    (length : Option Nat)
    (entity : Entity) :
    (Table.ofEntity length entity).inlineUniques =
      (entity.uniqueConstraints.filter (!·.isGrouped)).map (·.stated) := by
  have single : (·.isDeclaredUnique) ∘ Column.ofField length entity = (·.isUniqueAlone) := by
    funext field
    exact isDeclaredUnique_ofField length entity field
  rw [Table.inlineUniques, Table.ofEntity, List.filter_map, single,
    filter_not_isGrouped_uniqueConstraints, List.map_map, List.map_map]
  rfl

/-- Behind the columns stand the constraints of groups. -/
theorem trailingUniques_ofEntity
    (length : Option Nat)
    (entity : Entity) :
    (Table.ofEntity length entity).trailingUniques =
      (entity.uniqueConstraints.filter (·.isGrouped)).map (·.stated) := by
  rw [Table.trailingUniques, Table.ofEntity, TableConstraint.filterMap_ofEntity,
    filter_isGrouped_uniqueConstraints, List.map_map]
  simp only [TableConstraint.unique?, TableConstraint.ofForeignKeyGroup, ite_self,
    Option.toList_none, List.filterMap_none, List.nil_append, List.append_nil]
  exact List.filterMap_eq_map_iff_forall_eq_some.mpr fun _ _ => rfl

/-! ## Single members -/

section

variable {group : FieldGroup} {field : Field}

theorem not_isRendered_of_single (single : group.members = [field]) : ¬ group.isRendered := by
  simp [FieldGroup.isRendered, single]

/-- No rendered group has the name of a group with a single member. -/
theorem name_ne_of_single
    (found : group ∈ entity.uniqueGroups)
    (single : group.members = [field])
    {other : FieldGroup}
    (other_found : other ∈ entity.uniqueGroups)
    (rendered : other.isRendered) :
    other.name ≠ group.name := by
  intro same_name
  have names := FieldGroup.nodup_names_collect Field.uniqueGroup? entity.stored
  have same := List.inj_on_of_nodup_map names other_found found same_name
  exact not_isRendered_of_single single (same ▸ rendered)

theorem uniqueGroup?_of_single
    (found : group ∈ entity.uniqueGroups)
    (single : group.members = [field]) :
    field.uniqueGroup? = some group.name := by
  refine ((FieldGroup.mem_members_iff found).mp ?_).2
  rw [single]
  exact List.mem_singleton_self field

/-- The only member of a group is in no unique constraint. -/
theorem notMem_members_of_single
    (found : group ∈ entity.uniqueGroups)
    (single : group.members = [field])
    {constraint : UniqueConstraint}
    (member : constraint ∈ entity.uniqueConstraints) :
    field ∉ constraint.members := by
  have named := uniqueGroup?_of_single found single
  intro belongs
  rcases mem_uniqueConstraints_iff.mp member with ⟨other, -, alone, rfl⟩ |
    ⟨other, other_found, rendered, rfl⟩
  · rw [← List.mem_singleton.mp belongs, Field.isUniqueAlone, named] at alone
    simp at alone
  · have other_named := ((FieldGroup.mem_members_iff other_found).mp belongs).2
    rw [named] at other_named
    exact name_ne_of_single found single other_found rendered (Option.some.inj other_named).symm

end

/-- The table of an entity states the unique constraints of the entity and no others, in their
order: those of single fields with their columns, and those of groups behind the columns, under the
same names and over the same columns.  A group with a single member is stated nowhere, and its
member is in no constraint. -/
theorem uniqueConstraints_stated
    (length : Option Nat)
    (entity : Entity) :
    (entity.uniqueConstraints.filter (!·.isGrouped)).map (·.stated) =
        (Table.ofEntity length entity).inlineUniques ∧
      (entity.uniqueConstraints.filter (·.isGrouped)).map (·.stated) =
        (Table.ofEntity length entity).trailingUniques ∧
      ∀ group ∈ entity.uniqueGroups, ∀ field, group.members = [field] →
        (Column.ofField length entity field).isDeclaredUnique = false ∧
          group.name ∉ (Table.ofEntity length entity).trailingUniques.map (·.1) ∧
          ∀ constraint ∈ entity.uniqueConstraints, field ∉ constraint.members := by
  refine ⟨(inlineUniques_ofEntity length entity).symm,
    (trailingUniques_ofEntity length entity).symm, fun group found field single => ⟨?_, ?_, ?_⟩⟩
  · rw [isDeclaredUnique_ofField, Field.isUniqueAlone, uniqueGroup?_of_single found single]
    exact Bool.and_false _
  · rw [trailingUniques_ofEntity, filter_isGrouped_uniqueConstraints, List.map_map, List.map_map]
    intro stated
    obtain ⟨other, other_found, same_name⟩ := List.mem_map.mp stated
    obtain ⟨other_found, rendered⟩ := List.mem_filter.mp other_found
    exact name_ne_of_single found single other_found rendered same_name
  · exact fun constraint member => notMem_members_of_single found single member

end Entity

/-! ## Accounts with all kinds of unique fields -/

/-- A record of accounts: one field is unique, two are so together, and one is alone in its
group. -/
def accounts : Entity :=
  { name := "Account"
    fields :=
      [{ name := "TenantID", type := "i64"
         constraint := { uniqueGroup := some "uq_tenant_user" } },
        { name := "Email", type := "String", constraint := { isUnique := true } },
        { name := "Username", type := "String"
          constraint := { isUnique := true, uniqueGroup := some "uq_tenant_user" } },
        { name := "Nickname", type := "String"
          constraint := { isUnique := true, uniqueGroup := some "uq_lonely" } }]
    tableOverride := none
    package := "" }

/-- The constraint of the group comes first, and stands last in the table. -/
theorem uniqueConstraints_stated_accounts :
    accounts.uniqueConstraints.map (·.stated) =
        [("uq_tenant_user", ["tenant_id", "username"]), ("email", ["email"])] ∧
      (Schema.Table.ofEntity none accounts).inlineUniques = [("email", ["email"])] ∧
      (Schema.Table.ofEntity none accounts).trailingUniques =
        [("uq_tenant_user", ["tenant_id", "username"])] ∧
      "uq_lonely" ∉ (Schema.Table.ofEntity none accounts).trailingUniques.map (·.1) := by
  obtain ⟨inline_eq, trailing_eq, of_single⟩ := Entity.uniqueConstraints_stated none accounts
  have lonely : FieldGroup.mk "uq_lonely" (accounts.stored.drop 3) ∈ accounts.uniqueGroups := by
    decide +kernel
  refine ⟨by decide +kernel, inline_eq ▸ by decide +kernel, trailing_eq ▸ by decide +kernel, ?_⟩
  exact (of_single _ lonely _ rfl).2.1

end Tablewright
