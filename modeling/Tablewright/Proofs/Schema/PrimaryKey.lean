import Tablewright.Proofs.Entity.Valid
import Tablewright.Proofs.Schema.Clause
import Tablewright.Proofs.Schema.WholeNumber

/-!
# Primary keys of tables

What the definition of a table says about its key: which columns it calls the key, which it leaves
to the database, and which constraint stands behind the columns.
-/

namespace Tablewright

namespace Schema

/-- The key that a constraint over several columns declares. -/
def TableConstraint.key? : TableConstraint → Option (List String)
  | .primaryKey columns => some columns
  | .unique _ _ | .foreignKey _ _ _ _ _ => none

namespace Table

/-- Columns that are called the key in their definitions, each as often as it is. -/
def inlineKeys (table : Table) : List String :=
  table.columns.flatMap fun column =>
    List.replicate (column.clauses.count Column.keyClause) column.name

/-- Keys that stand behind the columns. -/
def trailingKeys (table : Table) : List (List String) :=
  table.constraints.filterMap TableConstraint.key?

/-- A table declares a key exactly once: with its column if it has one, else behind all columns. -/
inductive DeclaresKey (table : Table) : List String → Prop where
  /-- A single column is called the key. -/
  | inline
      {column : String}
      (inline_eq : table.inlineKeys = [column])
      (trailing_eq : table.trailingKeys = []) :
      DeclaresKey table [column]
  /-- One constraint lists the columns. -/
  | trailing
      {key : List String}
      (several : 1 < key.length)
      (inline_eq : table.inlineKeys = [])
      (trailing_eq : table.trailingKeys = [key]) :
      DeclaresKey table key

theorem inlineKeys_eq (table : Table) :
    table.inlineKeys = (table.columns.filter (·.isKey)).map (·.name) := by
  unfold inlineKeys
  induction table.columns with
  | nil => rfl
  | cons column columns ih =>
    rw [List.flatMap_cons, ih, Column.count_keyClause, List.filter_cons]
    cases column.isKey <;> rfl

end Table

end Schema

namespace Entity

open Schema (Column Table TableConstraint)

variable {entity : Entity}

/-! ## Keys -/

/-- Columns that are called the key store the only field of the key. -/
theorem inlineKeys_ofEntity
    (length : Option Nat)
    (entity : Entity) :
    (Table.ofEntity length entity).inlineKeys =
      if entity.hasCompositeKey then [] else entity.primaryKey.map (·.column) := by
  rw [Table.inlineKeys_eq, Table.ofEntity, List.filter_map, List.map_map]
  cases composite : entity.hasCompositeKey with
  | true =>
    have no_field : entity.stored.filter ((·.isKey) ∘ Column.ofField length entity) = [] := by
      rw [List.filter_eq_nil_iff]
      intro field _
      simp [Column.ofField, Column.ofFieldBy, composite]
    rw [no_field]
    rfl
  | false =>
    have key_fields : entity.stored.filter ((·.isKey) ∘ Column.ofField length entity) =
        entity.primaryKey := by
      apply List.filter_congr
      intro field _
      simp [Column.ofField, Column.ofFieldBy, composite]
    rw [key_fields]
    rfl

/-- The only key that stands behind the columns is one of several columns. -/
theorem trailingKeys_ofEntity
    (length : Option Nat)
    (entity : Entity) :
    (Table.ofEntity length entity).trailingKeys =
      if entity.hasCompositeKey then [entity.primaryKey.map (·.column)] else [] := by
  rw [Table.trailingKeys, Table.ofEntity, TableConstraint.filterMap_ofEntity]
  simp only [TableConstraint.key?, TableConstraint.ofForeignKeyGroup, Option.toList_some,
    List.filterMap_none, List.append_nil]

/-- The table of an entity declares the key of the entity, if there is one. -/
theorem declaresKey_ofEntity
    (declared : entity.primaryKey ≠ [])
    (length : Option Nat) :
    (Table.ofEntity length entity).DeclaresKey (entity.primaryKey.map (·.column)) := by
  have inline_eq := inlineKeys_ofEntity length entity
  have trailing_eq := trailingKeys_ofEntity length entity
  cases composite : entity.hasCompositeKey with
  | true =>
    rw [composite, if_pos rfl] at inline_eq trailing_eq
    refine .trailing ?_ inline_eq trailing_eq
    rw [List.length_map]
    exact of_decide_eq_true composite
  | false =>
    rw [composite, if_neg Bool.false_ne_true] at inline_eq trailing_eq
    have at_most_one : entity.primaryKey.length ≤ 1 :=
      Nat.le_of_not_lt (of_decide_eq_false composite)
    obtain ⟨field, key_eq⟩ : ∃ field, entity.primaryKey = [field] :=
      List.length_eq_one_iff.mp
        (Nat.le_antisymm at_most_one (List.length_pos_iff.mpr declared))
    rw [key_eq] at inline_eq ⊢
    exact .inline inline_eq trailing_eq

/-! ## Identity columns -/

/-- The field that the database fills in is the whole key. -/
theorem primaryKey_of_identity?
    {field : Field}
    (identity : entity.identity? = some field) :
    entity.primaryKey = [field] ∧ isIntegerType field.type ∧
      field.constraint.default = none := by
  unfold identity? identityBy? at identity
  split at identity
  · next only key_eq =>
    split at identity
    · next fits =>
      rw [Bool.and_eq_true, Option.isNone_iff_eq_none] at fits
      obtain rfl := Option.some.inj identity
      exact ⟨key_eq, fits⟩
    · cases identity
  · cases identity

theorem isGenerated_ofField
    (length : Option Nat)
    (entity : Entity)
    (field : Field) :
    (Column.ofField length entity field).isGenerated =
      (field.isPrimary && entity.identity?.isSome) :=
  Column.isGenerated_eq _

/-- The columns that the database fills in: the one of the identity field, if there is one. -/
theorem filter_isGenerated_columns
    (length : Option Nat)
    (entity : Entity) :
    (Table.ofEntity length entity).columns.filter (·.isGenerated) =
      entity.identity?.toList.map (Column.ofField length entity) := by
  have generated : (·.isGenerated) ∘ Column.ofField length entity =
      fun field => field.isPrimary && entity.identity?.isSome := by
    funext field
    exact isGenerated_ofField length entity field
  rw [Table.ofEntity, List.filter_map, generated]
  cases identity : entity.identity? with
  | none =>
    have no_field : entity.stored.filter (fun field => field.isPrimary && false) = [] := by
      simp
    exact congrArg (List.map _) no_field
  | some field =>
    have key_eq := (primaryKey_of_identity? identity).1
    have only_field : entity.stored.filter (fun field => field.isPrimary && true) = [field] := by
      rw [← key_eq]
      simp [primaryKey]
    exact congrArg (List.map _) only_field

/-- The column that the database fills in is the whole key, holds one whole number that is always
there, and has no default. -/
theorem of_isGenerated
    {length : Option Nat}
    {column : Column}
    (member : column ∈ (Table.ofEntity length entity).columns)
    (generated : column.isGenerated) :
    entity.primaryKey.map (Column.ofField length entity) = [column] ∧
      column.type.nullable = false ∧ column.type.spelling ∈ ColumnType.integerNames ∧
      column.default = none := by
  have found : column ∈ entity.identity?.toList.map (Column.ofField length entity) := by
    rw [← filter_isGenerated_columns]
    exact List.mem_filter.mpr ⟨member, generated⟩
  obtain ⟨field, identity, rfl⟩ := List.mem_map.mp found
  obtain ⟨key_eq, integer, no_default⟩ :=
    primaryKey_of_identity? (Option.mem_toList.mp identity)
  rw [ColumnType.isIntegerType_eq length, Bool.and_eq_true, Bool.not_eq_true'] at integer
  exact ⟨by rw [key_eq]; rfl, integer.2, ColumnType.spelling_mem_of_isInteger integer.1, no_default⟩

/-- A stored field of a valid entity is filled in by the database exactly if it has the name of the
identity field. -/
theorem isGenerated_ofField_iff
    (valid : entity.defect? = none)
    {length : Option Nat}
    {field : Field}
    (member : field ∈ entity.stored) :
    (Column.ofField length entity field).isGenerated ↔
      some field.name = entity.identity?.map (·.name) := by
  rw [isGenerated_ofField]
  cases identity : entity.identity? with
  | none => simp
  | some key =>
    have key_eq := (primaryKey_of_identity? identity).1
    have key_member : key ∈ entity.primaryKey := key_eq ▸ List.mem_singleton_self key
    rw [Option.isSome_some, Bool.and_true, Option.map_some, Option.some_inj]
    constructor
    · intro primary
      have found : field ∈ entity.primaryKey := List.mem_filter.mpr ⟨member, primary⟩
      rw [key_eq, List.mem_singleton] at found
      rw [found]
    · intro same_name
      have same : field = key :=
        List.inj_on_of_nodup_map (nodup_stored_names_of_valid valid) member
          (List.mem_of_mem_filter key_member) same_name
      rw [same]
      exact List.of_mem_filter key_member

end Entity

end Tablewright
