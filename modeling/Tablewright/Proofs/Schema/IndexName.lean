import Tablewright.Proofs.Contract.Acceptance
import Tablewright.Proofs.Entity.Group
import Tablewright.Proofs.Entity.Valid
import Tablewright.Schema.Basic

/-!
# Names of indexes

An index without a name of its own is named after its column.  The tag that asks for it knows no
table, so the name is the same wherever a column of that name is indexed: within one table such
names differ, and over a schema they differ exactly if no two tables have an index on columns of one
name.
-/

namespace Tablewright

/-! ## Tags that leave their indexes unnamed -/

/-- Whether a token gives an index a name of its own. -/
def Tag.Token.namesIndex : Token → Bool
  | .index _ name => name.isSome
  | _ => false

/-- A tag gives no index a name of its own. -/
def Tag.LeavesUnnamed (tag : String) : Prop :=
  ∀ token ∈ read tag, !token.namesIndex

namespace Constraint

variable {column : String}

theorem defaultIndexName_injective : Function.Injective defaultIndexName := by
  intro one other same
  unfold defaultIndexName at same
  rwa [← String.toList_inj, String.toList_append, String.toList_append, List.append_cancel_right_eq,
    String.toList_inj] at same

theorem defaultIndexName_ne (column : String) : defaultIndexName column ≠ "" := by
  unfold defaultIndexName
  simp

/-- A constraint names no index, or the default one of its column. -/
def IndexesByDefault
    (constraint : Constraint)
    (column : String) : Prop :=
  ∀ name, constraint.indexName = some name → name = defaultIndexName column

/-- A token that names no index keeps indexes under the default name. -/
theorem IndexesByDefault.apply
    {constraint : Constraint}
    (by_default : constraint.IndexesByDefault column)
    {token : Tag.Token}
    (unnamed : !token.namesIndex) :
    (constraint.apply column token).IndexesByDefault column := by
  cases token with
  | index isUnique own =>
    cases own with
    | none =>
      intro name named
      exact (Option.some.inj named).symm
    | some own => cases unnamed
  | _ => exact by_default

theorem indexesByDefault_ofTag
    {tag : String}
    (unnamed : Tag.LeavesUnnamed tag) :
    (ofTag tag column).IndexesByDefault column := by
  have from_here (tokens : List Tag.Token) (constraint : Constraint)
      (by_default : constraint.IndexesByDefault column)
      (unnamed : ∀ token ∈ tokens, !token.namesIndex) :
      (tokens.foldl (Constraint.apply column) constraint).IndexesByDefault column := by
    induction tokens generalizing constraint with
    | nil => exact by_default
    | cons token tokens ih =>
      obtain ⟨here, later⟩ := List.forall_mem_cons.mp unnamed
      exact ih (constraint.apply column token) (by_default.apply here) later
  exact from_here (Tag.read tag) {} nofun unnamed

end Constraint

instance (tag : String) : Decidable (Tag.LeavesUnnamed tag) :=
  List.decidableBAll (fun token : Tag.Token => !token.namesIndex) (Tag.read tag)

/-- A declared record gives no index a name of its own. -/
def RecordDecl.LeavesUnnamed (decl : RecordDecl) : Prop :=
  ∀ field ∈ decl.fields, Tag.LeavesUnnamed field.tag

instance (decl : RecordDecl) : Decidable decl.LeavesUnnamed :=
  List.decidableBAll (fun field : FieldDecl => Tag.LeavesUnnamed field.tag) decl.fields

namespace Entity

variable {entity : Entity} {decl : RecordDecl}

/-- Every index of an entity is named after the columns that belong to it. -/
def NamesByColumn (entity : Entity) : Prop :=
  ∀ field ∈ entity.stored, field.constraint.IndexesByDefault field.column

theorem namesByColumn_of_ofDecl
    (built : ofDecl decl = .ok entity)
    (unnamed : decl.LeavesUnnamed) :
    entity.NamesByColumn := by
  intro field member
  rw [eq_of_ofDecl built] at member
  obtain ⟨declared, found, rfl⟩ := List.mem_map.mp (List.mem_of_mem_filter member)
  have of_tag : (Constraint.ofTag declared.tag (Text.snakeCase declared.name)).IndexesByDefault
      (Text.snakeCase declared.name) :=
    Constraint.indexesByDefault_ofTag (unnamed declared found)
  dsimp only [Field.column, Field.ofDecl, Field.ofTag]
  exact of_tag

/-- Columns that belong to an index. -/
def indexedColumns (entity : Entity) : List String :=
  (entity.stored.filter (·.constraint.indexName.isSome)).map (·.column)

theorem mem_indexedColumns_iff {column : String} :
    column ∈ entity.indexedColumns ↔
      ∃ field ∈ entity.stored, field.constraint.indexName.isSome ∧ field.column = column := by
  simp only [indexedColumns, List.mem_map, List.mem_filter, and_assoc]

/-- An index has its name from a column that belongs to it, as all its members do. -/
theorem exists_column_of_mem_indexes
    (by_column : entity.NamesByColumn)
    {index : Index}
    (found : index ∈ entity.indexes) :
    ∃ column ∈ entity.indexedColumns, index.name = Constraint.defaultIndexName column ∧
      ∀ field ∈ index.members, field.column = column := by
  obtain ⟨group, group_found, rfl⟩ := List.mem_map.mp found
  obtain ⟨-, ⟨field, member, named⟩, -⟩ := FieldGroup.mem_collect_iff.mp group_found
  have name_eq : group.name = Constraint.defaultIndexName field.column :=
    by_column field member group.name named
  refine ⟨field.column, ?_, name_eq, ?_⟩
  · exact mem_indexedColumns_iff.mpr ⟨field, member, Option.isSome_of_mem named, rfl⟩
  · intro other other_member
    obtain ⟨other_stored, other_named⟩ := (FieldGroup.mem_members_iff group_found).mp other_member
    apply Constraint.defaultIndexName_injective
    rw [← name_eq]
    exact (by_column other other_stored group.name other_named).symm

/-- The indexes of an entity have the default names of the columns that belong to them. -/
theorem mem_names_indexes_iff
    (by_column : entity.NamesByColumn)
    {name : String} :
    name ∈ entity.indexes.map (·.name) ↔
      ∃ column ∈ entity.indexedColumns, Constraint.defaultIndexName column = name := by
  constructor
  · intro found
    obtain ⟨index, index_found, rfl⟩ := List.mem_map.mp found
    obtain ⟨column, indexed, name_eq, -⟩ := exists_column_of_mem_indexes by_column index_found
    exact ⟨column, indexed, name_eq.symm⟩
  · rintro ⟨column, indexed, rfl⟩
    obtain ⟨field, member, named, rfl⟩ := mem_indexedColumns_iff.mp indexed
    obtain ⟨name, name_eq⟩ := Option.isSome_iff_exists.mp named
    have default_name := by_column field member name name_eq
    have group_found :
        { name, members := entity.stored.filter fun other => other.index? = some name } ∈
          FieldGroup.collect Field.index? entity.stored := by
      rw [FieldGroup.mem_collect_iff]
      refine ⟨?_, ⟨field, member, name_eq⟩, rfl⟩
      exact default_name ▸ Constraint.defaultIndexName_ne field.column
    rw [indexes, List.map_map, ← default_name]
    exact List.mem_map_of_mem group_found

/-- Two entities share no index name exactly if they share no column that belongs to an index. -/
theorem disjoint_names_indexes_iff
    {one other : Entity}
    (by_column : one.NamesByColumn)
    (other_by_column : other.NamesByColumn) :
    (one.indexes.map (·.name)).Disjoint (other.indexes.map (·.name)) ↔
      one.indexedColumns.Disjoint other.indexedColumns := by
  rw [List.disjoint_left, List.disjoint_left]
  constructor
  · intro names_apart column here there
    exact names_apart ((mem_names_indexes_iff by_column).mpr ⟨column, here, rfl⟩)
      ((mem_names_indexes_iff other_by_column).mpr ⟨column, there, rfl⟩)
  · intro columns_apart name here there
    obtain ⟨column, indexed, rfl⟩ := (mem_names_indexes_iff by_column).mp here
    obtain ⟨same, other_indexed, name_eq⟩ := (mem_names_indexes_iff other_by_column).mp there
    rw [Constraint.defaultIndexName_injective name_eq] at other_indexed
    exact columns_apart indexed other_indexed

/-- No two indexes of an entity share a name. -/
theorem nodup_names_indexes (entity : Entity) : (entity.indexes.map (·.name)).Nodup := by
  rw [indexes, List.map_map]
  exact FieldGroup.nodup_names_collect Field.index? entity.stored

end Entity

namespace Schema

/-! ## Statements of a schema -/

/-- What a statement of a schema defines. -/
inductive Definition where
  /-- The table of an entity. -/
  | table (entity : Entity)
  /-- An index of the table of an entity. -/
  | index (entity : Entity) (index : Index)

namespace Definition

/-- The statement as text. -/
def text (settings : SchemaSettings) : Definition → String
  | .table entity => (Table.ofEntity settings.stringLength entity).text settings.ifNotExists
  | .index entity defined => indexText settings entity defined

/-- Name of the index that is defined. -/
def indexName? : Definition → Option String
  | .table _ => none
  | .index _ defined => some defined.name

/-- The definitions for an entity, in order. -/
def ofEntity (entity : Entity) : List Definition :=
  table entity :: entity.indexes.map (index entity)

end Definition

/-- A schema is the text of its definitions, with an empty line after those of an entity. -/
theorem text_eq_join_definitions
    (settings : SchemaSettings)
    (entities : List Entity) :
    text settings entities =
      String.join (entities.map fun entity =>
        String.join ((Definition.ofEntity entity).map (Definition.text settings)) ++ "\n") := by
  refine congrArg String.join (List.map_congr_left fun entity _ => ?_)
  rw [block, Definition.ofEntity, List.map_cons, List.map_map, String.join_cons]
  rfl

/-- Names of the indexes that a schema defines, in order. -/
def indexNames (entities : List Entity) : List String :=
  (entities.flatMap Definition.ofEntity).filterMap Definition.indexName?

theorem indexNames_eq_flatMap (entities : List Entity) :
    indexNames entities = entities.flatMap fun entity => entity.indexes.map (·.name) := by
  rw [indexNames, List.filterMap_flatMap]
  refine congrArg (List.flatMap · entities) (funext fun entity => ?_)
  rw [Definition.ofEntity, List.filterMap_cons_none rfl, List.filterMap_map]
  exact congrFun (List.filterMap_eq_map (f := Index.name)) entity.indexes

/-! ## Names over a schema -/

/-- A schema is made of definitions.  Without names of their own, the indexes among them are named
after their columns; the names differ within one table, and over the schema they differ exactly if
no two tables have indexes on columns of one name. -/
theorem nodup_indexNames_iff
    {records : List RecordDecl}
    {entities : List Entity}
    (built : records.mapM Entity.ofDecl = .ok entities)
    (unnamed : ∀ record ∈ records, record.LeavesUnnamed) :
    (∀ settings, text settings entities =
        String.join (entities.map fun entity =>
          String.join ((Definition.ofEntity entity).map (Definition.text settings)) ++ "\n")) ∧
      (∀ entity ∈ entities, ∀ index ∈ entity.indexes, ∃ column ∈ entity.indexedColumns,
        index.name = Constraint.defaultIndexName column ∧
          ∀ field ∈ index.members, field.column = column) ∧
      (∀ entity ∈ entities, (indexNames [entity]).Nodup) ∧
      ((indexNames entities).Nodup ↔
        entities.Pairwise fun one other =>
          one.indexedColumns.Disjoint other.indexedColumns) := by
  have by_column : ∀ entity ∈ entities, entity.NamesByColumn := by
    intro entity member
    obtain ⟨record, found, accepted⟩ := exists_of_mem_of_mapM_eq_ok built member
    exact Entity.namesByColumn_of_ofDecl accepted (unnamed record found)
  refine ⟨fun settings => text_eq_join_definitions settings entities, ?_, ?_, ?_⟩
  · intro entity member index found
    exact Entity.exists_column_of_mem_indexes (by_column entity member) found
  · intro entity _
    rw [indexNames_eq_flatMap, List.flatMap_singleton]
    exact entity.nodup_names_indexes
  · have each : ∀ entity ∈ entities, (entity.indexes.map (·.name)).Nodup :=
      fun entity _ => entity.nodup_names_indexes
    rw [indexNames_eq_flatMap, List.nodup_flatMap, and_iff_right each]
    refine List.Pairwise.iff_of_mem ?_
    intro one other one_member other_member
    exact Entity.disjoint_names_indexes_iff (by_column one one_member)
      (by_column other other_member)

/-- Users found by their address, and invoices by their number. -/
def billing : List RecordDecl :=
  [{ name := "User", fields := [⟨"Email", "String", "index"⟩] },
    { name := "Invoice", fields := [⟨"Number", "i64", "unique_index"⟩] }]

/-- The columns are named apart, and so are their indexes. -/
theorem nodup_indexNames_iff_billing :
    ∃ entities, billing.mapM Entity.ofDecl = .ok entities ∧
      (∀ record ∈ billing, record.LeavesUnnamed) ∧
      indexNames entities = ["email_idx", "number_idx"] ∧
      ((indexNames entities).Nodup ↔
        entities.Pairwise fun one other =>
          one.indexedColumns.Disjoint other.indexedColumns) := by
  have unnamed : ∀ record ∈ billing, record.LeavesUnnamed := by decide +kernel
  refine ⟨_, rfl, unnamed, by decide +kernel, ?_⟩
  refine (nodup_indexNames_iff ?_ unnamed).2.2.2
  rfl

/-- Users and accounts, both found by their address. -/
def contacts : List RecordDecl :=
  [{ name := "User", fields := [⟨"Email", "String", "index"⟩] },
    { name := "Account", fields := [⟨"Email", "String", "index"⟩] }]

/-- Two tables with distinct columns ask for one index of the same name each. -/
theorem not_nodup_indexNames_contacts :
    ∃ entities, contacts.mapM Entity.ofDecl = .ok entities ∧
      (∀ record ∈ contacts, record.LeavesUnnamed) ∧
      (entities.map (·.bareTable)).Nodup ∧ (∀ entity ∈ entities, entity.columns.Nodup) ∧
      indexNames entities = ["email_idx", "email_idx"] ∧ ¬ (indexNames entities).Nodup :=
  ⟨_, rfl, by decide +kernel, by decide +kernel, by decide +kernel, by decide +kernel,
    by decide +kernel⟩

end Schema
end Tablewright
