import Tablewright.Relation.Link
import Tablewright.Schema.Basic

/-!
# Outlines of entities

All that shows of an entity is its name, its table, its stored fields, and whether there are fields
that are not stored.  The outline of an entity keeps just that, and every view of the entity is the
view of its outline.
-/

namespace Tablewright

/-- A field that stands for those that are not stored. -/
def Field.blank : Field :=
  { name := "", type := "", constraint := {} }

namespace Entity

/-- What shows of an entity: one blank field stands for those that are not stored, if there are
any. -/
def outline (entity : Entity) : Entity :=
  { name := entity.name
    fields :=
      entity.stored ++ if entity.stored.length < entity.fields.length then [Field.blank] else []
    tableOverride := entity.tableOverride
    package := "" }

@[simp] theorem name_outline (entity : Entity) : entity.outline.name = entity.name := rfl

@[simp] theorem bareTable_outline (entity : Entity) :
    entity.outline.bareTable = entity.bareTable :=
  rfl

@[simp] theorem table_outline (entity : Entity) : entity.outline.table = entity.table := rfl

@[simp] theorem stored_outline (entity : Entity) : entity.outline.stored = entity.stored := by
  have kept : entity.stored.filter (·.isStored) = entity.stored :=
    List.filter_eq_self.mpr fun _ member => (List.mem_filter.mp member).2
  rw [stored, outline, List.filter_append, kept]
  split
  · exact List.append_nil _
  · exact List.append_nil _

/-- The outline has fields that are not stored if the entity has some. -/
@[simp] theorem length_stored_lt_outline (entity : Entity) :
    entity.stored.length < entity.outline.fields.length ↔
      entity.stored.length < entity.fields.length := by
  rw [outline]
  split
  · next more => simp [more]
  · next full => simp [full]

/-- Entities that show the same have one outline. -/
theorem outline_eq_outline
    {first second : Entity}
    (name : first.name = second.name)
    (table : first.tableOverride = second.tableOverride)
    (stored : first.stored = second.stored)
    (length : first.fields.length = second.fields.length) :
    first.outline = second.outline := by
  rw [outline, outline, name, table, stored, length]

/-! ## Views -/

@[simp] theorem columns_outline (entity : Entity) : entity.outline.columns = entity.columns := by
  rw [columns, columns, stored_outline]

@[simp] theorem primaryKey_outline (entity : Entity) :
    entity.outline.primaryKey = entity.primaryKey := by
  rw [primaryKey, primaryKey, stored_outline]

@[simp] theorem hasCompositeKey_outline (entity : Entity) :
    entity.outline.hasCompositeKey = entity.hasCompositeKey := by
  rw [hasCompositeKey, hasCompositeKey, primaryKey_outline]

@[simp] theorem keyColumns_outline (entity : Entity) :
    entity.outline.keyColumns = entity.keyColumns := by
  rw [keyColumns, keyColumns, primaryKey_outline]

@[simp] theorem keyFields_outline (entity : Entity) :
    entity.outline.keyFields = entity.keyFields := by
  rw [keyFields, keyFields, primaryKey_outline]

@[simp] theorem isKey_outline
    (entity : Entity)
    (field : Field) :
    entity.outline.isKey field = entity.isKey field := by
  rw [isKey, isKey, primaryKey_outline]

@[simp] theorem updatable_outline (entity : Entity) :
    entity.outline.updatable = entity.updatable := by
  simp only [updatable, stored_outline, isKey_outline]

@[simp] theorem identityBy?_outline
    (shape? : Code.ShapeReader)
    (entity : Entity) :
    entity.outline.identityBy? shape? = entity.identityBy? shape? := by
  rw [identityBy?, identityBy?, primaryKey_outline]

@[simp] theorem identity?_outline (entity : Entity) :
    entity.outline.identity? = entity.identity? :=
  identityBy?_outline Code.TypeExpr.shape? entity

@[simp] theorem uniqueGroups_outline (entity : Entity) :
    entity.outline.uniqueGroups = entity.uniqueGroups := by
  rw [uniqueGroups, uniqueGroups, stored_outline]

@[simp] theorem foreignKeyGroups_outline (entity : Entity) :
    entity.outline.foreignKeyGroups = entity.foreignKeyGroups := by
  rw [foreignKeyGroups, foreignKeyGroups, stored_outline]

@[simp] theorem indexes_outline (entity : Entity) : entity.outline.indexes = entity.indexes := by
  rw [indexes, indexes, stored_outline]

@[simp] theorem links_outline (entity : Entity) : entity.outline.links = entity.links := by
  simp only [links, foreignKeyGroups_outline, stored_outline]

end Entity

/-! ## Definitions of tables -/

namespace Schema

theorem ofField_outline
    (length : Option Nat)
    (entity : Entity) :
    Column.ofField length entity.outline = Column.ofField length entity := by
  funext field
  simp only [Column.ofField, Column.ofFieldBy, Entity.identityBy?_outline,
    Entity.hasCompositeKey_outline]

/-- The definitions of an entity are those of its outline. -/
theorem block_outline
    (settings : SchemaSettings)
    (entity : Entity) :
    block settings entity.outline = block settings entity := by
  have table : Table.ofEntity settings.stringLength entity.outline =
      Table.ofEntity settings.stringLength entity := by
    simp only [Table.ofEntity, TableConstraint.ofEntity, ofField_outline, Entity.table_outline,
      Entity.stored_outline, Entity.hasCompositeKey_outline, Entity.primaryKey_outline,
      Entity.uniqueGroups_outline, Entity.foreignKeyGroups_outline]
  have index : indexText settings entity.outline = indexText settings entity := rfl
  rw [block, block, table, index, Entity.indexes_outline]

theorem text_outline
    (settings : SchemaSettings)
    (entities : List Entity) :
    text settings (entities.map Entity.outline) = text settings entities := by
  rw [text, text, List.map_map]
  simp only [Function.comp_def, block_outline]

end Schema

end Tablewright
