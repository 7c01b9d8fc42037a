import Tablewright.Proofs.Schema.Wrapper

/-!
# Columns that may hold nothing

A column may hold nothing if the type of its field is optional.  The mark goes outwards through
references and vectors, so a vector of optional elements is marked as well: its column may hold
nothing, although the field always holds a vector.
-/

namespace Tablewright

/-! ## Optional types -/

namespace Code.Shape

/-- The type behind all references in front of a type. -/
def referent : Shape → Shape
  | reference target => target.referent
  | shape => shape

/-- Whether a type is optional, references in front of it aside. -/
def IsOptional (shape : Shape) : Prop :=
  ∃ value, shape.referent = .applied "Option" value

/-- The first type inside a type, itself included, that is neither reference nor vector. -/
def core : Shape → Shape
  | reference target => target.core
  | applied name argument => if name = "Vec" then argument.core else .applied name argument
  | shape => shape

/-- Whether a type is a vector, references in front of it aside, and its elements or those of the
vectors in it are optional. -/
def HasOptionalElements (shape : Shape) : Prop :=
  ∃ element, shape.referent = .applied "Vec" element ∧ element.core.IsOptional

@[simp] theorem isOptional_reference (target : Shape) :
    (reference target).IsOptional ↔ target.IsOptional :=
  Iff.rfl

@[simp] theorem isOptional_applied
    (name : String)
    (argument : Shape) :
    (applied name argument).IsOptional ↔ name = "Option" := by
  simp [IsOptional, referent]

@[simp] theorem hasOptionalElements_reference (target : Shape) :
    (reference target).HasOptionalElements ↔ target.HasOptionalElements :=
  Iff.rfl

@[simp] theorem hasOptionalElements_applied
    (name : String)
    (argument : Shape) :
    (applied name argument).HasOptionalElements ↔ name = "Vec" ∧ argument.core.IsOptional := by
  constructor
  · rintro ⟨element, vector, inside⟩
    cases vector
    exact ⟨rfl, inside⟩
  · rintro ⟨rfl, inside⟩
    exact ⟨argument, rfl, inside⟩

/-- An option inside references and vectors is around all vectors or inside one. -/
theorem isOptional_core_iff (shape : Shape) :
    shape.core.IsOptional ↔ shape.IsOptional ∨ shape.HasOptionalElements := by
  induction shape with
  | reference target ih => exact ih
  | applied name argument =>
    by_cases vector : name = "Vec"
    · simp [core, vector]
    · simp [core, vector]
  | named | slice | other => simp [core, IsOptional, HasOptionalElements, referent]

/-- A vector is not optional itself. -/
theorem HasOptionalElements.not_isOptional
    {shape : Shape}
    (inside : shape.HasOptionalElements) :
    ¬ shape.IsOptional := by
  obtain ⟨element, vector, -⟩ := inside
  rintro ⟨value, option⟩
  rw [vector] at option
  simp at option

end Code.Shape

namespace ColumnType

open Code (Shape)

/-- A byte is not optional. -/
theorem not_isOptional_core_of_isByte
    {shape : Shape}
    (byte : isByte shape) :
    ¬ shape.core.IsOptional := by
  cases shape with
  | named => simp [Shape.core, Shape.IsOptional, Shape.referent]
  | applied name argument =>
    have byte_name : name = "u8" := by simpa [isByte, Shape.lastName?] using byte
    simp [Shape.core, byte_name]
  | reference | slice | other => simp [isByte, Shape.lastName?] at byte

/-- The mark of an option goes outwards through references and vectors. -/
theorem nullable_ofShape_iff
    (length : Option Nat)
    (shape : Shape) :
    (ofShape length shape).nullable ↔ shape.core.IsOptional := by
  induction shape with
  | reference target ih => exact ih
  | applied name argument ih =>
    by_cases option : name = "Option"
    · simp [ofShape, Shape.core, option]
    by_cases vector : name = "Vec"
    · cases byte : isByte argument with
      | true => simp [ofShape, Shape.core, vector, byte, bytes, not_isOptional_core_of_isByte byte]
      | false => simp [ofShape, Shape.core, vector, byte, ih]
    · simp [ofShape, Shape.core, option, vector, nullable_ofName]
  | named name => simp [ofShape, Shape.core, Shape.IsOptional, Shape.referent, nullable_ofName]
  | slice element =>
    cases byte : isByte element <;>
      simp [ofShape, Shape.core, Shape.IsOptional, Shape.referent, byte, bytes, text]
  | other => simp [ofShape, Shape.core, Shape.IsOptional, Shape.referent, text]

end ColumnType

namespace Schema.Column

open Code.TypeExpr (shape?)
open ColumnType (ofText ofTextBy)

/-- However the shape of a type is told, the column of the type may hold nothing exactly if the type
is optional or a vector with optional elements; so it follows the type exactly if that is no such
vector.  A column is called the key if its field alone is the primary key, and otherwise lets no
value be missing unless its type does. -/
theorem nullable_iff_of_shape?
    {shape? : Code.ShapeReader}
    {text : String}
    {shape : Code.Shape}
    (told : shape? text = some shape)
    (length : Option Nat) :
    ((ofTextBy shape? length text).nullable ↔ shape.IsOptional ∨ shape.HasOptionalElements) ∧
    (((ofTextBy shape? length text).nullable ↔ shape.IsOptional) ↔
      ¬ shape.HasOptionalElements) ∧
    ∀ (entity : Entity) (field : Field), field.type = text →
      let clauses := (ofFieldBy shape? length entity field).clauses
      (keyClause ∈ clauses ↔ field.isPrimary ∧ ¬ entity.hasCompositeKey) ∧
      (notNullClause ∈ clauses ↔ keyClause ∉ clauses ∧
        ¬ shape.IsOptional ∧ ¬ shape.HasOptionalElements) := by
  have marked :
      (ofTextBy shape? length text).nullable ↔ shape.IsOptional ∨ shape.HasOptionalElements := by
    rw [ColumnType.ofTextBy_eq_ofShape told, ColumnType.nullable_ofShape_iff,
      Code.Shape.isOptional_core_iff]
  refine ⟨marked, ?_, fun entity field spelled => ⟨?_, ?_⟩⟩
  · rw [marked]
    constructor
    · exact fun same inside => inside.not_isOptional (same.mp (.inr inside))
    · exact fun outside => or_iff_left outside
  · rw [keyClause_mem_iff]
    simp [ofFieldBy]
  · have type_eq : (ofFieldBy shape? length entity field).type = ofTextBy shape? length text := by
      rw [ofFieldBy, spelled]
    rw [notNullClause_mem_iff, keyClause_mem_iff, type_eq, marked, not_or]

/-! ## Posts with tags -/

/-- A field for the scores of a post. -/
def scoresField : Field :=
  { name := "Scores", type := "&Option<Vec<i32>>", constraint := {} }

/-- A field for the tags of a post, each of which may be missing. -/
def tagsField : Field :=
  { name := "Tags", type := "Vec<Option<String>>", constraint := {} }

/-- A record of posts. -/
def posts : Entity :=
  { name := "Post", fields := [scoresField, tagsField], tableOverride := none, package := "" }

theorem shape?_posts :
    shape? scoresField.type =
        some (.reference (.applied "Option" (.applied "Vec" (.named "i32")))) ∧
      shape? tagsField.type = some (.applied "Vec" (.applied "Option" (.named "String"))) := by
  decide +kernel

/-- Scores may be missing altogether, and their column may hold nothing. -/
theorem nullable_iff_of_shape?_scoresField :
    (ofText none scoresField.type).nullable ∧
      notNullClause ∉ (ofField none posts scoresField).clauses := by
  obtain ⟨told, -⟩ := shape?_posts
  obtain ⟨marked, -, stated⟩ := nullable_iff_of_shape? told none
  have optional : (Code.Shape.reference
      (.applied "Option" (.applied "Vec" (.named "i32")))).IsOptional := by
    simp
  exact ⟨marked.mpr (.inl optional), fun required =>
    ((stated posts scoresField rfl).2.mp required).2.1 optional⟩

/-- Tags are never missing altogether, and yet their column, which is no key, may hold nothing. -/
theorem not_nullable_iff_tagsField :
    ∃ shape, shape? tagsField.type = some shape ∧ ¬ shape.IsOptional ∧
      (ofText none tagsField.type).nullable ∧
      keyClause ∉ (ofField none posts tagsField).clauses ∧
      notNullClause ∉ (ofField none posts tagsField).clauses := by
  obtain ⟨-, told⟩ := shape?_posts
  have marked : (ofText none tagsField.type).nullable := by
    rw [ofText, ColumnType.ofTextBy_eq_ofShape told]
    decide
  refine ⟨_, told, by simp, marked, ?_, ?_⟩
  · rw [keyClause_mem_iff]
    decide
  · rw [notNullClause_mem_iff]
    exact fun required => required.2 marked

end Schema.Column
end Tablewright
