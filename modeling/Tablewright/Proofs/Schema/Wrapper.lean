import Tablewright.Proofs.Schema.Clause

/-!
# Wrapped types

References, options and vectors may be stacked around a type to any depth.  The column type of the
whole is that of the innermost type, with one mark for all options and one dimension for each
vector; only a vector right around bytes is no dimension, and is stored as bytes.
-/

namespace Tablewright

/-! ## Stacks of wrappers -/

namespace Code

/-- What may be written around a type. -/
inductive Wrapper where
  /-- A reference to it. -/
  | reference
  /-- An optional value of it. -/
  | option
  /-- A sequence of its values. -/
  | vector
  deriving DecidableEq

/-- The shape of a type with a wrapper around it. -/
def Wrapper.around : Wrapper → Shape → Shape
  | reference, shape => .reference shape
  | option, shape => .applied "Option" shape
  | vector, shape => .applied "Vec" shape

/-- The shape of a type with wrappers around it, outermost first. -/
def wrapped
    (stack : List Wrapper)
    (base : Shape) : Shape :=
  stack.foldr Wrapper.around base

@[simp] theorem wrapped_nil (base : Shape) : wrapped [] base = base :=
  rfl

@[simp] theorem wrapped_cons
    (wrapper : Wrapper)
    (stack : List Wrapper)
    (base : Shape) :
    wrapped (wrapper :: stack) base = wrapper.around (wrapped stack base) :=
  rfl

end Code

open Code (Shape Wrapper wrapped)

namespace ColumnType

/-- The column type of a type with wrappers around it, given that of the type itself. -/
def under
    (stack : List Wrapper)
    (type : ColumnType) : ColumnType :=
  { type with
    nullable := stack.contains .option || type.nullable
    dimensions := stack.count .vector + type.dimensions }

@[simp] theorem name_under
    (stack : List Wrapper)
    (type : ColumnType) :
    (type.under stack).name = type.name :=
  rfl

@[simp] theorem nonNegative_under
    (stack : List Wrapper)
    (type : ColumnType) :
    (type.under stack).nonNegative = type.nonNegative :=
  rfl

theorem under_nil (type : ColumnType) : type.under [] = type := by
  simp only [under, List.contains_nil, List.count_nil, Bool.false_or, Nat.zero_add]

theorem under_cons
    (wrapper : Wrapper)
    (stack : List Wrapper)
    (type : ColumnType) :
    type.under (wrapper :: stack) = (type.under stack).under [wrapper] := by
  cases wrapper <;> simp [under, Nat.add_assoc, Nat.add_comm]

/-- Whether the innermost wrapper is a vector and what it holds are bytes. -/
def holdsBytes
    (stack : List Wrapper)
    (base : Shape) : Bool :=
  stack.getLast? = some .vector && isByte base

/-- A wrapped type is no byte. -/
theorem isByte_around
    (wrapper : Wrapper)
    (shape : Shape) :
    isByte (wrapper.around shape) = false := by
  cases wrapper <;> rfl

/-- One wrapper changes one thing of the column type, unless it makes a byte to bytes. -/
theorem ofShape_around
    (length : Option Nat)
    (wrapper : Wrapper)
    (shape : Shape) :
    ofShape length (wrapper.around shape) =
      if holdsBytes [wrapper] shape then bytes else (ofShape length shape).under [wrapper] := by
  cases wrapper with
  | reference => simp [Wrapper.around, ofShape, under, holdsBytes]
  | option => simp [Wrapper.around, ofShape, under, holdsBytes]
  | vector => simp [Wrapper.around, ofShape, under, holdsBytes, Nat.add_comm]

/-- The column type of a wrapped type is made of that of the type and the number of wrappers of each
kind.  Vectors right around bytes begin with bytes. -/
theorem ofShape_wrapped
    (length : Option Nat)
    (stack : List Wrapper)
    (base : Shape) :
    ofShape length (wrapped stack base) =
      if holdsBytes stack base then bytes.under stack.dropLast
      else (ofShape length base).under stack := by
  induction stack with
  | nil => exact (under_nil _).symm
  | cons wrapper stack ih =>
    rw [Code.wrapped_cons, ofShape_around]
    cases stack with
    | nil => rw [Code.wrapped_nil, List.dropLast_singleton, under_nil]
    | cons next stack =>
      -- Bytes are made at the innermost wrapper only.
      have not_here : holdsBytes [wrapper] (wrapped (next :: stack) base) = false := by
        rw [holdsBytes, Code.wrapped_cons, isByte_around, Bool.and_false]
      have inside :
          holdsBytes (wrapper :: next :: stack) base = holdsBytes (next :: stack) base := by
        rw [holdsBytes, holdsBytes, List.getLast?_cons_cons]
      rw [not_here, if_neg Bool.false_ne_true, ih, inside, List.dropLast_cons_cons]
      cases holdsBytes (next :: stack) base with
      | true => exact (under_cons wrapper _ bytes).symm
      | false => exact (under_cons wrapper _ _).symm

/-! ## Scalar types -/

/-- Names of the unsigned numbers that are stored as whole numbers. -/
def unsignedNames : List String :=
  ["u8", "u16", "u32", "u64", "usize"]

/-- Every scalar type is found under its name, and marked if it is unsigned. -/
theorem lookup_of_mem_scalars : ∀ entry ∈ scalars,
    scalars.lookup entry.1 = some entry.2 ∧ (entry.2.2 ↔ entry.1 ∈ unsignedNames) := by
  decide +kernel

theorem lookup_scalars_eq_none
    {name : String}
    (absent : name ∉ scalars.map (·.1)) :
    scalars.lookup name = none := by
  rw [List.lookup_eq_none_iff]
  intro entry member
  rw [bne_iff_ne]
  rintro rfl
  exact absent (List.mem_map_of_mem member)

section

variable (length : Option Nat) (name : String)

theorem nullable_ofName : (ofName length name).nullable = false := by
  unfold ofName
  split
  · cases length <;> rfl
  · split <;> rfl

theorem dimensions_ofName : (ofName length name).dimensions = 0 := by
  unfold ofName
  split
  · cases length <;> rfl
  · split <;> rfl

/-- A scalar type holds no negative numbers exactly if it is unsigned and stored as a number. -/
theorem nonNegative_ofName : (ofName length name).nonNegative ↔ name ∈ unsignedNames := by
  by_cases characters : name = "String" ∨ name = "str"
  · have named : name ∉ unsignedNames := by
      rcases characters with rfl | rfl <;> decide
    simp only [ofName, Bool.or_eq_true, decide_eq_true_eq, if_pos characters, named, iff_false]
    cases length <;> simp [ColumnType.characters, text]
  · simp only [ofName, Bool.or_eq_true, decide_eq_true_eq, if_neg characters]
    by_cases listed : name ∈ scalars.map (·.1)
    · obtain ⟨entry, member, rfl⟩ := List.mem_map.mp listed
      obtain ⟨found, marked⟩ := lookup_of_mem_scalars entry member
      rw [found]
      exact marked
    · have named : name ∉ unsignedNames := fun member =>
        listed ((by decide : unsignedNames ⊆ scalars.map (·.1)) member)
      rw [lookup_scalars_eq_none listed]
      simp [text, named]

end

/-! ## Types as written -/

theorem ofTextBy_eq_ofShape
    {shape? : Code.ShapeReader}
    {text : String}
    {shape : Shape}
    (told : shape? text = some shape)
    (length : Option Nat) :
    ofTextBy shape? length text = ofShape length shape := by
  rw [ofTextBy, told]

/-- Arguments may be expressions of any kind. -/
example : ofText none "Vec<Buf<\x7b match N \x7b _ => 1 \x7d \x7d>>" =
    { name := "TEXT", dimensions := 1 } := by
  decide +kernel

/-! ## Wrapped paths -/

/-- The name of a type with the brackets of its dimensions behind it. -/
def bracketed
    (name : String)
    (dimensions : Nat) : String :=
  name ++ String.join (List.replicate dimensions "[]")

/-- Whether a stack of wrappers around a path with the given last name holds bytes. -/
abbrev IsByteBuffer
    (stack : List Wrapper)
    (name : String) : Prop :=
  stack.getLast? = some .vector ∧ name = "u8"

section

variable {base : Shape} {name : String}

theorem isByte_iff (last : base.lastName? = some name) : isByte base ↔ name = "u8" := by
  rw [isByte, last, decide_eq_true_iff, Option.some.injEq]

theorem holdsBytes_iff
    (last : base.lastName? = some name)
    (stack : List Wrapper) :
    holdsBytes stack base ↔ IsByteBuffer stack name := by
  rw [holdsBytes, Bool.and_eq_true, decide_eq_true_iff, isByte_iff last]

/-- A path is judged by its last name, unless that is the name of a wrapper. -/
theorem ofShape_eq_ofName
    (length : Option Nat)
    (last : base.lastName? = some name)
    (not_option : name ≠ "Option")
    (not_vector : name ≠ "Vec") :
    ofShape length base = ofName length name := by
  cases base with
  | named found =>
    cases last
    rfl
  | applied found argument =>
    cases last
    rw [ofShape, if_neg not_option, if_neg not_vector]
  | reference | slice | other => cases last

variable
  (last : base.lastName? = some name)
  (not_option : name ≠ "Option")
  (not_vector : name ≠ "Vec")
  (length : Option Nat)
  (stack : List Wrapper)

include last

theorem ofShape_of_isByteBuffer (buffer : IsByteBuffer stack name) :
    ofShape length (wrapped stack base) = bytes.under stack.dropLast := by
  rw [ofShape_wrapped, if_pos ((holdsBytes_iff last stack).mpr buffer)]

theorem ofShape_of_not_isByteBuffer (no_buffer : ¬ IsByteBuffer stack name) :
    ofShape length (wrapped stack base) = (ofShape length base).under stack := by
  rw [ofShape_wrapped, if_neg (mt (holdsBytes_iff last stack).mp no_buffer)]

include not_option not_vector

theorem dimensions_of_not_isByteBuffer (no_buffer : ¬ IsByteBuffer stack name) :
    (ofShape length (wrapped stack base)).dimensions = stack.count .vector := by
  rw [ofShape_of_not_isByteBuffer last length stack no_buffer,
    ofShape_eq_ofName length last not_option not_vector, under, dimensions_ofName, Nat.add_zero]

/-- Only an unsigned number that is in no vector is checked. -/
theorem needsCheck_wrapped_iff :
    (ofShape length (wrapped stack base)).needsCheck ↔ name ∈ unsignedNames ∧ .vector ∉ stack := by
  by_cases buffer : IsByteBuffer stack name
  · have in_vector : .vector ∈ stack := List.mem_of_getLast? buffer.1
    rw [ofShape_of_isByteBuffer last length stack buffer]
    simp [needsCheck, bytes, in_vector]
  · rw [needsCheck, Bool.and_eq_true, decide_eq_true_iff,
      dimensions_of_not_isByteBuffer last not_option not_vector length stack buffer,
      ofShape_of_not_isByteBuffer last length stack buffer, nonNegative_under,
      ofShape_eq_ofName length last not_option not_vector, nonNegative_ofName,
      List.count_eq_zero]

end

end ColumnType

namespace Schema.Column

open Code.TypeExpr (shape?)
open ColumnType (IsByteBuffer bracketed ofShape unsignedNames)

theorem type_ofFieldBy
    {shape? : Code.ShapeReader}
    {field : Field}
    {shape : Shape}
    (told : shape? field.type = some shape)
    (length : Option Nat)
    (entity : Entity) :
    (ofFieldBy shape? length entity field).type = ofShape length shape :=
  ColumnType.ofTextBy_eq_ofShape told length

/-- A stack of wrappers of any depth around a path is stored under the name of the path's own type,
with one dimension for each vector; only a vector right around bytes is no dimension, and turns
them to bytes.  However the shape of a type is told, the line of a column says this type, and the
column is checked to hold no negative numbers exactly if the path is unsigned and in no vector.  A
tag may state the same check again. -/
theorem ofField_wrapped
    {base : Shape}
    {name : String}
    (last : base.lastName? = some name)
    (not_option : name ≠ "Option")
    (not_vector : name ≠ "Vec")
    (length : Option Nat)
    (stack : List Wrapper) :
    let type := ofShape length (wrapped stack base)
    (if IsByteBuffer stack name then
        type.name = "BYTEA" ∧ type.dimensions = stack.dropLast.count .vector
      else type.name = (ofShape length base).name ∧ type.dimensions = stack.count .vector) ∧
    (type.needsCheck ↔ name ∈ unsignedNames ∧ .vector ∉ stack) ∧
    ∀ (shape? : Code.ShapeReader) (entity : Entity) (field : Field),
      shape? field.type = some (wrapped stack base) →
      let column := ofFieldBy shape? length entity field
      column.line =
        " ".intercalate
          (("    " ++ Sql.quotedName field.column) :: bracketed type.name type.dimensions ::
            column.clauses) ∧
      column.clauses.count (checkClause column.nonNegative) =
        (if field.constraint.check = some column.nonNegative then 1 else 0) +
          if name ∈ unsignedNames ∧ .vector ∉ stack then 1 else 0 := by
  intro type
  have checked := ColumnType.needsCheck_wrapped_iff last not_option not_vector length stack
  refine ⟨?_, checked, fun shape? entity field told => ?_⟩
  · split
    · next buffer =>
      have type_eq : type = _ := ColumnType.ofShape_of_isByteBuffer last length stack buffer
      rw [type_eq]
      exact ⟨rfl, Nat.add_zero _⟩
    · next no_buffer =>
      have type_eq : type = _ := ColumnType.ofShape_of_not_isByteBuffer last length stack no_buffer
      refine ⟨by rw [type_eq, ColumnType.name_under], ?_⟩
      exact ColumnType.dimensions_of_not_isByteBuffer last not_option not_vector length stack
        no_buffer
  · intro column
    have type_eq : column.type = type := type_ofFieldBy told length entity
    have stated : column.check = field.constraint.check := rfl
    constructor
    · rw [line, type_eq]
      rfl
    · rw [count_nonNegative, type_eq, stated]
      simp only [type, checked]

/-! ## Attachments in parts -/

/-- A field for the parts of an attachment. -/
def partsField : Field :=
  { name := "Parts", type := "&Option<Vec<Vec<u8>>>", constraint := {} }

/-- A field for the size of an attachment. -/
def sizeField : Field :=
  { name := "Size", type := "Option<u32>", constraint := {} }

/-- A field for a fingerprint of an attachment. -/
def fingerprintField : Field :=
  { name := "Fingerprint", type := "u128", constraint := {} }

/-- A record of attachments. -/
def attachments : Entity :=
  { name := "Attachment"
    fields := [partsField, sizeField, fingerprintField]
    tableOverride := none
    package := "" }

theorem shape?_attachments :
    shape? partsField.type =
        some (wrapped [.reference, .option, .vector, .vector] (.named "u8")) ∧
      shape? sizeField.type = some (wrapped [.option] (.named "u32")) ∧
      shape? fingerprintField.type = some (wrapped [] (.named "u128")) := by
  decide +kernel

/-- The inner vector of the parts makes bytes, the outer one a dimension.  The size is checked. -/
theorem ofField_wrapped_attachments :
    (∃ clauses, (ofField none attachments partsField).line =
        " ".intercalate (("    " ++ Sql.quotedName partsField.column) :: "BYTEA[]" :: clauses)) ∧
      (ofField none attachments sizeField).clauses.count
        (checkClause (ofField none attachments sizeField).nonNegative) = 1 := by
  obtain ⟨parts_told, size_told, -⟩ := shape?_attachments
  have byte : (Shape.named "u8").lastName? = some "u8" := rfl
  have number : (Shape.named "u32").lastName? = some "u32" := rfl
  obtain ⟨-, -, parts_column⟩ := ofField_wrapped byte (by decide) (by decide) none
    [.reference, .option, .vector, .vector]
  obtain ⟨-, -, size_column⟩ := ofField_wrapped number (by decide) (by decide) none [.option]
  exact ⟨⟨_, (parts_column shape? attachments partsField parts_told).1⟩,
    (size_column shape? attachments sizeField size_told).2.trans (by decide)⟩

/-- Names of all unsigned numbers, those that no whole number of the database holds included. -/
def allUnsignedNames : List String :=
  "u128" :: unsignedNames

/-- The largest unsigned numbers are stored as text, and text is not checked. -/
theorem not_needsCheck_iff_fingerprint :
    ∃ shape, shape? fingerprintField.type = some shape ∧
      shape = wrapped [] (.named "u128") ∧
      ¬ ((ofShape none shape).needsCheck ↔
        "u128" ∈ allUnsignedNames ∧ Code.Wrapper.vector ∉ []) ∧
      (ofField none attachments fingerprintField).clauses.count
        (checkClause (ofField none attachments fingerprintField).nonNegative) = 0 := by
  obtain ⟨-, -, told⟩ := shape?_attachments
  refine ⟨_, told, rfl, by decide, ?_⟩
  rw [count_nonNegative, ofField, type_ofFieldBy told]
  decide

end Schema.Column

end Tablewright
