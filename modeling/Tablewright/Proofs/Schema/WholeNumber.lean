import Mathlib.Tactic.SplitIfs
import Tablewright.Schema.ColumnType

/-!
# Whole numbers

The length of character columns decides how characters are stored and nothing else: a type that is
stored as a whole number under one length is stored as the same under any other.
-/

namespace Tablewright.ColumnType

/-- Names of the types that hold whole numbers. -/
def integerNames : List String :=
  ["SMALLINT", "INTEGER", "BIGINT"]

/-- Column types that differ at most in how characters are stored. -/
structure Alike (first second : ColumnType) : Prop where
  /-- Names that differ are not those of whole numbers. -/
  name_eq : first.name = second.name ∨
    first.name ∉ integerNames ∧ second.name ∉ integerNames
  /-- Both columns may hold nothing, or neither. -/
  nullable_eq : first.nullable = second.nullable
  /-- The dimensions are the same. -/
  dimensions_eq : first.dimensions = second.dimensions

namespace Alike

theorem refl (type : ColumnType) : type.Alike type :=
  ⟨Or.inl rfl, rfl, rfl⟩

variable {first second : ColumnType}

theorem optional (alike : first.Alike second) :
    { first with nullable := true }.Alike { second with nullable := true } :=
  ⟨alike.name_eq, rfl, alike.dimensions_eq⟩

theorem array (alike : first.Alike second) :
    { first with dimensions := first.dimensions + 1 }.Alike
      { second with dimensions := second.dimensions + 1 } :=
  ⟨alike.name_eq, alike.nullable_eq, congrArg (· + 1) alike.dimensions_eq⟩

/-- One of two alike types holds whole numbers exactly if the other does. -/
theorem isInteger_eq (alike : first.Alike second) : first.isInteger = second.isInteger := by
  have names : integerNames.contains first.name = integerNames.contains second.name := by
    rcases alike.name_eq with name_eq | ⟨first_not, second_not⟩
    · rw [name_eq]
    · rw [List.contains_eq_mem, List.contains_eq_mem, decide_eq_false first_not,
        decide_eq_false second_not]
  unfold isInteger
  rw [alike.dimensions_eq]
  exact congrArg (decide (second.dimensions = 0) && ·) names

end Alike

theorem name_characters_notMem (length : Option Nat) :
    (characters length).name ∉ integerNames := by
  cases length with
  | none => decide
  | some length =>
    intro member
    have heads : (characters (some length)).name.toList.head? ∈
        integerNames.map (·.toList.head?) := List.mem_map_of_mem member
    simp [characters, integerNames] at heads

theorem alike_ofName
    (length other : Option Nat)
    (name : String) :
    (ofName length name).Alike (ofName other name) := by
  unfold ofName
  split
  · exact ⟨Or.inr ⟨name_characters_notMem length, name_characters_notMem other⟩,
      by cases length <;> cases other <;> rfl, by cases length <;> cases other <;> rfl⟩
  · exact Alike.refl _

/-- Types are stored alike under any two lengths. -/
theorem alike_ofShape
    (length other : Option Nat)
    (shape : Code.Shape) :
    (ofShape length shape).Alike (ofShape other shape) := by
  induction shape with
  | reference target ih => exact ih
  | named name => exact alike_ofName length other name
  | slice element => exact Alike.refl _
  | other => exact Alike.refl _
  | applied name argument ih =>
    rw [ofShape, ofShape]
    split_ifs
    · exact ih.optional
    · exact Alike.refl _
    · exact ih.array
    · exact alike_ofName length other name

theorem alike_ofText
    (length other : Option Nat)
    (type : String) :
    (ofText length type).Alike (ofText other type) := by
  unfold ofText ofTextBy
  split
  · exact alike_ofShape length other _
  · exact Alike.refl _

/-- Whether a type is stored as a whole number that is always there does not depend on the length of
character columns. -/
theorem isIntegerType_eq
    (length : Option Nat)
    (type : String) :
    isIntegerType type = ((ofText length type).isInteger && !(ofText length type).nullable) := by
  have alike := alike_ofText (some defaultLength) length type
  rw [← alike.isInteger_eq, ← alike.nullable_eq]
  rfl

/-- A type that holds whole numbers is spelled by its name alone. -/
theorem spelling_mem_of_isInteger
    {type : ColumnType}
    (integer : type.isInteger) :
    type.spelling ∈ integerNames := by
  unfold isInteger at integer
  rw [Bool.and_eq_true, decide_eq_true_iff, List.contains_iff_mem] at integer
  obtain ⟨scalar, named⟩ := integer
  have spelled : type.spelling = type.name := by
    rw [spelling, scalar]
    exact String.append_empty
  rw [spelled]
  exact named

end Tablewright.ColumnType
