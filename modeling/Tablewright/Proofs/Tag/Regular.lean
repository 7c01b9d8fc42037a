import Tablewright.Proofs.Tag.Splitting
import Tablewright.Tag.Token

/-!
# Regular tokens

The tokens whose spelling can be told apart from what stands around it in a tag.
-/

namespace Tablewright.Tag

open Text (Trimmed isBlank trim)

/-- Words that state a token without a value. -/
def bareWords : List String :=
  ["pk", "unique", "-", "index", "unique_index"]

/-- A segment is a word that states a token, or begins with a key, blanks around it apart. -/
def StatesToken (segment : List Char) : Prop :=
  (∃ word ∈ bareWords, trim segment = word.toList) ∨
    ∃ key : Key, key.spelling.toList <+: trim segment

theorem Key.mem_all (key : Key) : key ∈ Key.all := by
  cases key <;> decide

instance (segment : List Char) : Decidable (StatesToken segment) :=
  decidable_of_iff
    ((∃ word ∈ bareWords, trim segment = word.toList) ∨
      ∃ key ∈ Key.all, key.spelling.toList <+: trim segment)
    (or_congr_right (exists_congr fun key => and_iff_right key.mem_all))

/-- A value in a tag: a closed text without blanks at its ends. -/
structure IsValue (cs : List Char) : Prop where
  /-- There is something. -/
  value_ne : cs ≠ []
  /-- It is closed. -/
  closed : Closed cs
  /-- There are no blanks at its ends. -/
  trimmed : Trimmed cs

/-- A value without top-level commas. -/
structure IsName (cs : List Char) : Prop extends IsValue cs where
  /-- All commas are in quotes or brackets. -/
  commaFree : CommaFree cs

/-- An SQL expression in a tag, which may have top-level commas. -/
structure IsExpression (cs : List Char) : Prop extends IsValue cs where
  /-- No blank stands before the first top-level comma, or at the end if there is none. -/
  first : ∀ part ∈ (segments cs).head?, ∀ c ∈ part.getLast?, ¬ isBlank c
  /-- What follows the last top-level comma is not blank. -/
  last : ∀ part ∈ (segments cs).getLast?, ¬ part.all isBlank
  /-- Nothing between top-level commas or behind them states a token. -/
  rest : ∀ part ∈ (segments cs).tail, ¬ StatesToken part

/-- A list of values without top-level commas, of which only the first may read like a token. -/
structure IsList (values : List String) : Prop where
  /-- There is at least one. -/
  values_ne : values ≠ []
  /-- Each has its commas in quotes or brackets. -/
  names : ∀ value ∈ values, IsName value.toList
  /-- None but the first reads like a token. -/
  rest : ∀ value ∈ values.tail, ¬ StatesToken value.toList

/-- Names among the arguments of a foreign key. -/
def foreignKeyNames (key : ForeignKey) : List String :=
  key.group.toList ++ [key.table, key.column]

/-- A token whose spelling is told apart from what stands around it. -/
def Token.IsRegular : Token → Prop
  | .primaryKey | .unique | .ignore => True
  | .index _ name => ∀ text ∈ name, IsName text.toList
  | .uniqueGroup name | .table name => IsName name.toList
  | .check expression | .default expression => IsExpression expression.toList
  | .values allowed => IsList allowed
  | .foreignKey key =>
    IsList (foreignKeyNames key) ∧
      ∀ name ∈ foreignKeyNames key,
        ¬ "on_delete:".toList <+: name.toList ∧ ¬ "on_update:".toList <+: name.toList
  | .unrecognized _ => False

/-! ## Decisions -/

instance (cs : List Char) : Decidable (IsValue cs) :=
  decidable_of_iff (cs ≠ [] ∧ Closed cs ∧ Trimmed cs)
    ⟨fun ⟨value_ne, closed, trimmed⟩ => ⟨value_ne, closed, trimmed⟩,
      fun ⟨value_ne, closed, trimmed⟩ => ⟨value_ne, closed, trimmed⟩⟩

instance (cs : List Char) : Decidable (IsName cs) :=
  decidable_of_iff (IsValue cs ∧ CommaFree cs)
    ⟨fun ⟨value, commaFree⟩ => ⟨value, commaFree⟩, fun ⟨value, commaFree⟩ => ⟨value, commaFree⟩⟩

instance (cs : List Char) : Decidable (IsExpression cs) :=
  decidable_of_iff
    (IsValue cs ∧ (∀ part ∈ (segments cs).head?, ∀ c ∈ part.getLast?, ¬ isBlank c) ∧
      (∀ part ∈ (segments cs).getLast?, ¬ part.all isBlank) ∧
      ∀ part ∈ (segments cs).tail, ¬ StatesToken part)
    ⟨fun ⟨value, first, last, rest⟩ => ⟨value, first, last, rest⟩,
      fun ⟨value, first, last, rest⟩ => ⟨value, first, last, rest⟩⟩

instance (values : List String) : Decidable (IsList values) :=
  decidable_of_iff
    (values ≠ [] ∧ (∀ value ∈ values, IsName value.toList) ∧
      ∀ value ∈ values.tail, ¬ StatesToken value.toList)
    ⟨fun ⟨values_ne, names, rest⟩ => ⟨values_ne, names, rest⟩,
      fun ⟨values_ne, names, rest⟩ => ⟨values_ne, names, rest⟩⟩

instance (token : Token) : Decidable token.IsRegular :=
  match token with
  | .primaryKey | .unique | .ignore => .isTrue trivial
  | .index _ name => inferInstanceAs (Decidable (∀ text ∈ name, IsName text.toList))
  | .uniqueGroup name | .table name => inferInstanceAs (Decidable (IsName name.toList))
  | .check expression | .default expression =>
    inferInstanceAs (Decidable (IsExpression expression.toList))
  | .values allowed => inferInstanceAs (Decidable (IsList allowed))
  | .foreignKey key =>
    inferInstanceAs (Decidable (IsList (foreignKeyNames key) ∧
      ∀ name ∈ foreignKeyNames key,
        ¬ "on_delete:".toList <+: name.toList ∧ ¬ "on_update:".toList <+: name.toList))
  | .unrecognized _ => .isFalse id

end Tablewright.Tag
