import Tablewright.Proofs.Tag.Cutting
import Tablewright.Proofs.Tag.Regular

/-!
# Written tokens

The tokens that a tag can state: their values are as a tag leaves them between two commas, and a
quote or bracket in them may stay open.  A regular token is a written one in which none does.
-/

namespace Tablewright.Tag

open Text (Trimmed isBlank trim)

/-- A value in a tag, closed or not: a text without blanks at its ends. -/
structure IsWrittenValue (cs : List Char) : Prop where
  /-- There is something. -/
  value_ne : cs ≠ []
  /-- There are no blanks at its ends. -/
  trimmed : Trimmed cs

/-- A value without top-level commas, closed or not. -/
structure IsWrittenName (cs : List Char) : Prop extends IsWrittenValue cs where
  /-- All commas are in quotes or brackets. -/
  commaFree : CommaFree cs

/-- An SQL expression in a tag, closed or not. -/
structure IsWrittenExpression (cs : List Char) : Prop extends IsWrittenValue cs where
  /-- No blank stands before the first top-level comma, or at the end if there is none. -/
  first : ∀ part ∈ (segments cs).head?, ∀ c ∈ part.getLast?, ¬ isBlank c
  /-- What follows the last top-level comma is not blank. -/
  last : ∀ part ∈ (segments cs).getLast?, ¬ part.all isBlank
  /-- Nothing between top-level commas or behind them states a token. -/
  rest : ∀ part ∈ (segments cs).tail, ¬ StatesToken part

/-- A list of values without top-level commas, closed or not. -/
structure IsWrittenList (values : List String) : Prop where
  /-- There is at least one. -/
  values_ne : values ≠ []
  /-- Each has its commas in quotes or brackets. -/
  names : ∀ value ∈ values, IsWrittenName value.toList
  /-- None but the first reads like a token. -/
  rest : ∀ value ∈ values.tail, ¬ StatesToken value.toList

/-- A token that a tag can state, its values closed or not. -/
def Token.IsWritten : Token → Prop
  | .primaryKey | .unique | .ignore => True
  | .index _ name => ∀ text ∈ name, IsWrittenName text.toList
  | .uniqueGroup name | .table name => IsWrittenName name.toList
  | .check expression | .default expression => IsWrittenExpression expression.toList
  | .values allowed => IsWrittenList allowed
  | .foreignKey key =>
    IsWrittenList (foreignKeyNames key) ∧
      ∀ name ∈ foreignKeyNames key,
        ¬ "on_delete:".toList <+: name.toList ∧ ¬ "on_update:".toList <+: name.toList
  | .unrecognized _ => False

/-! ## Regular tokens are written -/

theorem IsValue.isWritten
    {cs : List Char}
    (value : IsValue cs) :
    IsWrittenValue cs :=
  ⟨value.value_ne, value.trimmed⟩

theorem IsName.isWritten
    {cs : List Char}
    (name : IsName cs) :
    IsWrittenName cs :=
  ⟨name.toIsValue.isWritten, name.commaFree⟩

theorem IsExpression.isWritten
    {cs : List Char}
    (expression : IsExpression cs) :
    IsWrittenExpression cs :=
  ⟨expression.toIsValue.isWritten, expression.first, expression.last, expression.rest⟩

theorem IsList.isWritten
    {values : List String}
    (list : IsList values) :
    IsWrittenList values :=
  ⟨list.values_ne, fun value member => (list.names value member).isWritten, list.rest⟩

theorem Token.IsRegular.isWritten
    {token : Token}
    (regular : token.IsRegular) :
    token.IsWritten := by
  cases token with
  | primaryKey | unique | ignore => trivial
  | index isUnique name => exact fun text found => (regular text found).isWritten
  | uniqueGroup name | table name => exact IsName.isWritten regular
  | check expression | default expression => exact IsExpression.isWritten regular
  | values allowed => exact IsList.isWritten regular
  | foreignKey key => exact ⟨regular.1.isWritten, regular.2⟩
  | unrecognized text => exact regular

/-! ## Keys -/

namespace Key

variable (key : Key)

theorem trimmed_spelling : Trimmed key.spelling.toList := by
  cases key <;> decide

theorem spelling_ne : key.spelling.toList ≠ [] := by
  cases key <;> decide

theorem closed_spelling : Closed key.spelling.toList := by
  cases key <;> decide

theorem comma_notMem_spelling : ',' ∉ key.spelling.toList := by
  cases key <;> decide

/-- A key is trimmed with any value that ends with no blank. -/
theorem trimmed_append
    {value : List Char}
    (last : ∀ c ∈ value.getLast?, ¬ isBlank c) :
    Trimmed (key.spelling.toList ++ value) := by
  by_cases value_eq : value = []
  · rw [value_eq, List.append_nil]
    exact key.trimmed_spelling
  · exact Trimmed.append key.spelling_ne value_eq key.trimmed_spelling.head last

/-- The key goes to the first segment of its value. -/
theorem segments_append
    {value first : List Char}
    {more : List (List Char)}
    (cut : segments value = first :: more) :
    segments (key.spelling.toList ++ value) = (key.spelling.toList ++ first) :: more := by
  apply segmentsFrom_word_append key.comma_notMem_spelling
  rw [key.closed_spelling]
  exact cut

/-- A key before a text does not change where a scan of it ends. -/
theorem closed_append_iff {value : List Char} :
    Closed (key.spelling.toList ++ value) ↔ Closed value := by
  rw [Closed, Scan.run_append, key.closed_spelling, Closed]

/-- A key and the parts of its value, the first of which the key goes to. -/
def pieces : List (List Char) → List (List Char)
  | [] => [key.spelling.toList]
  | part :: parts => (key.spelling.toList ++ part) :: parts

theorem segments_append_eq (value : List Char) :
    segments (key.spelling.toList ++ value) = key.pieces (segments value) := by
  cases cut : segments value with
  | nil => exact absurd cut (segmentsFrom_ne_nil Scan.top value)
  | cons first more => exact key.segments_append cut

theorem intercalate_pieces (parts : List (List Char)) :
    [','].intercalate (key.pieces parts) = key.spelling.toList ++ [','].intercalate parts := by
  cases parts with
  | nil => simp [pieces]
  | cons part parts =>
    cases parts with
    | nil => rw [pieces, List.intercalate_singleton, List.intercalate_singleton]
    | cons next parts =>
      rw [pieces, List.intercalate_cons_cons, List.intercalate_cons_cons]
      simp only [List.append_assoc]

theorem closed_pieces
    {parts : List (List Char)}
    (closed : ∀ part ∈ parts, Closed part) :
    ∀ piece ∈ key.pieces parts, Closed piece := by
  cases parts with
  | nil => exact List.forall_mem_singleton.mpr key.closed_spelling
  | cons part parts =>
    obtain ⟨here, later⟩ := List.forall_mem_cons.mp closed
    exact List.forall_mem_cons.mpr ⟨key.closed_append_iff.mpr here, later⟩

theorem pieces_append
    {parts : List (List Char)}
    (parts_ne : parts ≠ [])
    (more : List (List Char)) :
    key.pieces (parts ++ more) = key.pieces parts ++ more := by
  obtain ⟨part, parts, rfl⟩ := List.exists_cons_of_ne_nil parts_ne
  rfl

theorem commaFree_append
    {value : List Char}
    (free : CommaFree value) :
    CommaFree (key.spelling.toList ++ value) := by
  rw [commaFree_iff, key.segments_append free.segments_eq]

end Key

/-! ## Pieces -/

/-- The texts that the commas in the spelling of a token are to separate: the arguments of a list,
and otherwise the segments. -/
def Token.pieces : Token → List (List Char)
  | .values allowed => Key.values.pieces (allowed.map String.toList)
  | .foreignKey key => Key.foreignKey.pieces ((foreignKeyArguments key).map String.toList)
  | token => segments token.spelling.toList

theorem toList_key_append (key : Key) (value : String) :
    (key.spelling ++ value).toList = key.spelling.toList ++ value.toList :=
  String.toList_append

theorem toList_intercalate_comma (values : List String) :
    (",".intercalate values).toList = [','].intercalate (values.map String.toList) :=
  String.toList_intercalate

namespace Token

theorem intercalate_pieces (token : Token) :
    [','].intercalate token.pieces = token.spelling.toList := by
  have list (key : Key) (values : List String) :
      [','].intercalate (key.pieces (values.map String.toList)) =
        (key.spelling ++ ",".intercalate values).toList := by
    rw [key.intercalate_pieces, toList_key_append, toList_intercalate_comma]
  cases token with
  | values allowed => exact list .values allowed
  | foreignKey key => exact list .foreignKey (foreignKeyArguments key)
  | _ => exact intercalate_segments _

theorem pieces_ne (token : Token) : token.pieces ≠ [] := by
  have list (key : Key) (parts : List (List Char)) : key.pieces parts ≠ [] := by
    cases parts <;> exact List.cons_ne_nil _ _
  cases token with
  | values allowed => exact list _ _
  | foreignKey key => exact list _ _
  | _ => exact segmentsFrom_ne_nil Scan.top _

end Token

end Tablewright.Tag
