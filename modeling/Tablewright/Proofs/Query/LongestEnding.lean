import Mathlib.Data.List.Nodup
import Tablewright.Proofs.Query.TermReading

/-!
# The longest ending

Any text is read as a comparison.  If it ends like an operator and something is before the ending,
it is split there, and of several such endings the longest counts.  The table of endings is searched
from its first entry on, which finds the longest because no entry is the end of a later one.  What
is read spells the text again, so no character is lost.
-/

namespace Tablewright.Query

open Sql (Operator)

variable {text field : List Char} {operator : Operator} {term : Term}

/-! ## The table of endings -/

/-- No entry of the table is the end of a later one. -/
theorem pairwise_suffixes :
    suffixes.Pairwise fun entry later => ¬ entry.1.toList <:+ later.1.toList := by
  decide

/-- An operator with an ending is in the table. -/
theorem exists_mem_suffixes (ending_ne : operatorEnding operator ≠ []) :
    ∃ word, (word, operator) ∈ suffixes ∧ word.toList = operatorEnding operator := by
  obtain ⟨earlier, word, later, table, word_eq, -⟩ := exists_suffixes_eq_append ending_ne
  exact ⟨word, by simp [table], word_eq⟩

/-- An ending belongs to one operator. -/
theorem eq_of_operatorEnding_eq
    {other : Operator}
    (ending_ne : operatorEnding operator ≠ [])
    (same : operatorEnding operator = operatorEnding other) :
    operator = other := by
  obtain ⟨word, member, word_eq⟩ := exists_mem_suffixes ending_ne
  obtain ⟨next, next_member, next_eq⟩ := exists_mem_suffixes (same ▸ ending_ne)
  have distinct : (suffixes.map (·.1.toList)).Nodup := by decide
  have same_word : word.toList = next.toList := by rw [word_eq, next_eq, same]
  exact congrArg Prod.snd (List.inj_on_of_nodup_map distinct member next_member same_word)

/-! ## The longest ending that leaves a field -/

/-- The text is the field with the ending of the operator, and no longer ending leaves a field. -/
structure IsLongestEnding
    (text field : List Char)
    (operator : Operator) : Prop where
  /-- There is a field. -/
  field_ne : field ≠ []
  /-- There is an ending. -/
  ending_ne : operatorEnding operator ≠ []
  /-- They are the text. -/
  text_eq : text = field ++ operatorEnding operator
  /-- An ending behind another field is not longer. -/
  longest : ∀ rest other, rest ≠ [] → text = rest ++ operatorEnding other →
    (operatorEnding other).length ≤ (operatorEnding operator).length

/-- Two longest endings of a text are one. -/
theorem IsLongestEnding.unique
    {rest : List Char}
    {other : Operator}
    (ends : IsLongestEnding text field operator)
    (other_ends : IsLongestEnding text rest other) :
    field = rest ∧ operator = other := by
  have lengths := Nat.le_antisymm
    (other_ends.longest field operator ends.field_ne ends.text_eq)
    (ends.longest rest other other_ends.field_ne other_ends.text_eq)
  obtain ⟨same_field, same_ending⟩ :=
    List.append_inj' (ends.text_eq.symm.trans other_ends.text_eq) lengths
  exact ⟨same_field, eq_of_operatorEnding_eq ends.ending_ne same_ending⟩

/-- What is split off is the longest ending. -/
theorem isLongestEnding_of_suffixed?
    (split : suffixed? text = some (field, operator)) :
    IsLongestEnding text field operator := by
  rw [suffixed?, List.findSome?_eq_some_iff] at split
  obtain ⟨earlier, ⟨word, found⟩, later, table, here, before⟩ := split
  obtain ⟨field, cut, equal⟩ := Option.map_eq_some_iff.mp here
  obtain ⟨rfl, rfl⟩ := Prod.mk.inj equal
  obtain ⟨field_ne, text_eq⟩ := Text.beforeSuffix?_eq_some_iff.mp cut
  obtain ⟨ending_ne, word_eq⟩ := ending_of_mem_suffixes (word, found) (by simp [table])
  refine ⟨field_ne, ending_ne, word_eq ▸ text_eq, fun rest other rest_ne other_eq => ?_⟩
  by_cases other_ne : operatorEnding other = []
  · rw [other_ne]
    exact Nat.zero_le _
  obtain ⟨next, next_member, next_eq⟩ := exists_mem_suffixes other_ne
  rw [← word_eq, ← next_eq]
  rw [table, List.mem_append, List.mem_cons] at next_member
  rcases next_member with sooner | same | afterwards
  · -- An entry that is tried sooner would have been found.
    have missed : (Text.beforeSuffix? next.toList text).map (fun field => (field, other)) = none :=
      before (next, other) sooner
    rw [other_eq, ← next_eq, Text.beforeSuffix?_append rest_ne] at missed
    cases missed
  · exact le_of_eq (congrArg (·.1.toList.length) same)
  · -- Of two ends of one text the shorter is the end of the longer.
    have ordered := pairwise_suffixes
    rw [table, List.pairwise_append, List.pairwise_cons] at ordered
    have not_end : ¬ word.toList <:+ next.toList := ordered.2.1.1 (next, other) afterwards
    have word_end : word.toList <:+ text := ⟨field, text_eq.symm⟩
    have next_end : next.toList <:+ text := ⟨rest, by rw [next_eq, other_eq]⟩
    exact ((List.suffix_or_suffix_of_suffix word_end next_end).resolve_left not_end).length_le

theorem suffixed?_eq_some_iff :
    suffixed? text = some (field, operator) ↔ IsLongestEnding text field operator := by
  refine ⟨isLongestEnding_of_suffixed?, fun ends => ?_⟩
  have splits : (suffixed? text).isSome := (suffixed?_isSome_iff text).mpr
    ⟨field, operator, ends.field_ne, ends.ending_ne, ends.text_eq⟩
  obtain ⟨⟨rest, other⟩, split⟩ := Option.isSome_iff_exists.mp splits
  obtain ⟨rfl, rfl⟩ := ends.unique (isLongestEnding_of_suffixed? split)
  exact split

/-! ## Readings -/

/-- How a text is read as a comparison: first by its longest ending, then as a negation, and
otherwise as a field that is compared for equality. -/
inductive IsReading (text : List Char) : Term → Prop
  | ending {term : Term} :
      IsLongestEnding text term.field term.operator → IsReading text term
  | negation {c : Char} {rest : List Char} :
      ¬ EndsInOperator text → Text.isUpperChar c → text = "Not".toList ++ c :: rest →
      IsReading text ⟨c :: rest, .ne⟩
  | equality :
      ¬ EndsInOperator text →
      (∀ c rest, Text.isUpperChar c → text ≠ "Not".toList ++ c :: rest) →
      IsReading text ⟨text, .eq⟩

namespace IsReading

theorem splitOperator_eq (reading : IsReading text term) :
    splitOperator text = (term.field, term.operator) := by
  cases reading with
  | ending ends => rw [splitOperator, suffixed?_eq_some_iff.mpr ends]
  | negation no_ending capital text_eq =>
    have negated := negated?_append capital
    rw [splitOperator, suffixed?_eq_none no_ending]
    simp only [text_eq, negated]
  | equality no_ending no_negation =>
    rw [splitOperator, suffixed?_eq_none no_ending]
    simp only [negated?_eq_none no_negation]

/-- What is read spells the text. -/
theorem spelling_eq (reading : IsReading text term) : term.spelling = text := by
  cases reading with
  | ending ends =>
    have not_ne : term.operator ≠ .ne := fun ne => ends.ending_ne (by rw [ne]; rfl)
    rw [Term.spelling, if_neg not_ne, List.nil_append]
    exact ends.text_eq.symm
  | negation no_ending capital text_eq =>
    rw [text_eq]
    exact List.append_nil _
  | equality no_ending no_negation => exact List.append_nil text

/-- The field is empty only if there is no text. -/
theorem field_eq_nil_iff (reading : IsReading text term) : term.field = [] ↔ text = [] := by
  cases reading with
  | ending ends =>
    refine iff_of_false ends.field_ne ?_
    rw [ends.text_eq]
    exact List.append_ne_nil_of_left_ne_nil ends.field_ne _
  | negation no_ending capital text_eq => exact iff_of_false (by simp) (by simp [text_eq])
  | equality no_ending no_negation => exact Iff.rfl

end IsReading

/-- Every text has a reading. -/
theorem exists_isReading (text : List Char) : ∃ term, IsReading text term := by
  by_cases ends : EndsInOperator text
  · obtain ⟨⟨field, operator⟩, split⟩ :=
      Option.isSome_iff_exists.mp ((suffixed?_isSome_iff text).mpr ends)
    exact ⟨⟨field, operator⟩, .ending (isLongestEnding_of_suffixed? split)⟩
  · by_cases negates : ∃ c rest, Text.isUpperChar c ∧ text = "Not".toList ++ c :: rest
    · obtain ⟨c, rest, capital, text_eq⟩ := negates
      exact ⟨⟨c :: rest, .ne⟩, .negation ends capital text_eq⟩
    · refine ⟨⟨text, .eq⟩, .equality ends fun c rest capital text_eq => ?_⟩
      exact negates ⟨c, rest, capital, text_eq⟩

/-- A text is split into the field and the operator of its one reading: by the longest ending that
leaves a field, then as a negation, then as an equality.  The two spell the text, and the field is
empty only if the text is. -/
theorem splitOperator_isReading (text : List Char) :
    ∃ term : Term, splitOperator text = (term.field, term.operator) ∧
      (∀ other, IsReading text other ↔ other = term) ∧
      term.spelling = text ∧
      (term.field = [] ↔ text = []) := by
  obtain ⟨term, reading⟩ := exists_isReading text
  have split := reading.splitOperator_eq
  refine ⟨term, split, fun other => ⟨fun other_reading => ?_, ?_⟩, reading.spelling_eq,
    reading.field_eq_nil_iff⟩
  · obtain ⟨same_field, same_operator⟩ :=
      Prod.mk.inj (other_reading.splitOperator_eq.symm.trans split)
    cases other
    cases term
    exact congr (congrArg Term.mk same_field) same_operator
  · rintro rfl
    exact reading

/-- An ending that leaves no field gives way to a shorter one. -/
example : splitOperator "NotIn".toList = ("Not".toList, .isIn) := by
  decide

end Tablewright.Query
