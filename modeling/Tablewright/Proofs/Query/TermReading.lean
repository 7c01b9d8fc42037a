import Tablewright.Proofs.Query.Phrase
import Tablewright.Proofs.Query.Split

/-!
# Reading terms

The spelling of a regular term is read as its field and its comparison, and the spelling of
connected terms is cut where the connectors are.
-/

namespace Tablewright.Query

open Sql (Connector Operator)

variable {field rest : List Char}

/-! ## Endings -/

/-- The table holds endings of operators. -/
theorem ending_of_mem_suffixes :
    ∀ entry ∈ suffixes,
      operatorEnding entry.2 ≠ [] ∧ entry.1.toList = operatorEnding entry.2 := by
  decide

/-- The table holds the ending of every operator that has one, and of the entries before it only
the negation of membership is comparable with it. -/
theorem exists_suffixes_eq_append
    {operator : Operator}
    (ending_ne : operatorEnding operator ≠ []) :
    ∃ earlier word later, suffixes = earlier ++ (word, operator) :: later ∧
      word.toList = operatorEnding operator ∧
      ∀ entry ∈ earlier, (entry.2 = .notIn ∧ operator = .isIn) ∨
        (¬ entry.1.toList <:+ operatorEnding operator ∧
          ¬ operatorEnding operator <:+ entry.1.toList) := by
  let isOther (entry : String × Operator) : Bool := entry.2 ≠ operator
  have table : ∃ word later, suffixes.dropWhile isOther = (word, operator) :: later ∧
      word.toList = operatorEnding operator := by
    cases operator with
    | eq => exact absurd rfl ending_ne
    | ne => exact absurd rfl ending_ne
    | _ => exact ⟨_, _, rfl, rfl⟩
  obtain ⟨word, later, found, word_eq⟩ := table
  refine ⟨suffixes.takeWhile isOther, word, later, ?_, word_eq, ?_⟩
  · rw [← found, List.takeWhile_append_dropWhile]
  · clear found word_eq
    revert ending_ne
    cases operator <;> decide

/-- A text is split by an ending exactly if it can be taken for a field with one. -/
theorem suffixed?_isSome_iff (cs : List Char) :
    (suffixed? cs).isSome ↔ EndsInOperator cs := by
  rw [suffixed?, List.findSome?_isSome_iff]
  constructor
  · rintro ⟨⟨word, operator⟩, member, found⟩
    obtain ⟨ending_ne, word_eq⟩ := ending_of_mem_suffixes _ member
    obtain ⟨field, split⟩ := Option.isSome_iff_exists.mp (by simpa using found)
    obtain ⟨field_ne, cs_eq⟩ := Text.beforeSuffix?_eq_some_iff.mp split
    exact ⟨field, operator, field_ne, ending_ne, word_eq ▸ cs_eq⟩
  · rintro ⟨field, operator, field_ne, ending_ne, rfl⟩
    obtain ⟨earlier, word, later, table, word_eq, -⟩ := exists_suffixes_eq_append ending_ne
    refine ⟨(word, operator), by simp [table], ?_⟩
    simp [word_eq, Text.beforeSuffix?_append field_ne]

/-- The negation of membership is not taken from a field that membership ends. -/
theorem beforeSuffix?_notIn_eq_none
    (no_exclusion : field = "Not".toList ∨ ¬ "Not".toList <:+ field) :
    Text.beforeSuffix? "NotIn".toList (field ++ "In".toList) = none := by
  rw [Option.eq_none_iff_forall_ne_some]
  intro start found
  obtain ⟨start_ne, equal⟩ := Text.beforeSuffix?_eq_some_iff.mp found
  have field_eq : field = start ++ "Not".toList :=
    (List.append_left_inj "In".toList).mp (by simpa using equal)
  rcases no_exclusion with only | no_ending
  · exact start_ne (by simpa [only] using field_eq)
  · exact no_ending ⟨start, field_eq.symm⟩

/-- A field with the ending of an operator is split where the two meet. -/
theorem suffixed?_append_ending
    {operator : Operator}
    (field_ne : field ≠ [])
    (ending_ne : operatorEnding operator ≠ [])
    (no_exclusion : operator = .isIn → field = "Not".toList ∨ ¬ "Not".toList <:+ field) :
    suffixed? (field ++ operatorEnding operator) = some (field, operator) := by
  obtain ⟨earlier, word, later, table, word_eq, incomparable⟩ :=
    exists_suffixes_eq_append ending_ne
  rw [suffixed?, List.findSome?_eq_some_iff]
  refine ⟨earlier, (word, operator), later, table, ?_, ?_⟩
  · simp [word_eq, Text.beforeSuffix?_append field_ne]
  · intro entry member
    rw [Option.map_eq_none_iff]
    rcases incomparable entry member with ⟨excluded, isIn⟩ | ⟨not_longer, not_shorter⟩
    · have mem_suffixes : entry ∈ suffixes := by simp [table, member]
      rw [(ending_of_mem_suffixes entry mem_suffixes).2, excluded, isIn]
      exact beforeSuffix?_notIn_eq_none (no_exclusion isIn)
    · exact Text.beforeSuffix?_eq_none (Text.not_suffix_append not_longer not_shorter)

/-- A text that is no field with an ending is split by none. -/
theorem suffixed?_eq_none
    {cs : List Char}
    (no_ending : ¬ EndsInOperator cs) :
    suffixed? cs = none := by
  rwa [← suffixed?_isSome_iff, Option.not_isSome_iff_eq_none] at no_ending

/-- An ASCII capital is an upper-case character. -/
theorem isUpperChar_of_isUpper {c : Char} (capital : c.isUpper) : Text.isUpperChar c := by
  have bounds : 'A'.val ≤ c.val ∧ c.val ≤ 'Z'.val := of_decide_eq_true capital
  have ascii : c.toNat < 128 :=
    Nat.lt_of_le_of_lt (UInt32.le_iff_toNat_le.mp bounds.2) (by decide)
  simpa [Text.isUpperChar, ascii] using capital

/-- A text that begins with the negation and a capital is negated. -/
theorem negated?_append
    {c : Char}
    (capital : Text.isUpperChar c)
    (rest : List Char) :
    negated? ("Not".toList ++ c :: rest) = some (c :: rest) := by
  simp [negated?, capital]

/-- Only a text that begins with the negation and a capital is negated. -/
theorem negated?_eq_none
    {cs : List Char}
    (no_negation : ∀ c rest, Text.isUpperChar c → cs ≠ "Not".toList ++ c :: rest) :
    negated? cs = none := by
  rw [Option.eq_none_iff_forall_ne_some]
  intro field found
  unfold negated? at found
  split at found
  · next c rest =>
    split at found
    · next capital => exact no_negation c rest capital rfl
    · simp at found
  · simp at found

/-- The spelling of a regular term is split into its field and its operator. -/
theorem Term.IsRegular.splitOperator_spelling
    {term : Term}
    (regular : term.IsRegular) :
    splitOperator term.spelling = (term.field, term.operator) := by
  obtain ⟨c, rest, field_eq, capital⟩ := regular.capital
  have field_ne : term.field ≠ [] := by simp [field_eq]
  by_cases ending_eq : operatorEnding term.operator = []
  · -- Equality and its negation are what is left when no ending fits.
    have bare : term.operator = .eq ∨ term.operator = .ne := by
      revert ending_eq
      cases term.operator <;> decide
    have unsplit := suffixed?_eq_none (regular.no_ending bare)
    rcases bare with equality | inequality
    · have spelling_eq : term.spelling = term.field := by
        rw [Term.spelling, equality]
        exact List.append_nil term.field
      have not_negated := negated?_eq_none (regular.no_negation equality)
      simp only [splitOperator, unsplit, not_negated]
      rw [spelling_eq, equality]
    · have spelling_eq : term.spelling = "Not".toList ++ c :: rest := by
        rw [Term.spelling, inequality, field_eq]
        exact List.append_nil ("Not".toList ++ c :: rest)
      simp only [splitOperator, unsplit]
      rw [spelling_eq, negated?_append (isUpperChar_of_isUpper capital), field_eq, inequality]
  · have not_ne : term.operator ≠ .ne := by
      rintro ne
      exact ending_eq (by rw [ne]; rfl)
    have spelling_eq : term.spelling = term.field ++ operatorEnding term.operator := by
      simp [Term.spelling, not_ne]
    rw [splitOperator, spelling_eq,
      suffixed?_append_ending field_ne ending_eq regular.no_exclusion]

/-! ## Pieces -/

theorem Term.IsRegular.spelling_ne
    {term : Term}
    (regular : term.IsRegular) :
    term.spelling ≠ [] := by
  obtain ⟨c, rest, field_eq, -⟩ := regular.capital
  simp [Term.spelling, field_eq]

/-- The first term begins the spelling of connected terms. -/
theorem termsSpelling_connect_cons
    (term : Term)
    (connector : Connector)
    (terms : List (Term × Connector))
    (last : Term) :
    termsSpelling (connect ((term, connector) :: terms) last) =
      term.spelling ++ (connectorSpelling connector ++ termsSpelling (connect terms last)) := by
  simp [connect, termsSpelling]

@[simp] theorem termsSpelling_connect_nil (last : Term) :
    termsSpelling (connect [] last) = last.spelling := by
  simp [connect, termsSpelling]

/-- The pieces of connected terms are their spellings. -/
theorem pieces_termsSpelling
    {terms : List (Term × Connector)}
    {last : Term}
    (regular : ∀ term ∈ connect terms last, term.1.IsRegular) :
    pieces (termsSpelling (connect terms last)) =
      (connect terms last).map fun (term, connector) => ⟨term.spelling, connector⟩ := by
  let texts := terms.map fun term => (term.1.spelling, term.2)
  have parts : (connect terms last).map (fun (term, connector) => ⟨term.spelling, connector⟩) =
      connected texts last.spelling := by
    simp [connect, connected, texts]
  have spelled : termsSpelling (connect terms last) =
      (connected texts last.spelling).flatMap Piece.spelling := by
    rw [← parts, List.flatMap_map]
    rfl
  rw [spelled, parts]
  apply pieces_connected
  rw [← parts]
  intro piece member
  obtain ⟨⟨term, connector⟩, term_member, rfl⟩ := List.mem_map.mp member
  have term_regular := regular (term, connector) term_member
  exact ⟨term_regular.spelling_ne, term_regular.no_connector⟩

/-- Pieces that spell regular terms are numbered like the terms. -/
theorem numbered_map_spelling
    {terms : List (Term × Option Connector)}
    (regular : ∀ term ∈ terms, term.1.IsRegular)
    (position : Nat) :
    numbered position (terms.map fun (term, connector) => ⟨term.spelling, connector⟩) =
      conditionsFrom position terms := by
  induction terms generalizing position with
  | nil => rfl
  | cons head terms ih =>
    obtain ⟨term, connector⟩ := head
    have split : splitOperator term.spelling = (term.field, term.operator) :=
      (regular (term, connector) (by simp)).splitOperator_spelling
    have later (position : Nat) :=
      ih (fun other member => regular other (by simp [member])) position
    by_cases valued : term.operator.takesValue
    · simp [numbered, conditionsFrom, split, valued, later]
    · simp [numbered, conditionsFrom, split, valued, later]

end Tablewright.Query
