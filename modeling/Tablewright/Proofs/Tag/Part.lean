import Tablewright.Proofs.Tag.Run

/-!
# Parts of a value

What a run of segments leaves behind its key: the parts put together are an expression, and the
values among them a list, as a tag can state them.
-/

namespace Tablewright.Tag

open scoped List
open Text (isBlank trim trimmed_trim trim_append_of_blank)

/-! ## Expressions -/

/-- Parts of a value as a run of segments leaves them behind the key. -/
structure IsParts
    (value : List Char)
    (more : List (List Char)) : Prop extends IsCut (value :: more) where
  /-- The first part ends with no blank. -/
  first : ∀ c ∈ value.getLast?, ¬ isBlank c
  /-- The last of several parts is not blank. -/
  last : ∀ part ∈ more.getLast?, ¬ part.all isBlank
  /-- None but the first states a token. -/
  rest : ∀ part ∈ more, ¬ StatesToken part

theorem statesToken_congr
    {part other : List Char}
    (same : trim part = trim other) :
    StatesToken part ↔ StatesToken other := by
  rw [StatesToken, StatesToken, same]

theorem CommaFree.trim
    {cs : List Char}
    (free : CommaFree cs) :
    CommaFree (trim cs) := by
  have lengths := congrArg List.length (map_trim_segments_trim cs)
  rw [List.length_map, List.length_map, free.segments_eq, List.length_singleton] at lengths
  obtain ⟨part, alone⟩ := List.length_eq_one_iff.mp lengths
  have joined := intercalate_segments (Text.trim cs)
  rw [alone, List.intercalate_singleton] at joined
  rw [commaFree_iff, alone, joined]

theorem Key.commaFree_of_append
    {key : Key}
    {value : List Char}
    (free : CommaFree (key.spelling.toList ++ value)) :
    CommaFree value := by
  rw [commaFree_iff, key.segments_append_eq] at free
  cases cut : segments value with
  | nil => exact absurd cut (segmentsFrom_ne_nil Scan.top value)
  | cons first more =>
    rw [cut, Key.pieces] at free
    obtain ⟨first_eq, rfl⟩ := List.cons.inj free
    rw [commaFree_iff, cut, List.append_cancel_left first_eq]

/-- The value of a keyed head begins what its segment leaves. -/
theorem trim_eq_of_head?_keyed
    {segment value : List Char}
    {key : Key}
    (head : head? segment = some (.keyed key value)) :
    trim segment = key.spelling.toList ++ value := by
  rcases head?_eq_some head with ⟨token, head_eq, -⟩ | ⟨key', value', head_eq, equal⟩
  · cases head_eq
  · cases head_eq
    exact equal

theorem closed_value_iff
    {segment value : List Char}
    {key : Key}
    (head : head? segment = some (.keyed key value)) :
    Closed value ↔ Closed segment := by
  rw [← key.closed_append_iff, ← trim_eq_of_head?_keyed head, closed_trim_iff]

/-- A run with a key leaves parts behind the key. -/
theorem isParts_of_run
    {segment value : List Char}
    {more : List (List Char)}
    {key : Key}
    (head : head? segment = some (.keyed key value))
    (states_none : ∀ part ∈ more, ¬ StatesToken part)
    (last : ∀ part ∈ more.getLast?, ¬ part.all isBlank)
    (cut : IsCut (segment :: more)) :
    IsParts value more := by
  have segment_eq := trim_eq_of_head?_keyed head
  have closed := cut.closed
  obtain ⟨segment_free, more_free⟩ := List.forall_mem_cons.mp cut.free
  refine ⟨⟨List.forall_mem_cons.mpr ⟨?_, more_free⟩, ?_⟩, ?_, last, states_none⟩
  · have trimmed_free := segment_free.trim
    rw [segment_eq] at trimmed_free
    exact Key.commaFree_of_append trimmed_free
  · cases more with
    | nil => exact nofun
    | cons next more =>
      rw [List.dropLast_cons_cons] at closed ⊢
      obtain ⟨here, later⟩ := List.forall_mem_cons.mp closed
      exact List.forall_mem_cons.mpr ⟨(closed_value_iff head).mpr here, later⟩
  · intro c found
    apply (trimmed_trim segment).last c
    rw [segment_eq, List.getLast?_append, Option.mem_def.mp found]
    rfl

namespace IsParts

variable {value : List Char} {more : List (List Char)}

/-- What the parts leave, put together and trimmed, is an expression. -/
theorem isWrittenExpression
    (parts : IsParts value more)
    (text_ne : trim ([','].intercalate (value :: more)) ≠ []) :
    IsWrittenExpression (trim ([','].intercalate (value :: more))) := by
  have whole := parts.segments_intercalate (List.cons_ne_nil value more)
  have trimmed := trimmed_trim ([','].intercalate (value :: more))
  generalize [','].intercalate (value :: more) = cs at text_ne whole trimmed
  cases cut : segments (trim cs) with
  | nil => exact absurd cut (segmentsFrom_ne_nil Scan.top _)
  | cons first rest =>
    obtain ⟨before, after, before_blank, after_blank, ⟨rfl, -⟩ | ⟨inner, last, rfl, several⟩⟩ :=
      segments_trim cut
    · have joined := intercalate_segments (trim cs)
      rw [cut, List.intercalate_singleton] at joined
      refine ⟨⟨text_ne, trimmed⟩, ?_, ?_, ?_⟩
      · rw [cut, joined]
        rintro part ⟨⟩
        exact trimmed.last
      · rw [cut, joined]
        rintro part ⟨⟩
        exact trimmed.not_all_isBlank text_ne
      · rw [cut]
        exact nofun
    · rw [whole] at several
      obtain ⟨rfl, rfl⟩ := List.cons.inj several
      refine ⟨⟨text_ne, trimmed⟩, ?_, ?_, ?_⟩
      · rw [cut]
        rintro part ⟨⟩ c found
        apply parts.first c
        rw [List.getLast?_append, Option.mem_def.mp found]
        rfl
      · rw [cut, ← List.cons_append, List.getLast?_concat]
        rintro part ⟨⟩ blank
        apply parts.last (last ++ after)
        · rw [List.getLast?_concat]
          rfl
        · rw [List.all_append, blank, after_blank]
          rfl
      · rw [cut]
        refine List.forall_mem_append.mpr ⟨?_, List.forall_mem_singleton.mpr ?_⟩
        · intro part member
          exact parts.rest part (List.mem_append_left _ member)
        · rw [← statesToken_congr (trim_append_of_blank after_blank last)]
          exact parts.rest _ (List.mem_append_right _ (List.mem_singleton_self _))

end IsParts

/-! ## Values -/

theorem mem_valuesOf_iff
    {cs : List Char}
    {parts : List (List Char)} :
    cs ∈ valuesOf parts ↔ (∃ part ∈ parts, trim part = cs) ∧ cs ≠ [] := by
  rw [valuesOf, List.mem_filter, List.mem_map]
  simp

theorem valuesOf_sublist (parts : List (List Char)) : valuesOf parts <+ parts.map trim :=
  List.filter_sublist

theorem tail_valuesOf_subset
    (value : List Char)
    (more : List (List Char)) :
    (valuesOf (value :: more)).tail ⊆ valuesOf more := by
  by_cases blank : trim value = []
  · have skipped : valuesOf (value :: more) = valuesOf more := by
      simp [valuesOf, blank]
    rw [skipped]
    exact (List.tail_sublist _).subset
  · have kept : valuesOf (value :: more) = trim value :: valuesOf more := by
      simp [valuesOf, blank]
    rw [kept, List.tail_cons]
    exact List.Subset.refl _

/-- Values among the parts are a list that a tag can state. -/
theorem IsParts.isWrittenList
    {value : List Char}
    {more : List (List Char)}
    (parts : IsParts value more)
    {values : List String}
    (values_ne : values ≠ [])
    (among : values.map String.toList <+ valuesOf (value :: more)) :
    IsWrittenList values := by
  refine ⟨values_ne, ?_, ?_⟩
  · intro text member
    obtain ⟨⟨part, found, trimmed_eq⟩, text_ne⟩ :=
      mem_valuesOf_iff.mp (among.subset (List.mem_map_of_mem member))
    have free := (parts.free part found).trim
    rw [trimmed_eq] at free
    exact ⟨⟨text_ne, trimmed_eq ▸ trimmed_trim part⟩, free⟩
  · intro text member
    have later : text.toList ∈ (values.map String.toList).tail := by
      rw [← List.map_tail]
      exact List.mem_map_of_mem member
    obtain ⟨⟨part, found, trimmed_eq⟩, -⟩ :=
      mem_valuesOf_iff.mp (tail_valuesOf_subset value more (among.tail.subset later))
    have same : trim text.toList = trim part := by
      rw [← trimmed_eq, (trimmed_trim part).trim_eq]
    rw [statesToken_congr same]
    exact parts.rest part found

theorem closed_of_mem_map_trim
    {parts : List (List Char)}
    (closed : ∀ part ∈ parts, Closed part) :
    ∀ part ∈ parts.map trim, Closed part := by
  intro part member
  obtain ⟨whole, found, rfl⟩ := List.mem_map.mp member
  exact closed_trim_iff.mpr (closed whole found)

/-- Values among closed parts are closed. -/
theorem closed_of_sublist_valuesOf
    {values parts : List (List Char)}
    (among : values <+ valuesOf parts)
    (closed : ∀ part ∈ parts, Closed part) :
    ∀ value ∈ values, Closed value :=
  fun value member =>
    closed_of_mem_map_trim closed value ((valuesOf_sublist parts).subset (among.subset member))

/-- Only the last of the values among the parts can stay open. -/
theorem IsParts.closed_dropLast
    {value : List Char}
    {more values : List (List Char)}
    (parts : IsParts value more)
    (among : values <+ valuesOf (value :: more)) :
    ∀ part ∈ values.dropLast, Closed part := by
  have within := dropLast_sublist_dropLast (among.trans (valuesOf_sublist _))
  rw [← List.map_dropLast] at within
  exact fun part member => closed_of_mem_map_trim parts.closed part (within.subset member)

theorem Key.closed_dropLast_pieces
    (key : Key)
    {parts : List (List Char)}
    (closed : ∀ part ∈ parts.dropLast, Closed part) :
    ∀ piece ∈ (key.pieces parts).dropLast, Closed piece := by
  match parts with
  | [] | [_] => exact nofun
  | part :: next :: parts =>
    rw [List.dropLast_cons_cons] at closed
    obtain ⟨here, later⟩ := List.forall_mem_cons.mp closed
    rw [Key.pieces, List.dropLast_cons_cons]
    exact List.forall_mem_cons.mpr ⟨key.closed_append_iff.mpr here, later⟩

end Tablewright.Tag
