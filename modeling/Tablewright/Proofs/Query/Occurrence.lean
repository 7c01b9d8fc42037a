import Mathlib.Data.List.Infix
import Tablewright.Query.MethodName

/-!
# Occurrences of a word in a name

Where a word first and last occurs in a text made of parts.  A part is quiet if no occurrence of
the word begins in it, be it one that ends in the part or one that runs into what follows; the
first and the last occurrence are then found behind the part.
-/

namespace Tablewright.Query

variable {pattern before after : List Char}

/-- No occurrence of `pattern` in `before ++ after` begins in `before`. -/
def Quiet (pattern before after : List Char) : Prop :=
  ∀ tail, tail ≠ [] → tail <:+ before → ¬ pattern <+: tail ++ after

namespace Quiet

@[simp] theorem nil (pattern after : List Char) : Quiet pattern [] after := by
  intro tail tail_ne suffix
  exact absurd (List.suffix_nil.mp suffix) tail_ne

theorem cons_iff {c : Char} :
    Quiet pattern (c :: before) after ↔
      ¬ pattern <+: c :: (before ++ after) ∧ Quiet pattern before after := by
  constructor
  · intro quiet
    refine ⟨quiet (c :: before) (by simp) List.suffix_rfl, ?_⟩
    intro tail tail_ne suffix
    exact quiet tail tail_ne (suffix.trans (List.suffix_cons c before))
  · rintro ⟨here, later⟩ tail tail_ne suffix
    rcases List.suffix_cons_iff.mp suffix with rfl | suffix
    · exact here
    · exact later tail tail_ne suffix

/-- A text of two parts is quiet if each of them is, the first one before the second. -/
theorem append_iff {middle : List Char} :
    Quiet pattern (before ++ middle) after ↔
      Quiet pattern before (middle ++ after) ∧ Quiet pattern middle after := by
  induction before with
  | nil => simp
  | cons c before ih => simp [cons_iff, ih, and_assoc]

/-- Nothing begins in a part without the first character of the word. -/
theorem of_notMem_head
    {c : Char}
    {rest : List Char}
    (absent : c ∉ before) :
    Quiet (c :: rest) before after := by
  rintro tail tail_ne suffix ⟨more, equal⟩
  cases tail with
  | nil => exact tail_ne rfl
  | cons d tail =>
    have same : c = d := by simpa using congrArg List.head? equal
    exact absent (suffix.mem (by simp [same]))

/-- An occurrence that leaves a part holds the first character after it, and not at its own
beginning. -/
theorem of_not_infix
    (absent : ¬ pattern <:+: before)
    (edge : ∀ c ∈ after.head?, c ∉ pattern.tail) :
    Quiet pattern before after := by
  rintro tail tail_ne suffix ⟨more, equal⟩
  rcases List.append_eq_append_iff.mp equal with ⟨rest, tail_eq, -⟩ | ⟨rest, pattern_eq, after_eq⟩
  · -- The occurrence ends in the part.
    exact absent ((List.prefix_append pattern rest |>.isInfix).trans (tail_eq ▸ suffix.isInfix))
  · cases rest with
    | nil => exact absent (by simpa [pattern_eq] using suffix.isInfix)
    | cons c rest =>
      obtain ⟨d, tail, rfl⟩ := List.exists_cons_of_ne_nil tail_ne
      exact edge c (by simp [after_eq]) (by simp [pattern_eq])

/-- A part that nothing follows is quiet if the word does not occur in it. -/
theorem of_not_infix_nil (absent : ¬ pattern <:+: before) : Quiet pattern before [] :=
  of_not_infix absent (by simp)

end Quiet

/-! ## First and last occurrences -/

/-- A word that begins a text occurs there first. -/
theorem firstIndex?_append_self
    (pattern_ne : pattern ≠ [])
    (after : List Char) :
    firstIndex? pattern (pattern ++ after) = some 0 := by
  obtain ⟨c, rest, rfl⟩ := List.exists_cons_of_ne_nil pattern_ne
  simp [firstIndex?]

/-- The first occurrence is behind a quiet part. -/
theorem firstIndex?_append_of_quiet (quiet : Quiet pattern before after) :
    firstIndex? pattern (before ++ after) =
      (firstIndex? pattern after).map (· + before.length) := by
  induction before with
  | nil => simp
  | cons c before ih =>
    obtain ⟨here, later⟩ := Quiet.cons_iff.mp quiet
    rw [List.cons_append, firstIndex?, if_neg (mt List.isPrefixOf_iff_prefix.mp here), ih later]
    cases firstIndex? pattern after <;> simp
    omega

/-- The last occurrence in the second part of a text is the last one of all. -/
theorem lastIndex?_append_of_eq_some
    {index : Nat}
    (found : lastIndex? pattern after = some index)
    (before : List Char) :
    lastIndex? pattern (before ++ after) = some (before.length + index) := by
  induction before with
  | nil => simpa using found
  | cons c before ih =>
    rw [List.cons_append, lastIndex?, ih]
    simp
    omega

/-- Nothing occurs in a text if the first part is quiet and the second has no occurrence. -/
theorem lastIndex?_append_eq_none
    (quiet : Quiet pattern before after)
    (absent : lastIndex? pattern after = none) :
    lastIndex? pattern (before ++ after) = none := by
  induction before with
  | nil => simpa using absent
  | cons c before ih =>
    obtain ⟨here, later⟩ := Quiet.cons_iff.mp quiet
    rw [List.cons_append, lastIndex?, ih later]
    exact if_neg (mt List.isPrefixOf_iff_prefix.mp here)

/-- A word occurs last at the beginning of a text if the rest of it and what follows are quiet. -/
theorem lastIndex?_append_self
    {c : Char}
    {rest : List Char}
    (quiet : Quiet (c :: rest) rest after)
    (absent : lastIndex? (c :: rest) after = none) :
    lastIndex? (c :: rest) (c :: rest ++ after) = some 0 := by
  rw [List.cons_append, lastIndex?, lastIndex?_append_eq_none quiet absent]
  simp

/-- A text that is quiet to its end has no occurrence. -/
theorem lastIndex?_eq_none_of_quiet
    {text : List Char}
    (quiet : Quiet pattern text []) :
    lastIndex? pattern text = none := by
  simpa using lastIndex?_append_eq_none quiet rfl

/-- A word does not occur in a quiet part. -/
theorem Quiet.not_infix
    (quiet : Quiet pattern before after)
    (pattern_ne : pattern ≠ []) :
    ¬ pattern <:+: before := by
  rintro ⟨start, rest, rfl⟩
  apply quiet (pattern ++ rest) (by simp [pattern_ne]) ⟨start, by simp⟩
  exact ⟨rest ++ after, by simp⟩

/-- The first occurrence of a word has a quiet part before it. -/
theorem firstIndex?_eq_some_iff
    {text : List Char}
    {index : Nat}
    (pattern_ne : pattern ≠ []) :
    firstIndex? pattern text = some index ↔
      ∃ before after, text = before ++ (pattern ++ after) ∧ before.length = index ∧
        Quiet pattern before (pattern ++ after) := by
  constructor
  · intro found
    induction text generalizing index with
    | nil => simp [firstIndex?] at found
    | cons c text ih =>
      by_cases here : pattern <+: c :: text
      · obtain ⟨after, equal⟩ := here
        have index_eq : index = 0 := by
          rw [← equal, firstIndex?_append_self pattern_ne] at found
          exact (Option.some.inj found).symm
        exact ⟨[], after, equal.symm, index_eq.symm, Quiet.nil pattern _⟩
      · rw [firstIndex?, if_neg (mt List.isPrefixOf_iff_prefix.mp here)] at found
        obtain ⟨later, found_later, rfl⟩ := Option.map_eq_some_iff.mp found
        obtain ⟨before, after, rfl, rfl, quiet⟩ := ih found_later
        exact ⟨c :: before, after, rfl, rfl, Quiet.cons_iff.mpr ⟨here, quiet⟩⟩
  · rintro ⟨before, after, rfl, rfl, quiet⟩
    rw [firstIndex?_append_of_quiet quiet, firstIndex?_append_self pattern_ne]
    simp

/-- A word that is not found first does not occur. -/
theorem not_infix_of_firstIndex?_eq_none
    {text : List Char}
    (pattern_ne : pattern ≠ [])
    (absent : firstIndex? pattern text = none) :
    ¬ pattern <:+: text := by
  induction text with
  | nil => simpa using pattern_ne
  | cons c text ih =>
    rw [firstIndex?] at absent
    split at absent
    · simp at absent
    · next here =>
      rw [List.infix_cons_iff]
      exact not_or.mpr ⟨mt List.isPrefixOf_iff_prefix.mpr here,
        ih (Option.map_eq_none_iff.mp absent)⟩

/-- A word that is not found last does not occur. -/
theorem lastIndex?_eq_none_iff
    {text : List Char}
    (pattern_ne : pattern ≠ []) :
    lastIndex? pattern text = none ↔ ¬ pattern <:+: text := by
  constructor
  · intro absent
    induction text with
    | nil => simpa using pattern_ne
    | cons c text ih =>
      rw [lastIndex?] at absent
      split at absent
      · simp at absent
      · next later =>
        split at absent
        · simp at absent
        · next here =>
          rw [List.infix_cons_iff]
          exact not_or.mpr ⟨mt List.isPrefixOf_iff_prefix.mpr here, ih later⟩
  · intro absent
    exact lastIndex?_eq_none_of_quiet (Quiet.of_not_infix_nil absent)

/-- The last occurrence of a word has no occurrence behind its first character. -/
theorem exists_of_lastIndex?_eq_some
    {text : List Char}
    {index : Nat}
    (found : lastIndex? pattern text = some index) :
    ∃ before after, text = before ++ (pattern ++ after) ∧ before.length = index ∧
      lastIndex? pattern (pattern ++ after).tail = none := by
  induction text generalizing index with
  | nil => simp [lastIndex?] at found
  | cons c text ih =>
    rw [lastIndex?] at found
    split at found
    · next later found_later =>
      obtain ⟨before, after, rfl, rfl, absent⟩ := ih found_later
      exact ⟨c :: before, after, rfl, by simpa using found, absent⟩
    · next absent =>
      split at found
      · next here =>
        obtain ⟨after, equal⟩ := List.isPrefixOf_iff_prefix.mp here
        exact ⟨[], after, equal.symm, by simpa using found, by rw [equal]; exact absent⟩
      · simp at found

/-! ## The word `By` inside a text -/

theorem followed_iff {text : List Char} :
    hasInnerBy.followed text ↔
      ∃ before after, after ≠ [] ∧ text = before ++ (byWord ++ after) := by
  rw [byWord_eq]
  constructor
  · intro found
    induction text with
    | nil => simp [hasInnerBy.followed] at found
    | cons c text ih =>
      unfold hasInnerBy.followed at found
      split at found
      · next equal => exact ⟨[], _, List.cons_ne_nil _ _, equal⟩
      · next rest equal =>
        obtain ⟨-, rfl⟩ := List.cons.inj equal
        obtain ⟨before, after, after_ne, rfl⟩ := ih found
        exact ⟨c :: before, after, after_ne, rfl⟩
      · next equal => simp at equal
  · rintro ⟨before, after, after_ne, rfl⟩
    obtain ⟨d, rest, rfl⟩ := List.exists_cons_of_ne_nil after_ne
    induction before with
    | nil => rfl
    | cons c before ih =>
      rw [List.cons_append]
      unfold hasInnerBy.followed
      split
      · rfl
      · next equal =>
        obtain ⟨-, rfl⟩ := List.cons.inj equal
        exact ih
      · next equal => simp at equal

/-- The word `By` is inside a text if something is before it and something after it. -/
theorem hasInnerBy_iff {text : List Char} :
    hasInnerBy text ↔
      ∃ before after, before ≠ [] ∧ after ≠ [] ∧ text = before ++ (byWord ++ after) := by
  cases text with
  | nil => simp [hasInnerBy, byWord_eq]
  | cons c text =>
    rw [hasInnerBy, followed_iff]
    constructor
    · rintro ⟨before, after, after_ne, rfl⟩
      exact ⟨c :: before, after, by simp, after_ne, rfl⟩
    · rintro ⟨before, after, before_ne, after_ne, equal⟩
      obtain ⟨d, before, rfl⟩ := List.exists_cons_of_ne_nil before_ne
      exact ⟨before, after, after_ne, (List.cons.inj equal).2⟩

end Tablewright.Query
