import Tablewright.Proofs.Text.Uniform
import Tablewright.Proofs.Text.Word

/-!
# Names in snake case

A name in snake case is made of words of small letters alone or of digits alone, with underscores
between them.  It is cut into just these words; and the words of whatever has the name for its snake
case are the same but for capitals.
-/

namespace Tablewright.Text

variable {c d : Char} {cs rest word : List Char} {parts : List (List Char)}

/-! ## Small letters and digits -/

theorem alnum_of_small (small : ∀ c ∈ word, c.isLower ∨ c.isDigit) : Alnum word := fun c member =>
  (small c member).elim isAlnum_of_isLower isAlnum_of_isDigit

theorem notMem_underscore_of_small (small : ∀ c ∈ word, c.isLower ∨ c.isDigit) : '_' ∉ word :=
  fun member => by simpa using small '_' member

/-- A word of a name in snake case: small letters alone or digits alone. -/
structure IsSnakeWord (word : List Char) : Prop where
  /-- It has characters. -/
  ne_nil : word ≠ []
  /-- Letters and digits do not mix. -/
  uniform : (∀ c ∈ word, c.isLower) ∨ ∀ c ∈ word, c.isDigit

namespace IsSnakeWord

theorem small (spelled : IsSnakeWord word) : ∀ c ∈ word, c.isLower ∨ c.isDigit := fun c member =>
  spelled.uniform.imp (· c member) (· c member)

theorem alnum (spelled : IsSnakeWord word) : Alnum word :=
  alnum_of_small spelled.small

theorem notMem_underscore (spelled : IsSnakeWord word) : '_' ∉ word :=
  notMem_underscore_of_small spelled.small

end IsSnakeWord

/-! ## Texts without the end of a word -/

/-- No word ends inside a text, given the text after it. -/
def Unbroken : List Char → List Char → Prop
  | [], _ => True
  | c :: cs, rest => c ≠ '_' ∧ endsAt c (cs ++ rest) = false ∧ Unbroken cs rest

/-- A text in which no word ends goes to the open word. -/
theorem textWordsAfter_append
    (unbroken : Unbroken cs rest)
    (word : List Char) :
    textWordsAfter word (cs ++ rest) = textWordsAfter (word ++ cs) rest := by
  induction cs generalizing word with
  | nil => rw [List.nil_append, List.append_nil]
  | cons c cs ih =>
    obtain ⟨no_underscore, no_end, unbroken⟩ := unbroken
    rw [List.cons_append, textWordsAfter, if_neg no_underscore, no_end,
      if_neg Bool.false_ne_true, ih unbroken, List.append_assoc, List.singleton_append]

/-- Small letters go on with each other, as digits do, and neither ends before an underscore. -/
structure GoesOn (kind : Char → Bool) : Prop where
  /-- An underscore is of another kind. -/
  underscore : kind '_' = false
  /-- No word ends behind a character of the kind before such a character or an underscore. -/
  not_endsAt : ∀ {c d : Char} (after : List Char), kind c → kind d ∨ d = '_' →
    endsAt c (d :: after) = false

theorem goesOn_isLower : GoesOn Char.isLower where
  underscore := rfl
  not_endsAt {c d} after small next := by
    have no_capital : '_'.isUpper = false ∧ '_'.isDigit = false := by decide
    simp only [endsAt]
    grind

theorem goesOn_isDigit : GoesOn Char.isDigit where
  underscore := rfl
  not_endsAt {c d} after digit next := by
    have no_letter : '_'.isLower = false ∧ '_'.isUpper = false := by decide
    simp only [endsAt]
    grind

theorem GoesOn.unbroken
    {kind : Char → Bool}
    (goes_on : GoesOn kind)
    (all : ∀ c ∈ cs, kind c)
    (follows : ∀ d ∈ rest.head?, kind d ∨ d = '_') :
    Unbroken cs rest := by
  induction cs with
  | nil => trivial
  | cons c cs ih =>
    obtain ⟨here, later⟩ := List.forall_mem_cons.mp all
    have no_underscore : c ≠ '_' := by
      rintro rfl
      rw [goes_on.underscore] at here
      cases here
    have next : ∀ d ∈ (cs ++ rest).head?, kind d ∨ d = '_' := by
      cases cs with
      | nil => exact follows
      | cons d cs => exact fun _ first => .inl (Option.some.inj first ▸ later d List.mem_cons_self)
    refine ⟨no_underscore, ?_, ih later⟩
    cases after_eq : cs ++ rest with
    | nil => rfl
    | cons d after =>
      rw [after_eq] at next
      exact goes_on.not_endsAt after here (next d rfl)

/-- No word ends inside a word of snake case before an underscore. -/
theorem IsSnakeWord.unbroken
    (spelled : IsSnakeWord word)
    (separated : ∀ d ∈ rest.head?, d = '_') :
    Unbroken word rest := by
  rcases spelled.uniform with letters | digits
  · exact goesOn_isLower.unbroken letters fun d first => .inr (separated d first)
  · exact goesOn_isDigit.unbroken digits fun d first => .inr (separated d first)

/-! ## Snake case -/

/-- The words of a name in snake case are what its underscores part. -/
theorem textWordsAfter_intercalate
    (parts_ne : parts ≠ [])
    (spelled : ∀ part ∈ parts, IsSnakeWord part) :
    textWordsAfter [] (['_'].intercalate parts) = parts := by
  induction parts with
  | nil => exact absurd rfl parts_ne
  | cons part parts ih =>
    obtain ⟨here, later⟩ := List.forall_mem_cons.mp spelled
    cases parts with
    | nil =>
      have alone : Unbroken part [] := here.unbroken nofun
      have whole := textWordsAfter_append alone []
      rw [List.append_nil] at whole
      rw [List.intercalate_singleton, whole]
      rfl
    | cons next parts =>
      have separated : ∀ d ∈ ('_' :: ['_'].intercalate (next :: parts)).head?, d = '_' :=
        fun d first => (Option.some.inj first).symm
      rw [List.intercalate_cons_cons, List.append_assoc, List.singleton_append,
        textWordsAfter_append (here.unbroken separated), List.nil_append, textWordsAfter,
        if_pos rfl, ih (List.cons_ne_nil _ _) later]

/-- The underscores between words without any tell the words apart. -/
theorem intercalate_inj
    {others : List (List Char)}
    (parts_ne : parts ≠ [])
    (others_ne : others ≠ [])
    (bare : ∀ part ∈ parts, '_' ∉ part)
    (others_bare : ∀ part ∈ others, '_' ∉ part) :
    ['_'].intercalate parts = ['_'].intercalate others ↔ parts = others := by
  refine ⟨fun same => ?_, congrArg _⟩
  have split := congrArg (List.splitOn '_') same
  rwa [List.splitOn_intercalate '_' bare parts_ne,
    List.splitOn_intercalate '_' others_bare others_ne] at split

theorem alnum_intercalate (spelled : ∀ part ∈ parts, Alnum part) :
    Alnum (['_'].intercalate parts) := by
  intro c member
  rcases mem_intercalate_singleton member with rfl | ⟨part, found, inner⟩
  · decide
  · exact spelled part found c inner

/-! ## What has a name for its snake case -/

/-- A text without `#` has no raw marks. -/
theorem dropRawMarks_of_notMem (plain : '#' ∉ cs) : dropRawMarks cs = cs := by
  unfold dropRawMarks
  split
  · simp at plain
  · rfl

theorem Alnum.dropRawMarks_eq (alnum : Alnum cs) : dropRawMarks cs = cs :=
  dropRawMarks_of_notMem fun member => absurd (alnum _ member) (by decide)

/-- The words of letters and digits in lower case are small letters alone or digits alone. -/
theorem uniform_of_mem_lowerWords
    (alnum : Alnum (dropRawMarks cs))
    (found : word ∈ lowerWords cs) :
    (∀ c ∈ word, c.isLower) ∨ ∀ c ∈ word, c.isDigit := by
  obtain ⟨part, part_found, rfl⟩ := List.mem_map.mp found
  exact (alnum.uniform_of_mem_words part_found).lower

/-- The words of what has a name for its snake case are what the underscores of the name part. -/
theorem lowerWords_eq_of_snakeChars_eq
    (alnum : Alnum (dropRawMarks cs))
    (parts_ne : parts ≠ [])
    (bare : ∀ part ∈ parts, part ≠ [] ∧ '_' ∉ part)
    (same : snakeChars cs = ['_'].intercalate parts) :
    lowerWords cs = parts := by
  obtain ⟨part, parts, rfl⟩ := List.exists_cons_of_ne_nil parts_ne
  have words_ne : lowerWords cs ≠ [] := by
    intro wordless
    have blank : snakeChars cs = [] := by
      rw [snakeChars, ← lowerWords, wordless]
      rfl
    exact intercalate_ne_nil _ (bare part List.mem_cons_self).1 parts (same.symm.trans blank)
  have words_bare : ∀ word ∈ lowerWords cs, '_' ∉ word := fun word found =>
    notMem_underscore_of_small fun c member =>
      (uniform_of_mem_lowerWords alnum found).imp (· c member) (· c member)
  exact (intercalate_inj words_ne parts_ne words_bare fun part found => (bare part found).2).mp same

/-- A name of small letters, digits and underscores that is the snake case of such a text is made of
words of snake case. -/
theorem isSnakeWord_of_snakeChars_eq
    (alnum : Alnum (dropRawMarks cs))
    (parts_ne : parts ≠ [])
    (bare : ∀ part ∈ parts, part ≠ [] ∧ '_' ∉ part)
    (same : snakeChars cs = ['_'].intercalate parts) :
    ∀ part ∈ parts, IsSnakeWord part := by
  intro part found
  have listed := found
  rw [← lowerWords_eq_of_snakeChars_eq alnum parts_ne bare same] at listed
  exact ⟨(bare part found).1, uniform_of_mem_lowerWords alnum listed⟩

theorem length_flatten_textWordsAfter_le (word cs : List Char) :
    (textWordsAfter word cs).flatten.length ≤ word.length + cs.length := by
  induction cs generalizing word with
  | nil => rw [textWordsAfter, List.flatten_singleton, List.length_nil, Nat.add_zero]
  | cons c cs ih =>
    have anew := ih []
    have longer := ih (word ++ [c])
    rw [List.length_append, List.length_singleton] at longer
    rw [List.length_nil] at anew
    rw [textWordsAfter, List.length_cons]
    split_ifs
    · rw [List.flatten_cons, List.length_append]
      omega
    · rw [List.flatten_cons, List.length_append, List.length_append, List.length_singleton]
      omega
    · omega

/-- A name has no more letters and digits than what it is the snake case of. -/
theorem length_flatten_le_of_snakeChars_eq
    (alnum : Alnum cs)
    (parts_ne : parts ≠ [])
    (bare : ∀ part ∈ parts, part ≠ [] ∧ '_' ∉ part)
    (same : snakeChars cs = ['_'].intercalate parts) :
    parts.flatten.length ≤ cs.length := by
  have plain := alnum.dropRawMarks_eq
  have alike : ((words cs).map lower).map List.length = (words cs).map List.length := by
    rw [List.map_map]
    refine List.map_congr_left fun word found => ?_
    rw [Function.comp, (alnum.of_mem_words found).lower_eq, List.length_map]
  rw [← lowerWords_eq_of_snakeChars_eq (plain.symm ▸ alnum) parts_ne bare same, lowerWords, plain,
    List.length_flatten, alike, ← List.length_flatten]
  by_cases blank : cs = []
  · rw [blank]
    rfl
  · rw [alnum.words_eq blank]
    exact (length_flatten_textWordsAfter_le [] cs).trans (by rw [List.length_nil, Nat.zero_add])

end Tablewright.Text
