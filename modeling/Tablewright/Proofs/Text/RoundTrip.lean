import Mathlib.Data.List.SplitBy
import Tablewright.Proofs.Text.SnakeWord

/-!
# Snake case of Pascal case

A name in snake case that goes through Pascal case loses its underscores, and words that then run
together are not told apart any more: numbers next to each other, and single letters next to each
other.  Its snake case has one word for each run of them.
-/

namespace Tablewright.Text

variable {c d last : Char} {cs part rest v w word : List Char} {parts run : List (List Char)}

/-! ## Words that run together -/

/-- What tells a word from its neighbours in Pascal case. -/
inductive WordKind where
  /-- Digits. -/
  | number
  /-- One letter. -/
  | letter
  /-- Several letters. -/
  | letters
  deriving DecidableEq, Repr

/-- The kind of a word of a name in snake case. -/
def kindOf (word : List Char) : WordKind :=
  if word.all Char.isDigit then .number else if word.length = 1 then .letter else .letters

/-- Two words that run together in Pascal case: numbers, or single letters. -/
def RunsOn (v w : List Char) : Prop :=
  kindOf v = kindOf w ∧ kindOf v ≠ .letters

instance : DecidableRel RunsOn := fun _ _ =>
  inferInstanceAs (Decidable (_ ∧ _))

/-- The runs of words that run together. -/
def runs (parts : List (List Char)) : List (List (List Char)) :=
  parts.splitBy fun v w => decide (RunsOn v w)

/-- Words with capitals, put together. -/
def pascalText (parts : List (List Char)) : List Char :=
  parts.flatMap capitalized

/-! ## Pascal case -/

/-- A name in snake case is not in Pascal case. -/
theorem isPascal_intercalate
    {parts : List (List Char)}
    (spelled : ∀ part ∈ parts, IsSnakeWord part) :
    isPascal (['_'].intercalate parts) = false := by
  cases parts with
  | nil => rfl
  | cons part parts =>
    have here := spelled part List.mem_cons_self
    obtain ⟨c, cs, rfl⟩ := List.exists_cons_of_ne_nil here.ne_nil
    have first : (['_'].intercalate ((c :: cs) :: parts)).head? = some c := by
      cases parts <;> rfl
    obtain ⟨more, name_eq⟩ := List.head?_eq_some_iff.mp first
    have kinds : c.isLower ∨ c.isDigit := here.small c List.mem_cons_self
    have no_capital : c.isUpper = false := by grind
    rw [name_eq, isPascal, isUpperChar, if_pos (lt_of_isAlnum (here.alnum c List.mem_cons_self)),
      no_capital, Bool.false_and]

/-- A name in snake case is put into Pascal case word by word. -/
theorem pascalChars_intercalate
    (parts_ne : parts ≠ [])
    (spelled : ∀ part ∈ parts, IsSnakeWord part) :
    pascalChars (['_'].intercalate parts) = pascalText parts := by
  have alnum : Alnum (['_'].intercalate parts) :=
    alnum_intercalate fun part found => (spelled part found).alnum
  have name_ne : ['_'].intercalate parts ≠ [] := by
    obtain ⟨part, parts, rfl⟩ := List.exists_cons_of_ne_nil parts_ne
    exact intercalate_ne_nil _ (spelled part List.mem_cons_self).ne_nil parts
  rw [pascalChars, isPascal_intercalate spelled, if_neg Bool.false_ne_true, alnum.words_eq name_ne,
    textWordsAfter_intercalate parts_ne spelled, pascalText]

theorem capitalized_of_isDigit (digits : ∀ c ∈ word, c.isDigit) : capitalized word = word := by
  cases word with
  | nil => rfl
  | cons c cs =>
    obtain ⟨here, later⟩ := List.forall_mem_cons.mp digits
    have alnum : Alnum cs := fun d member => isAlnum_of_isDigit (later d member)
    rw [capitalized, upperChar, if_pos (lt_of_isAlnum (isAlnum_of_isDigit here)),
      toUpper_of_isDigit here, alnum.lower_eq,
      List.map_congr_left fun d member => toLower_of_isDigit (later d member), List.map_id']
    rfl

theorem capitalized_of_isLower (letters : ∀ d ∈ c :: cs, d.isLower) :
    capitalized (c :: cs) = c.toUpper :: cs := by
  obtain ⟨here, later⟩ := List.forall_mem_cons.mp letters
  have alnum : Alnum cs := fun d member => isAlnum_of_isLower (later d member)
  rw [capitalized, upperChar, if_pos (lt_of_isAlnum (isAlnum_of_isLower here)), alnum.lower_eq,
    List.map_congr_left fun d member => toLower_of_isLower (later d member), List.map_id']
  rfl

/-- The last character of a word with a capital. -/
def EndsAs : WordKind → Char → Prop
  | .number, c => c.isDigit
  | .letter, c => c.isUpper
  | .letters, c => c.isLower

theorem EndsAs.ne_underscore
    {kind : WordKind}
    (ends : EndsAs kind c) :
    c ≠ '_' := by
  cases kind with
  | number => exact (of_isDigit ends).2.2
  | letter => exact (of_isUpper ends).2.2
  | letters => exact (of_isLower ends).2.2

/-- The first characters of a word with a capital. -/
def BeginsAs : WordKind → List Char → Prop
  | .number, cs => ∃ c after, cs = c :: after ∧ c.isDigit
  | .letter, cs => ∃ c, cs = [c] ∧ c.isUpper
  | .letters, cs => ∃ c d after, cs = c :: d :: after ∧ c.isUpper ∧ d.isLower

theorem BeginsAs.exists_cons
    {kind : WordKind}
    (begins : BeginsAs kind cs) :
    ∃ c after, cs = c :: after ∧ c.isLower = false := by
  cases kind with
  | number =>
    obtain ⟨c, after, rfl, digit⟩ := begins
    exact ⟨c, after, rfl, (of_isDigit digit).1⟩
  | letter =>
    obtain ⟨c, rfl, capital⟩ := begins
    exact ⟨c, [], rfl, (of_isUpper capital).1⟩
  | letters =>
    obtain ⟨c, d, after, rfl, capital, -⟩ := begins
    exact ⟨c, d :: after, rfl, (of_isUpper capital).1⟩

/-- A small letter goes on with the word that a capital begins. -/
theorem endsAt_of_isUpper_of_isLower
    (capital : c.isUpper)
    (small : d.isLower)
    (after : List Char) :
    endsAt c (d :: after) = false := by
  simp only [endsAt]
  grind

/-- What kinds of words there are. -/
theorem IsSnakeWord.kind_cases (spelled : IsSnakeWord word) :
    (kindOf word = .number ∧ ∀ c ∈ word, c.isDigit) ∨
    (kindOf word = .letter ∧ ∃ c, word = [c] ∧ c.isLower) ∨
    (kindOf word = .letters ∧ ∃ c d more, word = c :: d :: more ∧ ∀ c ∈ word, c.isLower) := by
  by_cases digits : ∀ c ∈ word, c.isDigit
  · exact .inl ⟨if_pos (List.all_eq_true.mpr digits), digits⟩
  have no_number : ¬ word.all Char.isDigit := mt List.all_eq_true.mp digits
  have letters := spelled.uniform.resolve_right digits
  rw [kindOf, if_neg no_number]
  match word, spelled.ne_nil with
  | [c], _ => exact .inr (.inl ⟨rfl, c, rfl, letters c List.mem_cons_self⟩)
  | c :: d :: more, _ => exact .inr (.inr ⟨rfl, c, d, more, rfl, letters⟩)

theorem IsSnakeWord.beginsAs (spelled : IsSnakeWord word) :
    BeginsAs (kindOf word) (capitalized word) := by
  rcases spelled.kind_cases with ⟨kind, digits⟩ | ⟨kind, c, rfl, small⟩ |
    ⟨kind, c, d, more, rfl, letters⟩
  · obtain ⟨c, cs, rfl⟩ := List.exists_cons_of_ne_nil spelled.ne_nil
    rw [kind, capitalized_of_isDigit digits]
    exact ⟨c, cs, rfl, digits c List.mem_cons_self⟩
  · rw [kind, capitalized_of_isLower (List.forall_mem_singleton.mpr small)]
    exact ⟨_, rfl, isUpper_toUpper small⟩
  · obtain ⟨here, later⟩ := List.forall_mem_cons.mp letters
    rw [kind, capitalized_of_isLower letters]
    exact ⟨_, d, more, rfl, isUpper_toUpper here, later d List.mem_cons_self⟩

/-- No word ends in a word with a capital before its last character. -/
theorem IsSnakeWord.exists_capitalized_eq_append (spelled : IsSnakeWord word) :
    ∃ init last, capitalized word = init ++ [last] ∧ EndsAs (kindOf word) last ∧
      ∀ more, Unbroken init (last :: more) := by
  rcases spelled.kind_cases with ⟨kind, digits⟩ | ⟨kind, c, rfl, small⟩ |
    ⟨kind, c, d, more, rfl, letters⟩
  · rw [kind, capitalized_of_isDigit digits]
    obtain ⟨init, last, rfl⟩ := (List.eq_nil_or_concat' word).resolve_left spelled.ne_nil
    obtain ⟨init_digits, last_digit⟩ := List.forall_mem_append.mp digits
    have digit : last.isDigit := last_digit last (List.mem_singleton_self last)
    refine ⟨init, last, rfl, digit, fun more => ?_⟩
    exact goesOn_isDigit.unbroken init_digits fun _ first => .inl (Option.some.inj first ▸ digit)
  · rw [kind, capitalized_of_isLower (List.forall_mem_singleton.mpr small)]
    exact ⟨[], _, rfl, isUpper_toUpper small, fun _ => trivial⟩
  · obtain ⟨here, later⟩ := List.forall_mem_cons.mp letters
    obtain ⟨init, last, tail_eq⟩ :=
      (List.eq_nil_or_concat' (d :: more)).resolve_left (List.cons_ne_nil d more)
    rw [kind, capitalized_of_isLower letters]
    rw [tail_eq] at later ⊢
    obtain ⟨init_letters, last_letter⟩ := List.forall_mem_append.mp later
    have small : last.isLower := last_letter last (List.mem_singleton_self last)
    have unbroken (rest : List Char) : Unbroken init (last :: rest) :=
      goesOn_isLower.unbroken init_letters fun _ first => .inl (Option.some.inj first ▸ small)
    refine ⟨c.toUpper :: init, last, rfl, small, fun rest => ⟨?_, ?_, unbroken rest⟩⟩
    · exact (of_isUpper (isUpper_toUpper here)).2.2
    · have small_next : ∀ e ∈ (init ++ last :: rest).head?, e.isLower := by
        cases init with
        | nil => exact fun _ first => Option.some.inj first ▸ small
        | cons e init =>
          exact fun _ first => Option.some.inj first ▸ init_letters e List.mem_cons_self
      obtain ⟨e, after, rest_eq⟩ := List.exists_cons_of_ne_nil
        (List.append_ne_nil_of_right_ne_nil init (List.cons_ne_nil last rest))
      rw [rest_eq] at small_next ⊢
      exact endsAt_of_isUpper_of_isLower (isUpper_toUpper here) (small_next e rfl) after

/-- Behind a word with a capital a word ends unless the next word runs on with it. -/
theorem endsAt_append
    {kind next : WordKind}
    (ends : EndsAs kind last)
    (begins : BeginsAs next cs)
    (no_letter : ∀ c ∈ rest.head?, c.isLower = false) :
    endsAt last (cs ++ rest) = decide (¬ (kind = next ∧ kind ≠ .letters)) := by
  cases next with
  | number =>
    obtain ⟨c, after, rfl, digit⟩ := begins
    cases kind <;> simp only [EndsAs] at ends <;> simp only [List.cons_append, endsAt] <;> grind
  | letter =>
    obtain ⟨c, rfl, capital⟩ := begins
    have no_acronym : (rest.head?.map Char.isLower).getD false = false := by
      cases rest with
      | nil => rfl
      | cons d rest => exact no_letter d rfl
    rw [List.singleton_append, endsAt, no_acronym]
    cases kind <;> simp only [EndsAs] at ends <;> grind
  | letters =>
    obtain ⟨c, d, after, rfl, capital, small⟩ := begins
    have acronym : (((d :: after) ++ rest).head?.map Char.isLower).getD false = true := small
    rw [List.cons_append, endsAt, acronym]
    cases kind <;> simp only [EndsAs] at ends <;> grind

/-- No small letter begins words with capitals. -/
theorem head?_pascalText
    (spelled : ∀ part ∈ parts, IsSnakeWord part) :
    ∀ c ∈ (pascalText parts).head?, c.isLower = false := by
  cases parts with
  | nil => exact nofun
  | cons part parts =>
    obtain ⟨c, after, word_eq, no_letter⟩ :=
      (spelled part List.mem_cons_self).beginsAs.exists_cons
    rw [pascalText, List.flatMap_cons, word_eq]
    exact fun _ first => Option.some.inj first ▸ no_letter

/-- Behind a word with a capital a word ends unless the next one runs on with it. -/
theorem textWordsAfter_pascalText
    (spelled : ∀ part ∈ v :: w :: parts, IsSnakeWord part)
    (word : List Char) :
    textWordsAfter word (pascalText (v :: w :: parts)) =
      if RunsOn v w then textWordsAfter (word ++ capitalized v) (pascalText (w :: parts))
      else (word ++ capitalized v) :: textWordsAfter [] (pascalText (w :: parts)) := by
  obtain ⟨v_spelled, w_spelled, spelled⟩ :
      IsSnakeWord v ∧ IsSnakeWord w ∧ ∀ part ∈ parts, IsSnakeWord part := by
    simpa using spelled
  obtain ⟨init, last, capitalized_eq, ends, unbroken⟩ := v_spelled.exists_capitalized_eq_append
  have ends_unless : endsAt last (pascalText (w :: parts)) = decide (¬ RunsOn v w) :=
    endsAt_append ends w_spelled.beginsAs (head?_pascalText spelled)
  have no_underscore := ends.ne_underscore
  rw [pascalText, List.flatMap_cons, ← pascalText, capitalized_eq, List.append_assoc,
    List.singleton_append, textWordsAfter_append (unbroken _), textWordsAfter,
    if_neg no_underscore, ends_unless, List.append_assoc]
  by_cases runs_on : RunsOn v w
  · rw [if_pos runs_on, if_neg (by simpa using runs_on)]
  · rw [if_neg runs_on, if_pos (by simpa using runs_on)]

/-- A single word with a capital goes to the open word. -/
theorem textWordsAfter_capitalized
    (spelled : IsSnakeWord v)
    (word : List Char) :
    textWordsAfter word (capitalized v) = [word ++ capitalized v] := by
  obtain ⟨init, last, capitalized_eq, ends, unbroken⟩ := spelled.exists_capitalized_eq_append
  rw [capitalized_eq, textWordsAfter_append (unbroken []), textWordsAfter,
    if_neg ends.ne_underscore, List.append_assoc]
  rfl

theorem mem_of_mem_runs
    (found : run ∈ runs parts)
    (inner : part ∈ run) :
    part ∈ parts := by
  rw [← List.flatten_splitBy (fun v w => decide (RunsOn v w)) parts]
  exact List.mem_flatten_of_mem found inner

theorem runs_of_isChain
    (run_ne : run ≠ [])
    (together : run.IsChain RunsOn) :
    runs run = [run] :=
  List.splitBy_of_isChain run_ne (together.imp fun _ _ => decide_eq_true)

theorem pascalText_snoc
    (run : List (List Char))
    (v : List Char) :
    pascalText (run ++ [v]) = pascalText run ++ capitalized v := by
  rw [pascalText, List.flatMap_append, List.flatMap_singleton, ← pascalText]

/-- Words with capitals are read as one word for each run of them, the first run being the one that
is open. -/
theorem textWordsAfter_pascalText_run
    (spelled : ∀ part ∈ v :: parts, IsSnakeWord part)
    (together : (run ++ [v]).IsChain RunsOn) :
    textWordsAfter (pascalText run) (pascalText (v :: parts)) =
      (runs (run ++ v :: parts)).map pascalText := by
  induction parts generalizing run v with
  | nil =>
    have alone : pascalText [v] = capitalized v := List.flatMap_singleton capitalized v
    rw [alone, textWordsAfter_capitalized (spelled v List.mem_cons_self), ← pascalText_snoc,
      runs_of_isChain (List.append_ne_nil_of_right_ne_nil run (List.cons_ne_nil v [])) together]
    rfl
  | cons w parts ih =>
    have later := (List.forall_mem_cons.mp spelled).2
    have opened : run ++ v :: w :: parts = run ++ [v] ++ w :: parts := List.append_cons ..
    rw [textWordsAfter_pascalText spelled, ← pascalText_snoc, opened]
    split
    · next runs_on =>
      refine ih later (List.isChain_append.mpr ⟨together, List.isChain_singleton w, ?_⟩)
      intro last last_found first first_found
      rw [List.getLast?_concat] at last_found
      rwa [← Option.some.inj last_found, ← Option.some.inj first_found]
    · next apart =>
      have alone : ([] ++ [w]).IsChain RunsOn := List.isChain_singleton w
      have anew := ih later alone
      have parted : ∀ last ∈ (run ++ [v]).getLast?, ∀ first ∈ (w :: parts).head?,
          decide (RunsOn last first) = false := by
        intro last last_found first first_found
        rw [List.getLast?_concat] at last_found
        rw [← Option.some.inj last_found, ← Option.some.inj first_found]
        exact decide_eq_false apart
      rw [runs, List.splitBy_append parted, ← runs, ← runs,
        runs_of_isChain (List.append_ne_nil_of_right_ne_nil run (List.cons_ne_nil v [])) together,
        List.map_append]
      exact congrArg (_ :: ·) anew

theorem Alnum.pascalText (spelled : ∀ part ∈ parts, Alnum part) :
    Alnum (Text.pascalText parts) := by
  intro c member
  obtain ⟨part, found, inner⟩ := List.mem_flatMap.mp member
  exact (spelled part found).capitalized c inner

/-- The words of a name in Pascal case are the runs of the words that it is made of. -/
theorem words_pascalText
    (parts_ne : parts ≠ [])
    (spelled : ∀ part ∈ parts, IsSnakeWord part) :
    words (pascalText parts) = (runs parts).map pascalText := by
  have alnum : Alnum (pascalText parts) :=
    .pascalText fun part found => (spelled part found).alnum
  obtain ⟨v, parts, rfl⟩ := List.exists_cons_of_ne_nil parts_ne
  have text_ne : pascalText (v :: parts) ≠ [] := by
    obtain ⟨init, last, capitalized_eq, -⟩ :=
      (spelled v List.mem_cons_self).exists_capitalized_eq_append
    rw [pascalText, List.flatMap_cons, capitalized_eq]
    simp
  rw [alnum.words_eq text_ne]
  have alone : ([] ++ [v]).IsChain RunsOn := List.isChain_singleton v
  exact textWordsAfter_pascalText_run spelled alone

/-! ## Back in snake case -/

/-- The capital of a word becomes the small letter again that it was. -/
theorem IsSnakeWord.toLower_capitalized (spelled : IsSnakeWord word) :
    (capitalized word).map Char.toLower = word := by
  obtain ⟨c, cs, rfl⟩ := List.exists_cons_of_ne_nil spelled.ne_nil
  rcases spelled.uniform with letters | digits
  · obtain ⟨here, later⟩ := List.forall_mem_cons.mp letters
    rw [capitalized_of_isLower letters, List.map_cons, toLower_toUpper here,
      List.map_congr_left fun d member => toLower_of_isLower (later d member), List.map_id']
  · rw [capitalized_of_isDigit digits,
      List.map_congr_left fun d member => toLower_of_isDigit (digits d member), List.map_id']

theorem length_pascalText (spelled : ∀ part ∈ parts, IsSnakeWord part) :
    (pascalText parts).length = parts.flatten.length := by
  have alike : parts.map (List.length ∘ capitalized) = parts.map List.length := by
    refine List.map_congr_left fun part found => ?_
    conv_rhs => rw [← (spelled part found).toLower_capitalized, List.length_map]
    rfl
  rw [pascalText, List.length_flatMap, ← Function.comp_def, alike, List.length_flatten]

theorem lower_pascalText (spelled : ∀ part ∈ parts, IsSnakeWord part) :
    lower (pascalText parts) = parts.flatten := by
  have alnum : Alnum (pascalText parts) :=
    .pascalText fun part found => (spelled part found).alnum
  rw [alnum.lower_eq, pascalText, List.map_flatMap,
    List.flatMap_congr fun part found => (spelled part found).toLower_capitalized,
    List.flatMap_id']

/-- A name that goes from snake case to Pascal case and back has one word for each run of its
words. -/
theorem snakeChars_pascalText
    (parts_ne : parts ≠ [])
    (spelled : ∀ part ∈ parts, IsSnakeWord part) :
    snakeChars (pascalText parts) = ['_'].intercalate ((runs parts).map List.flatten) := by
  have alnum : Alnum (pascalText parts) :=
    .pascalText fun part found => (spelled part found).alnum
  have lowered : (runs parts).map (lower ∘ pascalText) = (runs parts).map List.flatten :=
    List.map_congr_left fun run found =>
      lower_pascalText fun part inner => spelled part (mem_of_mem_runs found inner)
  rw [snakeChars, alnum.dropRawMarks_eq, words_pascalText parts_ne spelled, List.map_map,
    lowered]

/-- A word in a text that is a number or a single letter is of the same kind. -/
theorem kindOf_eq_of_sublist
    (sublist : part.Sublist cs)
    (part_ne : part ≠ [])
    (kind : kindOf cs ≠ .letters) :
    kindOf part = kindOf cs := by
  by_cases digits : cs.all Char.isDigit
  · have part_digits : part.all Char.isDigit :=
      List.all_eq_true.mpr fun c member => List.all_eq_true.mp digits c (sublist.subset member)
    rw [kindOf, kindOf, if_pos digits, if_pos part_digits]
  · have single : cs.length = 1 := by
      by_contra several
      exact kind (by rw [kindOf, if_neg digits, if_neg several])
    have whole : part.length = cs.length :=
      Nat.le_antisymm sublist.length_le (single ▸ List.length_pos_iff.mpr part_ne)
    rw [sublist.eq_of_length whole]

/-- The words that come back do not run together. -/
theorem isChain_map_flatten_runs (spelled : ∀ part ∈ parts, IsSnakeWord part) :
    ((runs parts).map List.flatten).IsChain fun v w => ¬ RunsOn v w := by
  have word_ne : ∀ {run : List (List Char)} {part : List Char},
      run ∈ runs parts → part ∈ run → part ≠ [] := fun found inner =>
    (spelled _ (mem_of_mem_runs found inner)).ne_nil
  have parted := List.isChain_getLast_head_splitBy (fun v w => decide (RunsOn v w)) parts
  rw [List.isChain_map]
  refine parted.imp_of_mem_imp ?_
  rintro before after found_before found_after ⟨before_ne, after_ne, apart⟩ ⟨same, kind⟩
  -- The words where the runs meet are of the kinds of the runs, if these are of one kind.
  have last_found := List.getLast_mem before_ne
  have first_found := List.head_mem after_ne
  have last_kind := kindOf_eq_of_sublist (List.sublist_flatten_of_mem last_found)
    (word_ne found_before last_found) kind
  have first_kind := kindOf_eq_of_sublist (List.sublist_flatten_of_mem first_found)
    (word_ne found_after first_found) (same ▸ kind)
  refine of_decide_eq_false apart ⟨?_, ?_⟩
  · rw [last_kind, first_kind, same]
  · rwa [last_kind]

theorem runs_of_isChain_not (apart : parts.IsChain fun v w => ¬ RunsOn v w) :
    runs parts = parts.map ([·]) := by
  rw [runs, List.splitBy_eq_iff]
  refine ⟨(List.flatMap_singleton' parts).symm, ?_, ?_, ?_⟩
  · simp
  · intro run found
    obtain ⟨part, -, rfl⟩ := List.mem_map.mp found
    exact List.isChain_singleton part
  · rw [List.isChain_map]
    exact apart.imp fun v w apart =>
      ⟨List.cons_ne_nil v [], List.cons_ne_nil w [], decide_eq_false apart⟩

/-- It comes back as it was exactly if no words of it run together. -/
theorem snakeChars_pascalText_eq_iff
    (parts_ne : parts ≠ [])
    (spelled : ∀ part ∈ parts, IsSnakeWord part) :
    snakeChars (pascalText parts) = ['_'].intercalate parts ↔
      parts.IsChain fun v w => ¬ RunsOn v w := by
  have runs_ne : (runs parts).map List.flatten ≠ [] := by
    rw [Ne, List.map_eq_nil_iff]
    exact List.splitBy_ne_nil.mpr parts_ne
  have runs_bare : ∀ word ∈ (runs parts).map List.flatten, '_' ∉ word := by
    intro word found member
    obtain ⟨run, run_found, rfl⟩ := List.mem_map.mp found
    obtain ⟨part, inner, member⟩ := List.mem_flatten.mp member
    exact (spelled part (mem_of_mem_runs run_found inner)).notMem_underscore member
  rw [snakeChars_pascalText parts_ne spelled, intercalate_inj runs_ne parts_ne runs_bare
    fun part found => (spelled part found).notMem_underscore]
  constructor
  · intro same
    rw [← same]
    exact isChain_map_flatten_runs spelled
  · intro apart
    rw [runs_of_isChain_not apart, List.map_map]
    exact (List.map_congr_left fun part _ => List.flatten_singleton).trans (List.map_id' parts)

/-- A name of small letters, digits and single underscores comes back from Pascal case as it was
exactly if none of its words mixes letters and digits and no words of it run together. -/
theorem snakeChars_pascalChars_eq_iff
    (parts_ne : parts ≠ [])
    (small : ∀ part ∈ parts, part ≠ [] ∧ ∀ c ∈ part, c.isLower ∨ c.isDigit) :
    snakeChars (pascalChars (['_'].intercalate parts)) = ['_'].intercalate parts ↔
      (∀ part ∈ parts, IsSnakeWord part) ∧ parts.IsChain fun v w => ¬ RunsOn v w := by
  have alnum : Alnum (['_'].intercalate parts) :=
    alnum_intercalate fun part found => alnum_of_small (small part found).2
  have bare : ∀ part ∈ parts, part ≠ [] ∧ '_' ∉ part := fun part found =>
    (small part found).imp_right notMem_underscore_of_small
  constructor
  · intro same
    have unmarked : Alnum (dropRawMarks (pascalChars (['_'].intercalate parts))) :=
      alnum.pascalChars.of_subset fun _ member => mem_of_mem_dropRawMarks member
    have spelled := isSnakeWord_of_snakeChars_eq unmarked parts_ne bare same
    rw [pascalChars_intercalate parts_ne spelled] at same
    exact ⟨spelled, (snakeChars_pascalText_eq_iff parts_ne spelled).mp same⟩
  · rintro ⟨spelled, apart⟩
    rw [pascalChars_intercalate parts_ne spelled]
    exact (snakeChars_pascalText_eq_iff parts_ne spelled).mpr apart

end Tablewright.Text
