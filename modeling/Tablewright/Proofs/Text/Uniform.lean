import Tablewright.Proofs.Text.Alnum

/-!
# Words of letters and digits

A text of letters, digits and underscores is cut into words character by character, and a letter and
a digit never share a word.
-/

namespace Tablewright.Text

variable {c d : Char} {cs word part : List Char}

/-! ## Characters -/

/-- What a character of such a text is: a small letter, a capital, a digit or an underscore. -/
theorem kind_cases (alnum : isAlnum c) :
    (c.isLower = true ∧ c.isUpper = false ∧ c.isDigit = false ∧ c ≠ '_') ∨
    (c.isLower = false ∧ c.isUpper = true ∧ c.isDigit = false ∧ c ≠ '_') ∨
    (c.isLower = false ∧ c.isUpper = false ∧ c.isDigit = true ∧ c ≠ '_') ∨
    (c.isLower = false ∧ c.isUpper = false ∧ c.isDigit = false ∧ c = '_') :=
  of_isAlnum_of_table
    (fun c =>
      (c.isLower = true ∧ c.isUpper = false ∧ c.isDigit = false ∧ c ≠ '_') ∨
      (c.isLower = false ∧ c.isUpper = true ∧ c.isDigit = false ∧ c ≠ '_') ∨
      (c.isLower = false ∧ c.isUpper = false ∧ c.isDigit = true ∧ c ≠ '_') ∨
      (c.isLower = false ∧ c.isUpper = false ∧ c.isDigit = false ∧ c = '_'))
    (by decide +kernel) alnum

theorem isAlpha_eq (c : Char) : c.isAlpha = (c.isUpper || c.isLower) :=
  rfl

theorem isAlnum_of_isLower (small : c.isLower) : isAlnum c := by
  simp [isAlnum, Char.isAlphanum, isAlpha_eq, small]

theorem isAlnum_of_isUpper (capital : c.isUpper) : isAlnum c := by
  simp [isAlnum, Char.isAlphanum, isAlpha_eq, capital]

@[grind →] theorem of_isLower (small : c.isLower) :
    c.isUpper = false ∧ c.isDigit = false ∧ c ≠ '_' := by
  rcases kind_cases (isAlnum_of_isLower small) with kinds | kinds | kinds | kinds <;> grind

@[grind →] theorem of_isUpper (capital : c.isUpper) :
    c.isLower = false ∧ c.isDigit = false ∧ c ≠ '_' := by
  rcases kind_cases (isAlnum_of_isUpper capital) with kinds | kinds | kinds | kinds <;> grind

@[grind →] theorem of_isDigit (digit : c.isDigit) :
    c.isLower = false ∧ c.isUpper = false ∧ c ≠ '_' := by
  rcases kind_cases (isAlnum_of_isDigit digit) with kinds | kinds | kinds | kinds <;> grind

/-- Letters, digits and underscores are no control characters, no marks and no signs, and as
clusters they are what they are as characters. -/
theorem cluster_of_isAlnum (alnum : isAlnum c) :
    (isControl c = false ∧ isMark c = false ∧ isPrepended c = false ∧ c ≠ joiner) ∧
      isLowerCluster [c] = c.isLower ∧ isUpperCluster [c] = c.isUpper ∧
      isSeparator [c] = decide (c = '_') :=
  of_isAlnum_of_table
    (fun c =>
      (isControl c = false ∧ isMark c = false ∧ isPrepended c = false ∧ c ≠ joiner) ∧
        isLowerCluster [c] = c.isLower ∧ isUpperCluster [c] = c.isUpper ∧
        isSeparator [c] = decide (c = '_'))
    (by decide +kernel) alnum

/-- Letters, digits and underscores are clusters of their own. -/
theorem clustersAfter_of_alnum
    (alnum : isAlnum c)
    (rest_alnum : Alnum cs) :
    clustersAfter [c] cs = [c] :: cs.map ([·]) := by
  induction cs generalizing c with
  | nil => rfl
  | cons d cs ih =>
    obtain ⟨next_alnum, rest_alnum⟩ := List.forall_mem_cons.mp rest_alnum
    obtain ⟨⟨no_control, -, no_sign, no_joiner⟩, -⟩ := cluster_of_isAlnum alnum
    obtain ⟨⟨no_control_next, no_mark, -⟩, -⟩ := cluster_of_isAlnum next_alnum
    have apart : continues [c] d = false := by
      simp [continues, no_control, no_control_next, no_mark, no_sign, no_joiner]
    rw [clustersAfter, apart, if_neg Bool.false_ne_true, ih next_alnum rest_alnum]
    rfl

theorem Alnum.clusters_eq (alnum : Alnum cs) : clusters cs = cs.map ([·]) := by
  cases cs with
  | nil => rfl
  | cons c cs =>
    obtain ⟨here, later⟩ := List.forall_mem_cons.mp alnum
    exact clustersAfter_of_alnum here later

theorem isLowerCluster_singleton (alnum : isAlnum c) : isLowerCluster [c] = c.isLower :=
  (cluster_of_isAlnum alnum).2.1

theorem isUpperCluster_singleton (alnum : isAlnum c) : isUpperCluster [c] = c.isUpper :=
  (cluster_of_isAlnum alnum).2.2.1

theorem isSeparator_singleton (alnum : isAlnum c) : isSeparator [c] = decide (c = '_') :=
  (cluster_of_isAlnum alnum).2.2.2

theorem isDigitCluster_singleton (c : Char) : isDigitCluster [c] = c.isDigit := by
  rw [isDigitCluster, List.all_cons, List.all_nil, Bool.and_true]

/-! ## Ends of words -/

/-- Whether a word ends behind a letter or digit, given the characters after it. -/
def endsAt (c : Char) : List Char → Bool
  | [] => false
  | d :: after =>
    (c.isLower && d.isUpper) || (c.isLower && d.isDigit) || (c.isUpper && d.isDigit) ||
      (c.isDigit && d.isLower) || (c.isDigit && d.isUpper) ||
      (c.isUpper && d.isUpper && (after.head?.map Char.isLower).getD false)

theorem endsWord_eq_endsAt
    (alnum : isAlnum c)
    (after_alnum : Alnum cs) :
    endsWord [c] (cs.map ([·])) = endsAt c cs := by
  cases cs with
  | nil => rfl
  | cons d cs =>
    obtain ⟨next_alnum, after_alnum⟩ := List.forall_mem_cons.mp after_alnum
    have small_next : (((cs.map ([·])).head?.map isLowerCluster).getD false) =
        (cs.head?.map Char.isLower).getD false := by
      cases cs with
      | nil => rfl
      | cons e cs => exact isLowerCluster_singleton (after_alnum e List.mem_cons_self)
    simp only [List.map_cons, endsWord, endsAt, isLowerCluster_singleton alnum,
      isUpperCluster_singleton alnum, isDigitCluster_singleton, isLowerCluster_singleton next_alnum,
      isUpperCluster_singleton next_alnum, small_next]

/-- Words of the characters that follow the open word given. -/
def textWordsAfter (word : List Char) : List Char → List (List Char)
  | [] => [word]
  | c :: rest =>
    if c = '_' then word :: textWordsAfter [] rest
    else if endsAt c rest then (word ++ [c]) :: textWordsAfter [] rest
    else textWordsAfter (word ++ [c]) rest

theorem wordsAfter_eq_textWordsAfter
    (alnum : Alnum cs)
    (word : List Char) :
    wordsAfter word (cs.map ([·])) = textWordsAfter word cs := by
  induction cs generalizing word with
  | nil => rfl
  | cons c cs ih =>
    obtain ⟨here, later⟩ := List.forall_mem_cons.mp alnum
    rw [List.map_cons, wordsAfter, textWordsAfter, isSeparator_singleton here,
      endsWord_eq_endsAt here later, ih later, ih later]
    simp only [decide_eq_true_iff]

/-- A text of letters, digits and underscores is cut into words character by character. -/
theorem Alnum.words_eq
    (alnum : Alnum cs)
    (cs_ne : cs ≠ []) :
    words cs = textWordsAfter [] cs := by
  rw [words, if_neg (by simpa using cs_ne), alnum.clusters_eq, wordsAfter_eq_textWordsAfter alnum]

/-! ## Letters and digits -/

/-- A text of letters alone or of digits alone. -/
def Uniform (cs : List Char) : Prop :=
  (∀ c ∈ cs, c.isAlpha) ∨ ∀ c ∈ cs, c.isDigit

theorem uniform_nil : Uniform [] :=
  .inl nofun

/-- Where no word ends, letters follow letters and digits follow digits. -/
theorem isAlpha_eq_and_isDigit_eq
    {after : List Char}
    (goes_on : endsAt c (d :: after) = false)
    (alnum : isAlnum c)
    (next_alnum : isAlnum d)
    (no_underscore : c ≠ '_')
    (no_underscore_next : d ≠ '_') :
    c.isAlpha = d.isAlpha ∧ c.isDigit = d.isDigit := by
  have kinds := kind_cases alnum
  have next_kinds := kind_cases next_alnum
  simp only [endsAt, isAlpha_eq] at goes_on ⊢
  grind

theorem Uniform.snoc
    (uniform : Uniform (word ++ [c]))
    (same : c.isAlpha = d.isAlpha ∧ c.isDigit = d.isDigit) :
    Uniform (word ++ [c] ++ [d]) := by
  have last : c ∈ word ++ [c] := List.mem_append_right word (List.mem_singleton_self c)
  refine uniform.imp (fun letters => ?_) fun digits => ?_
  · refine List.forall_mem_append.mpr ⟨letters, List.forall_mem_singleton.mpr ?_⟩
    rw [← same.1, letters c last]
  · refine List.forall_mem_append.mpr ⟨digits, List.forall_mem_singleton.mpr ?_⟩
    rw [← same.2, digits c last]

theorem uniform_singleton
    (alnum : isAlnum c)
    (no_underscore : c ≠ '_') :
    Uniform [c] := by
  have kinds : c.isAlpha ∨ c.isDigit := by
    simpa [isAlnum, Char.isAlphanum, no_underscore] using alnum
  exact kinds.imp List.forall_mem_singleton.mpr List.forall_mem_singleton.mpr

/-- The open word is uniform, and stays so with the next character if that belongs to it. -/
theorem uniform_of_mem_textWordsAfter
    (alnum : Alnum cs)
    (uniform : Uniform word)
    (goes_on : ∀ c ∈ cs.head?, c ≠ '_' → Uniform (word ++ [c]))
    (member : part ∈ textWordsAfter word cs) :
    Uniform part := by
  induction cs generalizing word with
  | nil => exact List.mem_singleton.mp member ▸ uniform
  | cons c cs ih =>
    obtain ⟨here, later⟩ := List.forall_mem_cons.mp alnum
    have anew : ∀ d ∈ cs.head?, d ≠ '_' → Uniform ([] ++ [d]) := fun d first =>
      uniform_singleton (later d (List.mem_of_mem_head? first))
    rw [textWordsAfter] at member
    split at member
    · rcases List.mem_cons.mp member with rfl | member
      · exact uniform
      · exact ih later uniform_nil anew member
    · next no_underscore =>
      have longer : Uniform (word ++ [c]) := goes_on c rfl no_underscore
      split at member
      · rcases List.mem_cons.mp member with rfl | member
        · exact longer
        · exact ih later uniform_nil anew member
      · next no_end =>
        refine ih later longer (fun d first no_underscore_next => ?_) member
        obtain ⟨after, rfl⟩ := List.head?_eq_some_iff.mp first
        exact longer.snoc (isAlpha_eq_and_isDigit_eq (Bool.eq_false_iff.mpr no_end) here
          (later d List.mem_cons_self) no_underscore no_underscore_next)

/-- A letter and a digit never share a word. -/
theorem Alnum.uniform_of_mem_words
    (alnum : Alnum cs)
    (member : word ∈ words cs) :
    Uniform word := by
  by_cases blank : cs = []
  · subst blank
    cases member
  · rw [alnum.words_eq blank] at member
    exact uniform_of_mem_textWordsAfter alnum uniform_nil
      (fun c first => uniform_singleton (alnum c (List.mem_of_mem_head? first))) member

/-! ## Case -/

theorem Uniform.alnum (uniform : Uniform cs) : Alnum cs := by
  intro c member
  rw [isAlnum, Char.isAlphanum]
  rcases uniform with letters | digits
  · rw [letters c member]
    rfl
  · rw [digits c member, Bool.or_true]
    rfl

/-- Lower case of letters and digits is that of each. -/
theorem Alnum.lowerAfter_eq
    (alnum : Alnum cs)
    (before : List Char) :
    Text.lowerAfter before cs = cs.map Char.toLower := by
  induction cs generalizing before with
  | nil => rfl
  | cons c cs ih =>
    obtain ⟨here, later⟩ := List.forall_mem_cons.mp alnum
    have small := lt_of_isAlnum here
    have no_sigma : c ≠ 'Σ' := by
      rintro rfl
      exact absurd small (by decide)
    rw [Text.lowerAfter, if_neg no_sigma, lowerChar, if_pos small, ih later]
    rfl

theorem Alnum.lower_eq (alnum : Alnum cs) : lower cs = cs.map Char.toLower :=
  alnum.lowerAfter_eq []

/-- What the case maps make of digits, of small letters and of letters. -/
theorem case_of_isAlnum (alnum : isAlnum c) :
    (c.isDigit → c.toLower = c ∧ c.toUpper = c) ∧
      (c.isLower → c.toLower = c ∧ c.toUpper.isUpper ∧ c.toUpper.toLower = c) ∧
      (c.isAlpha → c.toLower.isLower) :=
  of_isAlnum_of_table
    (fun c =>
      (c.isDigit → c.toLower = c ∧ c.toUpper = c) ∧
        (c.isLower → c.toLower = c ∧ c.toUpper.isUpper ∧ c.toUpper.toLower = c) ∧
        (c.isAlpha → c.toLower.isLower))
    (by decide +kernel) alnum

theorem toLower_of_isDigit (digit : c.isDigit) : c.toLower = c :=
  ((case_of_isAlnum (isAlnum_of_isDigit digit)).1 digit).1

theorem toUpper_of_isDigit (digit : c.isDigit) : c.toUpper = c :=
  ((case_of_isAlnum (isAlnum_of_isDigit digit)).1 digit).2

theorem toLower_of_isLower (small : c.isLower) : c.toLower = c :=
  ((case_of_isAlnum (isAlnum_of_isLower small)).2.1 small).1

theorem isUpper_toUpper (small : c.isLower) : c.toUpper.isUpper :=
  ((case_of_isAlnum (isAlnum_of_isLower small)).2.1 small).2.1

theorem toLower_toUpper (small : c.isLower) : c.toUpper.toLower = c :=
  ((case_of_isAlnum (isAlnum_of_isLower small)).2.1 small).2.2

theorem isLower_toLower (letter : c.isAlpha) : c.toLower.isLower := by
  have alnum : isAlnum c := by simp [isAlnum, Char.isAlphanum, letter]
  exact (case_of_isAlnum alnum).2.2 letter

/-- Lower case leaves small letters of letters, and digits as they are. -/
theorem Uniform.lower (uniform : Uniform cs) :
    (∀ c ∈ lower cs, c.isLower) ∨ ∀ c ∈ lower cs, c.isDigit := by
  rw [uniform.alnum.lower_eq]
  refine uniform.imp (fun letters => ?_) fun digits => ?_
  · exact List.forall_mem_map.mpr fun c member => isLower_toLower (letters c member)
  · refine List.forall_mem_map.mpr fun c member => ?_
    rw [toLower_of_isDigit (digits c member)]
    exact digits c member

end Tablewright.Text
