import Tablewright.Text.Casing

/-!
# Characters of names in snake case

Snake case brings in no character up to the last capital: such a character of a name in snake case
comes from the name itself, and it is no capital.
-/

namespace Tablewright.Text

/-- The number of the first capital. -/
def firstCapital : Nat := 0x41

/-- The number of the last capital. -/
def lastCapital : Nat := 0x5A

/-- A mark comes before the letters. -/
def PrecedesLetters (mark : Char) : Prop :=
  0 < mark.toNat ∧ mark.toNat < firstCapital

/-- A character is a capital of ASCII. -/
def IsCapital (c : Char) : Prop :=
  firstCapital ≤ c.toNat ∧ c.toNat ≤ lastCapital

instance (c : Char) : Decidable (IsCapital c) :=
  inferInstanceAs (Decidable (_ ∧ _))

variable {mark : Char} {cs : List Char}

theorem PrecedesLetters.le_lastCapital (precedes : PrecedesLetters mark) :
    mark.toNat ≤ lastCapital :=
  Nat.le_trans (Nat.le_of_lt precedes.2) (by decide)

theorem IsCapital.pos (capital : IsCapital mark) : 0 < mark.toNat :=
  Nat.lt_of_lt_of_le (by decide) capital.1

/-! ## Lower case -/

/-- A character of ASCII whose small letter comes before the small letters is no letter. -/
theorem of_toLower_le
    {c : Char}
    (ascii : c.toNat < 128)
    (below : c.toLower.toNat ≤ lastCapital) :
    c.toLower = c ∧ ¬ IsCapital c := by
  have table : ∀ n : Fin 128, (Char.ofNat n).toLower.toNat ≤ lastCapital →
      (Char.ofNat n).toLower = Char.ofNat n ∧ ¬ IsCapital (Char.ofNat n) := by
    decide +kernel
  have row := table ⟨c.toNat, ascii⟩
  rw [Char.ofNat_toNat] at row
  exact row below

theorem toNat_ofNat
    {n : Nat}
    (valid : n.isValidChar) :
    (Char.ofNat n).toNat = n := by
  rw [Char.ofNat, dif_pos valid]
  rfl

/-- The character of a number is none that comes before it. -/
theorem ofNat_ne_of_lt
    {n : Nat}
    (positive : 0 < mark.toNat)
    (below : mark.toNat < n) :
    Char.ofNat n ≠ mark := by
  rintro rfl
  by_cases valid : n.isValidChar
  · have number := toNat_ofNat valid
    omega
  · have zero : (Char.ofNat n).toNat = 0 := by
      rw [Char.ofNat, dif_neg valid]
      rfl
    omega

/-- A run that gives an image holds the number, and the image stands as far from its start. -/
theorem exists_run_of_runImage
    {runs : List CaseRun}
    {n image : Nat}
    (found : runImage runs n = some image) :
    ∃ run ∈ runs, run.1 ≤ n ∧ n ≤ run.2.1 ∧ image = run.2.2.2 + (n - run.1) := by
  obtain ⟨run, member, image_eq⟩ := List.exists_of_findSome?_eq_some found
  dsimp only at image_eq
  split at image_eq
  · next held => exact ⟨run, member, held.1, held.2.1, (Option.some.inj image_eq).symm⟩
  · cases image_eq

/-- Runs of the map to lower case lead beyond the capitals. -/
theorem lt_of_runImage_lowerRuns
    {n image : Nat}
    (found : runImage lowerRuns n = some image) :
    lastCapital < image := by
  have table : ∀ run ∈ lowerRuns, lastCapital < run.2.2.2 := by
    decide +kernel
  obtain ⟨run, member, -, -, rfl⟩ := exists_run_of_runImage found
  exact Nat.lt_add_right _ (table run member)

/-- Expansions under the map to lower case are beyond the capitals. -/
theorem lt_of_lookup_lowerExpansions
    {n : Nat}
    {image : List Nat}
    (found : lowerExpansions.lookup n = some image) :
    ∀ m ∈ image, lastCapital < m := by
  have table : ∀ entry ∈ lowerExpansions, ∀ m ∈ entry.2, lastCapital < m := by
    decide
  obtain ⟨before, after, entries, -⟩ := List.lookup_eq_some_iff.mp found
  exact table (n, image) (by simp [entries])

/-- A character up to the last capital is in the lower case of no other, and it is no capital. -/
theorem of_mem_lowerChar
    {c : Char}
    (positive : 0 < mark.toNat)
    (below : mark.toNat ≤ lastCapital)
    (member : mark ∈ lowerChar c) :
    mark = c ∧ ¬ IsCapital mark := by
  unfold lowerChar at member
  split at member
  · next ascii =>
    obtain rfl := List.mem_singleton.mp member
    obtain ⟨same, no_capital⟩ := of_toLower_le ascii below
    rw [same]
    exact ⟨rfl, no_capital⟩
  · next beyond =>
    unfold caseImage at member
    split at member
    · next image found =>
      obtain ⟨n, image_member, rfl⟩ := List.mem_map.mp member
      have above := lt_of_lookup_lowerExpansions found n image_member
      exact absurd rfl (ofNat_ne_of_lt positive (Nat.lt_of_le_of_lt below above))
    · split at member
      · next image found =>
        obtain rfl := List.mem_singleton.mp member
        have above := lt_of_runImage_lowerRuns found
        exact absurd rfl (ofNat_ne_of_lt positive (Nat.lt_of_le_of_lt below above))
      · obtain rfl := List.mem_singleton.mp member
        exact absurd (Nat.lt_of_le_of_lt below (by decide)) beyond

theorem of_mem_lowerAfter
    (positive : 0 < mark.toNat)
    (below : mark.toNat ≤ lastCapital)
    {before : List Char}
    (member : mark ∈ lowerAfter before cs) :
    mark ∈ cs ∧ ¬ IsCapital mark := by
  induction cs generalizing before with
  | nil => cases member
  | cons c cs ih =>
    rw [lowerAfter, List.mem_append] at member
    rcases member with here | later
    · split at here
      · -- The small letters sigma are beyond the capitals.
        have small : lastCapital < 'ς'.toNat ∧ lastCapital < 'σ'.toNat := by decide
        obtain rfl := List.mem_singleton.mp here
        split at below
        · exact absurd below (Nat.not_le.mpr small.1)
        · exact absurd below (Nat.not_le.mpr small.2)
      · obtain ⟨rfl, no_capital⟩ := of_mem_lowerChar positive below here
        exact ⟨List.mem_cons_self, no_capital⟩
    · obtain ⟨found, no_capital⟩ := ih later
      exact ⟨List.mem_cons_of_mem c found, no_capital⟩

/-! ## Words -/

/-- The characters of words are those of the open word and the clusters. -/
theorem mem_of_mem_wordsAfter
    {started part : List Char}
    {clusters : List (List Char)}
    {c : Char}
    (found : part ∈ wordsAfter started clusters)
    (member : c ∈ part) :
    c ∈ started ∨ c ∈ clusters.flatten := by
  induction clusters generalizing started with
  | nil =>
    rw [wordsAfter, List.mem_singleton] at found
    exact Or.inl (found ▸ member)
  | cons cluster clusters ih =>
    rw [wordsAfter] at found
    rw [List.flatten_cons, List.mem_append]
    split at found
    · rcases List.mem_cons.mp found with rfl | later
      · exact Or.inl member
      · rcases ih later with none_open | rest
        · cases none_open
        · exact Or.inr (Or.inr rest)
    · split at found
      · rcases List.mem_cons.mp found with rfl | later
        · rcases List.mem_append.mp member with begun | here
          · exact Or.inl begun
          · exact Or.inr (Or.inl here)
        · rcases ih later with none_open | rest
          · cases none_open
          · exact Or.inr (Or.inr rest)
      · rcases ih found with begun | rest
        · rcases List.mem_append.mp begun with begun | here
          · exact Or.inl begun
          · exact Or.inr (Or.inl here)
        · exact Or.inr (Or.inr rest)

theorem mem_of_mem_words
    {part : List Char}
    {c : Char}
    (found : part ∈ words cs)
    (member : c ∈ part) :
    c ∈ cs := by
  unfold words at found
  split at found
  · cases found
  · rcases mem_of_mem_wordsAfter found member with none_open | rest
    · cases none_open
    · rwa [flatten_clusters] at rest

theorem mem_of_mem_dropRawMarks
    {c : Char}
    (member : c ∈ dropRawMarks cs) :
    c ∈ cs := by
  fun_induction dropRawMarks cs with
  | case1 rest ih => exact List.mem_cons_of_mem _ (List.mem_cons_of_mem _ (ih member))
  | case2 cs => exact member

theorem mem_intercalate_singleton
    {separator c : Char}
    {parts : List (List Char)}
    (member : c ∈ [separator].intercalate parts) :
    c = separator ∨ ∃ part ∈ parts, c ∈ part := by
  induction parts with
  | nil => cases member
  | cons first parts ih =>
    cases parts with
    | nil =>
      rw [List.intercalate_singleton] at member
      exact Or.inr ⟨first, List.mem_cons_self, member⟩
    | cons next parts =>
      rw [List.intercalate_cons_cons, List.mem_append, List.mem_append] at member
      rcases member with (here | separates) | later
      · exact Or.inr ⟨first, List.mem_cons_self, here⟩
      · exact Or.inl (List.mem_singleton.mp separates)
      · rcases ih later with separates | ⟨part, found, inner⟩
        · exact Or.inl separates
        · exact Or.inr ⟨part, List.mem_cons_of_mem first found, inner⟩

/-- A character up to the last capital that is in the snake case of a name is in the name, and it is
no capital. -/
theorem of_mem_snakeCase
    {name : String}
    (positive : 0 < mark.toNat)
    (below : mark.toNat ≤ lastCapital)
    (member : mark ∈ (snakeCase name).toList) :
    mark ∈ name.toList ∧ ¬ IsCapital mark := by
  rw [toList_snakeCase, snakeChars] at member
  rcases mem_intercalate_singleton member with rfl | ⟨part, found, inner⟩
  · exact absurd below (by decide)
  · obtain ⟨word, word_found, rfl⟩ := List.mem_map.mp found
    obtain ⟨occurs, no_capital⟩ := of_mem_lowerAfter positive below inner
    exact ⟨mem_of_mem_dropRawMarks (mem_of_mem_words word_found occurs), no_capital⟩

/-- A mark before the letters is in the snake case of a name only if it is in the name. -/
theorem notMem_snakeCase
    {name : String}
    (precedes : PrecedesLetters mark)
    (absent : mark ∉ name.toList) :
    mark ∉ (snakeCase name).toList := fun member =>
  absent (of_mem_snakeCase precedes.1 precedes.le_lastCapital member).1

/-- No capital is in the snake case of a name. -/
theorem IsCapital.notMem_snakeCase
    (capital : IsCapital mark)
    (name : String) :
    mark ∉ (snakeCase name).toList := fun member =>
  (of_mem_snakeCase capital.pos capital.2 member).2 capital

end Tablewright.Text
