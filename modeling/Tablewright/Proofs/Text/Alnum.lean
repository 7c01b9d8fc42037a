import Tablewright.Proofs.Text.Snake
import Tablewright.Proofs.Text.Trim
import Tablewright.Text.IdentifierChar

/-!
# Names of letters and digits

A name made of the letters and digits of ASCII and of underscores stays one when its case is changed
and when such names are put together.
-/

namespace Tablewright.Text

/-- A letter or digit of ASCII, or an underscore. -/
def isAlnum (c : Char) : Bool :=
  c.isAlphanum || c = '_'

/-- A text of letters, digits and underscores. -/
def Alnum (cs : List Char) : Prop :=
  ∀ c ∈ cs, isAlnum c

instance (cs : List Char) : Decidable (Alnum cs) :=
  -- The characters of the text are tried, not all characters there are.
  List.decidableBAll (fun c => isAlnum c) cs

/-! ## Characters -/

/-- Letters, digits and underscores are found in the table of ASCII. -/
theorem lt_of_isAlnum
    {c : Char}
    (alnum : isAlnum c) :
    c.toNat < 128 := by
  rw [isAlnum, Bool.or_eq_true, decide_eq_true_iff] at alnum
  rcases alnum with alnum | rfl
  · have kinds : (c.isUpper || c.isLower || c.isDigit) = true := alnum
    rw [Bool.or_eq_true, Bool.or_eq_true] at kinds
    rcases kinds with (upper | lower) | digit
    · have last : c.val ≤ 'Z'.val := (of_decide_eq_true upper).2
      exact Nat.lt_of_le_of_lt (UInt32.le_iff_toNat_le.mp last) (by decide)
    · have last : c.val ≤ 'z'.val := of_decide_eq_true (Bool.and_eq_true_iff.mp lower).2
      exact Nat.lt_of_le_of_lt (UInt32.le_iff_toNat_le.mp last) (by decide)
    · exact Nat.lt_of_le_of_lt (Char.isDigit_iff_toNat.mp digit).2 (by decide)
  · decide

/-- A property of ASCII characters is settled by their table. -/
theorem of_table
    (holds : Char → Prop)
    (table : ∀ n : Fin 128, holds (Char.ofNat n))
    {c : Char}
    (small : c.toNat < 128) :
    holds c := by
  have row := table ⟨c.toNat, small⟩
  rwa [Char.ofNat_toNat] at row

theorem of_isAlnum_of_table
    (holds : Char → Prop)
    (table : ∀ n : Fin 128, isAlnum (Char.ofNat n) → holds (Char.ofNat n))
    {c : Char}
    (alnum : isAlnum c) :
    holds c :=
  of_table (fun c => isAlnum c → holds c) table (lt_of_isAlnum alnum) alnum

theorem isIdentifierPart_of_isAlnum
    {c : Char}
    (alnum : isAlnum c) :
    isIdentifierPart c := by
  rw [isIdentifierPart, if_pos (lt_of_isAlnum alnum)]
  exact alnum

theorem isAlnum_toLower
    {c : Char}
    (alnum : isAlnum c) :
    isAlnum c.toLower :=
  of_isAlnum_of_table (fun c => isAlnum c.toLower) (by decide +kernel) alnum

theorem isAlnum_toUpper
    {c : Char}
    (alnum : isAlnum c) :
    isAlnum c.toUpper :=
  of_isAlnum_of_table (fun c => isAlnum c.toUpper) (by decide +kernel) alnum

theorem isAlnum_of_isDigit
    {c : Char}
    (digit : c.isDigit) :
    isAlnum c := by
  rw [isAlnum, Char.isAlphanum, digit, Bool.or_true]
  rfl

/-! ## Texts -/

namespace Alnum

variable {cs ds : List Char}

theorem of_subset
    (alnum : Alnum ds)
    (subset : cs ⊆ ds) :
    Alnum cs :=
  fun _ member => alnum _ (subset member)

theorem append
    (alnum : Alnum cs)
    (other : Alnum ds) :
    Alnum (cs ++ ds) := by
  intro c member
  rcases List.mem_append.mp member with here | there
  · exact alnum c here
  · exact other c there

theorem digits (n : Nat) : Alnum (toString n).toList := by
  intro c member
  rw [Nat.toString_eq_repr, Nat.toList_repr] at member
  exact isAlnum_of_isDigit (Nat.isDigit_of_mem_toDigits (by decide) (by decide) member)

theorem trim (alnum : Alnum cs) : Alnum (Text.trim cs) := by
  obtain ⟨before, after, cs_eq, -, -⟩ := exists_eq_append_trim cs
  have kept : Text.trim cs ⊆ before ++ (Text.trim cs ++ after) :=
    List.subset_append_of_subset_right before (List.subset_append_left _ after)
  rw [← cs_eq] at kept
  exact alnum.of_subset kept

theorem lowerAfter
    (alnum : Alnum cs)
    (before : List Char) :
    Alnum (lowerAfter before cs) := by
  induction cs generalizing before with
  | nil => exact nofun
  | cons c cs ih =>
    obtain ⟨here, later⟩ := List.forall_mem_cons.mp alnum
    have small := lt_of_isAlnum here
    have no_sigma : c ≠ 'Σ' := by
      rintro rfl
      exact absurd small (by decide)
    rw [Text.lowerAfter, if_neg no_sigma, lowerChar, if_pos small]
    exact append (List.forall_mem_singleton.mpr (isAlnum_toLower here)) (ih later _)

theorem capitalized (alnum : Alnum cs) : Alnum (Text.capitalized cs) := by
  cases cs with
  | nil => exact nofun
  | cons c cs =>
    have here : isAlnum c := alnum c List.mem_cons_self
    have later : Alnum cs := alnum.of_subset (List.subset_cons_self c cs)
    rw [Text.capitalized, upperChar, if_pos (lt_of_isAlnum here)]
    exact append (List.forall_mem_singleton.mpr (isAlnum_toUpper here)) (later.lowerAfter [])

theorem of_mem_words
    (alnum : Alnum cs)
    {part : List Char}
    (found : part ∈ words cs) :
    Alnum part :=
  alnum.of_subset fun _ member => mem_of_mem_words found member

theorem snakeChars (alnum : Alnum cs) : Alnum (Text.snakeChars cs) := by
  intro c member
  rcases mem_intercalate_singleton member with rfl | ⟨part, found, inner⟩
  · decide
  · obtain ⟨word, word_found, rfl⟩ := List.mem_map.mp found
    have unmarked : Alnum (dropRawMarks cs) :=
      alnum.of_subset fun _ member => mem_of_mem_dropRawMarks member
    exact (unmarked.of_mem_words word_found).lowerAfter [] c inner

theorem pascalChars (alnum : Alnum cs) : Alnum (Text.pascalChars cs) := by
  unfold Text.pascalChars
  split
  · exact alnum
  · intro c member
    obtain ⟨word, found, inner⟩ := List.mem_flatMap.mp member
    exact (alnum.of_mem_words found).capitalized c inner

theorem snakeCase
    {name : String}
    (alnum : Alnum name.toList) :
    Alnum (Text.snakeCase name).toList := by
  rw [toList_snakeCase]
  exact alnum.snakeChars

theorem pascalCase
    {name : String}
    (alnum : Alnum name.toList) :
    Alnum (Text.pascalCase name).toList := by
  rw [toList_pascalCase]
  exact alnum.pascalChars

theorem trimmed
    {name : String}
    (alnum : Alnum name.toList) :
    Alnum (Text.trimmed name).toList := by
  rw [toList_trimmed]
  exact alnum.trim

/-- There is nothing to trim. -/
theorem trimmed_eq
    {name : String}
    (alnum : Alnum name.toList) :
    Text.trimmed name = name := by
  have not_blank : ∀ c ∈ name.toList, ¬ isBlank c := fun c member =>
    of_isAlnum_of_table (fun c => ¬ isBlank c) (by decide +kernel) (alnum c member)
  have whole : Trimmed name.toList :=
    ⟨fun c first => not_blank c (List.mem_of_mem_head? first),
      fun c last => not_blank c (List.mem_of_mem_getLast? last)⟩
  rw [← String.toList_inj, toList_trimmed, whole.trim_eq]

theorem append_string
    {start rest : String}
    (alnum : Alnum start.toList)
    (other : Alnum rest.toList) :
    Alnum (start ++ rest).toList := by
  rw [String.toList_append]
  exact alnum.append other

end Alnum

end Tablewright.Text
