import Mathlib.Data.List.Basic
import Mathlib.Data.List.TakeWhile
import Tablewright.Text.Blank

/-!
# Trimmed texts

A text without blanks at its ends is what trimming leaves of it, and stays so when texts are put
together.  Trimming any text takes blanks away at both ends and leaves such a text.
-/

namespace Tablewright.Text

/-- A text that neither begins nor ends with a blank. -/
structure Trimmed (cs : List Char) : Prop where
  /-- It does not begin with a blank. -/
  head : ∀ c ∈ cs.head?, ¬ isBlank c
  /-- It does not end with a blank. -/
  last : ∀ c ∈ cs.getLast?, ¬ isBlank c

instance decidableEnd (atEnd : Option Char) : Decidable (∀ c ∈ atEnd, ¬ isBlank c) :=
  -- The character at an end is tried, not all characters there are.
  Option.decidableForallMem (p := fun c => ¬ isBlank c) atEnd

instance (cs : List Char) : Decidable (Trimmed cs) :=
  decidable_of_iff ((∀ c ∈ cs.head?, ¬ isBlank c) ∧ ∀ c ∈ cs.getLast?, ¬ isBlank c)
    ⟨fun ⟨head, last⟩ => ⟨head, last⟩, fun ⟨head, last⟩ => ⟨head, last⟩⟩

variable {cs ds : List Char}

theorem dropWhile_isBlank_of_head
    (head : ∀ c ∈ cs.head?, ¬ isBlank c) :
    cs.dropWhile isBlank = cs := by
  cases cs with
  | nil => rfl
  | cons c cs => exact List.dropWhile_cons_of_neg (head c rfl)

theorem intercalate_ne_nil
    (separator : List Char)
    {part : List Char}
    (part_ne : part ≠ [])
    (parts : List (List Char)) :
    separator.intercalate (part :: parts) ≠ [] := by
  cases parts with
  | nil => rwa [List.intercalate_singleton]
  | cons next parts =>
    rw [List.intercalate_cons_cons, List.append_assoc]
    exact List.append_ne_nil_of_left_ne_nil part_ne _

namespace Trimmed

theorem trim_eq (trimmed : Trimmed cs) : trim cs = cs := by
  have last : ∀ c ∈ cs.reverse.head?, ¬ isBlank c := by
    rw [List.head?_reverse]
    exact trimmed.last
  rw [trim, dropWhile_isBlank_of_head trimmed.head, dropWhile_isBlank_of_head last,
    List.reverse_reverse]

/-- The first of two texts may end, and the second begin, with a blank. -/
theorem append
    (cs_ne : cs ≠ [])
    (ds_ne : ds ≠ [])
    (head : ∀ c ∈ cs.head?, ¬ isBlank c)
    (last : ∀ c ∈ ds.getLast?, ¬ isBlank c) :
    Trimmed (cs ++ ds) where
  head := by
    rwa [List.head?_append_of_ne_nil cs cs_ne]
  last := by
    rwa [List.getLast?_append_of_ne_nil cs ds_ne]

theorem intercalate
    {separator : List Char}
    {parts : List (List Char)}
    (parts_ne : ∀ part ∈ parts, part ≠ [])
    (trimmed : ∀ part ∈ parts, Trimmed part) :
    Trimmed (separator.intercalate parts) := by
  induction parts with
  | nil => exact ⟨nofun, nofun⟩
  | cons part parts ih =>
    obtain ⟨here_ne, later_ne⟩ := List.forall_mem_cons.mp parts_ne
    obtain ⟨here, later⟩ := List.forall_mem_cons.mp trimmed
    cases parts with
    | nil => rwa [List.intercalate_singleton]
    | cons next parts =>
      have next_ne : next ≠ [] := later_ne next List.mem_cons_self
      have rest_ne : separator.intercalate (next :: parts) ≠ [] :=
        intercalate_ne_nil separator next_ne parts
      rw [List.intercalate_cons_cons, List.append_assoc]
      refine append here_ne (List.append_ne_nil_of_right_ne_nil _ rest_ne) here.head ?_
      rw [List.getLast?_append_of_ne_nil separator rest_ne]
      exact (ih later_ne later).last

/-- A trimmed text with something in it is not blank. -/
theorem not_all_isBlank
    (trimmed : Trimmed cs)
    (cs_ne : cs ≠ []) :
    ¬ cs.all isBlank := by
  obtain ⟨c, rest, rfl⟩ := List.exists_cons_of_ne_nil cs_ne
  intro blank
  rw [List.all_cons, Bool.and_eq_true] at blank
  exact trimmed.head c rfl blank.1

end Trimmed

/-! ## What trimming takes away -/

theorem dropWhile_isBlank_append
    (blank : cs.all isBlank)
    (ds : List Char) :
    (cs ++ ds).dropWhile isBlank = ds.dropWhile isBlank := by
  induction cs with
  | nil => rfl
  | cons c cs ih =>
    rw [List.all_cons, Bool.and_eq_true] at blank
    rw [List.cons_append, List.dropWhile_cons_of_pos blank.1, ih blank.2]

theorem dropWhile_isBlank_eq_nil_iff : cs.dropWhile isBlank = [] ↔ cs.all isBlank := by
  rw [List.dropWhile_eq_nil_iff, List.all_eq_true]

theorem trim_eq_nil_iff : trim cs = [] ↔ cs.all isBlank := by
  rw [← dropWhile_isBlank_eq_nil_iff]
  constructor
  · intro gone
    by_contra left
    rw [trim, List.reverse_eq_nil_iff, dropWhile_isBlank_eq_nil_iff, List.all_reverse,
      List.all_eq_true] at gone
    have first := List.head_dropWhile_not isBlank left
    rw [gone _ (List.head_mem left)] at first
    cases first
  · intro gone
    rw [trim, gone]
    rfl

theorem trim_append_of_blank
    (blank : ds.all isBlank)
    (cs : List Char) :
    trim (cs ++ ds) = trim cs := by
  have reversed_blank : ds.reverse.all isBlank := by
    rwa [List.all_reverse]
  by_cases gone : cs.dropWhile isBlank = []
  · have cs_blank := dropWhile_isBlank_eq_nil_iff.mp gone
    have all_blank : (cs ++ ds).all isBlank := by
      rw [List.all_append, cs_blank, blank]
      rfl
    rw [trim_eq_nil_iff.mpr all_blank, trim_eq_nil_iff.mpr cs_blank]
  · have start : (cs ++ ds).dropWhile isBlank = cs.dropWhile isBlank ++ ds := by
      rw [List.dropWhile_append, if_neg (by simpa using gone)]
    rw [trim, trim, start, List.reverse_append, dropWhile_isBlank_append reversed_blank]

theorem trim_append_of_blank_left
    (blank : cs.all isBlank)
    (ds : List Char) :
    trim (cs ++ ds) = trim ds := by
  rw [trim, dropWhile_isBlank_append blank]
  rfl

/-- Trimming takes blanks away on both sides. -/
theorem exists_eq_append_trim (cs : List Char) :
    ∃ before after, cs = before ++ (trim cs ++ after) ∧ before.all isBlank ∧ after.all isBlank := by
  let back := (cs.dropWhile isBlank).reverse
  have back_eq : (back.takeWhile isBlank ++ back.dropWhile isBlank).reverse =
      cs.dropWhile isBlank := by
    rw [List.takeWhile_append_dropWhile, List.reverse_reverse]
  refine ⟨cs.takeWhile isBlank, (back.takeWhile isBlank).reverse, ?_, List.all_takeWhile, ?_⟩
  · have kept : trim cs ++ (back.takeWhile isBlank).reverse = cs.dropWhile isBlank := by
      rw [← back_eq, List.reverse_append]
      rfl
    rw [kept, List.takeWhile_append_dropWhile]
  · rw [List.all_reverse]
    exact List.all_takeWhile

theorem head?_dropWhile_isBlank (cs : List Char) :
    ∀ c ∈ (cs.dropWhile isBlank).head?, ¬ isBlank c := by
  intro c found
  have first := List.head?_dropWhile_not isBlank cs
  rw [Option.mem_def.mp found] at first
  simpa using first

/-- What is left has no blanks at its ends. -/
theorem trimmed_trim (cs : List Char) : Trimmed (trim cs) := by
  constructor
  · intro c found
    have kept : trim cs <+: cs.dropWhile isBlank := by
      rw [← List.reverse_suffix, trim, List.reverse_reverse]
      exact List.dropWhile_suffix isBlank
    obtain ⟨rest, equal⟩ := kept
    apply head?_dropWhile_isBlank cs
    rw [← equal, List.head?_append, Option.mem_def.mp found]
    rfl
  · rw [trim, List.getLast?_reverse]
    exact head?_dropWhile_isBlank _

end Tablewright.Text
