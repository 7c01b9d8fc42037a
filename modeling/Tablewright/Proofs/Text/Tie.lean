import Mathlib.Data.List.Chain
import Tablewright.Text.Mark

/-!
# Free underscores

An underscore is tied to a neighbour if a sign before it or a mark after it makes one cluster with
it; else it is free.  Words whose underscores are all tied can be told apart when they are put
together with free underscores between them: cutting the text at its free underscores gives them
back.
-/

namespace Tablewright.Text

/-- Whether two neighbours belong together: a mark follows, or a sign precedes. -/
def isTied (c d : Char) : Bool :=
  !isControl c && !isControl d && (isMark d || isPrepended c)

/-- Whether the character that ends one text is tied to the one that begins the next. -/
def areTied (last next : Option Char) : Bool :=
  last.any fun c => next.any fun d => isTied c d

@[simp] theorem areTied_none_right (last : Option Char) : areTied last none = false := by
  cases last <;> rfl

@[simp] theorem areTied_some (c d : Char) : areTied (some c) (some d) = isTied c d := rfl

/-- Whether an underscore between two characters, if any, is free. -/
def isFree (last next : Option Char) : Bool :=
  !areTied last (some '_') && !areTied (some '_') next

/-- Parts of a text between its free underscores, the open part given last character first. -/
def partsAfter (back : List Char) : List Char → List (List Char)
  | [] => [back.reverse]
  | c :: rest =>
    if c = '_' ∧ isFree back.head? rest.head? then back.reverse :: partsAfter [] rest
    else partsAfter (c :: back) rest

/-- No underscore of a text is free, given the character before the text. -/
def IsWhole : Option Char → List Char → Prop
  | _, [] => True
  | last, c :: rest => (c = '_' → ¬ isFree last rest.head?) ∧ IsWhole (some c) rest

variable {cs ds : List Char} {last : Option Char}

theorem isFree_none_of_isFree
    {next : Option Char}
    (free : isFree last next) :
    isFree last none := by
  rw [isFree, Bool.and_eq_true] at free ⊢
  exact ⟨free.1, rfl⟩

/-- What follows a text cannot free the underscore before it. -/
theorem isFree_of_append (free : isFree last (cs ++ ds).head?) : isFree last cs.head? := by
  cases cs with
  | nil => exact isFree_none_of_isFree free
  | cons c cs => exact free

@[simp] theorem isWhole_nil (last : Option Char) : IsWhole last [] := trivial

namespace IsWhole

/-- The character before a text matters only as far as it ties an underscore. -/
theorem of_areTied
    {other : Option Char}
    (whole : IsWhole last cs)
    (tied : areTied last (some '_') → areTied other (some '_')) :
    IsWhole other cs := by
  cases cs with
  | nil => trivial
  | cons c cs =>
    refine ⟨fun underscore free => whole.1 underscore ?_, whole.2⟩
    rw [isFree, Bool.and_eq_true, Bool.not_eq_true'] at free ⊢
    refine ⟨?_, free.2⟩
    rw [← Bool.not_eq_true]
    intro tied_before
    rw [tied tied_before] at free
    cases free.1

theorem of_none
    (whole : IsWhole none cs)
    (last : Option Char) :
    IsWhole last cs :=
  whole.of_areTied nofun

theorem append
    (whole : IsWhole last cs)
    (next : IsWhole (cs.getLast?.or last) ds) :
    IsWhole last (cs ++ ds) := by
  induction cs generalizing last with
  | nil => exact next
  | cons c cs ih =>
    refine ⟨fun underscore free => ?_, ih whole.2 ?_⟩
    · exact whole.1 underscore (isFree_of_append free)
    · cases cs with
      | nil => exact next
      | cons d cs =>
        rw [List.getLast?_cons_cons] at next
        rw [List.getLast?_cons] at next ⊢
        exact next

theorem of_notMem (absent : '_' ∉ cs) : IsWhole last cs := by
  induction cs generalizing last with
  | nil => trivial
  | cons c cs ih =>
    rw [List.mem_cons, not_or] at absent
    exact ⟨fun underscore => absurd underscore.symm absent.1, ih absent.2⟩

end IsWhole

/-- A text without free underscores goes to the open part. -/
theorem partsAfter_append
    {back : List Char}
    (whole : IsWhole back.head? cs)
    (rest : List Char) :
    partsAfter back (cs ++ rest) = partsAfter (cs.reverse ++ back) rest := by
  induction cs generalizing back with
  | nil => rfl
  | cons c cs ih =>
    have stays : ¬ (c = '_' ∧ isFree back.head? (cs ++ rest).head?) := by
      rintro ⟨underscore, free⟩
      exact whole.1 underscore (isFree_of_append free)
    have rest_whole : IsWhole (c :: back).head? cs := whole.2
    rw [List.cons_append, partsAfter, if_neg stays, ih rest_whole, List.reverse_cons,
      List.append_assoc, List.singleton_append]

/-- An underscore put between two texts is free. -/
def IsParted (cs ds : List Char) : Prop :=
  isFree cs.getLast? ds.head?

/-- The underscore before an empty word is free as well if an underscore follows. -/
theorem isFree_intercalate
    (free : isFree last cs.head?)
    (words : List (List Char)) :
    isFree last (['_'].intercalate (cs :: words)).head? := by
  cases words with
  | nil => rwa [List.intercalate_singleton]
  | cons word words =>
    rw [List.intercalate_cons_cons, List.append_assoc]
    cases cs with
    | nil =>
      rw [isFree, Bool.and_eq_true] at free ⊢
      exact ⟨free.1, rfl⟩
    | cons c cs => exact free

/-- Words put together with free underscores are the parts of the text. -/
theorem partsAfter_intercalate
    {words : List (List Char)}
    (words_ne : words ≠ [])
    (whole : ∀ word ∈ words, IsWhole none word)
    (parted : words.IsChain IsParted) :
    partsAfter [] (['_'].intercalate words) = words := by
  induction words with
  | nil => exact absurd rfl words_ne
  | cons word words ih =>
    obtain ⟨word_whole, words_whole⟩ := List.forall_mem_cons.mp whole
    have passed (rest : List Char) :
        partsAfter [] (word ++ rest) = partsAfter word.reverse rest := by
      have whole_first : IsWhole ([] : List Char).head? word := word_whole
      rw [partsAfter_append whole_first, List.append_nil]
    cases words with
    | nil =>
      have alone := passed []
      rw [List.append_nil, partsAfter, List.reverse_reverse] at alone
      rwa [List.intercalate_singleton]
    | cons next words =>
      obtain ⟨free, parted⟩ := List.isChain_cons_cons.mp parted
      have stays_free : isFree word.getLast? (['_'].intercalate (next :: words)).head? :=
        isFree_intercalate free words
      rw [List.intercalate_cons_cons, List.append_assoc, List.singleton_append, passed, partsAfter,
        List.head?_reverse, if_pos ⟨rfl, stays_free⟩, List.reverse_reverse,
        ih (List.cons_ne_nil _ _) words_whole parted]

end Tablewright.Text
