import Mathlib.Algebra.GroupWithZero.Nat
import Mathlib.Algebra.Order.BigOperators.Group.List
import Mathlib.Algebra.Order.Group.Nat
import Tablewright.Proofs.Tag.Part

/-!
# Weights of texts

Measures that reading does not increase: the number of texts, and the number of colons in them.
-/

namespace Tablewright.Tag

open scoped List
open Text (isBlank trim)

/-! ## Weights -/

/-- A weight of texts that blanks do not have, to which every key adds the same, and that an action
of a foreign key has least of when spelled out. -/
structure IsWeight
    (weight : List Char → Nat)
    (offset : Nat) : Prop where
  /-- Blanks around a text have no weight. -/
  trim : ∀ cs, weight (trim cs) = weight cs
  /-- A key has the weight `offset`. -/
  key : ∀ (key : Key) (cs : List Char), weight (key.spelling.toList ++ cs) = offset + weight cs
  /-- An action is no heavier than any text that begins with its word. -/
  action : ∀ word ∈ actionWords, ∀ (action : ReferentialAction) (part : List Char),
    word.toList <+: part → weight (word ++ action.tagSpelling).toList ≤ weight part

/-- Every text has weight one. -/
theorem isWeight_one : IsWeight (fun _ => 1) 0 :=
  ⟨fun _ => rfl, fun _ _ => rfl, fun _ _ _ _ _ => Nat.le_refl 1⟩

theorem count_trim
    {c : Char}
    (not_blank : ¬ isBlank c)
    (cs : List Char) :
    (trim cs).count c = cs.count c := by
  obtain ⟨before, after, equal, before_blank, after_blank⟩ := Text.exists_eq_append_trim cs
  have none {ds : List Char} (blank : ds.all isBlank) : ds.count c = 0 := by
    rw [List.count_eq_zero]
    exact fun member => not_blank (List.all_eq_true.mp blank c member)
  conv_rhs => rw [equal]
  rw [List.count_append, List.count_append, none before_blank, none after_blank, Nat.zero_add,
    Nat.add_zero]

/-- The weight of a text is the number of its colons. -/
theorem isWeight_colons : IsWeight (List.count ':') 1 where
  trim := count_trim (by decide)
  key := by
    intro key cs
    rw [List.count_append]
    cases key <;> rfl
  action := by
    intro word known action part begins
    have spelled : List.count ':' (word ++ action.tagSpelling).toList ≤ 1 := by
      have all_words : ∀ word ∈ actionWords,
          List.count ':' (word ++ action.tagSpelling).toList ≤ 1 := by
        cases action <;> decide
      exact all_words word known
    have stated : 1 ≤ List.count ':' word.toList := by
      have all_words : ∀ word ∈ actionWords, 1 ≤ List.count ':' word.toList := by
        decide
      exact all_words word known
    exact spelled.trans (stated.trans (begins.sublist.count_le ':'))

namespace IsWeight

variable {weight : List Char → Nat} {offset : Nat}

theorem sum_map_trim
    (isWeight : IsWeight weight offset)
    (parts : List (List Char)) :
    ((parts.map Text.trim).map weight).sum = (parts.map weight).sum := by
  rw [List.map_map]
  congr 1
  exact List.map_congr_left fun part _ => isWeight.trim part

theorem sum_le_of_sublist
    {parts more : List (List Char)}
    (among : parts <+ more) :
    (parts.map weight).sum ≤ (more.map weight).sum :=
  (among.map weight).sum_le_sum fun _ _ => Nat.zero_le _

theorem sum_valuesOf_le
    (isWeight : IsWeight weight offset)
    (parts : List (List Char)) :
    ((valuesOf parts).map weight).sum ≤ (parts.map weight).sum := by
  rw [← isWeight.sum_map_trim parts]
  exact sum_le_of_sublist (valuesOf_sublist parts)

theorem sum_pieces
    (isWeight : IsWeight weight offset)
    (key : Key)
    {parts : List (List Char)}
    (parts_ne : parts ≠ []) :
    ((key.pieces parts).map weight).sum = offset + (parts.map weight).sum := by
  obtain ⟨part, parts, rfl⟩ := List.exists_cons_of_ne_nil parts_ne
  rw [Key.pieces, List.map_cons, List.sum_cons, isWeight.key, Nat.add_assoc, List.map_cons,
    List.sum_cons]

theorem sum_run
    (isWeight : IsWeight weight offset)
    {segment value : List Char}
    {more : List (List Char)}
    {key : Key}
    (head : head? segment = some (.keyed key value)) :
    ((segment :: more).map weight).sum = offset + ((value :: more).map weight).sum := by
  rw [List.map_cons, List.sum_cons, ← isWeight.trim segment, trim_eq_of_head?_keyed head,
    isWeight.key, Nat.add_assoc, List.map_cons, List.sum_cons]

end IsWeight

/-! ## Foreign keys -/

/-- Arguments of a foreign key collected from a list of parts. -/
structure ForeignKeyArguments.Collected
    (parts : List (List Char))
    (arguments : ForeignKeyArguments) : Prop where
  /-- The names stand among the parts in their order. -/
  names : arguments.names <+ parts
  /-- No name begins like an action. -/
  plain : ∀ name ∈ arguments.names,
    ¬ "on_delete:".toList <+: name ∧ ¬ "on_update:".toList <+: name
  /-- Names and actions spelled out are no heavier than the parts. -/
  weight : ∀ weight offset, IsWeight weight offset →
    (arguments.names.map weight).sum +
        ((arguments.onDelete.map fun action =>
          weight ("on_delete:" ++ action.tagSpelling).toList).getD 0 +
        (arguments.onUpdate.map fun action =>
          weight ("on_update:" ++ action.tagSpelling).toList).getD 0) ≤
      (parts.map weight).sum

theorem not_prefix_of_afterPrefix?_eq_none
    {start cs : List Char}
    (absent : Text.afterPrefix? start cs = none) :
    ¬ start <+: cs := by
  rintro ⟨rest, rfl⟩
  rw [Text.afterPrefix?_append] at absent
  cases absent

/-- The kinds of arguments. -/
theorem foreignKeyPart_cases (part : List Char) :
    (foreignKeyPart part = .name part ∧
        ¬ "on_delete:".toList <+: part ∧ ¬ "on_update:".toList <+: part) ∨
      (∃ action, foreignKeyPart part = .onDelete action ∧ "on_delete:".toList <+: part) ∨
      ∃ action, foreignKeyPart part = .onUpdate action ∧ "on_update:".toList <+: part := by
  unfold foreignKeyPart
  split
  · next deleted =>
    exact .inr (.inl ⟨_, rfl, ⟨_, (Text.eq_append_of_afterPrefix? deleted).symm⟩⟩)
  · next no_delete =>
    split
    · next updated =>
      exact .inr (.inr ⟨_, rfl, ⟨_, (Text.eq_append_of_afterPrefix? updated).symm⟩⟩)
    · next no_update =>
      exact .inl ⟨rfl, not_prefix_of_afterPrefix?_eq_none no_delete,
        not_prefix_of_afterPrefix?_eq_none no_update⟩

theorem ForeignKeyArguments.Collected.add
    {parts : List (List Char)}
    {arguments more : ForeignKeyArguments}
    (collected : Collected parts arguments)
    {part : List Char}
    (added : arguments.add part = some more) :
    Collected (parts ++ [part]) more := by
  rw [ForeignKeyArguments.add] at added
  rcases foreignKeyPart_cases part with
    ⟨part_eq, no_action⟩ | ⟨action, part_eq, begins⟩ | ⟨action, part_eq, begins⟩
  · rw [part_eq] at added
    obtain rfl := Option.some.inj added
    refine ⟨collected.names.append (List.Sublist.refl _), ?_, ?_⟩
    · exact List.forall_mem_append.mpr ⟨collected.plain, List.forall_mem_singleton.mpr no_action⟩
    · intro weight offset isWeight
      have before := collected.weight weight offset isWeight
      dsimp only
      rw [List.map_append, List.map_append, List.sum_append, List.sum_append]
      omega
  · rw [part_eq] at added
    cases action with
    | none => cases added
    | some action =>
      obtain rfl := Option.some.inj added
      refine ⟨collected.names.trans (List.sublist_append_left _ _), collected.plain, ?_⟩
      intro weight offset isWeight
      have before := collected.weight weight offset isWeight
      have here := isWeight.action "on_delete:" (by decide) action part begins
      rw [List.map_append, List.sum_append, List.map_singleton, List.sum_singleton]
      dsimp only [Option.map_some, Option.getD_some]
      omega
  · rw [part_eq] at added
    cases action with
    | none => cases added
    | some action =>
      obtain rfl := Option.some.inj added
      refine ⟨collected.names.trans (List.sublist_append_left _ _), collected.plain, ?_⟩
      intro weight offset isWeight
      have before := collected.weight weight offset isWeight
      have here := isWeight.action "on_update:" (by decide) action part begins
      rw [List.map_append, List.sum_append, List.map_singleton, List.sum_singleton]
      dsimp only [Option.map_some, Option.getD_some]
      omega

theorem ForeignKeyArguments.Collected.foldlM
    {parts more : List (List Char)}
    {arguments last : ForeignKeyArguments}
    (collected : Collected parts arguments)
    (added : more.foldlM ForeignKeyArguments.add arguments = some last) :
    Collected (parts ++ more) last := by
  induction more generalizing parts arguments with
  | nil =>
    rw [List.foldlM_nil] at added
    obtain rfl := Option.some.inj added
    rwa [List.append_nil]
  | cons part more ih =>
    rw [List.foldlM_cons, Option.bind_eq_bind, Option.bind_eq_some_iff] at added
    obtain ⟨next, here, later⟩ := added
    have whole := ih (collected.add here) later
    rwa [List.append_assoc, List.singleton_append] at whole

/-- A foreign key is collected from the parts of its value. -/
theorem collected_of_foreignKey?
    {parts : List (List Char)}
    {key : ForeignKey}
    (read : foreignKey? parts = some key) :
    ForeignKeyArguments.Collected (valuesOf parts)
      ⟨(foreignKeyNames key).map String.toList, key.onDelete, key.onUpdate⟩ := by
  rw [foreignKey?, Option.bind_eq_bind, Option.bind_eq_some_iff] at read
  obtain ⟨arguments, added, stated⟩ := read
  have empty : ForeignKeyArguments.Collected [] {} :=
    ⟨List.Sublist.refl _, nofun, fun _ _ _ => Nat.le_refl 0⟩
  have collected := empty.foldlM added
  rw [List.nil_append] at collected
  obtain ⟨names, onDelete, onUpdate⟩ := arguments
  dsimp only at stated
  split at stated
  · next table column =>
    obtain rfl := Option.some.inj stated
    simpa [foreignKeyNames] using collected
  · next group table column =>
    obtain rfl := Option.some.inj stated
    simpa [foreignKeyNames] using collected
  · cases stated

theorem sum_foreignKeyArguments
    (weight : List Char → Nat)
    (key : ForeignKey) :
    (((foreignKeyArguments key).map String.toList).map weight).sum =
      (((foreignKeyNames key).map String.toList).map weight).sum +
        ((key.onDelete.map fun action =>
          weight ("on_delete:" ++ action.tagSpelling).toList).getD 0 +
        (key.onUpdate.map fun action =>
          weight ("on_update:" ++ action.tagSpelling).toList).getD 0) := by
  rw [foreignKeyArguments_eq, List.map_append, List.map_append, List.sum_append, foreignKeyActions]
  cases key.onDelete <;> cases key.onUpdate <;> simp

/-- No action has quotes or brackets in it. -/
theorem plain_action
    {word : String}
    (known : word ∈ actionWords)
    (action : ReferentialAction) :
    ∀ c ∈ (word ++ action.tagSpelling).toList, c ∉ delimiters := by
  have plain : actionWords.all fun word =>
      (word ++ action.tagSpelling).toList.all fun c => !delimiters.contains c := by
    cases action <;> decide
  intro c member delimiting
  have kept := List.all_eq_true.mp (List.all_eq_true.mp plain word known) c member
  rw [List.contains_iff_mem.mpr delimiting] at kept
  cases kept

end Tablewright.Tag
