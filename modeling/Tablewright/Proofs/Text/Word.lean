import Tablewright.Proofs.Text.Caseless
import Tablewright.Proofs.Text.Cluster

/-!
# Words of a name

The words that a name is cut into have no free underscore, and the underscores that snake case puts
between them are free.  So snake case keeps words apart: names have the same one exactly if they are
cut into the same words but for case.
-/

namespace Tablewright.Text

variable {c d : Char} {cs ds word g h : List Char} {gs : List (List Char)}

/-! ## Ends of words -/

/-- A cluster that a word can end before or behind. -/
def HasKind (g : List Char) : Prop :=
  isLowerCluster g ∨ isUpperCluster g ∨ isDigitCluster g

theorem hasKind_of_endsWord (ends : endsWord g (h :: gs)) : HasKind g ∧ HasKind h := by
  simp only [endsWord, Bool.or_eq_true, Bool.and_eq_true] at ends
  unfold HasKind
  tauto

theorem upper_of_isControl (control : ∀ c ∈ cs, isControl c) : upper cs = cs := by
  induction cs with
  | nil => rfl
  | cons c cs ih =>
    obtain ⟨here, later⟩ := List.forall_mem_cons.mp control
    rw [upper, List.flatMap_cons, upperChar_of_isControl here]
    exact congrArg (c :: ·) (ih later)

theorem lowerAfter_of_isControl
    (control : ∀ c ∈ cs, isControl c)
    (before : List Char) :
    lowerAfter before cs = cs := by
  induction cs generalizing before with
  | nil => rfl
  | cons c cs ih =>
    obtain ⟨here, later⟩ := List.forall_mem_cons.mp control
    have no_sigma : c ≠ 'Σ' := by
      rintro rfl
      revert here
      decide
    rw [lowerAfter, if_neg no_sigma, lowerChar_of_isControl here, ih later]
    rfl

/-- Control characters are neither letters nor digits. -/
theorem IsCluster.not_isControl
    (cluster : IsCluster g)
    (kind : HasKind g)
    (member : c ∈ g) :
    isControl c = false := by
  rw [← Bool.not_eq_true]
  intro control
  have all_control : ∀ d ∈ g, isControl d := fun d found => by
    rw [cluster.control d found c member, control]
  have uncased : upper g = lower g := by
    rw [upper_of_isControl all_control, lower, lowerAfter_of_isControl all_control]
  rcases kind with small | capital | digits
  · simp [isLowerCluster, uncased] at small
  · simp [isUpperCluster, uncased] at capital
  · have digit := List.all_eq_true.mp digits c member
    rw [isDigit_of_isControl control] at digit
    cases digit

/-- Where two untied clusters with a kind meet, an underscore between them is free. -/
theorem isFree_of_isUntied
    (untied : isTied c d = false)
    (no_control : isControl c = false)
    (no_control_next : isControl d = false) :
    isFree (some c) (some d) := by
  rw [isTied, no_control, no_control_next] at untied
  obtain ⟨no_mark, no_sign⟩ := Bool.or_eq_false_iff.mp untied
  simp [isFree, isTied, no_mark, no_sign, show isMark '_' = false from rfl,
    show isPrepended '_' = false from rfl]

/-! ## Words -/

/-- A separator is tied to the characters that an underscore is tied to. -/
theorem exists_of_isSeparator (separates : isSeparator g) :
    ∃ s, g = [s] ∧ (∀ c, isTied c s = isTied c '_') ∧ ∀ d, isTied s d = isTied '_' d := by
  simp only [isSeparator, Bool.or_eq_true, decide_eq_true_iff] at separates
  rcases separates with (rfl | rfl) | rfl <;>
    exact ⟨_, rfl, fun _ => rfl, fun _ => rfl⟩

theorem wordsAfter_ne_nil
    (word : List Char)
    (gs : List (List Char)) :
    wordsAfter word gs ≠ [] := by
  induction gs generalizing word with
  | nil => exact List.cons_ne_nil _ _
  | cons g gs ih =>
    rw [wordsAfter]
    split
    · exact List.cons_ne_nil _ _
    · split
      · exact List.cons_ne_nil _ _
      · exact ih _

/-- A single word is the whole text. -/
theorem eq_of_wordsAfter_eq_singleton
    {only : List Char}
    (single : wordsAfter word gs = [only]) :
    only = word ++ gs.flatten := by
  induction gs generalizing word with
  | nil =>
    rw [wordsAfter] at single
    rw [List.flatten_nil, List.append_nil, List.singleton_inj.mp single]
  | cons g gs ih =>
    rw [wordsAfter] at single
    split at single
    · exact absurd (List.cons_eq_cons.mp single).2 (wordsAfter_ne_nil _ _)
    · split at single
      · exact absurd (List.cons_eq_cons.mp single).2 (wordsAfter_ne_nil _ _)
      · rw [ih single, List.append_assoc, List.flatten_cons]

theorem isWhole_of_mem_wordsAfter
    (clusters : ∀ g ∈ gs, IsCluster g)
    (whole : IsWhole none word)
    {part : List Char}
    (member : part ∈ wordsAfter word gs) :
    IsWhole none part := by
  induction gs generalizing word with
  | nil =>
    rw [wordsAfter, List.mem_singleton] at member
    exact member ▸ whole
  | cons g gs ih =>
    obtain ⟨cluster, clusters⟩ := List.forall_mem_cons.mp clusters
    rw [wordsAfter] at member
    split at member
    · rcases List.mem_cons.mp member with rfl | later
      · exact whole
      · exact ih clusters (isWhole_nil none) later
    · next no_separator =>
      have not_alone : g ≠ ['_'] := by
        rintro rfl
        exact no_separator rfl
      have longer : IsWhole none (word ++ g) :=
        whole.append ((cluster.whole not_alone).of_none _)
      split at member
      · rcases List.mem_cons.mp member with rfl | later
        · exact longer
        · exact ih clusters (isWhole_nil none) later
      · exact ih clusters longer member

/-- The first word, if it has characters, begins as the text does. -/
theorem head?_of_head?_wordsAfter
    {first : List Char}
    (found : first ∈ (wordsAfter word gs).head?) :
    first = [] ∨ first.head? = (word ++ gs.flatten).head? := by
  have begins (more : List Char) : ∀ part : List Char,
      part = [] ∨ part.head? = (part ++ more).head? := by
    intro part
    cases part with
    | nil => exact Or.inl rfl
    | cons c part => exact Or.inr rfl
  induction gs generalizing word with
  | nil =>
    obtain rfl := Option.some.inj found
    exact begins _ _
  | cons g gs ih =>
    rw [wordsAfter] at found
    split at found
    · obtain rfl := Option.some.inj found
      exact begins _ _
    · rw [List.flatten_cons, ← List.append_assoc]
      split at found
      · obtain rfl := Option.some.inj found
        exact begins _ _
      · exact ih found

/-- An underscore is free before the first word if it is not tied to what follows. -/
theorem isFree_head?_wordsAfter
    {last : Option Char}
    (free : isFree last gs.flatten.head?)
    {first : List Char}
    (found : first ∈ (wordsAfter [] gs).head?) :
    isFree last first.head? := by
  rcases head?_of_head?_wordsAfter found with rfl | begins
  · exact isFree_none_of_isFree free
  · rwa [begins]

theorem IsUntied.append_left
    (untied : IsUntied g h)
    (g_ne : g ≠ [])
    (word : List Char) :
    IsUntied (word ++ g) h := by
  rwa [IsUntied, List.getLast?_append_of_ne_nil word g_ne]

/-- A cluster is not tied to the text of those after it. -/
theorem areTied_flatten
    (clusters : ∀ h ∈ gs, IsCluster h)
    (chain : (g :: gs).IsChain IsUntied) :
    areTied g.getLast? gs.flatten.head? = false := by
  cases gs with
  | nil => exact areTied_none_right _
  | cons h gs =>
    obtain ⟨untied, -⟩ := List.isChain_cons_cons.mp chain
    have h_ne : h ≠ [] := (clusters h List.mem_cons_self).ne_nil
    rw [List.flatten_cons, List.head?_append_of_ne_nil h h_ne]
    exact untied

theorem isFree_of_isSeparator
    (separates : isSeparator g)
    (clusters : ∀ h ∈ gs, IsCluster h)
    (chain : (word :: g :: gs).IsChain IsUntied) :
    isFree word.getLast? gs.flatten.head? := by
  obtain ⟨s, rfl, before_s, after_s⟩ := exists_of_isSeparator separates
  obtain ⟨untied, chain⟩ := List.isChain_cons_cons.mp chain
  have untied_before : areTied word.getLast? (some '_') = false := by
    unfold IsUntied at untied
    cases last_eq : word.getLast? with
    | none => rfl
    | some c => rwa [last_eq, List.head?_cons, areTied_some, before_s] at untied
  have untied_after : areTied (some '_') gs.flatten.head? = false := by
    have untied := areTied_flatten clusters chain
    cases next_eq : gs.flatten.head? with
    | none => rfl
    | some d => rwa [next_eq, List.getLast?_singleton, areTied_some, after_s] at untied
  rw [isFree, untied_before, untied_after]
  rfl

theorem isFree_of_endsWord
    (ends : endsWord g gs)
    (cluster : IsCluster g)
    (clusters : ∀ h ∈ gs, IsCluster h)
    (chain : (g :: gs).IsChain IsUntied) :
    isFree g.getLast? gs.flatten.head? := by
  obtain _ | ⟨h, gs⟩ := gs
  · cases ends
  have next_cluster : IsCluster h := clusters h List.mem_cons_self
  obtain ⟨kind, next_kind⟩ := hasKind_of_endsWord ends
  have untied := areTied_flatten clusters chain
  rw [List.flatten_cons, List.head?_append_of_ne_nil h next_cluster.ne_nil] at untied ⊢
  rw [List.getLast?_eq_some_getLast cluster.ne_nil, List.head?_eq_some_head next_cluster.ne_nil]
    at untied ⊢
  exact isFree_of_isUntied untied (cluster.not_isControl kind (List.getLast_mem _))
    (next_cluster.not_isControl next_kind (List.head_mem _))

/-- Underscores between the words are free. -/
theorem isChain_wordsAfter
    (clusters : ∀ g ∈ gs, IsCluster g)
    (chain : (word :: gs).IsChain IsUntied) :
    (wordsAfter word gs).IsChain IsParted := by
  induction gs generalizing word with
  | nil => exact List.isChain_singleton _
  | cons g gs ih =>
    obtain ⟨cluster, later_clusters⟩ := List.forall_mem_cons.mp clusters
    obtain ⟨-, later_chain⟩ := List.isChain_cons_cons.mp chain
    -- With nothing in the open word, nothing is tied to the clusters that follow.
    have anew : (wordsAfter [] gs).IsChain IsParted :=
      ih later_clusters (List.isChain_cons.mpr ⟨fun _ _ => rfl, later_chain.of_cons⟩)
    rw [wordsAfter]
    split
    · next separates =>
      have free := isFree_of_isSeparator separates later_clusters chain
      exact List.isChain_cons.mpr ⟨fun first found => isFree_head?_wordsAfter free found, anew⟩
    · split
      · next ends =>
        have free := isFree_of_endsWord ends cluster later_clusters later_chain
        rw [← List.getLast?_append_of_ne_nil word cluster.ne_nil] at free
        exact List.isChain_cons.mpr ⟨fun first found => isFree_head?_wordsAfter free found, anew⟩
      · refine ih later_clusters (List.isChain_cons.mpr ⟨fun next found => ?_, later_chain.of_cons⟩)
        have untied := (List.isChain_cons.mp later_chain).1 next found
        exact untied.append_left cluster.ne_nil word

theorem isWhole_of_mem_words (member : word ∈ words cs) : IsWhole none word := by
  unfold words at member
  split at member
  · cases member
  · exact isWhole_of_mem_wordsAfter (fun _ => isCluster_of_mem_clusters) (isWhole_nil none) member

theorem isChain_words (cs : List Char) : (words cs).IsChain IsParted := by
  unfold words
  split
  · exact List.isChain_nil
  · exact isChain_wordsAfter (fun _ => isCluster_of_mem_clusters)
      (List.isChain_cons.mpr ⟨fun _ _ => rfl, isChain_clusters cs⟩)

/-! ## Lower case -/

theorem InBlock.isTied_underscore_left (within : InBlock c) : isTied '_' c = false := by
  rw [isTied, within.not_isMark]
  exact Bool.and_false _

theorem InBlock.isTied_underscore_right (within : InBlock c) : isTied c '_' = false := by
  rw [isTied, within.not_isPrepended]
  exact Bool.and_false _

namespace Recased

variable {image : List Char}

theorem ne_nil (recased : Recased c image) : image ≠ [] := by
  cases recased <;> exact List.cons_ne_nil _ _

theorem notMem
    (recased : Recased c image)
    (other : c ≠ '_') :
    '_' ∉ image := by
  cases recased with
  | same => exact fun member => other (List.mem_singleton.mp member).symm
  | letter from_block to_block =>
    exact fun member => to_block.ne_underscore (List.mem_singleton.mp member).symm
  | dotted from_block to_block =>
    intro member
    rcases List.mem_cons.mp member with first | second
    · exact to_block.ne_underscore first.symm
    · cases List.mem_singleton.mp second

theorem eq_underscore (recased : Recased '_' image) : image = ['_'] := by
  cases recased with
  | same => rfl
  | letter from_block _ => exact absurd rfl from_block.ne_underscore
  | dotted from_block _ => exact absurd rfl from_block.ne_underscore

/-- A character is tied to an underscore before it as what replaces it is. -/
theorem areTied_head? (recased : Recased c image) :
    areTied (some '_') image.head? = isTied '_' c := by
  cases recased with
  | same => rfl
  | letter from_block to_block | dotted from_block to_block =>
    rw [from_block.isTied_underscore_left]
    exact to_block.isTied_underscore_left

/-- A character is tied to an underscore behind it as what replaces it is. -/
theorem areTied_getLast? (recased : Recased c image) :
    areTied image.getLast? (some '_') = isTied c '_' := by
  cases recased with
  | same => rfl
  | letter from_block to_block =>
    rw [from_block.isTied_underscore_right]
    exact to_block.isTied_underscore_right
  | dotted from_block to_block =>
    rw [from_block.isTied_underscore_right]
    rfl

end Recased

theorem lowerAfter_eq_nil_iff {before : List Char} : lowerAfter before cs = [] ↔ cs = [] := by
  cases cs with
  | nil => exact iff_of_true rfl rfl
  | cons c cs =>
    obtain ⟨image, recased, lower_eq⟩ := exists_recased_lowerAfter before c cs
    rw [lower_eq]
    exact iff_of_false (List.append_ne_nil_of_left_ne_nil recased.ne_nil _) (List.cons_ne_nil c cs)

theorem areTied_head?_lowerAfter (before cs : List Char) :
    areTied (some '_') (lowerAfter before cs).head? = areTied (some '_') cs.head? := by
  cases cs with
  | nil => rfl
  | cons c cs =>
    obtain ⟨image, recased, lower_eq⟩ := exists_recased_lowerAfter before c cs
    rw [lower_eq, List.head?_append_of_ne_nil image recased.ne_nil, recased.areTied_head?]
    rfl

theorem areTied_getLast?_lowerAfter (before cs : List Char) :
    areTied (lowerAfter before cs).getLast? (some '_') = areTied cs.getLast? (some '_') := by
  induction cs generalizing before with
  | nil => rfl
  | cons c cs ih =>
    obtain ⟨image, recased, lower_eq⟩ := exists_recased_lowerAfter before c cs
    rw [lower_eq]
    cases cs with
    | nil =>
      rw [lowerAfter_nil, List.append_nil, recased.areTied_getLast?]
      rfl
    | cons d cs =>
      have later_ne : lowerAfter (c :: before) (d :: cs) ≠ [] :=
        lowerAfter_eq_nil_iff.not.mpr (List.cons_ne_nil d cs)
      rw [List.getLast?_append_of_ne_nil image later_ne, ih, List.getLast?_cons_cons]

/-- An underscore between texts in lower case is free as it is between the texts. -/
theorem isFree_lower (cs ds : List Char) :
    isFree (lower cs).getLast? (lower ds).head? = isFree cs.getLast? ds.head? := by
  rw [isFree, lower, lower, areTied_getLast?_lowerAfter, areTied_head?_lowerAfter, ← isFree]

theorem IsWhole.lowerAfter
    {last : Option Char}
    (whole : IsWhole last cs)
    (before : List Char) :
    IsWhole last (lowerAfter before cs) := by
  induction cs generalizing last before with
  | nil => exact whole
  | cons c cs ih =>
    obtain ⟨image, recased, lower_eq⟩ := exists_recased_lowerAfter before c cs
    have later := ih whole.2 (c :: before)
    rw [lower_eq]
    by_cases underscore : c = '_'
    · subst underscore
      obtain rfl := recased.eq_underscore
      rw [List.singleton_append]
      refine ⟨fun _ free => whole.1 rfl ?_, later⟩
      rwa [isFree, areTied_head?_lowerAfter, ← isFree] at free
    · refine (of_notMem (recased.notMem underscore)).append (later.of_areTied fun tied => ?_)
      rw [List.getLast?_eq_some_getLast recased.ne_nil, Option.some_or,
        ← List.getLast?_eq_some_getLast recased.ne_nil, recased.areTied_getLast?]
      exact tied

/-! ## Snake case -/

/-- Words of a name in lower case. -/
def lowerWords (cs : List Char) : List (List Char) :=
  (words (dropRawMarks cs)).map lower

/-- The parts of a name in snake case are its words. -/
theorem partsAfter_snakeChars (named : dropRawMarks cs ≠ []) :
    partsAfter [] (snakeChars cs) = lowerWords cs := by
  refine partsAfter_intercalate ?_ ?_ ?_
  · rw [Ne, List.map_eq_nil_iff, words, if_neg (by simpa using named)]
    exact wordsAfter_ne_nil _ _
  · intro part member
    obtain ⟨word, found, rfl⟩ := List.mem_map.mp member
    exact (isWhole_of_mem_words found).lowerAfter []
  · rw [List.isChain_map]
    refine (isChain_words (dropRawMarks cs)).imp fun word next free => ?_
    rwa [IsParted, isFree_lower]

/-- Only a name without characters of its own is blank in snake case. -/
theorem snakeChars_eq_nil_iff : snakeChars cs = [] ↔ dropRawMarks cs = [] := by
  constructor
  · intro blank
    by_contra named
    have only := partsAfter_snakeChars named
    rw [blank, partsAfter, lowerWords, List.reverse_nil, eq_comm, List.map_eq_singleton_iff] at only
    obtain ⟨word, words_eq, word_blank⟩ := only
    rw [words, if_neg (by simpa using named)] at words_eq
    have word_eq := eq_of_wordsAfter_eq_singleton words_eq
    rw [List.nil_append, flatten_clusters] at word_eq
    rw [lower, lowerAfter_eq_nil_iff, word_eq] at word_blank
    exact named word_blank
  · intro nameless
    rw [snakeChars, nameless]
    rfl

/-- Names have the same snake case exactly if their words are the same in lower case. -/
theorem snakeChars_eq_iff : snakeChars cs = snakeChars ds ↔ lowerWords cs = lowerWords ds := by
  constructor
  · intro same
    by_cases nameless : dropRawMarks cs = []
    · have other_nameless : dropRawMarks ds = [] := by
        rwa [← snakeChars_eq_nil_iff, ← same, snakeChars_eq_nil_iff]
      rw [lowerWords, lowerWords, nameless, other_nameless]
    · have other_named : dropRawMarks ds ≠ [] := by
        rwa [Ne, ← snakeChars_eq_nil_iff, ← same, snakeChars_eq_nil_iff]
      rw [← partsAfter_snakeChars nameless, ← partsAfter_snakeChars other_named, same]
  · intro same
    exact congrArg ['_'].intercalate same

theorem snakeCase_eq_iff {name other : String} :
    snakeCase name = snakeCase other ↔ lowerWords name.toList = lowerWords other.toList := by
  rw [← String.toList_inj, toList_snakeCase, toList_snakeCase, snakeChars_eq_iff]

theorem snakeCase_eq_empty_iff {name : String} :
    snakeCase name = "" ↔ dropRawMarks name.toList = [] := by
  rw [← String.toList_inj, toList_snakeCase]
  exact snakeChars_eq_nil_iff

end Tablewright.Text
