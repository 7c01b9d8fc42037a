import Tablewright.Proofs.Text.Alnum

/-!
# Characters without case

The letters that have a small form, and their small forms, lie in a few blocks of code points.  No
mark, no sign and no underscore lies there, so lower case neither changes nor brings in any of
these.  Control characters are left alone by both case maps.
-/

namespace Tablewright.Text

/-- First and last code points of blocks that hold the letters with small forms, and these. -/
def letterBlocks : List (Nat × Nat) :=
  [(0x41, 0x5A), (0x61, 0x2FF), (0x370, 0x482), (0x48A, 0x590), (0x109E, 0x135C), (0x1360, 0x1711),
    (0x1C80, 0x1CCF), (0x1D00, 0x1DBF), (0x1E00, 0x200B), (0x20F1, 0x2CEE), (0x2CF2, 0x2D7E),
    (0xA640, 0xA66E), (0xA680, 0xA69D), (0xA6F2, 0xA801), (0xAAF7, 0xABE2), (0xFE30, 0xFF9D),
    (0x1037B, 0x10A00), (0x10AE7, 0x10D23), (0x10D28, 0x10D68), (0x10D6E, 0x10EAA),
    (0x1183B, 0x1192F), (0x16B37, 0x16F4E), (0x1E8D7, 0x1E943)]

/-- All numbers from one to another lie in one block. -/
def SpanInBlock (first last : Nat) : Prop :=
  ∃ block ∈ letterBlocks, block.1 ≤ first ∧ last ≤ block.2

instance (first last : Nat) : Decidable (SpanInBlock first last) :=
  List.decidableBEx (fun block : Nat × Nat => block.1 ≤ first ∧ last ≤ block.2) letterBlocks

/-- A character of a block. -/
def InBlock (c : Char) : Prop :=
  SpanInBlock c.toNat c.toNat

instance (c : Char) : Decidable (InBlock c) :=
  inferInstanceAs (Decidable (SpanInBlock c.toNat c.toNat))

theorem SpanInBlock.of_le
    {first last n : Nat}
    (span : SpanInBlock first last)
    (above : first ≤ n)
    (below : n ≤ last) :
    SpanInBlock n n := by
  obtain ⟨block, member, start, stop⟩ := span
  exact ⟨block, member, start.trans above, below.trans stop⟩

/-- Blocks hold numbers of characters only. -/
theorem isValidChar_of_inBlock
    {n : Nat}
    (within : SpanInBlock n n) :
    n.isValidChar := by
  have table : ∀ block ∈ letterBlocks,
      block.2 < 0xD800 ∨ 0xDFFF < block.1 ∧ block.2 < 0x110000 := by
    decide
  obtain ⟨block, member, start, stop⟩ := within
  rcases table block member with low | ⟨high, last⟩
  · exact Or.inl (Nat.lt_of_le_of_lt stop low)
  · exact Or.inr ⟨Nat.lt_of_lt_of_le high start, Nat.lt_of_le_of_lt stop last⟩

theorem inBlock_ofNat
    {n : Nat}
    (within : SpanInBlock n n) :
    InBlock (Char.ofNat n) := by
  rwa [InBlock, toNat_ofNat (isValidChar_of_inBlock within)]

/-! ## What blocks do not hold -/

/-- Membership does not change where there is no edge. -/
theorem inside_eq_of_no_edge
    {edges : List Nat}
    {m n : Nat}
    (le : m ≤ n)
    (no_edge : ∀ edge ∈ edges, edge ≤ m ∨ n < edge) :
    inside edges n = inside edges m := by
  induction edges with
  | nil => rfl
  | cons edge edges ih =>
    obtain ⟨here, later⟩ := List.forall_mem_cons.mp no_edge
    rw [inside, inside, ih later]
    rcases here with passed | ahead
    · rw [if_neg (Nat.not_lt.mpr (passed.trans le)), if_neg (Nat.not_lt.mpr passed)]
    · rw [if_pos ahead, if_pos (Nat.lt_of_le_of_lt le ahead)]

/-- A set does not contain the first of some numbers, and has no edge among the others. -/
def Avoids
    (edges : List Nat)
    (first last : Nat) : Prop :=
  (!inside edges first && edges.all fun edge => edge.ble first || last.blt edge) = true

instance (edges : List Nat) (first last : Nat) : Decidable (Avoids edges first last) :=
  inferInstanceAs (Decidable (_ = true))

theorem Avoids.not_inside
    {edges : List Nat}
    {first last n : Nat}
    (avoids : Avoids edges first last)
    (above : first ≤ n)
    (below : n ≤ last) :
    inside edges n = false := by
  unfold Avoids at avoids
  rw [Bool.and_eq_true, Bool.not_eq_true', List.all_eq_true] at avoids
  obtain ⟨outside, no_edge⟩ := avoids
  rw [inside_eq_of_no_edge above, outside]
  intro edge member
  have apart := no_edge edge member
  rw [Bool.or_eq_true, Nat.ble_eq, Nat.blt_eq] at apart
  exact apart.imp_right (Nat.lt_of_le_of_lt below)

/-- No table of marks has a number of a block. -/
theorem markEdges_avoid_blocks :
    ∀ block ∈ letterBlocks, Avoids extendingEdges block.1 block.2 ∧
      Avoids spacingMarkEdges block.1 block.2 ∧ Avoids prependedEdges block.1 block.2 := by
  decide +kernel

/-- The joiner and the tones of skin lie in no block. -/
theorem loneMarks_avoid_blocks :
    ∀ block ∈ letterBlocks, (joiner.toNat < block.1 ∨ block.2 < joiner.toNat) ∧
      (0x1F3FF < block.1 ∨ block.2 < 0x1F3FB) := by
  decide

namespace InBlock

variable {c : Char}

theorem not_isMark (within : InBlock c) : isMark c = false := by
  obtain ⟨block, member, start, stop⟩ := within
  obtain ⟨joiner_apart, tones_apart⟩ := loneMarks_avoid_blocks block member
  obtain ⟨extending, spacing, -⟩ := markEdges_avoid_blocks block member
  have no_joiner : c ≠ joiner := by
    rintro rfl
    omega
  have no_tone : ¬ (0x1F3FB ≤ c.toNat ∧ c.toNat ≤ 0x1F3FF) := by
    omega
  rw [isMark, extending.not_inside start stop, spacing.not_inside start stop,
    decide_eq_false no_joiner, ← Bool.decide_and, decide_eq_false no_tone]
  exact Bool.and_false _

theorem not_isPrepended (within : InBlock c) : isPrepended c = false := by
  obtain ⟨block, member, start, stop⟩ := within
  obtain ⟨-, -, prepended⟩ := markEdges_avoid_blocks block member
  rw [isPrepended, prepended.not_inside start stop, Bool.and_false]

theorem ne_underscore (within : InBlock c) : c ≠ '_' := by
  rintro rfl
  revert within
  decide

end InBlock

/-! ## Control characters -/

/-- A case map leaves a character alone if neither its runs nor its expansions hold it. -/
theorem caseImage_eq_of_inside
    {runs : List CaseRun}
    {expansions : List (Nat × List Nat)}
    {edges : List Nat}
    {c : Char}
    (runs_apart : ∀ run ∈ runs, Avoids edges run.1 run.2.1)
    (expansions_apart : ∀ entry ∈ expansions, inside edges entry.1 = false)
    (within : inside edges c.toNat) :
    caseImage runs expansions c = [c] := by
  unfold caseImage
  split
  · next image found =>
    obtain ⟨before, after, entries, -⟩ := List.lookup_eq_some_iff.mp found
    have apart := expansions_apart (c.toNat, image) (by simp [entries])
    exact absurd within (Bool.not_eq_true _ ▸ apart)
  · split
    · next image found =>
      obtain ⟨run, member, above, below, -⟩ := exists_run_of_runImage found
      have apart := (runs_apart run member).not_inside above below
      exact absurd within (Bool.not_eq_true _ ▸ apart)
    · rfl

theorem upperChar_of_isControl
    {c : Char}
    (control : isControl c) :
    upperChar c = [c] := by
  unfold upperChar
  split
  · next ascii =>
    exact of_table (fun c => isControl c → [c.toUpper] = [c]) (by decide +kernel) ascii control
  · next large =>
    rw [isControl, if_neg large] at control
    exact caseImage_eq_of_inside (by decide +kernel) (by decide +kernel) control

theorem lowerChar_of_isControl
    {c : Char}
    (control : isControl c) :
    lowerChar c = [c] := by
  unfold lowerChar
  split
  · next ascii =>
    exact of_table (fun c => isControl c → [c.toLower] = [c]) (by decide +kernel) ascii control
  · next large =>
    rw [isControl, if_neg large] at control
    exact caseImage_eq_of_inside (by decide +kernel) (by decide +kernel) control

theorem isDigit_of_isControl
    {c : Char}
    (control : isControl c) :
    c.isDigit = false := by
  by_contra digit
  rw [Bool.not_eq_false] at digit
  have ascii := lt_of_isAlnum (isAlnum_of_isDigit digit)
  have apart : c.isDigit = false :=
    of_table (fun c => isControl c → c.isDigit = false) (by decide +kernel) ascii control
  rw [digit] at apart
  cases apart

/-! ## Lower case -/

/-- The runs of the map to lower case lead from blocks to blocks. -/
theorem lowerRuns_inBlocks :
    ∀ run ∈ lowerRuns, SpanInBlock run.1 run.2.1 ∧
      SpanInBlock run.2.2.2 (run.2.2.2 + (run.2.1 - run.1)) := by
  decide +kernel

/-- The dot that a dotted capital leaves behind. -/
def dotAbove : Char := '\u0307'

/-- The one expansion under the map to lower case takes the dot off a capital. -/
theorem lowerExpansions_inBlocks :
    ∀ entry ∈ lowerExpansions, SpanInBlock entry.1 entry.1 ∧
      ∃ small, SpanInBlock small small ∧ entry.2 = [small, dotAbove.toNat] := by
  intro entry member
  obtain rfl := List.mem_singleton.mp member
  exact ⟨by decide, 0x69, by decide, rfl⟩

/-- What a character is replaced with: itself, or for a letter another letter, perhaps with a dot
above. -/
inductive Recased : Char → List Char → Prop
  | same (c : Char) : Recased c [c]
  | letter {c d : Char} (from_block : InBlock c) (to_block : InBlock d) : Recased c [d]
  | dotted {c d : Char} (from_block : InBlock c) (to_block : InBlock d) : Recased c [d, dotAbove]

theorem recased_lowerChar (c : Char) : Recased c (lowerChar c) := by
  unfold lowerChar
  split
  · next ascii =>
    have table : ∀ n : Fin 128, (Char.ofNat n).toLower = Char.ofNat n ∨
        InBlock (Char.ofNat n) ∧ InBlock (Char.ofNat n).toLower := by
      decide +kernel
    rcases of_table (fun c => c.toLower = c ∨ InBlock c ∧ InBlock c.toLower) table ascii
      with same | ⟨capital, small⟩
    · rw [same]
      exact .same c
    · exact .letter capital small
  · unfold caseImage
    split
    · next image found =>
      obtain ⟨before, after, entries, -⟩ := List.lookup_eq_some_iff.mp found
      have member : (c.toNat, image) ∈ lowerExpansions := by simp [entries]
      obtain ⟨capital, small, small_within, image_eq⟩ := lowerExpansions_inBlocks _ member
      rw [show image = [small, dotAbove.toNat] from image_eq]
      exact .dotted capital (inBlock_ofNat small_within)
    · split
      · next image found =>
        obtain ⟨run, member, above, below, image_eq⟩ := exists_run_of_runImage found
        obtain ⟨sources, images⟩ := lowerRuns_inBlocks run member
        have image_within : SpanInBlock image image :=
          images.of_le (by omega) (by omega)
        exact .letter (sources.of_le above below) (inBlock_ofNat image_within)
      · exact .same c

/-- Lower case replaces a character and goes on. -/
theorem exists_recased_lowerAfter
    (before : List Char)
    (c : Char)
    (rest : List Char) :
    ∃ image, Recased c image ∧
      lowerAfter before (c :: rest) = image ++ lowerAfter (c :: before) rest := by
  refine ⟨_, ?_, rfl⟩
  split
  · next sigma =>
    subst sigma
    split
    · exact .letter (by decide) (by decide)
    · exact .letter (by decide) (by decide)
  · exact recased_lowerChar c

end Tablewright.Text
