import Tablewright.Proofs.Tag.Splitting
import Tablewright.Proofs.Text.Slice
import Tablewright.Tag.Reading

/-!
# Tags cut at their bytes

The segments of a tag lie between bytes of the tag: each ends where a top-level comma begins, and
the next one begins one byte later.
-/

namespace Tablewright.Tag

open Text (OutOfBounds size slice)

/-- The segments of a tag from the one that is open; a scan has come to a byte, and the rest of the
tag follows it. -/
def slicedSegmentsFrom
    (tag : List Char)
    (start current : Nat)
    (scan : Scan) : List Char → Except OutOfBounds (List (List Char))
  | [] => (fun segment => [segment]) <$> slice tag start (size tag)
  | c :: rest =>
    if c = ',' ∧ scan = Scan.top then do
      let segment ← slice tag start current
      let later ← slicedSegmentsFrom tag (current + 1) (current + c.utf8Size) scan rest
      return segment :: later
    else slicedSegmentsFrom tag start (current + c.utf8Size) (scan.step c) rest

/-- The segments of a text, cut out of it. -/
def slicedSegments (cs : List Char) : Except OutOfBounds (List (List Char)) :=
  slicedSegmentsFrom cs 0 0 Scan.top cs

/-- Wherever the scan stands, the open segment and those of the rest are cut out. -/
theorem slicedSegmentsFrom_eq
    (before back : List Char)
    (scan : Scan)
    (rest : List Char)
    {first : List Char}
    {more : List (List Char)}
    (cut : segmentsFrom scan rest = first :: more) :
    slicedSegmentsFrom (before ++ (back ++ rest)) (size before) (size before + size back) scan
        rest =
      .ok ((back ++ first) :: more) := by
  induction rest generalizing before back scan first more with
  | nil =>
    obtain ⟨rfl, rfl⟩ := List.cons.inj cut
    rw [slicedSegmentsFrom, Text.slice_rest]
    rfl
  | cons c rest ih =>
    rw [segmentsFrom] at cut
    rw [slicedSegmentsFrom]
    split at cut
    · next comma =>
      obtain ⟨rfl, rfl⟩ := List.cons.inj cut
      obtain ⟨next, others, later⟩ :=
        List.exists_cons_of_ne_nil (segmentsFrom_ne_nil scan rest)
      have behind := ih (before ++ (back ++ [c])) [] scan later
      have comma_size : c.utf8Size = 1 := by
        rw [comma.1]
        rfl
      simp only [List.append_assoc, List.singleton_append, List.nil_append, Text.size_append,
        Text.size_cons, Text.size_nil, comma_size, Nat.add_zero, ← Nat.add_assoc] at behind
      rw [if_pos comma, Text.slice_append, comma_size, behind, later, List.append_nil]
      rfl
    · next inside =>
      obtain ⟨next, others, later⟩ :=
        List.exists_cons_of_ne_nil (segmentsFrom_ne_nil (scan.step c) rest)
      have further := ih before (back ++ [c]) (scan.step c) later
      simp only [List.append_assoc, List.singleton_append, Text.size_append, Text.size_cons,
        Text.size_nil, Nat.add_zero, ← Nat.add_assoc] at further
      rw [later, pushFront] at cut
      obtain ⟨rfl, rfl⟩ := List.cons.inj cut
      rw [if_neg inside, further]

theorem slicedSegments_eq (cs : List Char) : slicedSegments cs = .ok (segments cs) := by
  obtain ⟨first, more, cut⟩ := List.exists_cons_of_ne_nil (segmentsFrom_ne_nil Scan.top cs)
  rw [segments, cut]
  exact slicedSegmentsFrom_eq [] [] Scan.top cs cut

/-- The tokens of a tag, each segment cut out of the tag. -/
def slicedRead (tag : String) : Except OutOfBounds (List Token) := do
  let (loose, tokens) := readSegments (← slicedSegments (Text.trim tag.toList))
  return looseTokens loose ++ tokens

/-- Every segment of a tag lies between two characters of it. -/
theorem slicedRead_eq (tag : String) : slicedRead tag = .ok (read tag) := by
  rw [slicedRead, slicedSegments_eq]
  rfl

end Tablewright.Tag
