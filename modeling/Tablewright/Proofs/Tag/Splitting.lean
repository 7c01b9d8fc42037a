import Tablewright.Proofs.Text.Trim
import Tablewright.Tag.Segment

/-!
# Splitting at top-level commas

A text is closed if a scan that begins outside quotes and brackets ends there.  Closed texts with
commas between them are cut exactly at those commas and at the top-level commas of their own.
-/

namespace Tablewright.Tag

/-- A scan of the text begins and ends outside quotes and brackets. -/
def Closed (cs : List Char) : Prop :=
  Scan.top.run cs = Scan.top

instance (cs : List Char) : Decidable (Closed cs) :=
  inferInstanceAs (Decidable (Scan.top.run cs = Scan.top))

/-- No comma of the text is outside quotes and brackets. -/
def CommaFree (cs : List Char) : Prop :=
  ∀ before after, cs = before ++ ',' :: after → Scan.top.run before ≠ Scan.top

/-! ## Closed texts -/

theorem Closed.append
    {cs ds : List Char}
    (closed : Closed cs)
    (ds_closed : Closed ds) :
    Closed (cs ++ ds) := by
  rw [Closed, Scan.run_append, closed]
  exact ds_closed

theorem Closed.comma_cons
    {cs : List Char}
    (closed : Closed cs) :
    Closed (',' :: cs) := by
  rw [Closed, Scan.run_cons]
  exact closed

theorem Closed.intercalate
    {parts : List (List Char)}
    (closed : ∀ part ∈ parts, Closed part) :
    Closed ([','].intercalate parts) := by
  induction parts with
  | nil => rfl
  | cons part parts ih =>
    obtain ⟨here, later⟩ := List.forall_mem_cons.mp closed
    cases parts with
    | nil => rwa [List.intercalate_singleton]
    | cons next parts =>
      rw [List.intercalate_cons_cons, List.append_assoc]
      exact here.append (ih later).comma_cons

/-! ## Commas between texts -/

theorem intercalate_append
    {parts more : List (List Char)}
    (parts_ne : parts ≠ [])
    (more_ne : more ≠ []) :
    [','].intercalate (parts ++ more) =
      [','].intercalate parts ++ ',' :: [','].intercalate more := by
  induction parts with
  | nil => exact absurd rfl parts_ne
  | cons part parts ih =>
    cases parts with
    | nil =>
      rw [List.singleton_append, List.intercalate_cons_of_ne_nil more_ne,
        List.intercalate_singleton, List.append_assoc, List.singleton_append]
    | cons next parts =>
      rw [List.cons_append, List.cons_append, List.intercalate_cons_cons, ← List.cons_append,
        ih (List.cons_ne_nil next parts), List.intercalate_cons_cons,
        List.append_assoc _ _ (',' :: _)]

/-- Lists put together by commas and then put together are one list put together. -/
theorem intercalate_flatten
    {lists : List (List (List Char))}
    (each_ne : ∀ parts ∈ lists, parts ≠ []) :
    [','].intercalate (lists.map ([','].intercalate ·)) = [','].intercalate lists.flatten := by
  induction lists with
  | nil => rfl
  | cons parts lists ih =>
    obtain ⟨parts_ne, later_ne⟩ := List.forall_mem_cons.mp each_ne
    cases lists with
    | nil => rw [List.map_singleton, List.intercalate_singleton, List.flatten_singleton]
    | cons next lists =>
      have rest_ne : (next :: lists).flatten ≠ [] := by
        rw [List.flatten_cons]
        exact List.append_ne_nil_of_left_ne_nil (later_ne next List.mem_cons_self) _
      rw [List.flatten_cons, intercalate_append parts_ne rest_ne, ← ih later_ne, List.map_cons,
        List.intercalate_cons_of_ne_nil (by simp), List.append_assoc, List.singleton_append]

/-- A text behind the last of several goes to the last. -/
theorem intercalate_concat_append (before : List (List Char)) (last word : List Char) :
    [','].intercalate (before ++ [last ++ word]) =
      [','].intercalate (before ++ [last]) ++ word := by
  by_cases before_eq : before = []
  · rw [before_eq, List.nil_append, List.nil_append, List.intercalate_singleton,
      List.intercalate_singleton]
  · rw [intercalate_append before_eq (by simp), intercalate_append before_eq (by simp),
      List.intercalate_singleton, List.intercalate_singleton, List.append_assoc, List.cons_append]

/-! ## Segments -/

theorem pushFront_append
    (c : Char)
    {parts : List (List Char)}
    (parts_ne : parts ≠ [])
    (more : List (List Char)) :
    pushFront c (parts ++ more) = pushFront c parts ++ more := by
  obtain ⟨part, parts, rfl⟩ := List.exists_cons_of_ne_nil parts_ne
  rfl

/-- A text that leads a scan outside is cut at a comma behind it. -/
theorem segmentsFrom_append
    {scan : Scan}
    {cs : List Char}
    (leads : scan.run cs = Scan.top)
    (rest : List Char) :
    segmentsFrom scan (cs ++ ',' :: rest) = segmentsFrom scan cs ++ segments rest := by
  induction cs generalizing scan with
  | nil =>
    rw [Scan.run_nil] at leads
    rw [leads]
    exact if_pos ⟨rfl, rfl⟩
  | cons c cs ih =>
    rw [Scan.run_cons] at leads
    rw [List.cons_append, segmentsFrom, segmentsFrom]
    split
    · next cut =>
      obtain ⟨rfl, rfl⟩ := cut
      have still : Scan.top.run cs = Scan.top := leads
      rw [ih still, List.cons_append]
    · rw [ih leads, pushFront_append c (segmentsFrom_ne_nil _ _)]

/-- Texts with commas between them are cut there and within, the last of them closed or not. -/
theorem segments_intercalate_of_dropLast
    {parts : List (List Char)}
    (parts_ne : parts ≠ [])
    (closed : ∀ part ∈ parts.dropLast, Closed part) :
    segments ([','].intercalate parts) = parts.flatMap segments := by
  induction parts with
  | nil => exact absurd rfl parts_ne
  | cons part parts ih =>
    cases parts with
    | nil => rw [List.intercalate_singleton, List.flatMap_singleton]
    | cons next parts =>
      rw [List.dropLast_cons_cons] at closed
      obtain ⟨here, later⟩ := List.forall_mem_cons.mp closed
      rw [List.intercalate_cons_cons, List.append_assoc, List.singleton_append, List.flatMap_cons,
        ← ih (List.cons_ne_nil next parts) later]
      exact segmentsFrom_append here _

/-- Closed texts with commas between them are cut there and within. -/
theorem segments_intercalate
    {parts : List (List Char)}
    (parts_ne : parts ≠ [])
    (closed : ∀ part ∈ parts, Closed part) :
    segments ([','].intercalate parts) = parts.flatMap segments :=
  segments_intercalate_of_dropLast parts_ne fun part member =>
    closed part (List.dropLast_subset parts member)

/-- A text whose commas are all inside is one segment. -/
theorem segmentsFrom_eq_singleton
    {scan : Scan}
    {cs : List Char}
    (free : ∀ before after, cs = before ++ ',' :: after → scan.run before ≠ Scan.top) :
    segmentsFrom scan cs = [cs] := by
  induction cs generalizing scan with
  | nil => rfl
  | cons c cs ih =>
    rw [segmentsFrom]
    split
    · next cut =>
      obtain ⟨rfl, rfl⟩ := cut
      exact absurd rfl (free [] cs rfl)
    · have later : segmentsFrom (scan.step c) cs = [cs] := by
        apply ih
        intro before after equal
        exact free (c :: before) after (by rw [equal, List.cons_append])
      rw [later, pushFront]

theorem CommaFree.segments_eq
    {cs : List Char}
    (free : CommaFree cs) :
    segments cs = [cs] :=
  segmentsFrom_eq_singleton free

theorem intercalate_pushFront
    (c : Char)
    {parts : List (List Char)}
    (parts_ne : parts ≠ []) :
    [','].intercalate (pushFront c parts) = c :: [','].intercalate parts := by
  obtain ⟨part, parts, rfl⟩ := List.exists_cons_of_ne_nil parts_ne
  cases parts with
  | nil => rw [pushFront, List.intercalate_singleton, List.intercalate_singleton]
  | cons next parts =>
    rw [pushFront, List.intercalate_cons_cons, List.intercalate_cons_cons, List.cons_append,
      List.cons_append]

/-- Segments with commas between them are the text. -/
theorem intercalate_segmentsFrom (scan : Scan) (cs : List Char) :
    [','].intercalate (segmentsFrom scan cs) = cs := by
  induction cs generalizing scan with
  | nil => rfl
  | cons c cs ih =>
    rw [segmentsFrom]
    split
    · next cut =>
      rw [List.intercalate_cons_of_ne_nil (segmentsFrom_ne_nil scan cs), ih, cut.1]
      rfl
    · rw [intercalate_pushFront c (segmentsFrom_ne_nil _ cs), ih]

theorem intercalate_segments (cs : List Char) : [','].intercalate (segments cs) = cs :=
  intercalate_segmentsFrom Scan.top cs

/-- Only a text whose commas are all inside is one segment. -/
theorem commaFree_iff {cs : List Char} : CommaFree cs ↔ segments cs = [cs] := by
  constructor
  · exact CommaFree.segments_eq
  · rintro alone before after rfl leads
    have pieces : segments before ++ segments after = [before ++ ',' :: after] := by
      rw [← alone]
      exact (segmentsFrom_append leads after).symm
    have lengths := congrArg List.length pieces
    have some_before := List.length_pos_of_ne_nil (segmentsFrom_ne_nil Scan.top before)
    have some_after := List.length_pos_of_ne_nil (segmentsFrom_ne_nil Scan.top after)
    rw [List.length_append, List.length_singleton] at lengths
    unfold segments at lengths
    omega

instance (cs : List Char) : Decidable (CommaFree cs) :=
  decidable_of_iff _ commaFree_iff.symm

/-- A word without commas goes to the first segment. -/
theorem segmentsFrom_word_append
    {scan : Scan}
    {word cs first : List Char}
    {more : List (List Char)}
    (no_comma : ',' ∉ word)
    (cut : segmentsFrom (scan.run word) cs = first :: more) :
    segmentsFrom scan (word ++ cs) = (word ++ first) :: more := by
  induction word generalizing scan with
  | nil => exact cut
  | cons c word ih =>
    rw [List.mem_cons, not_or] at no_comma
    rw [List.cons_append, segmentsFrom, if_neg fun comma => no_comma.1 comma.1.symm,
      ih no_comma.2 cut]
    rfl

end Tablewright.Tag
