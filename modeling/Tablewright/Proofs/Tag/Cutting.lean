import Tablewright.Proofs.Tag.Splitting

/-!
# Segments of any text

All commas of a segment are in quotes or brackets, and only the last segment of a text can stay
open.  Blanks around a text go to its first segment and to its last.
-/

namespace Tablewright.Tag

/-! ## What the segments of a text are -/

/-- The first segment is cut off at the first comma outside. -/
theorem segmentsFrom_eq_cons
    {scan : Scan}
    {cs first : List Char}
    {more : List (List Char)}
    (cut : segmentsFrom scan cs = first :: more) :
    (∀ before after, first = before ++ ',' :: after → scan.run before ≠ Scan.top) ∧
      (more ≠ [] → scan.run first = Scan.top ∧ ∃ rest, more = segments rest) := by
  induction cs generalizing scan first with
  | nil =>
    obtain ⟨rfl, rfl⟩ := List.cons.inj cut
    exact ⟨by simp, fun more_ne => absurd rfl more_ne⟩
  | cons c cs ih =>
    rw [segmentsFrom] at cut
    split at cut
    · next comma =>
      obtain ⟨-, rfl⟩ := comma
      obtain ⟨rfl, rfl⟩ := List.cons.inj cut
      exact ⟨by simp, fun _ => ⟨rfl, cs, rfl⟩⟩
    · next inside =>
      cases rest_eq : segmentsFrom (scan.step c) cs with
      | nil => exact absurd rest_eq (segmentsFrom_ne_nil _ _)
      | cons first' more' =>
        rw [rest_eq, pushFront] at cut
        obtain ⟨rfl, rfl⟩ := List.cons.inj cut
        obtain ⟨free, leads⟩ := ih rest_eq
        refine ⟨?_, leads⟩
        intro before after equal
        cases before with
        | nil =>
          obtain ⟨rfl, -⟩ := List.cons.inj equal
          exact fun top => inside ⟨rfl, top⟩
        | cons d before =>
          obtain ⟨rfl, rest_equal⟩ := List.cons.inj equal
          exact free before after rest_equal

/-- Texts that segments can be: all commas of each are in quotes or brackets, and only the last can
stay open. -/
structure IsCut (parts : List (List Char)) : Prop where
  /-- No part has a comma outside quotes and brackets. -/
  free : ∀ part ∈ parts, CommaFree part
  /-- All parts but the last are closed. -/
  closed : ∀ part ∈ parts.dropLast, Closed part

theorem isCut_segments (cs : List Char) : IsCut (segments cs) := by
  have all (parts : List (List Char)) (cs : List Char) (cut : segments cs = parts) :
      IsCut parts := by
    induction parts generalizing cs with
    | nil => exact absurd cut (segmentsFrom_ne_nil Scan.top cs)
    | cons first more ih =>
      obtain ⟨free, leads⟩ := segmentsFrom_eq_cons cut
      cases more with
      | nil => exact ⟨List.forall_mem_singleton.mpr free, nofun⟩
      | cons next more =>
        obtain ⟨closed, rest, rest_cut⟩ := leads (List.cons_ne_nil next more)
        have later := ih rest rest_cut.symm
        refine ⟨List.forall_mem_cons.mpr ⟨free, later.free⟩, ?_⟩
        rw [List.dropLast_cons_cons]
        exact List.forall_mem_cons.mpr ⟨closed, later.closed⟩
  exact all _ cs rfl

/-- Commas put such texts together so that they are the segments of the whole. -/
theorem IsCut.segments_intercalate
    {parts : List (List Char)}
    (cut : IsCut parts)
    (parts_ne : parts ≠ []) :
    segments ([','].intercalate parts) = parts := by
  have each : parts.flatMap segments = parts.flatMap fun part => [part] :=
    List.flatMap_congr fun part member => (cut.free part member).segments_eq
  rw [segments_intercalate_of_dropLast parts_ne cut.closed, each, List.flatMap_singleton']

/-- A list of texts is the segments of a text exactly if commas put it together to the text, if all
commas of each of the texts are in quotes or brackets, and if all of them before a last one are
closed.  As there is a last one, the empty text has one segment. -/
theorem segments_eq_iff (cs : List Char) (parts : List (List Char)) :
    segments cs = parts ↔
      [','].intercalate parts = cs ∧
        (∀ part ∈ parts, CommaFree part) ∧
        ∃ before last, parts = before ++ [last] ∧ ∀ part ∈ before, Closed part := by
  constructor
  · rintro rfl
    obtain ⟨free, closed⟩ := isCut_segments cs
    have parts_ne : segments cs ≠ [] := segmentsFrom_ne_nil Scan.top cs
    exact ⟨intercalate_segments cs, free, (segments cs).dropLast, (segments cs).getLast parts_ne,
      (List.dropLast_concat_getLast parts_ne).symm, closed⟩
  · rintro ⟨rfl, free, before, last, rfl, closed⟩
    have cut : IsCut (before ++ [last]) := ⟨free, by rwa [List.dropLast_concat]⟩
    exact cut.segments_intercalate (by simp)

theorem dropLast_sublist_dropLast
    {parts more : List (List Char)}
    (among : parts.Sublist more) :
    parts.dropLast.Sublist more.dropLast := by
  rw [← List.reverse_sublist, ← List.tail_reverse, ← List.tail_reverse]
  exact (List.reverse_sublist.mpr among).tail

theorem IsCut.of_sublist
    {parts more : List (List Char)}
    (cut : IsCut more)
    (among : parts.Sublist more) :
    IsCut parts :=
  ⟨fun part member => cut.free part (among.subset member),
    fun part member => cut.closed part ((dropLast_sublist_dropLast among).subset member)⟩

/-- Closed texts with all commas inside are segments before whatever follows them. -/
theorem segments_intercalate_append
    {before parts : List (List Char)}
    (free : ∀ part ∈ before, CommaFree part)
    (closed : ∀ part ∈ before, Closed part)
    (parts_ne : parts ≠ []) :
    segments ([','].intercalate (before ++ parts)) =
      before ++ segments ([','].intercalate parts) := by
  have joined : [','].intercalate (before ++ parts) =
      [','].intercalate (before ++ [[','].intercalate parts]) := by
    by_cases before_eq : before = []
    · rw [before_eq, List.nil_append, List.nil_append, List.intercalate_singleton]
    · rw [intercalate_append before_eq parts_ne, intercalate_append before_eq (by simp),
        List.intercalate_singleton]
  have each : before.flatMap segments = before.flatMap fun part => [part] :=
    List.flatMap_congr fun part member => (free part member).segments_eq
  have before_closed : ∀ part ∈ (before ++ [[','].intercalate parts]).dropLast, Closed part := by
    rwa [List.dropLast_concat]
  rw [joined, segments_intercalate_of_dropLast (by simp) before_closed, List.flatMap_append,
    List.flatMap_singleton, each, List.flatMap_singleton']

/-- Every segment of a closed text is closed. -/
theorem Closed.segments
    {cs : List Char}
    (closed : Closed cs) :
    ∀ part ∈ segments cs, Closed part := by
  have before_closed := (isCut_segments cs).closed
  have joined := intercalate_segments cs
  rcases List.eq_nil_or_concat (Tag.segments cs) with none | ⟨before, last, cut⟩
  · exact absurd none (segmentsFrom_ne_nil Scan.top cs)
  · rw [List.concat_eq_append] at cut
    rw [cut] at before_closed joined ⊢
    rw [List.dropLast_concat] at before_closed
    refine List.forall_mem_append.mpr ⟨before_closed, List.forall_mem_singleton.mpr ?_⟩
    by_cases before_eq : before = []
    · rw [before_eq, List.nil_append, List.intercalate_singleton] at joined
      rwa [joined]
    · rw [intercalate_append before_eq (List.cons_ne_nil last []), List.intercalate_singleton]
        at joined
      rw [← joined, Closed, Scan.run_append, Closed.intercalate before_closed] at closed
      exact closed

/-! ## Characters that do not change a scan -/

/-- Quotes and brackets. -/
def delimiters : List Char :=
  ['\'', '"', '(', '[', '\x7b', ')', ']', '\x7d']

namespace Scan

/-- An open quote is one of the quotes and brackets. -/
def IsKnown (scan : Scan) : Prop :=
  ∀ quote ∈ scan.quote, quote ∈ delimiters

theorem IsKnown.step
    {scan : Scan}
    (known : scan.IsKnown)
    (c : Char) :
    (scan.step c).IsKnown := by
  unfold IsKnown Scan.step
  cases quote_eq : scan.quote with
  | none =>
    dsimp only
    split_ifs with opens
    · rintro quote ⟨⟩
      rcases opens with rfl | rfl <;> decide
    all_goals simp [quote_eq]
  | some quote =>
    dsimp only
    split_ifs with closes
    · exact nofun
    · exact known

theorem isKnown_run (cs : List Char) : (top.run cs).IsKnown := by
  have all (scan : Scan) (known : scan.IsKnown) : (scan.run cs).IsKnown := by
    induction cs generalizing scan with
    | nil => exact known
    | cons c cs ih => exact ih _ (known.step c)
  exact all top nofun

/-- Only quotes and brackets change a scan. -/
theorem step_eq_self
    {scan : Scan}
    {c : Char}
    (known : scan.IsKnown)
    (plain : c ∉ delimiters) :
    scan.step c = scan := by
  unfold Scan.step
  cases quote_eq : scan.quote with
  | none =>
    simp only [delimiters, List.mem_cons, not_or] at plain
    simp [plain]
  | some quote =>
    have other : c ≠ quote := by
      rintro rfl
      exact plain (known c quote_eq)
    exact if_neg other

/-- A text without quotes and brackets does not change a scan. -/
theorem run_append_of_plain
    {ds : List Char}
    (plain : ∀ c ∈ ds, c ∉ delimiters)
    (cs : List Char) :
    top.run (cs ++ ds) = top.run cs := by
  have known := isKnown_run cs
  rw [run_append]
  induction ds with
  | nil => rfl
  | cons d ds ih =>
    obtain ⟨here, later⟩ := List.forall_mem_cons.mp plain
    rw [run_cons, step_eq_self known here]
    exact ih later

end Scan

/-- Behind a text left open, commas without quotes and brackets around them do not cut. -/
theorem CommaFree.append_of_plain
    {cs ds : List Char}
    (free : CommaFree cs)
    (opened : ¬ Closed cs)
    (plain : ∀ c ∈ ds, c ∉ delimiters) :
    CommaFree (cs ++ ds) := by
  intro before after equal
  rcases List.append_eq_append_iff.mp equal with ⟨more, rfl, rest_equal⟩ | ⟨more, rfl, rest_equal⟩
  · have more_plain : ∀ c ∈ more, c ∉ delimiters := by
      intro c member
      exact plain c (by rw [rest_equal]; exact List.mem_append_left _ member)
    rw [Scan.run_append_of_plain more_plain]
    exact opened
  · cases more with
    | nil =>
      rw [List.append_nil] at opened
      exact opened
    | cons c more =>
      obtain ⟨rfl, rfl⟩ := List.cons.inj rest_equal
      exact free before more rfl

/-! ## Blanks around a text -/

section Blank

open Text (isBlank trim exists_eq_append_trim trim_append_of_blank trim_append_of_blank_left)

theorem notMem_delimiters_of_isBlank
    {c : Char}
    (blank : isBlank c) :
    c ∉ delimiters := by
  have table : delimiters.all fun d => !isBlank d := by decide
  intro member
  have not_blank := List.all_eq_true.mp table c member
  rw [blank] at not_blank
  cases not_blank

variable {cs ds : List Char}

theorem plain_of_all_isBlank (blank : cs.all isBlank) : ∀ c ∈ cs, c ∉ delimiters :=
  fun c member => notMem_delimiters_of_isBlank (List.all_eq_true.mp blank c member)

theorem comma_notMem_of_all_isBlank (blank : cs.all isBlank) : ',' ∉ cs := by
  intro member
  have comma_blank := List.all_eq_true.mp blank ',' member
  revert comma_blank
  decide

/-- Blanks around a text do not change where a scan of it ends. -/
theorem Scan.run_trim (cs : List Char) : top.run (trim cs) = top.run cs := by
  obtain ⟨before, after, equal, before_blank, after_blank⟩ := exists_eq_append_trim cs
  have opening : top.run before = top := run_append_of_plain (plain_of_all_isBlank before_blank) []
  conv_rhs =>
    rw [equal, run_append, opening, run_append_of_plain (plain_of_all_isBlank after_blank)]

theorem closed_trim_iff : Closed (trim cs) ↔ Closed cs := by
  rw [Closed, Closed, Scan.run_trim]

/-- What follows without commas goes to the last segment. -/
theorem segments_append_word
    {last word : List Char}
    {before : List (List Char)}
    (no_comma : ',' ∉ word)
    (cut : segments cs = before ++ [last]) :
    segments (cs ++ word) = before ++ [last ++ word] := by
  obtain ⟨free, closed⟩ := isCut_segments cs
  rw [cut] at free closed
  obtain ⟨before_free, last_free⟩ := List.forall_mem_append.mp free
  have word_free : CommaFree (last ++ word) := by
    intro start rest equal
    rcases List.append_eq_append_iff.mp equal with
      ⟨more, -, rest_equal⟩ | ⟨more, last_equal, rest_equal⟩
    · exact absurd (by rw [rest_equal]; simp) no_comma
    · cases more with
      | nil => exact absurd (by rw [← List.nil_append word, ← rest_equal]; simp) no_comma
      | cons c more =>
        obtain ⟨rfl, -⟩ := List.cons.inj rest_equal
        exact last_free last (List.mem_singleton_self last) start more last_equal
  have joined : [','].intercalate (before ++ [last ++ word]) = cs ++ word := by
    rw [intercalate_concat_append, ← cut, intercalate_segments]
  rw [← joined]
  refine IsCut.segments_intercalate ⟨?_, ?_⟩ (by simp)
  · exact List.forall_mem_append.mpr ⟨before_free, List.forall_mem_singleton.mpr word_free⟩
  · rwa [List.dropLast_concat] at closed ⊢

/-- The blanks around a text go to its first segment and to its last. -/
theorem segments_trim
    {first : List Char}
    {more : List (List Char)}
    (cut : segments (trim cs) = first :: more) :
    ∃ before after, before.all isBlank ∧ after.all isBlank ∧
      ((more = [] ∧ segments cs = [before ++ (first ++ after)]) ∨
        ∃ inner last, more = inner ++ [last] ∧
          segments cs = (before ++ first) :: (inner ++ [last ++ after])) := by
  obtain ⟨before, after, equal, before_blank, after_blank⟩ := exists_eq_append_trim cs
  have no_comma : ',' ∉ after := comma_notMem_of_all_isBlank after_blank
  have opening : Scan.top.run before = Scan.top :=
    Scan.run_append_of_plain (plain_of_all_isBlank before_blank) []
  have start {first : List Char} {more : List (List Char)}
      (cut : segments (trim cs ++ after) = first :: more) :
      segments cs = (before ++ first) :: more := by
    conv_lhs => rw [equal]
    apply segmentsFrom_word_append (comma_notMem_of_all_isBlank before_blank)
    rw [opening]
    exact cut
  refine ⟨before, after, before_blank, after_blank, ?_⟩
  rcases List.eq_nil_or_concat more with rfl | ⟨inner, last, rfl⟩
  · rw [← List.nil_append [first]] at cut
    exact .inl ⟨rfl, start (segments_append_word no_comma cut)⟩
  · rw [List.concat_eq_append, ← List.cons_append] at cut
    exact .inr ⟨inner, last, List.concat_eq_append, start (segments_append_word no_comma cut)⟩

/-- Blanks around a text change its segments by blanks only. -/
theorem map_trim_segments_trim (cs : List Char) :
    (segments (trim cs)).map trim = (segments cs).map trim := by
  cases cut : segments (trim cs) with
  | nil => exact absurd cut (segmentsFrom_ne_nil Scan.top _)
  | cons first more =>
    obtain ⟨before, after, before_blank, after_blank, ⟨rfl, alone⟩ | ⟨inner, last, rfl, several⟩⟩ :=
      segments_trim cut
    · rw [alone, List.map_singleton, List.map_singleton, trim_append_of_blank_left before_blank,
        trim_append_of_blank after_blank]
    · rw [several, List.map_cons, List.map_cons, List.map_append, List.map_append,
        List.map_singleton, List.map_singleton, trim_append_of_blank_left before_blank,
        trim_append_of_blank after_blank]

end Blank

end Tablewright.Tag
