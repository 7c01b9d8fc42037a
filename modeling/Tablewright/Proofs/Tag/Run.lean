import Tablewright.Proofs.Tag.RoundTrip

/-!
# Runs of segments

Reading cuts the segments of a tag into runs, one for each token, and skips blank segments between
them.  What is known of all segments is so known of the segments that a token is read from.
-/

namespace Tablewright.Tag

open Text (Trimmed isBlank trim trimmed_trim trim_eq_nil_iff)

/-! ## Heads -/

theorem bareToken?_word {word : String} (known : word ∈ bareWords) :
    (bareToken? word.toList).isSome := by
  revert word
  decide

/-- The head of a segment is a token without a value, or begins with its key. -/
theorem head?_eq_some
    {segment : List Char}
    {head : Head}
    (found : head? segment = some head) :
    (∃ token, head = .bare token ∧ bareToken? (trim segment) = some token) ∨
      ∃ key value, head = .keyed key value ∧ trim segment = key.spelling.toList ++ value := by
  rw [head?] at found
  split at found
  · next token bare => exact .inl ⟨token, (Option.some.inj found).symm, bare⟩
  · obtain ⟨key, -, keyed⟩ := List.exists_of_findSome?_eq_some found
    obtain ⟨value, after, rfl⟩ := Option.map_eq_some_iff.mp keyed
    exact .inr ⟨key, value, rfl, Text.eq_append_of_afterPrefix? after⟩

/-- A segment that is no head states no token. -/
theorem not_statesToken_of_head?_eq_none
    {segment : List Char}
    (no_head : head? segment = none) :
    ¬ StatesToken segment := by
  rw [head?] at no_head
  split at no_head
  · cases no_head
  · next no_bare =>
    rintro (⟨word, known, equal⟩ | ⟨key, value, equal⟩)
    · have stated := bareToken?_word known
      rw [← equal, no_bare] at stated
      cases stated
    · have none := List.findSome?_eq_none_iff.mp no_head key key.mem_all
      rw [← equal, Text.afterPrefix?_append] at none
      cases none

/-- Trimming a key and what follows it leaves the key. -/
theorem Key.exists_trim_append
    (key : Key)
    (rest : List Char) :
    ∃ value, trim (key.spelling.toList ++ rest) = key.spelling.toList ++ value := by
  obtain ⟨before, after, equal, before_blank, after_blank⟩ :=
    Text.exists_eq_append_trim (key.spelling.toList ++ rest)
  have no_before : before = [] := by
    cases before with
    | nil => rfl
    | cons c before =>
      rw [List.all_cons, Bool.and_eq_true] at before_blank
      have first : (key.spelling.toList ++ rest).head? = some c := by
        rw [equal]
        rfl
      rw [List.head?_append_of_ne_nil _ key.spelling_ne] at first
      exact absurd before_blank.1 (key.trimmed_spelling.head c first)
  rw [no_before, List.nil_append] at equal
  rcases List.append_eq_append_iff.mp equal with ⟨value, kept, -⟩ | ⟨cut, spelling_eq, after_eq⟩
  · exact ⟨value, kept⟩
  · rcases List.eq_nil_or_concat cut with rfl | ⟨init, c, rfl⟩
    · rw [List.append_nil] at spelling_eq
      exact ⟨[], spelling_eq.symm.trans (List.append_nil _).symm⟩
    · rw [List.concat_eq_append] at spelling_eq after_eq
      have last : key.spelling.toList.getLast? = some c := by
        rw [spelling_eq, ← List.append_assoc, List.getLast?_concat]
      have blank : isBlank c := List.all_eq_true.mp after_blank c (by rw [after_eq]; simp)
      exact absurd blank (key.trimmed_spelling.last c last)

theorem head?_trim (segment : List Char) : head? (trim segment) = head? segment := by
  rw [head?, head?, (trimmed_trim segment).trim_eq]

/-- A segment that begins with a key is a head of that key. -/
theorem exists_head?_keyed
    (key : Key)
    (rest : List Char) :
    ∃ value, head? (key.spelling.toList ++ rest) = some (.keyed key value) := by
  obtain ⟨value, trimmed_eq⟩ := key.exists_trim_append rest
  have trimmed := trimmed_trim (key.spelling.toList ++ rest)
  rw [trimmed_eq] at trimmed
  refine ⟨value, ?_⟩
  rw [← head?_trim, trimmed_eq]
  exact head?_keyed trimmed

/-! ## Runs -/

/-- Segments that together state one token. -/
inductive States : List (List Char) → Token → Prop where
  /-- A segment that no value takes. -/
  | loose
      {part : List Char} :
      States [part] (.unrecognized (String.ofList (trim part)))
  /-- A word. -/
  | bare
      {segment : List Char}
      {token : Token}
      (head : head? segment = some (.bare token)) :
      States [segment] token
  /-- A key, the beginning of its value and the segments that the value takes. -/
  | keyed
      {segment value : List Char}
      {more : List (List Char)}
      {key : Key}
      (head : head? segment = some (.keyed key value))
      (single : key.absorbs = false → more = [])
      (states_none : ∀ part ∈ more, ¬ StatesToken part)
      (last : ∀ part ∈ more.getLast?, ¬ part.all isBlank) :
      States (segment :: more) (keyedToken key (value :: more))

/-- Segments that state a list of tokens one after the other. -/
inductive Runs : List (List Char) → List Token → Prop where
  | nil : Runs [] []
  /-- A segment that is skipped. -/
  | skip
      (part : List Char)
      {rest : List (List Char)}
      {tokens : List Token}
      (later : Runs rest tokens) :
      Runs (part :: rest) tokens
  /-- Segments that state the next token. -/
  | take
      {run rest : List (List Char)}
      {token : Token}
      {tokens : List Token}
      (states : States run token)
      (later : Runs rest tokens) :
      Runs (run ++ rest) (token :: tokens)

theorem States.run_ne
    {run : List (List Char)}
    {token : Token}
    (states : States run token) :
    run ≠ [] := by
  cases states <;> exact List.cons_ne_nil _ _

/-- No segments state no tokens. -/
theorem Runs.eq_nil
    {tokens : List Token}
    (runs : Runs [] tokens) :
    tokens = [] := by
  generalize parts_eq : ([] : List (List Char)) = parts at runs
  cases runs with
  | nil => rfl
  | skip => cases parts_eq
  | take states => exact absurd (List.append_eq_nil_iff.mp parts_eq.symm).1 states.run_ne

theorem Runs.skip_append
    (parts : List (List Char))
    {rest : List (List Char)}
    {tokens : List Token}
    (later : Runs rest tokens) :
    Runs (parts ++ rest) tokens := by
  induction parts with
  | nil => exact later
  | cons part parts ih => exact ih.skip part

/-- Segments that no value takes state unrecognized tokens. -/
theorem Runs.loose_append
    (loose : List (List Char))
    {rest : List (List Char)}
    {tokens : List Token}
    (later : Runs rest tokens) :
    Runs (loose ++ rest) (looseTokens loose ++ tokens) := by
  induction loose with
  | nil => exact later
  | cons part loose ih =>
    by_cases blank : trim part = []
    · have skipped : looseTokens (part :: loose) = looseTokens loose := by
        simp [looseTokens, valuesOf, blank]
      rw [skipped]
      exact ih.skip part
    · have taken : looseTokens (part :: loose) =
          .unrecognized (String.ofList (trim part)) :: looseTokens loose := by
        simp [looseTokens, valuesOf, blank]
      have runs : Runs ([part] ++ (loose ++ rest)) _ := .take .loose ih
      rw [taken]
      exact runs

theorem prefix_dropBlankEnd (parts : List (List Char)) : dropBlankEnd parts <+: parts := by
  rw [dropBlankEnd, ← List.reverse_suffix, List.reverse_reverse]
  exact List.dropWhile_suffix _

theorem getLast?_dropBlankEnd (parts : List (List Char)) :
    ∀ part ∈ (dropBlankEnd parts).getLast?, ¬ part.all isBlank := by
  intro part found
  rw [dropBlankEnd, List.getLast?_reverse] at found
  have first := List.head?_dropWhile_not (fun part => part.all isBlank) parts.reverse
  rw [Option.mem_def.mp found] at first
  simpa using first

/-- What reading takes at a key, from the tokens behind it. -/
theorem readSegments_keyed
    {segment value : List Char}
    {key : Key}
    {rest loose behind : List (List Char)}
    {tokens : List Token}
    (head : head? segment = some (.keyed key value))
    (read_rest : readSegments rest = (loose, tokens))
    (rest_eq : rest = loose ++ behind)
    (loose_none : ∀ part ∈ loose, ¬ StatesToken part)
    (later : Runs behind tokens) :
    ∃ more behind' tokens', rest = more ++ behind' ∧ Runs behind' tokens' ∧
      States (segment :: more) (keyedToken key (value :: more)) ∧
      readSegments (segment :: rest) = ([], keyedToken key (value :: more) :: tokens') := by
  rw [readSegments, read_rest, head]
  dsimp only
  cases absorbs_eq : key.absorbs with
  | true =>
    obtain ⟨dropped, loose_eq⟩ := prefix_dropBlankEnd loose
    refine ⟨dropBlankEnd loose, dropped ++ behind, tokens, ?_, later.skip_append dropped, ?_, rfl⟩
    · rw [rest_eq, ← List.append_assoc, loose_eq]
    · refine .keyed head ?_ ?_ (getLast?_dropBlankEnd loose)
      · intro single
        rw [absorbs_eq] at single
        cases single
      · intro part member
        exact loose_none part ((prefix_dropBlankEnd loose).subset member)
  | false =>
    refine ⟨[], rest, looseTokens loose ++ tokens, rfl, ?_, ?_, rfl⟩
    · rw [rest_eq]
      exact later.loose_append loose
    · refine .keyed head (fun _ => rfl) (List.forall_mem_nil _) ?_
      intro part member
      cases member

/-- Reading cuts segments into those before the first head and runs from it on. -/
theorem runs_readSegments (parts : List (List Char)) :
    ∃ behind, parts = (readSegments parts).1 ++ behind ∧
      (∀ part ∈ (readSegments parts).1, ¬ StatesToken part) ∧
      Runs behind (readSegments parts).2 := by
  induction parts with
  | nil => exact ⟨[], rfl, List.forall_mem_nil _, .nil⟩
  | cons segment rest ih =>
    obtain ⟨behind, rest_eq, loose_none, later⟩ := ih
    cases head_eq : head? segment with
    | none =>
      rw [readSegments, head_eq]
      exact ⟨behind, congrArg (segment :: ·) rest_eq,
        List.forall_mem_cons.mpr ⟨not_statesToken_of_head?_eq_none head_eq, loose_none⟩, later⟩
    | some head =>
      cases head with
      | bare token =>
        have runs := later.loose_append (readSegments rest).1
        rw [← rest_eq] at runs
        rw [readSegments, head_eq]
        exact ⟨segment :: rest, rfl, List.forall_mem_nil _, .take (.bare head_eq) runs⟩
      | keyed key value =>
        obtain ⟨more, behind', tokens, rest_eq', runs, states, read⟩ :=
          readSegments_keyed head_eq rfl rest_eq loose_none later
        rw [read, rest_eq']
        exact ⟨segment :: (more ++ behind'), rfl, List.forall_mem_nil _, .take states runs⟩

/-- Reading at a key takes a run for it and goes on behind. -/
theorem exists_states_of_keyed
    {segment value : List Char}
    {key : Key}
    (head : head? segment = some (.keyed key value))
    (rest : List (List Char)) :
    ∃ more behind tokens, rest = more ++ behind ∧ Runs behind tokens ∧
      States (segment :: more) (keyedToken key (value :: more)) ∧
      readSegments (segment :: rest) = ([], keyedToken key (value :: more) :: tokens) := by
  obtain ⟨behind, rest_eq, loose_none, later⟩ := runs_readSegments rest
  exact readSegments_keyed head rfl rest_eq loose_none later

/-- The tokens of a tag are read from runs of its segments. -/
theorem runs_readChars (cs : List Char) : Runs (segments (trim cs)) (readChars cs) := by
  obtain ⟨behind, parts_eq, -, later⟩ := runs_readSegments (segments (trim cs))
  have runs := later.loose_append (readSegments (segments (trim cs))).1
  rwa [← parts_eq] at runs

end Tablewright.Tag
