import Tablewright.Proofs.Tag.Weight

/-!
# Tokens read from a tag

A token that is read and recognized is a written one.  It is as closed as the run of segments that
it is read from, and its pieces are no heavier than the run.
-/

namespace Tablewright.Tag

open scoped List
open Text (trim trimmed_trim)

/-! ## Tokens -/

/-- A token that is not unrecognized. -/
def Token.IsRecognized : Token → Prop
  | .unrecognized _ => False
  | _ => True

theorem Token.IsWritten.isRecognized
    {token : Token}
    (written : token.IsWritten) :
    token.IsRecognized := by
  cases token with
  | unrecognized text => exact written
  | _ => trivial

/-- What a key states with the parts of its value, and how that is spelled. -/
inductive Key.Stated (parts : List (List Char)) : Key → Token → Prop where
  | unrecognized
      (key : Key)
      (text : String) :
      Stated parts key (.unrecognized text)
  /-- The parts are put together to a text. -/
  | text
      {key : Key}
      {token : Token}
      (text_ne : trim ([','].intercalate parts) ≠ [])
      (pieces_eq : token.pieces =
        segments (key.spelling.toList ++ trim ([','].intercalate parts)))
      (name : key.absorbs = false →
        IsWrittenName (trim ([','].intercalate parts)) → token.IsWritten)
      (expression : key.absorbs →
        IsWrittenExpression (trim ([','].intercalate parts)) → token.IsWritten) :
      Stated parts key token
  /-- The parts are values. -/
  | values
      (allowed_ne : valuesOf parts ≠ []) :
      Stated parts .values (.values ((valuesOf parts).map String.ofList))
  /-- The parts are arguments. -/
  | foreignKey
      {key : ForeignKey}
      (read : foreignKey? parts = some key) :
      Stated parts .foreignKey (.foreignKey key)

theorem stated_keyedToken
    (key : Key)
    (parts : List (List Char)) :
    key.Stated parts (keyedToken key parts) := by
  unfold keyedToken
  dsimp only
  split
  · exact .unrecognized key _
  · next text_ne =>
    rw [List.isEmpty_iff] at text_ne
    cases key with
    | values =>
      dsimp only
      split
      · exact .unrecognized .values _
      · next allowed_ne =>
        rw [List.isEmpty_iff] at allowed_ne
        exact .values allowed_ne
    | foreignKey =>
      dsimp only
      split
      · next read => exact .foreignKey read
      · exact .unrecognized .foreignKey _
    | check | default =>
      refine .text text_ne ?_ nofun fun _ expression => ?_
      · simp only [Token.pieces, Token.spelling, toList_key_append, String.toList_ofList]
      · simpa only [Token.IsWritten, String.toList_ofList] using expression
    | index | uniqueIndex | uniqueGroup | table =>
      refine .text text_ne ?_ (fun _ name => ?_) nofun
      · simp only [Token.pieces, Token.spelling, toList_key_append, String.toList_ofList]
      · simpa [Token.IsWritten] using name

/-- Tokens that a word states. -/
def bareTokens : List Token :=
  [.primaryKey, .unique, .ignore, .index false none, .index true none]

theorem bareToken?_eq_some
    {cs : List Char}
    {token : Token}
    (stated : bareToken? cs = some token) :
    token ∈ bareTokens ∧ cs = token.spelling.toList := by
  unfold bareToken? at stated
  split_ifs at stated with h₁ h₂ h₃ h₄ h₅ <;> obtain rfl := Option.some.inj stated
  all_goals exact ⟨by decide, by assumption⟩

theorem bareTokens_spec :
    ∀ token ∈ bareTokens, token.IsRegular ∧ token.pieces = [token.spelling.toList] := by
  decide

/-- A token that a word states is read from that word. -/
theorem bareToken?_of_head?
    {segment : List Char}
    {token : Token}
    (head : head? segment = some (.bare token)) :
    token ∈ bareTokens ∧ trim segment = token.spelling.toList := by
  rcases head?_eq_some head with ⟨token', head_eq, stated⟩ | ⟨key, value, head_eq, -⟩
  · cases head_eq
    exact bareToken?_eq_some stated
  · cases head_eq

theorem map_toList_ofList (parts : List (List Char)) :
    (parts.map String.ofList).map String.toList = parts := by
  rw [List.map_map]
  exact (List.map_congr_left fun part _ => String.toList_ofList).trans (List.map_id parts)

section States

variable {run : List (List Char)} {token : Token}

/-- A token that is read and recognized is a written one. -/
theorem States.isWritten
    (states : States run token)
    (cut : IsCut run)
    (recognized : token.IsRecognized) :
    token.IsWritten := by
  cases states with
  | loose => exact recognized.elim
  | bare head => exact (bareTokens_spec token (bareToken?_of_head? head).1).1.isWritten
  | @keyed segment value more key head single states_none last =>
    have parts := isParts_of_run head states_none last cut
    generalize stated_eq : keyedToken key (value :: more) = stated at recognized
    have how := stated_keyedToken key (value :: more)
    rw [stated_eq] at how
    cases how with
    | unrecognized text => exact recognized.elim
    | text text_ne pieces_eq name expression =>
      cases absorbs_eq : key.absorbs with
      | true => exact expression absorbs_eq (parts.isWrittenExpression text_ne)
      | false =>
        obtain rfl := single absorbs_eq
        rw [List.intercalate_singleton] at text_ne name
        exact name absorbs_eq
          ⟨⟨text_ne, trimmed_trim value⟩, (parts.free value (List.mem_singleton_self value)).trim⟩
    | values allowed_ne =>
      refine parts.isWrittenList ?_ ?_
      · rwa [ne_eq, List.map_eq_nil_iff]
      · rw [map_toList_ofList]
    | @foreignKey key read =>
      have collected := collected_of_foreignKey? read
      refine ⟨parts.isWrittenList ?_ collected.names, ?_⟩
      · exact List.append_ne_nil_of_right_ne_nil _ (List.cons_ne_nil _ _)
      · intro name member
        exact collected.plain name.toList (List.mem_map_of_mem member)

/-- The weight of the pieces of a token, if it is recognized. -/
def Token.weight
    (weight : List Char → Nat) : Token → Nat
  | .unrecognized _ => 0
  | token => (token.pieces.map weight).sum

theorem Token.weight_eq
    (weight : List Char → Nat)
    (recognized : token.IsRecognized) :
    token.weight weight = (token.pieces.map weight).sum := by
  cases token with
  | unrecognized text => exact recognized.elim
  | _ => rfl

/-- The pieces of a recognized token are no heavier than the segments that it is read from. -/
theorem States.sum_pieces_le
    {weight : List Char → Nat}
    {offset : Nat}
    (isWeight : IsWeight weight offset)
    (states : States run token)
    (cut : IsCut run)
    (recognized : token.IsRecognized) :
    (token.pieces.map weight).sum ≤ (run.map weight).sum := by
  cases states with
  | loose => exact recognized.elim
  | @bare segment _ head =>
    obtain ⟨known, trimmed_eq⟩ := bareToken?_of_head? head
    rw [(bareTokens_spec token known).2, ← trimmed_eq, List.map_singleton, List.map_singleton,
      isWeight.trim]
  | @keyed segment value more key head single states_none last =>
    have parts := isParts_of_run head states_none last cut
    have among := isWeight.sum_valuesOf_le (value :: more)
    generalize stated_eq : keyedToken key (value :: more) = stated at recognized
    have how := stated_keyedToken key (value :: more)
    rw [stated_eq] at how
    rw [isWeight.sum_run head]
    cases how with
    | unrecognized text => exact recognized.elim
    | text text_ne pieces_eq name expression =>
      have segments_ne : segments (trim ([','].intercalate (value :: more))) ≠ [] :=
        segmentsFrom_ne_nil Scan.top _
      rw [pieces_eq, key.segments_append_eq, isWeight.sum_pieces key segments_ne,
        ← isWeight.sum_map_trim (segments _), map_trim_segments_trim, isWeight.sum_map_trim,
        parts.segments_intercalate (List.cons_ne_nil value more)]
    | values allowed_ne =>
      rw [Token.pieces, map_toList_ofList, isWeight.sum_pieces _ allowed_ne]
      omega
    | @foreignKey key read =>
      have collected := (collected_of_foreignKey? read).weight weight offset isWeight
      have arguments_ne : (foreignKeyArguments key).map String.toList ≠ [] := by
        simp [foreignKeyArguments]
      rw [Token.pieces, isWeight.sum_pieces _ arguments_ne, sum_foreignKeyArguments]
      dsimp only at collected
      omega

/-- The pieces of a recognized token are as closed as the segments that it is read from: before the
actions of a foreign key only the last piece can stay open, and does only if the segments do. -/
theorem States.exists_pieces
    (states : States run token)
    (cut : IsCut run)
    (recognized : token.IsRecognized) :
    ∃ body actions, token.pieces = body ++ actions ∧
      (∀ piece ∈ body.dropLast, Closed piece) ∧
      ((∀ part ∈ run, Closed part) → ∀ piece ∈ body, Closed piece) ∧
      ∀ piece ∈ actions, ∀ c ∈ piece, c ∉ delimiters := by
  cases states with
  | loose => exact recognized.elim
  | bare head =>
    have regular := (bareTokens_spec token (bareToken?_of_head? head).1).1
    have pieces_closed := regular.closed_pieces
    exact ⟨token.pieces, [], (List.append_nil _).symm,
      fun piece member => pieces_closed piece (List.dropLast_subset _ member),
      fun _ => pieces_closed, nofun⟩
  | @keyed segment value more key head single states_none last =>
    have parts := isParts_of_run head states_none last cut
    have parts_closed : (∀ part ∈ segment :: more, Closed part) →
        ∀ part ∈ value :: more, Closed part := by
      intro run_closed
      obtain ⟨here, later⟩ := List.forall_mem_cons.mp run_closed
      exact List.forall_mem_cons.mpr ⟨(closed_value_iff head).mpr here, later⟩
    generalize stated_eq : keyedToken key (value :: more) = stated at recognized
    have how := stated_keyedToken key (value :: more)
    rw [stated_eq] at how
    cases how with
    | unrecognized text => exact recognized.elim
    | text text_ne pieces_eq name expression =>
      refine ⟨stated.pieces, [], (List.append_nil _).symm, ?_, ?_, nofun⟩
      · rw [pieces_eq]
        exact (isCut_segments _).closed
      · intro run_closed
        rw [pieces_eq]
        apply Closed.segments
        rw [key.closed_append_iff, closed_trim_iff]
        exact Closed.intercalate (parts_closed run_closed)
    | values allowed_ne =>
      refine ⟨_, [], (List.append_nil _).symm, ?_, ?_, nofun⟩
      · rw [Token.pieces, map_toList_ofList]
        exact Key.values.closed_dropLast_pieces (parts.closed_dropLast (List.Sublist.refl _))
      · intro run_closed
        rw [Token.pieces, map_toList_ofList]
        exact Key.values.closed_pieces
          (closed_of_sublist_valuesOf (List.Sublist.refl _) (parts_closed run_closed))
    | @foreignKey key read =>
      have names := (collected_of_foreignKey? read).names
      refine ⟨Key.foreignKey.pieces ((foreignKeyNames key).map String.toList),
        (foreignKeyActions key).map String.toList, ?_, ?_, ?_, ?_⟩
      · rw [Token.pieces, foreignKeyArguments_eq, List.map_append]
        exact Key.foreignKey.pieces_append (by simp [foreignKeyNames]) _
      · exact Key.foreignKey.closed_dropLast_pieces (parts.closed_dropLast names)
      · intro run_closed
        exact Key.foreignKey.closed_pieces
          (closed_of_sublist_valuesOf names (parts_closed run_closed))
      · intro piece member
        obtain ⟨argument, found, rfl⟩ := List.mem_map.mp member
        obtain ⟨word, known, action, rfl⟩ := exists_of_mem_foreignKeyActions found
        exact plain_action known action

end States

/-! ## Tags -/

section Runs

variable {parts : List (List Char)} {tokens : List Token}

/-- Every recognized token of a tag is a written one. -/
theorem Runs.isWritten
    (runs : Runs parts tokens)
    (cut : IsCut parts) :
    ∀ token ∈ tokens, token.IsRecognized → token.IsWritten := by
  induction runs with
  | nil => exact nofun
  | skip part _ ih => exact ih (cut.of_sublist (List.sublist_cons_self _ _))
  | take states _ ih =>
    exact List.forall_mem_cons.mpr
      ⟨states.isWritten (cut.of_sublist (List.sublist_append_left _ _)),
        ih (cut.of_sublist (List.sublist_append_right _ _))⟩

/-- A token whose pieces but the last are closed, actions of a foreign key at the end apart, which
have no quotes or brackets. -/
def Token.IsOpenAtEnd (token : Token) : Prop :=
  ∃ body actions, token.pieces = body ++ actions ∧
    (∀ piece ∈ body.dropLast, Closed piece) ∧
    ∀ piece ∈ actions, ∀ c ∈ piece, c ∉ delimiters

/-- At most the last piece before the actions stays open in a recognized token of a tag. -/
theorem Runs.isOpenAtEnd
    (runs : Runs parts tokens)
    (cut : IsCut parts) :
    ∀ token ∈ tokens, token.IsRecognized → token.IsOpenAtEnd := by
  induction runs with
  | nil => exact nofun
  | skip part _ ih => exact ih (cut.of_sublist (List.sublist_cons_self _ _))
  | take states _ ih =>
    refine List.forall_mem_cons.mpr ⟨?_, ih (cut.of_sublist (List.sublist_append_right _ _))⟩
    intro recognized
    obtain ⟨body, actions, pieces_eq, closed, -, plain⟩ :=
      states.exists_pieces (cut.of_sublist (List.sublist_append_left _ _)) recognized
    exact ⟨body, actions, pieces_eq, closed, plain⟩

/-- A token read from closed segments is closed. -/
theorem States.closed_pieces
    {run : List (List Char)}
    {token : Token}
    (states : States run token)
    (cut : IsCut run)
    (closed : ∀ part ∈ run, Closed part)
    (recognized : token.IsRecognized) :
    ∀ piece ∈ token.pieces, Closed piece := by
  obtain ⟨body, actions, pieces_eq, -, body_closed, plain⟩ := states.exists_pieces cut recognized
  rw [pieces_eq]
  refine List.forall_mem_append.mpr ⟨body_closed closed, ?_⟩
  intro piece member
  exact Scan.run_append_of_plain (plain piece member) []

/-- Tokens of closed segments are closed. -/
theorem Runs.closed_pieces
    (runs : Runs parts tokens)
    (cut : IsCut parts)
    (closed : ∀ part ∈ parts, Closed part) :
    ∀ token ∈ tokens, token.IsRecognized → ∀ piece ∈ token.pieces, Closed piece := by
  induction runs with
  | nil => exact nofun
  | skip part _ ih =>
    exact ih (cut.of_sublist (List.sublist_cons_self _ _)) (List.forall_mem_cons.mp closed).2
  | take states _ ih =>
    obtain ⟨run_closed, rest_closed⟩ := List.forall_mem_append.mp closed
    exact List.forall_mem_cons.mpr
      ⟨states.closed_pieces (cut.of_sublist (List.sublist_append_left _ _)) run_closed,
        ih (cut.of_sublist (List.sublist_append_right _ _)) rest_closed⟩

/-- Recognized tokens are no heavier than the segments that they are read from. -/
theorem Runs.sum_weight_le
    {weight : List Char → Nat}
    {offset : Nat}
    (isWeight : IsWeight weight offset)
    (runs : Runs parts tokens)
    (cut : IsCut parts) :
    (tokens.map (Token.weight weight)).sum ≤ (parts.map weight).sum := by
  induction runs with
  | nil => exact Nat.le_refl 0
  | skip part _ ih =>
    have later := ih (cut.of_sublist (List.sublist_cons_self _ _))
    rw [List.map_cons, List.sum_cons]
    omega
  | @take run rest token tokens states _ ih =>
    have later := ih (cut.of_sublist (List.sublist_append_right _ _))
    have here : token.weight weight ≤ (run.map weight).sum := by
      by_cases recognized : token.IsRecognized
      · rw [Token.weight_eq weight recognized]
        exact
          states.sum_pieces_le isWeight (cut.of_sublist (List.sublist_append_left _ _)) recognized
      · cases token with
        | unrecognized text => exact Nat.zero_le _
        | _ => exact absurd trivial recognized
    rw [List.map_cons, List.sum_cons, List.map_append, List.sum_append]
    omega

end Runs

end Tablewright.Tag
