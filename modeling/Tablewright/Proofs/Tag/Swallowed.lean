import Mathlib.Data.List.Perm.Subperm
import Tablewright.Proofs.Tag.Stated

/-!
# Swallowed tokens

A value left open takes in what a tag puts behind it.  The tokens that spell such a tag in a fixed
order are then not all read back: the one with the open value comes first of them and changes, and
the colons that are left are too few for all.
-/

namespace Tablewright.Tag

open scoped List

/-! ## The order of tokens -/

/-- Place of a token with the given key in a normalized tag. -/
def Key.rank : Key → Nat
  | uniqueGroup => 1
  | index | uniqueIndex => 3
  | table => 4
  | check => 5
  | default => 6
  | values => 7
  | foreignKey => 8

/-- Place of a token in a normalized tag; tokens that exclude each other share a place. -/
def Token.rank : Token → Nat
  | .primaryKey => 0
  | .uniqueGroup _ | .unique => 1
  | .ignore => 2
  | .index _ _ => 3
  | .table _ => 4
  | .check _ => 5
  | .default _ => 6
  | .values _ => 7
  | .foreignKey _ => 8
  | .unrecognized _ => 9

/-- A token read at a key has the place of the key. -/
theorem rank_keyedToken
    {key : Key}
    {parts : List (List Char)}
    (recognized : (keyedToken key parts).IsRecognized) :
    (keyedToken key parts).rank = key.rank := by
  revert recognized
  unfold keyedToken
  dsimp only
  split
  · exact fun recognized => recognized.elim
  · cases key with
    | values =>
      dsimp only
      split
      · exact fun recognized => recognized.elim
      · exact fun _ => rfl
    | foreignKey =>
      dsimp only
      split
      · exact fun _ => rfl
      · exact fun recognized => recognized.elim
    | _ => exact fun _ => rfl

/-- A token with a piece left open begins with its key. -/
theorem Token.exists_key
    {token : Token}
    (recognized : token.IsRecognized)
    (opened : ¬ ∀ piece ∈ token.pieces, Closed piece) :
    ∃ key parts, key.rank = token.rank ∧ parts ≠ [] ∧ token.pieces = Key.pieces key parts := by
  have keyed (key : Key) (value : String) : segments (key.spelling ++ value).toList =
      key.pieces (segments value.toList) := by
    rw [toList_key_append, key.segments_append_eq]
  have segments_ne (value : String) : segments value.toList ≠ [] :=
    segmentsFrom_ne_nil Scan.top _
  have bare {token : Token} (known : token ∈ bareTokens) :
      ∀ piece ∈ token.pieces, Closed piece :=
    (bareTokens_spec token known).1.closed_pieces
  cases token with
  | primaryKey | unique | ignore => exact absurd (bare (by decide)) opened
  | index isUnique name =>
    cases name with
    | none => cases isUnique <;> exact absurd (bare (by decide)) opened
    | some name =>
      cases isUnique with
      | false => exact ⟨.index, _, rfl, segments_ne name, keyed .index name⟩
      | true => exact ⟨.uniqueIndex, _, rfl, segments_ne name, keyed .uniqueIndex name⟩
  | uniqueGroup name => exact ⟨.uniqueGroup, _, rfl, segments_ne name, keyed .uniqueGroup name⟩
  | table name => exact ⟨.table, _, rfl, segments_ne name, keyed .table name⟩
  | check text => exact ⟨.check, _, rfl, segments_ne text, keyed .check text⟩
  | default text => exact ⟨.default, _, rfl, segments_ne text, keyed .default text⟩
  | values allowed =>
    cases allowed with
    | nil =>
      have none : ∀ part ∈ ([] : List (List Char)), Closed part := nofun
      exact absurd (Key.values.closed_pieces none) opened
    | cons value more => exact ⟨.values, _, rfl, List.cons_ne_nil _ _, rfl⟩
  | foreignKey key =>
    refine ⟨.foreignKey, (foreignKeyArguments key).map String.toList, rfl, ?_, rfl⟩
    simp [foreignKeyArguments]
  | unrecognized text => exact recognized.elim

/-! ## The first piece left open -/

/-- Texts are all closed, or there is a first that is not. -/
theorem exists_first_open (parts : List (List Char)) :
    (∀ part ∈ parts, Closed part) ∨
      ∃ before part after, parts = before ++ part :: after ∧
        (∀ part ∈ before, Closed part) ∧ ¬ Closed part := by
  induction parts with
  | nil => exact .inl nofun
  | cons part parts ih =>
    by_cases here : Closed part
    · rcases ih with closed | ⟨before, other, after, rfl, closed, opened⟩
      · exact .inl (List.forall_mem_cons.mpr ⟨here, closed⟩)
      · exact .inr ⟨part :: before, other, after, rfl, List.forall_mem_cons.mpr ⟨here, closed⟩,
          opened⟩
    · exact .inr ⟨[], part, parts, rfl, nofun, here⟩

/-- The pieces of tokens are all closed, or there is a first that is not. -/
theorem exists_first_open_token (tokens : List Token) :
    (∀ piece ∈ tokens.flatMap Token.pieces, Closed piece) ∨
      ∃ before token after first piece last,
        tokens = before ++ token :: after ∧ token.pieces = first ++ piece :: last ∧
        (∀ piece ∈ before.flatMap Token.pieces ++ first, Closed piece) ∧ ¬ Closed piece := by
  induction tokens with
  | nil => exact .inl nofun
  | cons token tokens ih =>
    rw [List.flatMap_cons]
    rcases exists_first_open token.pieces with here | ⟨first, piece, last, equal, closed, opened⟩
    · rcases ih with later | ⟨before, other, after, first, piece, last, rfl, equal, closed, opened⟩
      · exact .inl (List.forall_mem_append.mpr ⟨here, later⟩)
      · refine .inr ⟨token :: before, other, after, first, piece, last, rfl, equal, ?_, opened⟩
        rw [List.flatMap_cons, List.append_assoc]
        exact List.forall_mem_append.mpr ⟨here, closed⟩
    · exact .inr ⟨[], token, tokens, first, piece, last, rfl, equal, closed, opened⟩

/-! ## Counting -/

/-- Commas between texts do not change how often any other character occurs. -/
theorem count_intercalate
    {c : Char}
    (other : c ≠ ',')
    (parts : List (List Char)) :
    ([','].intercalate parts).count c = (parts.map (List.count c)).sum := by
  induction parts with
  | nil => rfl
  | cons part parts ih =>
    by_cases parts_eq : parts = []
    · rw [parts_eq, List.intercalate_singleton, List.map_singleton, List.sum_singleton]
    · rw [List.intercalate_cons_of_ne_nil parts_eq, List.count_append, List.count_append, ih,
        List.map_cons, List.sum_cons, List.count_singleton, beq_false_of_ne other.symm]
      rfl

theorem sum_count_segments
    {c : Char}
    (other : c ≠ ',')
    (cs : List Char) :
    ((segments cs).map (List.count c)).sum = cs.count c := by
  rw [← count_intercalate other, intercalate_segments]

/-- Distinct tokens among others are no heavier than these. -/
theorem sum_weight_le_of_subset
    (weight : List Char → Nat)
    {tokens more : List Token}
    (distinct : tokens.Nodup)
    (among : tokens ⊆ more) :
    (tokens.map (Token.weight weight)).sum ≤ (more.map (Token.weight weight)).sum := by
  obtain ⟨some, same, within⟩ := List.subperm_of_subset distinct among
  rw [← (same.map (Token.weight weight)).sum_eq]
  exact (within.map (Token.weight weight)).sum_le_sum fun _ _ => Nat.zero_le _

theorem sum_weight_eq
    (weight : List Char → Nat)
    {tokens : List Token}
    (recognized : ∀ token ∈ tokens, token.IsRecognized) :
    (tokens.map (Token.weight weight)).sum = ((tokens.flatMap Token.pieces).map weight).sum := by
  induction tokens with
  | nil => rfl
  | cons token tokens ih =>
    obtain ⟨here, later⟩ := List.forall_mem_cons.mp recognized
    rw [List.map_cons, List.sum_cons, ih later, Token.weight_eq weight here, List.flatMap_cons,
      List.map_append, List.sum_append]

/-! ## Reading on from an open piece -/

/-- A text left open takes in all texts without quotes and brackets behind it. -/
theorem segments_intercalate_open
    {piece : List Char}
    {last : List (List Char)}
    (free : CommaFree piece)
    (opened : ¬ Closed piece)
    (plain : ∀ part ∈ last, ∀ c ∈ part, c ∉ delimiters) :
    segments ([','].intercalate (piece :: last)) = [[','].intercalate (piece :: last)] := by
  induction last generalizing piece with
  | nil =>
    rw [List.intercalate_singleton]
    exact free.segments_eq
  | cons next more ih =>
    obtain ⟨next_plain, more_plain⟩ := List.forall_mem_cons.mp plain
    have comma_plain : ∀ c ∈ ',' :: next, c ∉ delimiters :=
      List.forall_mem_cons.mpr ⟨by decide, next_plain⟩
    have joined : [','].intercalate (piece :: next :: more) =
        [','].intercalate ((piece ++ ',' :: next) :: more) := by
      cases more with
      | nil => simp
      | cons other more => simp
    rw [joined]
    apply ih (free.append_of_plain opened comma_plain) _ more_plain
    rwa [Closed, Scan.run_append_of_plain comma_plain]

/-- Runs of segments the first of which begins with a key of the given rank. -/
structure IsKeyRun
    (rank : Nat)
    (run behind : List (List Char))
    (token : Token)
    (later : List Token) : Prop where
  /-- The runs are of segments as a text is cut into them. -/
  cut : IsCut (run ++ behind)
  /-- The first run states the first token. -/
  states : States run token
  /-- The other runs state the other tokens. -/
  runs : Runs behind later
  /-- The token is one of the key. -/
  rank_eq : token.IsRecognized → token.rank = rank
  /-- The colon of the key is in the first run. -/
  colon : 1 ≤ (run.map (List.count ':')).sum

namespace IsKeyRun

variable {rank : Nat} {run behind : List (List Char)} {token : Token} {later : List Token}

/-- Tokens read behind the key have fewer colons than there are. -/
theorem sum_count_lt
    (keyRun : IsKeyRun rank run behind token later)
    {tokens : List Token}
    (recognized : ∀ token ∈ tokens, token.IsRecognized)
    (distinct : tokens.Nodup)
    (among : tokens ⊆ later) :
    ((tokens.flatMap Token.pieces).map (List.count ':')).sum <
      ((run ++ behind).map (List.count ':')).sum := by
  have fewer := sum_weight_le_of_subset (List.count ':') distinct among
  have read := keyRun.runs.sum_weight_le isWeight_colons
    (keyRun.cut.of_sublist (List.sublist_append_right _ _))
  have colon := keyRun.colon
  rw [sum_weight_eq (List.count ':') recognized] at fewer
  rw [List.map_append, List.sum_append]
  omega

/-- Nothing is read behind a token with a piece left open. -/
theorem later_eq_nil
    (keyRun : IsKeyRun rank run behind token later)
    (recognized : token.IsRecognized)
    (opened : ¬ ∀ piece ∈ token.pieces, Closed piece) :
    later = [] := by
  by_contra some_later
  have some_behind : behind ≠ [] := by
    intro behind_eq
    have runs := keyRun.runs
    rw [behind_eq] at runs
    exact some_later runs.eq_nil
  have run_closed : ∀ part ∈ run, Closed part := by
    intro part member
    apply keyRun.cut.closed part
    rw [List.dropLast_append_of_ne_nil some_behind]
    exact List.mem_append_left _ member
  exact opened (keyRun.states.closed_pieces (keyRun.cut.of_sublist (List.sublist_append_left _ _))
    run_closed recognized)

/-- A token has no more pieces than its run has segments. -/
theorem length_pieces_le
    (keyRun : IsKeyRun rank run behind token later)
    (recognized : token.IsRecognized) :
    token.pieces.length ≤ run.length := by
  have pieces := keyRun.states.sum_pieces_le isWeight_one
    (keyRun.cut.of_sublist (List.sublist_append_left _ _)) recognized
  simpa using pieces

end IsKeyRun

/-- The pieces of a list of tokens, cut within a token. -/
theorem flatMap_pieces_eq
    {token : Token}
    {first rest : List (List Char)}
    (pieces_eq : token.pieces = first ++ rest)
    (before after : List Token) :
    (before ++ token :: after).flatMap Token.pieces =
      (before.flatMap Token.pieces ++ first) ++ (rest ++ after.flatMap Token.pieces) := by
  rw [List.flatMap_append, List.flatMap_cons, pieces_eq]
  simp only [List.append_assoc]

/-- However pieces behind a key are cut again, the first segment begins with the key. -/
theorem exists_value_of_pieces
    {key : Key}
    {parts first last : List (List Char)}
    {piece : List Char}
    (parts_ne : parts ≠ [])
    (keyed : first ++ piece :: last = key.pieces parts)
    (behind : List (List Char)) :
    ∃ value more,
      first ++ segments ([','].intercalate (piece :: (last ++ behind))) =
        (key.spelling.toList ++ value) :: more := by
  obtain ⟨part, parts, rfl⟩ := List.exists_cons_of_ne_nil parts_ne
  rw [Key.pieces] at keyed
  cases first with
  | nil =>
    obtain ⟨rfl, rfl⟩ := List.cons.inj keyed
    have joined := key.intercalate_pieces (part :: (last ++ behind))
    rw [Key.pieces] at joined
    rw [List.nil_append, joined, key.segments_append_eq]
    obtain ⟨value, more, cut⟩ := List.exists_cons_of_ne_nil
      (segmentsFrom_ne_nil Scan.top ([','].intercalate (part :: (last ++ behind))))
    rw [segments, cut]
    exact ⟨value, more, rfl⟩
  | cons segment first =>
    obtain ⟨rfl, -⟩ := List.cons.inj keyed
    exact ⟨part, _, rfl⟩

/-- Reading takes the closed tokens before the first piece left open, and then a token with the key
of the one that piece belongs to. -/
theorem read_spelled_open
    {before after : List Token}
    {token : Token}
    {first last : List (List Char)}
    {piece : List Char}
    (written : ∀ other ∈ before ++ token :: after, other.IsWritten)
    (pieces_eq : token.pieces = first ++ piece :: last)
    (closed : ∀ part ∈ before.flatMap Token.pieces ++ first, Closed part)
    (opened : ¬ Closed piece) :
    ∃ run behind other later,
      first ++ segments ([','].intercalate (piece :: (last ++ after.flatMap Token.pieces))) =
        run ++ behind ∧
      IsKeyRun token.rank run behind other later ∧
      read (spelled (before ++ token :: after)) = before ++ other :: later := by
  have before_written : ∀ other ∈ before, other.IsWritten :=
    fun other member => written other (List.mem_append_left _ member)
  have token_written : token.IsWritten := written token (by simp)
  have pieces_free : ∀ part ∈ before.flatMap Token.pieces ++ first, CommaFree part := by
    refine List.forall_mem_append.mpr ⟨?_, ?_⟩
    · intro part member
      obtain ⟨other, found, part_found⟩ := List.mem_flatMap.mp member
      exact (before_written other found).commaFree_pieces part part_found
    · intro part member
      exact token_written.commaFree_pieces part
        (by rw [pieces_eq]; exact List.mem_append_left _ member)
  have segments_eq : segments (spelled (before ++ token :: after)).toList =
      before.flatMap Token.pieces ++
        (first ++
          segments ([','].intercalate (piece :: (last ++ after.flatMap Token.pieces)))) := by
    rw [toList_spelled, flatMap_pieces_eq pieces_eq, List.cons_append,
      segments_intercalate_append pieces_free closed (List.cons_ne_nil _ _), List.append_assoc]
  have cut := isCut_segments (spelled (before ++ token :: after)).toList
  rw [segments_eq] at cut
  have not_closed : ¬ ∀ part ∈ token.pieces, Closed part :=
    fun all => opened (all piece (by rw [pieces_eq]; simp))
  obtain ⟨key, parts, rank_eq, parts_ne, keyed⟩ :=
    token.exists_key token_written.isRecognized not_closed
  rw [pieces_eq] at keyed
  obtain ⟨value, more, start⟩ :=
    exists_value_of_pieces parts_ne keyed (after.flatMap Token.pieces)
  obtain ⟨head_value, head⟩ := exists_head?_keyed key value
  obtain ⟨taken, behind, later, more_eq, runs, states, read_rest⟩ :=
    exists_states_of_keyed head more
  have run_eq : (key.spelling.toList ++ value) :: more =
      (key.spelling.toList ++ value) :: taken ++ behind := by
    rw [more_eq, List.cons_append]
  rw [start] at cut segments_eq ⊢
  refine ⟨_, behind, _, later, run_eq, ⟨?_, states, runs, ?_, ?_⟩, ?_⟩
  · rw [← run_eq]
    exact cut.of_sublist (List.sublist_append_right _ _)
  · intro recognized
    rw [rank_keyedToken recognized, rank_eq]
  · rw [List.map_cons, List.sum_cons, isWeight_colons.key]
    omega
  · rw [read, readChars, (trimmed_spelled written).trim_eq, segments_eq,
      readSegments_pieces_append before_written read_rest]
    rfl

/-- Behind an open piece a token has only pieces without quotes and brackets. -/
theorem Token.IsOpenAtEnd.plain_of_open
    {token : Token}
    {first last : List (List Char)}
    {piece : List Char}
    (openAtEnd : token.IsOpenAtEnd)
    (pieces_eq : token.pieces = first ++ piece :: last)
    (opened : ¬ Closed piece) :
    ∀ part ∈ last, ∀ c ∈ part, c ∉ delimiters := by
  obtain ⟨body, actions, body_eq, closed, plain⟩ := openAtEnd
  have not_action : piece ∉ actions :=
    fun member => opened (Scan.run_append_of_plain (plain piece member) [])
  rw [pieces_eq] at body_eq
  rcases List.append_eq_append_iff.mp body_eq with ⟨more, rfl, last_eq⟩ | ⟨more, rfl, actions_eq⟩
  · cases more with
    | nil => exact absurd (by rw [← List.nil_append actions, ← last_eq]; simp) not_action
    | cons next more =>
      obtain ⟨rfl, rfl⟩ := List.cons.inj last_eq
      have nothing_more : more = [] := by
        by_contra some_more
        apply opened
        apply closed piece
        rw [List.dropLast_append_of_ne_nil (List.cons_ne_nil _ _),
          List.dropLast_cons_of_ne_nil some_more]
        simp
      rwa [nothing_more]
  · exact absurd (by rw [actions_eq]; simp) not_action

/-- A token read back from its pieces has nothing behind the piece left open. -/
theorem IsKeyRun.last_eq_nil
    {rank : Nat}
    {run behind first last : List (List Char)}
    {token : Token}
    {later : List Token}
    {piece : List Char}
    (keyRun : IsKeyRun rank run behind token later)
    (written : token.IsWritten)
    (openAtEnd : token.IsOpenAtEnd)
    (pieces_eq : token.pieces = first ++ piece :: last)
    (opened : ¬ Closed piece)
    (cut_eq : first ++ segments ([','].intercalate (piece :: last)) = run ++ behind) :
    last = [] := by
  have free := written.commaFree_pieces piece (by rw [pieces_eq]; simp)
  rw [segments_intercalate_open free opened (openAtEnd.plain_of_open pieces_eq opened)] at cut_eq
  have lengths := congrArg List.length cut_eq
  have pieces := keyRun.length_pieces_le written.isRecognized
  rw [pieces_eq] at pieces
  simp only [List.length_append, List.length_cons, List.length_nil] at lengths pieces
  exact List.eq_nil_of_length_eq_zero (by omega)

/-- Tokens are not all read behind the key of the first of them. -/
theorem IsKeyRun.not_subset_later
    {rank : Nat}
    {run behind first last : List (List Char)}
    {token other : Token}
    {after later : List Token}
    {piece : List Char}
    (keyRun : IsKeyRun rank run behind other later)
    (recognized : ∀ some ∈ token :: after, some.IsRecognized)
    (distinct : (token :: after).Nodup)
    (pieces_eq : token.pieces = first ++ piece :: last)
    (cut_eq :
      first ++ segments ([','].intercalate (piece :: (last ++ after.flatMap Token.pieces))) =
        run ++ behind) :
    ¬ token :: after ⊆ later := by
  intro within
  have fewer := keyRun.sum_count_lt recognized distinct within
  have total : ((run ++ behind).map (List.count ':')).sum =
      (((token :: after).flatMap Token.pieces).map (List.count ':')).sum := by
    rw [← cut_eq, List.map_append, List.sum_append, sum_count_segments (by decide),
      count_intercalate (by decide), List.flatMap_cons, pieces_eq, List.append_assoc,
      List.cons_append, List.map_append, List.sum_append]
  omega

/-- A token read with its piece still open has taken everything, so there are no tokens behind
it. -/
theorem IsKeyRun.after_eq_nil
    {rank : Nat}
    {run behind : List (List Char)}
    {token : Token}
    {after later : List Token}
    (keyRun : IsKeyRun rank run behind token later)
    (recognized : token.IsRecognized)
    (opened : ¬ ∀ part ∈ token.pieces, Closed part)
    (ordered : (token :: after).Pairwise fun token other => token.rank < other.rank)
    (among : token :: after ⊆ token :: later) :
    after = [] := by
  rw [keyRun.later_eq_nil recognized opened] at among
  refine List.eq_nil_iff_forall_not_mem.mpr fun other member => ?_
  have equal := List.mem_singleton.mp (among (List.mem_cons_of_mem _ member))
  exact Nat.lt_irrefl _ (equal ▸ List.rel_of_pairwise_cons ordered member)

/-- Tokens in normalized order that are all read back from their tag have no piece left open before
the last. -/
theorem closed_of_subset_read
    {tokens : List Token}
    (written : ∀ token ∈ tokens, token.IsWritten)
    (openAtEnd : ∀ token ∈ tokens, token.IsOpenAtEnd)
    (ordered : tokens.Pairwise fun token other => token.rank < other.rank)
    (among : tokens ⊆ read (spelled tokens)) :
    ∀ piece ∈ (tokens.flatMap Token.pieces).dropLast, Closed piece := by
  rcases exists_first_open_token tokens with
    closed | ⟨before, token, after, first, piece, last, rfl, pieces_eq, closed, opened⟩
  · exact fun piece member => closed piece (List.dropLast_subset _ member)
  by_cases behind_eq : last ++ after.flatMap Token.pieces = []
  · rw [flatMap_pieces_eq pieces_eq, List.cons_append, behind_eq, List.dropLast_concat]
    exact closed
  exfalso
  obtain ⟨run, behind, other, later, cut_eq, keyRun, read_eq⟩ :=
    read_spelled_open written pieces_eq closed opened
  obtain ⟨-, ordered_after, ordered_before⟩ := List.pairwise_append.mp ordered
  have recognized : ∀ other ∈ token :: after, other.IsRecognized :=
    fun other member => (written other (List.mem_append_right _ member)).isRecognized
  have distinct : (token :: after).Nodup := by
    refine ordered_after.imp ?_
    rintro token _ below rfl
    exact Nat.lt_irrefl _ below
  have among_later : token :: after ⊆ other :: later := by
    intro some member
    have found := among (List.mem_append_right before member)
    rw [read_eq] at found
    rcases List.mem_append.mp found with early | late
    · exact absurd (ordered_before some early some member) (Nat.lt_irrefl _)
    · exact late
  by_cases here : other ∈ token :: after
  · have other_eq : other = token := by
      rcases List.mem_cons.mp here with equal | follows
      · exact equal
      · have below := List.rel_of_pairwise_cons ordered_after follows
        have equal := keyRun.rank_eq (recognized other here)
        omega
    rw [other_eq] at keyRun among_later
    have not_closed : ¬ ∀ part ∈ token.pieces, Closed part :=
      fun all => opened (all piece (by rw [pieces_eq]; simp))
    have nothing_after := keyRun.after_eq_nil (recognized token List.mem_cons_self) not_closed
      ordered_after among_later
    rw [nothing_after, List.flatMap_nil, List.append_nil] at behind_eq cut_eq
    exact behind_eq (keyRun.last_eq_nil (written token (by simp)) (openAtEnd token (by simp))
      pieces_eq opened cut_eq)
  · apply keyRun.not_subset_later recognized distinct pieces_eq cut_eq
    intro some member
    rcases List.mem_cons.mp (among_later member) with equal | follows
    · rw [equal] at member
      exact absurd member here
    · exact follows

end Tablewright.Tag
