import Tablewright.Proofs.Query.Conditionless
import Tablewright.Proofs.Sql.Placeholder
import Tablewright.Proofs.Text.Snake

/-!
# Numbers and characters of queries

The values of a query are numbered from one on in the order of its conditions, and its columns and
order hold no punctuation that its name does not hold.
-/

namespace Tablewright.Query

open Sql (Condition Plain)

/-! ## Numbers -/

/-- Conditions are numbered without gaps, those without a value left out. -/
theorem positions_numbered (position : Nat) (pieces : List Piece) :
    Condition.positions ((numbered position pieces).map (·.toCondition)) =
      List.range' position ((numbered position pieces).countP (·.position.isSome)) := by
  induction pieces generalizing position with
  | nil => rfl
  | cons piece rest ih =>
    rw [numbered]
    dsimp only
    split
    · rw [List.map_cons, Condition.positions_cons, ih, List.countP_cons_of_pos rfl]
      rfl
    · rw [List.map_cons, Condition.positions_cons, ih, List.countP_cons_of_neg (by simp)]
      rfl

/-- Values are there only for operators that take one. -/
theorem takesValue_of_mem_numbered
    {position : Nat}
    {pieces : List Piece}
    {condition : NamedCondition}
    (member : condition ∈ numbered position pieces)
    (valued : condition.position.isSome) :
    condition.operator.takesValue := by
  induction pieces generalizing position with
  | nil => cases member
  | cons piece rest ih =>
    rw [numbered] at member
    dsimp only at member
    split at member
    · next takes =>
      rcases List.mem_cons.mp member with rfl | later
      · exact takes
      · exact ih later
    · rcases List.mem_cons.mp member with rfl | later
      · cases valued
      · exact ih later

/-! ## Characters -/

theorem eq_reverse_of_mem_closed
    {back : List Char}
    {connector : Option Sql.Connector}
    {piece : Piece}
    (member : piece ∈ closed back connector) :
    piece.text = back.reverse := by
  unfold closed at member
  split at member
  · cases member
  · rw [List.mem_singleton.mp member]

/-- A connector after the open piece brings its characters into no piece. -/
theorem subset_of_mem_closed_append
    (word : List Char)
    {back rest : List Char}
    {connector : Option Sql.Connector}
    {piece : Piece}
    (ih : piece ∈ piecesAfter [] rest → piece.text ⊆ [] ++ rest)
    (member : piece ∈ closed back connector ++ piecesAfter [] rest) :
    piece.text ⊆ back ++ (word ++ rest) := by
  rcases List.mem_append.mp member with here | later
  · rw [eq_reverse_of_mem_closed here]
    intro c occurs
    exact List.mem_append_left _ (List.mem_reverse.mp occurs)
  · intro c occurs
    exact List.mem_append_right _ (List.mem_append_right _ (ih later occurs))

theorem subset_of_mem_piecesAfter
    {back cs : List Char}
    {piece : Piece}
    (member : piece ∈ piecesAfter back cs) :
    piece.text ⊆ back ++ cs := by
  fun_induction piecesAfter back cs with
  | case1 back rest ih => exact subset_of_mem_closed_append ['A', 'n', 'd'] ih member
  | case2 back rest ih => exact subset_of_mem_closed_append ['O', 'r'] ih member
  | case3 back c rest _ _ ih =>
    intro d occurs
    have found := ih member occurs
    simp only [List.cons_append, List.mem_cons, List.mem_append] at found ⊢
    tauto
  | case4 back =>
    rw [eq_reverse_of_mem_closed member, List.append_nil]
    exact List.reverse_subset.mpr (List.Subset.refl back)

theorem splitOperator_subset (cs : List Char) : (splitOperator cs).1 ⊆ cs := by
  unfold splitOperator
  split
  · next field operator found =>
    unfold suffixed? at found
    obtain ⟨⟨suffix, _⟩, -, found⟩ := List.exists_of_findSome?_eq_some found
    obtain ⟨before, before_eq, same⟩ := Option.map_eq_some_iff.mp found
    cases same
    rw [(Text.beforeSuffix?_eq_some_iff.mp before_eq).2]
    exact List.subset_append_left _ _
  · split
    · next field found =>
      unfold negated? at found
      split at found
      · split at found
        · cases found
          exact fun c occurs => by simp_all
        · cases found
      · cases found
    · exact List.Subset.refl cs

theorem conditionText?_subset
    {name cs : List Char}
    (found : conditionText? name = some cs) :
    cs ⊆ name := by
  unfold conditionText? at found
  split at found
  · cases found
  · split at found
    · cases found
      exact List.drop_subset _ _
    · split at found
      · cases found
      · split at found
        · cases found
          exact List.Subset.trans (List.drop_subset _ _) (List.take_subset _ _)
        · cases found
          exact List.drop_subset _ _

theorem directed_subset (cs : List Char) : (directed cs).1 ⊆ cs := by
  unfold directed
  split
  · next field found =>
    rw [Text.beforeEnd?_eq_some_iff.mp found]
    exact List.subset_append_left _ _
  · split
    · next field found =>
      rw [Text.beforeEnd?_eq_some_iff.mp found]
      exact List.subset_append_left _ _
    · exact List.Subset.refl cs

theorem directed_direction (cs : List Char) :
    (directed cs).2 = "ASC" ∨ (directed cs).2 = "DESC" := by
  unfold directed
  split
  · exact Or.inr rfl
  · split
    · exact Or.inl rfl
    · exact Or.inl rfl

/-! ## Punctuation -/

/-- The mark of placeholders comes before the letters. -/
theorem precedesLetters_dollar : Text.PrecedesLetters '$' := by
  unfold Text.PrecedesLetters Text.firstCapital
  decide

/-- A column named by a part of a plain name is plain. -/
theorem plain_snakeCase_of_subset
    {name field : String}
    (plain : Plain name)
    (subset : field.toList ⊆ name.toList) :
    Plain (Text.snakeCase field) := by
  apply Text.notMem_snakeCase precedesLetters_dollar
  exact fun member => plain (subset member)

/-- A condition compares the column that the field of a piece names. -/
theorem exists_piece_of_mem_numbered
    {position : Nat}
    {pieces : List Piece}
    {condition : NamedCondition}
    (member : condition ∈ numbered position pieces) :
    ∃ piece ∈ pieces,
      condition.column = Text.snakeCase (String.ofList (splitOperator piece.text).1) := by
  induction pieces generalizing position with
  | nil => cases member
  | cons piece rest ih =>
    have later {next : Nat} (found : condition ∈ numbered next rest) :
        ∃ other ∈ piece :: rest,
          condition.column = Text.snakeCase (String.ofList (splitOperator other.text).1) := by
      obtain ⟨other, other_found, column_eq⟩ := ih found
      exact ⟨other, List.mem_cons_of_mem piece other_found, column_eq⟩
    rw [numbered] at member
    dsimp only at member
    split at member
    · rcases List.mem_cons.mp member with rfl | found
      · exact ⟨piece, List.mem_cons_self, rfl⟩
      · exact later found
    · rcases List.mem_cons.mp member with rfl | found
      · exact ⟨piece, List.mem_cons_self, rfl⟩
      · exact later found

theorem plain_of_mem_numbered
    {name : String}
    {position : Nat}
    {pieces : List Piece}
    {condition : NamedCondition}
    (plain : Plain name)
    (subset : ∀ piece ∈ pieces, piece.text ⊆ name.toList)
    (member : condition ∈ numbered position pieces) :
    Plain condition.column := by
  obtain ⟨piece, found, column_eq⟩ := exists_piece_of_mem_numbered member
  rw [column_eq]
  apply plain_snakeCase_of_subset plain
  rw [String.toList_ofList]
  exact List.Subset.trans (splitOperator_subset piece.text) (subset piece found)

/-- Conditions of a plain name are plain. -/
theorem isPlain_of_mem_conditionsOf
    {name : String}
    {condition : NamedCondition}
    (plain : Plain name)
    (member : condition ∈ conditionsOf pieces name.toList) :
    condition.toCondition.IsPlain := by
  unfold conditionsOf at member
  split at member
  · cases member
  · next cs text_eq =>
    refine ⟨plain_of_mem_numbered plain ?_ member, takesValue_of_mem_numbered member⟩
    intro piece piece_member
    exact List.Subset.trans (subset_of_mem_piecesAfter piece_member) (conditionText?_subset text_eq)

/-- An order is a column that a part of the name spells, with a direction. -/
theorem exists_of_orderOf
    {name : List Char}
    {order : String}
    (found : orderOf name = some order) :
    ∃ field direction, order = Text.snakeCase field ++ " " ++ direction ∧ field.toList ⊆ name ∧
      (direction = "ASC" ∨ direction = "DESC") := by
  unfold orderOf at found
  obtain ⟨index, -, found⟩ := Option.bind_eq_some_iff.mp found
  dsimp only at found
  split at found
  · cases found
  · refine ⟨_, _, (Option.some.inj found).symm, ?_, directed_direction _⟩
    rw [String.toList_ofList]
    exact List.Subset.trans (directed_subset _) (List.drop_subset _ _)

/-- The order of a plain name is plain. -/
theorem plain_of_orderOf
    {name : String}
    {order : String}
    (plain : Plain name)
    (found : orderOf name.toList = some order) :
    Plain order := by
  obtain ⟨field, direction, rfl, subset, written⟩ := exists_of_orderOf found
  refine ((plain_snakeCase_of_subset plain subset).append (by decide)).append ?_
  rcases written with rfl | rfl <;> decide

end Tablewright.Query
