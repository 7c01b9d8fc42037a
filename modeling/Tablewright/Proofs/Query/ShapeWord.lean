import Tablewright.Entity.View
import Tablewright.Proofs.Query.Numbering
import Tablewright.Sql.Quoted

/-!
# Words that show a shape

The statement of a count calls `COUNT(*)`, and that of a test for rows calls `EXISTS(`.  The words
are in no other statement of a query unless the name of the table holds them: columns are in lower
case, and no keyword around them makes up a word.
-/

namespace Tablewright

/-! ## Words around a mark -/

/-- A word without a mark that occurs in a text behind the mark occurs in the rest. -/
theorem infix_of_infix_cons
    {α : Type}
    {word after : List α}
    {mark : α}
    (absent : mark ∉ word)
    (occurs : word <:+: mark :: after) :
    word <:+: after := by
  rcases List.infix_cons_iff.mp occurs with begins | later
  · rcases List.prefix_cons_iff.mp begins with rfl | ⟨rest, rfl, -⟩
    · exact List.nil_infix
    · exact absurd List.mem_cons_self absent
  · exact later

/-- A word without a mark occurs in a text with the mark only before or behind it. -/
theorem infix_append_cons_iff
    {α : Type}
    {word before after : List α}
    {mark : α}
    (absent : mark ∉ word) :
    word <:+: before ++ mark :: after ↔ word <:+: before ∨ word <:+: after := by
  constructor
  · intro occurs
    rcases List.infix_append_iff.mp occurs with here | later | ⟨first, last, rfl, ends, begins⟩
    · exact Or.inl here
    · exact Or.inr (infix_of_infix_cons absent later)
    · -- A word across the mark would hold it.
      rcases List.prefix_cons_iff.mp begins with rfl | ⟨rest, rfl, -⟩
      · rw [List.append_nil]
        exact Or.inl ends.isInfix
      · exact absurd (List.mem_append_right first List.mem_cons_self) absent
  · rintro (here | later)
    · exact List.infix_append_of_infix_left here
    · exact List.infix_append_of_infix_right (List.infix_cons later)

namespace Sql

variable {quote c : Char} {word cs : List Char}

theorem prefix_of_prefix_doubled
    (absent : quote ∉ word)
    (begins : word <+: doubled quote cs) :
    word <+: cs := by
  induction cs generalizing word with
  | nil => exact begins
  | cons c cs ih =>
    rw [doubled] at begins
    split at begins
    · rcases List.prefix_cons_iff.mp begins with rfl | ⟨rest, rfl, -⟩
      · exact List.nil_prefix
      · exact absurd List.mem_cons_self absent
    · rcases List.prefix_cons_iff.mp begins with rfl | ⟨rest, rfl, more⟩
      · exact List.nil_prefix
      · rw [List.prefix_cons_inj]
        exact ih (fun member => absent (List.mem_cons_of_mem c member)) more

/-- Writing quotes twice makes no word without quotes. -/
theorem infix_of_infix_doubled
    (absent : quote ∉ word)
    (occurs : word <:+: doubled quote cs) :
    word <:+: cs := by
  induction cs with
  | nil => exact occurs
  | cons c cs ih =>
    by_cases same : c = quote
    · subst same
      rw [doubled, if_pos rfl] at occurs
      have behind := infix_of_infix_cons absent (infix_of_infix_cons absent occurs)
      exact List.infix_cons (ih behind)
    · rw [doubled, if_neg same] at occurs
      rcases List.infix_cons_iff.mp occurs with begins | later
      · have begins_doubled : word <+: doubled quote (c :: cs) := by
          rwa [doubled, if_neg same]
        exact (prefix_of_prefix_doubled absent begins_doubled).isInfix
      · exact List.infix_cons (ih later)

/-- A word without quotes occurs before, in or behind a quoted name. -/
theorem infix_of_infix_quotedName
    (absent : '"' ∉ word)
    {start name rest : String}
    (occurs : word <:+: (start ++ quotedName name ++ rest).toList) :
    word <:+: start.toList ∨ word <:+: name.toList ∨ word <:+: rest.toList := by
  rw [String.toList_append, String.toList_append, toList_quotedName, enclosed, List.append_assoc,
    List.cons_append, List.append_assoc, List.singleton_append] at occurs
  rcases (infix_append_cons_iff absent).mp occurs with before | occurs
  · exact Or.inl before
  rcases (infix_append_cons_iff absent).mp occurs with inside | behind
  · exact Or.inr (Or.inl (infix_of_infix_doubled absent inside))
  · exact Or.inr (Or.inr behind)

/-! ## Letters of conditions -/

/-- A letter that conditions hold only in their columns. -/
structure IsForeign (c : Char) : Prop where
  /-- No comparison holds it. -/
  comparison : ∀ operator : Operator, c ∉ (operator.comparison "" "").toList
  /-- No connector holds it. -/
  connector : ∀ connector : Connector, c ∉ (" " ++ connector.keyword ++ " ").toList
  /-- The word before conditions does not hold it. -/
  filter : c ∉ " WHERE ".toList
  /-- It marks no placeholder. -/
  mark : c ≠ '$'
  /-- It is no digit. -/
  digit : ¬ c.isDigit

theorem isForeign_C : IsForeign 'C' where
  comparison operator := by cases operator <;> decide
  connector connector := by cases connector <;> decide
  filter := by decide
  mark := by decide
  digit := by decide

theorem isForeign_M : IsForeign 'M' where
  comparison operator := by cases operator <;> decide
  connector connector := by cases connector <;> decide
  filter := by decide
  mark := by decide
  digit := by decide

theorem isForeign_X : IsForeign 'X' where
  comparison operator := by cases operator <;> decide
  connector connector := by cases connector <;> decide
  filter := by decide
  mark := by decide
  digit := by decide

/-- A comparison holds what its column, its value and its keywords hold. -/
theorem Operator.mem_comparison
    {operator : Operator}
    {column value : String}
    (member : c ∈ (operator.comparison column value).toList) :
    c ∈ column.toList ∨ c ∈ value.toList ∨ c ∈ (operator.comparison "" "").toList := by
  cases operator <;>
    simp only [comparison, String.toList_append, List.mem_append] at member ⊢ <;>
    grind

namespace IsForeign

theorem notMem_placeholder
    (foreign : IsForeign c)
    (position : Nat) :
    c ∉ (placeholder position).toList := by
  rw [placeholder, String.toList_append]
  intro member
  rcases List.mem_append.mp member with mark | digit
  · exact foreign.mark (List.mem_singleton.mp mark)
  · exact foreign.digit (isDigit_of_mem_numerals digit)

theorem notMem_spelling
    (foreign : IsForeign c)
    {condition : Condition}
    (absent : c ∉ condition.column.toList) :
    c ∉ condition.spelling.toList := by
  intro member
  rcases Operator.mem_comparison member with column | value | keyword
  · exact absent column
  · cases position_eq : condition.position with
    | none =>
      rw [position_eq] at value
      cases value
    | some position =>
      rw [position_eq] at value
      exact foreign.notMem_placeholder position value
  · exact foreign.comparison condition.operator keyword

theorem notMem_spelled
    (foreign : IsForeign c)
    {conditions : List Condition}
    (absent : ∀ condition ∈ conditions, c ∉ condition.column.toList) :
    c ∉ (Condition.spelled conditions).toList := by
  induction conditions with
  | nil => exact List.not_mem_nil
  | cons condition rest ih =>
    obtain ⟨here, later⟩ := List.forall_mem_cons.mp absent
    cases rest with
    | nil => exact foreign.notMem_spelling here
    | cons next rest =>
      rw [Condition.spelled_cons_cons, String.toList_append, String.toList_append]
      exact List.not_mem_append (foreign.notMem_spelling here)
        (List.not_mem_append (foreign.connector _) (ih later))

theorem notMem_filter
    (foreign : IsForeign c)
    {conditions : List Condition}
    (absent : ∀ condition ∈ conditions, c ∉ condition.column.toList) :
    c ∉ (Statement.filter conditions).toList := by
  unfold Statement.filter
  split
  · exact List.not_mem_nil
  · rw [String.toList_append]
    exact List.not_mem_append foreign.filter (foreign.notMem_spelled absent)

end IsForeign

/-- An order and a limit hold a character only if their keywords, a number or the order does. -/
theorem Window.notMem_spelling
    {window : Window}
    (order_keyword : c ∉ " ORDER BY ".toList)
    (limit_keyword : c ∉ " LIMIT ".toList)
    (digit : ¬ c.isDigit)
    (absent : ∀ order ∈ window.order, c ∉ order.toList) :
    c ∉ window.spelling.toList := by
  unfold spelling
  rw [String.toList_append]
  refine List.not_mem_append ?_ ?_
  · cases order_eq : window.order with
    | none => exact List.not_mem_nil
    | some order =>
      rw [Option.map_some, Option.getD_some, String.toList_append]
      exact List.not_mem_append order_keyword (absent order order_eq)
  · cases window.limit with
    | none => exact List.not_mem_nil
    | some limit =>
      rw [Option.map_some, Option.getD_some, String.toList_append]
      exact List.not_mem_append limit_keyword fun member => digit (isDigit_of_mem_numerals member)

end Sql

/-- No column of an entity holds a capital. -/
theorem Entity.notMem_columns
    (entity : Entity)
    {capital : Char}
    (is_capital : Text.IsCapital capital) :
    ∀ column ∈ entity.columns, capital ∉ column.toList := by
  intro column member
  obtain ⟨field, -, rfl⟩ := List.mem_map.mp member
  exact is_capital.notMem_snakeCase field.name

namespace Query

open Sql (Condition IsForeign Statement)
open Text (IsCapital)

/-- What a count calls. -/
def countWord : List Char :=
  "COUNT(*)".toList

/-- What a test for rows calls. -/
def existenceWord : List Char :=
  "EXISTS(".toList

/-- What the statement of a query says before its table. -/
def beginning
    (query : Query)
    (columns : List String) : String :=
  match query.shape with
  | .count => "SELECT COUNT(*) FROM "
  | .existence => "SELECT EXISTS(SELECT 1 FROM "
  | .deletion => "DELETE FROM "
  | .many | .single =>
    "SELECT " ++ Sql.commas (if columns.isEmpty then ["*"] else columns) ++ " FROM "

/-- What the statement of a query says behind its conditions. -/
def ending (query : Query) : String :=
  let window : Sql.Window := { order := query.order, limit := query.limit }
  match query.shape with
  | .count | .deletion => ""
  | .existence => window.spelling ++ ")"
  | .many | .single => window.spelling

variable {query : Query} {c : Char} {columns : List String} {name : String}

theorem text_statement
    (query : Query)
    (table : String)
    (columns : List String) :
    (query.statement table columns).text =
      query.beginning columns ++ table ++
        (Statement.filter (query.conditions.map (·.toCondition)) ++ query.ending) := by
  unfold statement beginning ending
  cases query.shape <;>
    simp only [Statement.text_count, Statement.text_existence, Statement.text_delete,
      Statement.text_select, Sql.selection, String.append_assoc, String.append_empty]

/-- A word without quotes that neither the name of the table nor what is behind it holds is in the
statement exactly if it is in its beginning. -/
theorem infix_statement_iff
    {word : List Char}
    {table : String}
    (no_quote : '"' ∉ word)
    (no_table : ¬ word <:+: table.toList)
    (none_behind : ¬ word <:+:
      (Statement.filter (query.conditions.map (·.toCondition)) ++ query.ending).toList) :
    word <:+: (query.statement (Sql.quotedName table) columns).text.toList ↔
      word <:+: (query.beginning columns).toList := by
  rw [text_statement]
  constructor
  · intro occurs
    rcases Sql.infix_of_infix_quotedName no_quote occurs with before | inside | behind
    · exact before
    · exact absurd inside no_table
    · exact absurd behind none_behind
  · intro before
    rw [String.toList_append, String.toList_append]
    exact List.infix_append_of_infix_left (List.infix_append_of_infix_left before)

/-! ## Beginnings -/

theorem notMem_selected
    (absent : ∀ column ∈ columns, c ∉ column.toList)
    (comma : c ∉ ", ".toList)
    (star : c ∉ "*".toList) :
    c ∉ (Sql.commas (if columns.isEmpty then ["*"] else columns)).toList := by
  refine Sql.notMem_commas comma ?_
  split
  · exact List.forall_mem_singleton.mpr star
  · exact absent

/-- A word with a letter that neither the columns nor the keywords of a selection hold is in no
selection of columns. -/
theorem not_infix_selected
    {word : List Char}
    (member : c ∈ word)
    (absent : ∀ column ∈ columns, c ∉ column.toList)
    (comma : c ∉ ", ".toList)
    (star : c ∉ "*".toList)
    (keyword : c ∉ "SELECT ".toList)
    (from_keyword : c ∉ " FROM ".toList) :
    ¬ word <:+:
      ("SELECT " ++ Sql.commas (if columns.isEmpty then ["*"] else columns) ++
        " FROM ").toList := by
  intro occurs
  have found := occurs.mem member
  rw [String.toList_append, String.toList_append] at found
  exact List.not_mem_append (List.not_mem_append keyword (notMem_selected absent comma star))
    from_keyword found

theorem infix_countWord_beginning_iff (absent : ∀ column ∈ columns, 'U' ∉ column.toList) :
    countWord <:+: (query.beginning columns).toList ↔ query.shape = .count := by
  unfold beginning
  cases query.shape with
  | count => exact iff_of_true (by dsimp only; decide) rfl
  | existence => exact iff_of_false (by dsimp only; decide) nofun
  | deletion => exact iff_of_false (by dsimp only; decide) nofun
  | many | single =>
    refine iff_of_false (not_infix_selected ?_ absent ?_ ?_ ?_ ?_) nofun <;> decide

theorem infix_existenceWord_beginning_iff (absent : ∀ column ∈ columns, 'X' ∉ column.toList) :
    existenceWord <:+: (query.beginning columns).toList ↔ query.shape = .existence := by
  unfold beginning
  cases query.shape with
  | count => exact iff_of_false (by dsimp only; decide) nofun
  | existence => exact iff_of_true (by dsimp only; decide) rfl
  | deletion => exact iff_of_false (by dsimp only; decide) nofun
  | many | single =>
    refine iff_of_false (not_infix_selected ?_ absent ?_ ?_ ?_ ?_) nofun <;> decide

/-! ## Conditions and orders -/

/-- Conditions of a described query compare columns in lower case. -/
theorem notMem_column_of_ofName?
    (described : ofName? name = some query)
    (capital : IsCapital c) :
    ∀ condition ∈ query.conditions.map (·.toCondition), c ∉ condition.column.toList := by
  obtain ⟨-, -, -, conditions_eq, -⟩ := described_of_ofName? described
  intro condition member
  obtain ⟨named, found, rfl⟩ := List.mem_map.mp member
  rw [conditions_eq, conditionsOf] at found
  split at found
  · cases found
  · obtain ⟨piece, -, column_eq⟩ := exists_piece_of_mem_numbered found
    rw [column_eq]
    exact capital.notMem_snakeCase _

theorem notMem_order_of_ofName?
    (described : ofName? name = some query)
    (capital : IsCapital c)
    (ascending : c ∉ "ASC".toList)
    (descending : c ∉ "DESC".toList) :
    ∀ order ∈ query.order, c ∉ order.toList := by
  obtain ⟨-, -, -, -, order_eq, -⟩ := described_of_ofName? described
  intro order found
  obtain ⟨field, direction, rfl, -, written⟩ := exists_of_orderOf (order_eq ▸ found)
  have space : c ∉ " ".toList := by
    intro member
    rw [List.mem_singleton.mp member] at capital
    exact absurd capital (by decide)
  rw [String.toList_append, String.toList_append]
  refine List.not_mem_append (List.not_mem_append (capital.notMem_snakeCase _) space) ?_
  rcases written with rfl | rfl
  · exact ascending
  · exact descending

/-- What stands behind the conditions holds no `U` and no `X`. -/
theorem notMem_ending
    (described : ofName? name = some query)
    (letter : c = 'U' ∨ c = 'X') :
    c ∉ query.ending.toList := by
  have in_window : c ∉
      (Sql.Window.spelling { order := query.order, limit := query.limit }).toList := by
    rcases letter with rfl | rfl
    all_goals
      exact Sql.Window.notMem_spelling (by decide) (by decide) (by decide)
        (notMem_order_of_ofName? described (by decide) (by decide) (by decide))
  have closing : c ∉ ")".toList := by
    rcases letter with rfl | rfl <;> decide
  unfold ending
  cases query.shape with
  | count | deletion => exact List.not_mem_nil
  | existence =>
    rw [String.toList_append]
    exact List.not_mem_append in_window closing
  | many | single => exact in_window

/-- A word whose first letter one text lacks and one of whose letters the next text lacks is not in
both together. -/
theorem not_infix_append
    {first : Char}
    {rest before after : List Char}
    (begins : first ∉ before)
    (member : c ∈ first :: rest)
    (lacks : c ∉ after) :
    ¬ first :: rest <:+: before ++ after := by
  have quiet : Quiet (first :: rest) before after := Quiet.of_notMem_head begins
  have absent : ¬ first :: rest <:+: after := fun occurs => lacks (occurs.mem member)
  have none_last := lastIndex?_append_eq_none quiet
    ((lastIndex?_eq_none_iff (List.cons_ne_nil _ _)).mpr absent)
  exact (lastIndex?_eq_none_iff (List.cons_ne_nil _ _)).mp none_last

section

variable (described : ofName? name = some query)

include described

theorem not_infix_countWord_rest :
    ¬ countWord <:+:
      (Statement.filter (query.conditions.map (·.toCondition)) ++ query.ending).toList := by
  rw [String.toList_append]
  exact not_infix_append
    (Sql.isForeign_C.notMem_filter (notMem_column_of_ofName? described (by decide)))
    (c := 'U') (by decide) (notMem_ending described (.inl rfl))

theorem not_infix_existenceWord_rest :
    ¬ existenceWord <:+:
      (Statement.filter (query.conditions.map (·.toCondition)) ++ query.ending).toList := by
  intro occurs
  have found : 'X' ∈
      (Statement.filter (query.conditions.map (·.toCondition)) ++ query.ending).toList :=
    occurs.mem (by decide)
  rw [String.toList_append] at found
  exact List.not_mem_append
    (Sql.isForeign_X.notMem_filter (notMem_column_of_ofName? described (by decide)))
    (notMem_ending described (.inr rfl)) found

/-! ## Statements -/

/-- The statement of a described query on a quoted table holds the call of a count exactly if the
query counts, unless the name of the table holds it. -/
theorem infix_countWord_iff
    (absent : ∀ column ∈ columns, 'U' ∉ column.toList)
    {table : String}
    (no_count : ¬ countWord <:+: table.toList) :
    countWord <:+: (query.statement (Sql.quotedName table) columns).text.toList ↔
      query.shape = .count := by
  rw [infix_statement_iff (by decide) no_count (not_infix_countWord_rest described)]
  exact infix_countWord_beginning_iff absent

/-- The statement of a described query on a quoted table holds the call of a test for rows exactly
if the query is one, unless the name of the table holds it. -/
theorem infix_existenceWord_iff
    (absent : ∀ column ∈ columns, 'X' ∉ column.toList)
    {table : String}
    (no_existence : ¬ existenceWord <:+: table.toList) :
    existenceWord <:+: (query.statement (Sql.quotedName table) columns).text.toList ↔
      query.shape = .existence := by
  rw [infix_statement_iff (by decide) no_existence (not_infix_existenceWord_rest described)]
  exact infix_existenceWord_beginning_iff absent

end

end Query
end Tablewright
