import Tablewright.Sql.Statement

/-!
# Placeholders in the text of statements

A database takes a `$` with digits for a placeholder, wherever it stands.  The text of a statement
without `$` in its names holds exactly the placeholders of its positions, in their order.
-/

namespace Tablewright.Sql

/-- The digits behind each `$` of a text. -/
def marked : List Char → List (List Char)
  | [] => []
  | c :: rest => if c = '$' then rest.takeWhile Char.isDigit :: marked rest else marked rest

/-- The digits of a number. -/
def numerals (position : Nat) : List Char :=
  (toString position).toList

/-- A text holds the placeholders of positions, each as often and in the order given. -/
def Holds (text : String) (positions : List Nat) : Prop :=
  marked text.toList = positions.map numerals

/-- A text that may follow a placeholder: it begins with no digit. -/
def Apart (text : String) : Prop :=
  ∀ c ∈ text.toList.head?, ¬ c.isDigit

/-- A text without `$`. -/
def Plain (text : String) : Prop :=
  '$' ∉ text.toList

/-- A word that may stand between placeholders: a text without `$` that begins with no digit. -/
structure IsWord (text : String) : Prop where
  /-- It is without `$`. -/
  plain : Plain text
  /-- It begins with no digit. -/
  apart : Apart text
  /-- There is something. -/
  text_ne : text.toList ≠ []

instance (text : String) : Decidable (Plain text) :=
  inferInstanceAs (Decidable ('$' ∉ text.toList))

instance decidableFirst (first : Option Char) : Decidable (∀ c ∈ first, ¬ c.isDigit) :=
  -- The first character is tried, not all characters there are.
  Option.decidableForallMem (p := fun c => ¬ c.isDigit) first

instance (text : String) : Decidable (Apart text) :=
  inferInstanceAs (Decidable (∀ c ∈ text.toList.head?, ¬ c.isDigit))

instance (text : String) : Decidable (IsWord text) :=
  decidable_of_iff (Plain text ∧ Apart text ∧ text.toList ≠ [])
    ⟨fun ⟨plain, apart, text_ne⟩ => ⟨plain, apart, text_ne⟩,
      fun ⟨plain, apart, text_ne⟩ => ⟨plain, apart, text_ne⟩⟩

/-! ## Characters -/

theorem marked_append_of_notMem
    {before : List Char}
    (absent : '$' ∉ before)
    (after : List Char) :
    marked (before ++ after) = marked after := by
  induction before with
  | nil => rfl
  | cons c before ih =>
    rw [List.mem_cons, not_or] at absent
    rw [List.cons_append, marked, if_neg (Ne.symm absent.1), ih absent.2]

/-- Digits are cut where a text begins that has none. -/
theorem takeWhile_append_of_apart
    (before : List Char)
    {after : List Char}
    (apart : ∀ c ∈ after.head?, ¬ c.isDigit) :
    (before ++ after).takeWhile Char.isDigit = before.takeWhile Char.isDigit := by
  induction before with
  | nil =>
    cases after with
    | nil => rfl
    | cons c after => exact List.takeWhile_cons_of_neg (apart c rfl)
  | cons c before ih => simp [List.takeWhile_cons, ih]

theorem marked_append
    (before : List Char)
    {after : List Char}
    (apart : ∀ c ∈ after.head?, ¬ c.isDigit) :
    marked (before ++ after) = marked before ++ marked after := by
  induction before with
  | nil => rfl
  | cons c before ih =>
    rw [List.cons_append, marked, marked, ih, takeWhile_append_of_apart before apart]
    split <;> rfl

theorem isDigit_of_mem_numerals
    {position : Nat}
    {c : Char}
    (member : c ∈ numerals position) :
    c.isDigit := by
  rw [numerals, Nat.toString_eq_repr, Nat.toList_repr] at member
  exact Nat.isDigit_of_mem_toDigits (by decide) (by decide) member

theorem numerals_injective : Function.Injective numerals := by
  intro position other same
  rw [numerals, numerals, Nat.toString_eq_repr, Nat.toString_eq_repr, Nat.toList_repr,
    Nat.toList_repr] at same
  rw [← Nat.ofDigitChars_ten_toDigits (n := position), same, Nat.ofDigitChars_ten_toDigits]

/-- The digits of a number end where no digit follows. -/
theorem takeWhile_numerals_append
    (position : Nat)
    {after : List Char}
    (apart : ∀ c ∈ after.head?, ¬ c.isDigit) :
    (numerals position ++ after).takeWhile Char.isDigit = numerals position := by
  rw [takeWhile_append_of_apart _ apart, ← List.append_nil (numerals position),
    List.takeWhile_append_of_pos fun _ member => isDigit_of_mem_numerals member]
  rfl

/-- A number and what follows it are told apart where that begins with no digit. -/
theorem numerals_append_inj
    {position other : Nat}
    {after otherAfter : List Char}
    (apart : ∀ c ∈ after.head?, ¬ c.isDigit)
    (other_apart : ∀ c ∈ otherAfter.head?, ¬ c.isDigit)
    (same : numerals position ++ after = numerals other ++ otherAfter) :
    position = other ∧ after = otherAfter := by
  have digits := congrArg (List.takeWhile Char.isDigit) same
  rw [takeWhile_numerals_append _ apart, takeWhile_numerals_append _ other_apart] at digits
  obtain rfl := numerals_injective digits
  exact ⟨rfl, List.append_cancel_left same⟩

theorem dollar_notMem_numerals (position : Nat) : '$' ∉ numerals position := by
  intro member
  exact absurd (isDigit_of_mem_numerals member) (by decide)

/-! ## Texts -/

section

variable {start text rest : String} {positions more : List Nat}

theorem Plain.append
    (plain : Plain start)
    (rest_plain : Plain rest) :
    Plain (start ++ rest) := by
  rw [Plain, String.toList_append]
  exact List.not_mem_append plain rest_plain

/-- What begins with a word may follow a placeholder. -/
theorem IsWord.apart_append (word : IsWord start) : Apart (start ++ rest) := by
  obtain ⟨c, cs, start_eq⟩ := List.exists_cons_of_ne_nil word.text_ne
  have apart := word.apart
  rw [Apart, start_eq] at apart
  rw [Apart, String.toList_append, start_eq]
  exact apart

theorem isWord_comma : IsWord ", " := by
  decide

namespace Holds

theorem of_plain (plain : Plain text) : Holds text [] := by
  have none_marked := marked_append_of_notMem plain []
  rwa [List.append_nil] at none_marked

theorem empty : Holds "" [] :=
  of_plain (by decide)

theorem plain_append
    (plain : Plain start)
    (holds : Holds rest positions) :
    Holds (start ++ rest) positions := by
  rw [Holds, String.toList_append, marked_append_of_notMem plain]
  exact holds

theorem append
    (holds : Holds text positions)
    (apart : Apart rest)
    (rest_holds : Holds rest more) :
    Holds (text ++ rest) (positions ++ more) := by
  rw [Holds, String.toList_append, marked_append _ apart, holds, rest_holds, List.map_append]

theorem append_plain
    (holds : Holds text positions)
    (apart : Apart rest)
    (plain : Plain rest) :
    Holds (text ++ rest) positions := by
  have both := holds.append apart (of_plain plain)
  rwa [List.append_nil] at both

theorem append_word
    (holds : Holds text positions)
    (word : IsWord rest) :
    Holds (text ++ rest) positions :=
  holds.append_plain word.apart word.plain

/-- A placeholder is the one of its position. -/
theorem placeholder (position : Nat) : Holds (Sql.placeholder position) [position] := by
  have all_digits : (numerals position).takeWhile Char.isDigit = numerals position := by
    have apart_end : ∀ c ∈ ([] : List Char).head?, ¬ c.isDigit := by simp
    have alone := takeWhile_numerals_append position apart_end
    rwa [List.append_nil] at alone
  have text_eq : (Sql.placeholder position).toList = '$' :: numerals position := by
    rw [Sql.placeholder, String.toList_append]
    rfl
  have rest : Holds (toString position) [] := of_plain (dollar_notMem_numerals position)
  rw [Holds, text_eq, marked, if_pos rfl, all_digits]
  exact congrArg (_ :: ·) rest

/-- Listed texts hold what each of them holds. -/
theorem commas
    {α : Type}
    {items : List α}
    {text : α → String}
    {positions : α → List Nat}
    (each : ∀ item ∈ items, Holds (text item) (positions item)) :
    Holds (Sql.commas (items.map text)) (items.flatMap positions) := by
  induction items with
  | nil => exact empty
  | cons item items ih =>
    obtain ⟨here, later⟩ := List.forall_mem_cons.mp each
    cases items with
    | nil =>
      rw [Sql.commas, List.map_cons, List.map_nil, String.intercalate_singleton,
        List.flatMap_singleton]
      exact here
    | cons next items =>
      have rest : Holds (", " ++ Sql.commas ((next :: items).map text))
          ((next :: items).flatMap positions) :=
        (ih later).plain_append isWord_comma.plain
      have joined : Sql.commas ((item :: next :: items).map text) =
          text item ++ (", " ++ Sql.commas ((next :: items).map text)) := by
        rw [Sql.commas, List.map_cons, List.map_cons, String.intercalate_cons_cons,
          String.append_assoc]
        rfl
      rw [joined, List.flatMap_cons]
      exact here.append isWord_comma.apart_append rest

end Holds

/-- Joined texts hold a character only if one of them or the separator does. -/
theorem notMem_intercalate
    {c : Char}
    {separator : String}
    {texts : List String}
    (apart : c ∉ separator.toList)
    (absent : ∀ text ∈ texts, c ∉ text.toList) :
    c ∉ (separator.intercalate texts).toList := by
  induction texts with
  | nil => exact List.not_mem_nil
  | cons text texts ih =>
    obtain ⟨here, later⟩ := List.forall_mem_cons.mp absent
    cases texts with
    | nil => rwa [String.intercalate_singleton]
    | cons next texts =>
      rw [String.intercalate_cons_cons, String.toList_append, String.toList_append]
      exact List.not_mem_append (List.not_mem_append here apart) (ih later)

/-- Listed texts hold a character only if one of them or the comma does. -/
theorem notMem_commas
    {c : Char}
    {texts : List String}
    (apart : c ∉ ", ".toList)
    (absent : ∀ text ∈ texts, c ∉ text.toList) :
    c ∉ (commas texts).toList :=
  notMem_intercalate apart absent

theorem plain_commas
    {texts : List String}
    (plain : ∀ text ∈ texts, Plain text) :
    Plain (commas texts) :=
  notMem_commas isWord_comma.plain plain

end

/-! ## Conditions -/

/-- A comparison holds the placeholders of its value, if it has one. -/
theorem Operator.holds_comparison
    (operator : Operator)
    {column value : String}
    {positions : List Nat}
    (plain : Plain column)
    (holds : Holds value positions) :
    Holds (operator.comparison column value) (if operator.takesValue then positions else []) := by
  have signed
      (sign : String)
      (sign_plain : Plain sign) :
      Holds (column ++ sign ++ value) positions :=
    holds.plain_append (plain.append sign_plain)
  cases operator with
  | startsWith => exact (signed " LIKE " (by decide)).append_word (by decide)
  | endsWith => exact signed " LIKE '%' || " (by decide)
  | contains => exact (signed " LIKE '%' || " (by decide)).append_word (by decide)
  | isIn => exact (signed " = ANY(" (by decide)).append_word (by decide)
  | notIn => exact (signed " <> ALL(" (by decide)).append_word (by decide)
  | isNull => exact .of_plain ((plain.append (by decide)).append (by decide))
  | isNotNull => exact .of_plain ((plain.append (by decide)).append (by decide))
  | _ =>
    have keyed : Plain (column ++ " ") := plain.append (by decide)
    exact holds.plain_append ((keyed.append (by decide)).append (by decide))

namespace Condition

/-- A condition without `$` whose value, if it has one, is compared with. -/
structure IsPlain (condition : Condition) : Prop where
  /-- The column is without `$`. -/
  column : Plain condition.column
  /-- A value is there only for operators that take one. -/
  valued : condition.position.isSome → condition.operator.takesValue

theorem IsPlain.holds_spelling
    {condition : Condition}
    (plain : condition.IsPlain) :
    Holds condition.spelling condition.position.toList := by
  unfold spelling
  cases position_eq : condition.position with
  | none =>
    have holds := condition.operator.holds_comparison plain.column
      Holds.empty
    rwa [ite_self] at holds
  | some position =>
    have takes : condition.operator.takesValue := plain.valued (by rw [position_eq]; rfl)
    have holds := condition.operator.holds_comparison plain.column (Holds.placeholder position)
    rwa [if_pos takes] at holds

theorem spelled_cons_cons
    (condition next : Condition)
    (rest : List Condition) :
    spelled (condition :: next :: rest) =
      condition.spelling ++ (" " ++ (condition.connector.getD .and).keyword ++ " " ++
        spelled (next :: rest)) := by
  rw [spelled]
  simp only [String.append_assoc]

theorem positions_cons
    (condition : Condition)
    (rest : List Condition) :
    positions (condition :: rest) = condition.position.toList ++ positions rest := by
  cases position_eq : condition.position <;> simp [positions, position_eq]

/-- Conditions hold the placeholders of their positions. -/
theorem holds_spelled
    {conditions : List Condition}
    (plain : ∀ condition ∈ conditions, condition.IsPlain) :
    Holds (spelled conditions) (positions conditions) := by
  induction conditions with
  | nil => exact Holds.empty
  | cons condition rest ih =>
    obtain ⟨here, later⟩ := List.forall_mem_cons.mp plain
    rw [positions_cons]
    cases rest with
    | nil =>
      rw [positions, List.filterMap_nil, List.append_nil]
      exact here.holds_spelling
    | cons next rest =>
      have word : IsWord (" " ++ (condition.connector.getD .and).keyword ++ " ") := by
        cases condition.connector.getD .and <;> decide
      rw [spelled_cons_cons]
      exact here.holds_spelling.append word.apart_append ((ih later).plain_append word.plain)

end Condition

/-- Assignments hold the placeholders of their slots. -/
theorem holds_assignments
    {sets : List Slot}
    (plain : ∀ slot ∈ sets, Plain slot.column) :
    Holds (commas (sets.map (·.assignment))) (sets.map (·.position)) := by
  have each : ∀ slot ∈ sets, Holds slot.assignment [slot.position] := by
    intro slot member
    exact (Holds.placeholder slot.position).plain_append
      ((plain slot member).append (by decide))
  have listed := Holds.commas each
  rwa [← List.map_eq_flatMap] at listed

theorem holds_placeholders (count : Nat) : Holds (placeholders count) (List.range' 1 count) := by
  have each : ∀ position ∈ List.range' 1 count, Holds (placeholder position) [position] :=
    fun position _ => Holds.placeholder position
  have listed := Holds.commas each
  rwa [← List.map_eq_flatMap, List.map_id'] at listed

/-! ## Statements -/

namespace Statement

theorem isWord_where : IsWord " WHERE " := by
  decide

theorem isWord_returning : IsWord " RETURNING " := by
  decide

theorem holds_filter
    {conditions : List Condition}
    (plain : ∀ condition ∈ conditions, condition.IsPlain) :
    Holds (filter conditions) (Condition.positions conditions) := by
  unfold filter
  split
  · next none_given =>
    rw [List.isEmpty_iff.mp none_given]
    exact Holds.empty
  · exact (Condition.holds_spelled plain).plain_append isWord_where.plain

theorem plain_returned
    {returning : Option (List String)}
    (plain : ∀ columns ∈ returning, ∀ column ∈ columns, Plain column) :
    Plain (returned returning) := by
  cases returning with
  | none => decide
  | some columns => exact isWord_returning.plain.append (plain_commas (plain columns rfl))

theorem apart_returned (returning : Option (List String)) : Apart (returned returning) := by
  cases returning with
  | none => decide
  | some columns => exact isWord_returning.apart_append

end Statement

namespace Window

theorem isWord_order : IsWord " ORDER BY " := by
  decide

theorem isWord_limit : IsWord " LIMIT " := by
  decide

theorem plain_spelling
    {window : Window}
    (plain : ∀ order ∈ window.order, Plain order) :
    Plain window.spelling := by
  unfold spelling
  refine Plain.append ?_ ?_
  · cases order_eq : window.order with
    | none => decide
    | some order => exact isWord_order.plain.append (plain order order_eq)
  · cases window.limit with
    | none => decide
    | some limit => exact isWord_limit.plain.append (dollar_notMem_numerals limit)

theorem apart_spelling (window : Window) : Apart window.spelling := by
  unfold spelling
  cases window.order with
  | none =>
    cases window.limit with
    | none => decide
    | some limit => exact isWord_limit.apart_append
  | some order =>
    dsimp only [Option.map_some, Option.getD_some]
    rw [String.append_assoc]
    exact isWord_order.apart_append

end Window

/-- The values of a new row hold the placeholders of its columns. -/
theorem holds_values
    {columns : List String}
    (plain : ∀ column ∈ columns, Plain column) :
    Holds (if columns.isEmpty then " DEFAULT VALUES"
      else " (" ++ commas columns ++ ") VALUES (" ++ placeholders columns.length ++ ")")
      (List.range' 1 columns.length) := by
  have start : Plain " (" := by decide
  split
  · next no_columns =>
    rw [List.isEmpty_iff.mp no_columns]
    exact Holds.of_plain (by decide)
  · exact ((holds_placeholders columns.length).plain_append
      ((start.append (plain_commas plain)).append (by decide))).append_word (by decide)

/-- A statement is without `$` in its names. -/
def Statement.IsPlain : Statement → Prop
  | .insert table columns returning =>
    Plain table ∧ (∀ column ∈ columns, Plain column) ∧
      ∀ columns ∈ returning, ∀ column ∈ columns, Plain column
  | .update table sets conditions returning =>
    Plain table ∧ (∀ slot ∈ sets, Plain slot.column) ∧
      (∀ condition ∈ conditions, condition.IsPlain) ∧
      ∀ columns ∈ returning, ∀ column ∈ columns, Plain column
  | .delete table conditions | .count table conditions =>
    Plain table ∧ ∀ condition ∈ conditions, condition.IsPlain
  | .select columns table conditions window =>
    Plain table ∧ (∀ column ∈ columns, Plain column) ∧
      (∀ condition ∈ conditions, condition.IsPlain) ∧ ∀ order ∈ window.order, Plain order
  | .existence table conditions window =>
    Plain table ∧ (∀ condition ∈ conditions, condition.IsPlain) ∧
      ∀ order ∈ window.order, Plain order

/-- The text of a statement without `$` in its names holds the placeholders of its positions. -/
theorem Statement.holds_text
    {statement : Statement}
    (plain : statement.IsPlain) :
    Holds statement.text statement.positions := by
  cases statement with
  | insert table columns returning =>
    obtain ⟨table_plain, columns_plain, returning_plain⟩ := plain
    have start : Plain "INSERT INTO " := by decide
    rw [text_insert]
    refine Holds.append_plain (Holds.plain_append (start.append table_plain) ?_)
      (apart_returned returning) (plain_returned returning_plain)
    exact holds_values columns_plain
  | update table sets conditions returning =>
    obtain ⟨table_plain, sets_plain, conditions_plain, returning_plain⟩ := plain
    have start : Plain "UPDATE " := by decide
    have set_word : Plain " SET " := by decide
    have filtered : Holds (" WHERE " ++ Condition.spelled conditions)
        (Condition.positions conditions) :=
      (Condition.holds_spelled conditions_plain).plain_append isWord_where.plain
    have assigned := (holds_assignments sets_plain).plain_append
      ((start.append table_plain).append set_word)
    rw [text_update]
    refine Holds.append_plain ?_ (apart_returned returning) (plain_returned returning_plain)
    rw [String.append_assoc]
    exact assigned.append isWord_where.apart_append filtered
  | delete table conditions =>
    obtain ⟨table_plain, conditions_plain⟩ := plain
    have start : Plain "DELETE FROM " := by decide
    rw [text_delete]
    exact (holds_filter conditions_plain).plain_append (start.append table_plain)
  | count table conditions =>
    obtain ⟨table_plain, conditions_plain⟩ := plain
    have start : Plain "SELECT COUNT(*) FROM " := by decide
    rw [text_count]
    exact (holds_filter conditions_plain).plain_append (start.append table_plain)
  | select columns table conditions window =>
    obtain ⟨table_plain, columns_plain, conditions_plain, order_plain⟩ := plain
    have start : Plain "SELECT " := by decide
    have selected : Plain (selection columns table) :=
      ((start.append (plain_commas columns_plain)).append (by decide)).append table_plain
    rw [text_select]
    exact ((holds_filter conditions_plain).plain_append selected).append_plain
      window.apart_spelling (Window.plain_spelling order_plain)
  | existence table conditions window =>
    obtain ⟨table_plain, conditions_plain, order_plain⟩ := plain
    have start : Plain "SELECT EXISTS(SELECT 1 FROM " := by decide
    rw [text_existence]
    exact (((holds_filter conditions_plain).plain_append (start.append table_plain)).append_plain
      window.apart_spelling (Window.plain_spelling order_plain)).append_word (by decide)

end Tablewright.Sql
