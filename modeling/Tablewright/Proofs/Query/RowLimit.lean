import Tablewright.Proofs.Query.ShapeWord
import Tablewright.Proofs.Query.Slicing

/-!
# Limits of rows

A name that begins with `First` or with `Top` and digits asks for a number of rows.  The query takes
that many rows, and its statement ends by saying so, if the number is below the bound of limits.  A
larger number is lost: the query is still one for some rows, but states no limit.
-/

namespace Tablewright

namespace Query

open Sql (Statement)

/-! ## Requested numbers -/

section

variable {name : List Char} {count limit : Nat}

/-- Names that ask for a number of rows. -/
inductive AsksFor : List Char → Nat → Prop
  /-- The first row. -/
  | first (rest : List Char) : AsksFor ("First".toList ++ rest) 1
  /-- As many rows as the digits say, which end where no digit follows. -/
  | top {digits rest : List Char} :
      digits ≠ [] → (∀ c ∈ digits, c.isDigit) → (∀ c ∈ rest.head?, ¬ c.isDigit) →
      AsksFor ("Top".toList ++ (digits ++ rest)) (Text.numeralValue 10 digits)

/-- A verb stands at the beginning of every name that asks for a number of rows. -/
theorem AsksFor.exists_verb (asks : AsksFor name count) :
    ∃ (verb : Verb) (rest : List Char), name = verb.spelling ++ rest ∧ verb.IsRegular ∧
      verb.Precedes rest ∧ verb.shape = .single ∧
      verb.limit = (some count).filter (· < limitBound) := by
  cases asks with
  | first rest => exact ⟨.first, rest, rfl, trivial, trivial, rfl, rfl⟩
  | @top digits rest digits_ne all_digits ends =>
    exact ⟨.top digits, rest, (Verb.top_spelling_append digits rest).symm,
      ⟨digits_ne, all_digits⟩, ends, rfl, rfl⟩

/-- The digits that are read after `Top` are all that stand there. -/
theorem AsksFor.of_topDigits?
    {digits : List Char}
    (found : topDigits? name = some digits) :
    AsksFor name (Text.numeralValue 10 digits) := by
  rw [topDigits?_eq, Option.bind_eq_some_iff] at found
  obtain ⟨rest, after, digits_eq⟩ := found
  split at digits_eq
  · cases digits_eq
  · next digits_ne =>
    obtain rfl := Option.some.inj digits_eq
    have name_eq : name = "Top".toList ++
        (rest.takeWhile Char.isDigit ++ rest.dropWhile Char.isDigit) := by
      rw [List.takeWhile_append_dropWhile]
      exact Text.eq_append_of_afterPrefix? after
    have ends := List.head?_dropWhile_not Char.isDigit rest
    rw [name_eq]
    refine .top (mt List.isEmpty_iff.mpr digits_ne) (List.all_eq_true.mp List.all_takeWhile) ?_
    intro c first
    rw [Option.mem_def.mp first] at ends
    exact Bool.eq_false_iff.mp ends

/-- A name asks for one number of rows at most. -/
theorem AsksFor.unique
    {other : Nat}
    (asks : AsksFor name count)
    (asks_other : AsksFor name other) :
    count = other := by
  -- Both ways of asking are opened on a name of their own, and the names compared afterwards.
  generalize same : name = name' at asks_other
  cases asks with
  | first rest =>
    cases asks_other with
    | first => rfl
    | top => cases same
  | top digits_ne all_digits ends =>
    cases asks_other with
    | first => cases same
    | top digits_ne' all_digits' ends' =>
      have read := Verb.topDigits?_append ⟨digits_ne, all_digits⟩ ends
      rw [same, Verb.topDigits?_append ⟨digits_ne', all_digits'⟩ ends'] at read
      rw [Option.some.inj read]

/-! ## Shape and limit -/

/-- The verb of a name is one for some rows exactly if the name asks for a number of them. -/
theorem verb?_eq_single_iff :
    (∃ rest, verb? name = some (.single, rest)) ↔ ∃ count, AsksFor name count := by
  constructor
  · rintro ⟨rest, read⟩
    rcases verb?_cases read with ⟨word, member, rfl⟩ | ⟨-, digits, found⟩
    · obtain rfl : word = "First" := by simpa [verbs] using member
      exact ⟨1, .first rest⟩
    · exact ⟨_, .of_topDigits? found⟩
  · rintro ⟨count, asks⟩
    obtain ⟨verb, rest, rfl, regular, precedes, single, -⟩ := asks.exists_verb
    exact ⟨rest, by rw [Verb.verb?_append regular precedes, single]⟩

/-- A name has a limit exactly if it asks for that number of rows and the number is below the
bound. -/
theorem limitOf_eq_some_iff :
    limitOf name = some limit ↔ AsksFor name limit ∧ limit < limitBound := by
  constructor
  · intro found
    unfold limitOf at found
    split at found
    · next begins =>
      obtain rfl := Option.some.inj found
      obtain ⟨rest, rfl⟩ := List.isPrefixOf_iff_prefix.mp begins
      exact ⟨.first rest, by decide⟩
    · obtain ⟨digits, read, found⟩ := Option.bind_eq_some_iff.mp found
      dsimp only at found
      split at found
      · next below =>
        obtain rfl := Option.some.inj found
        exact ⟨.of_topDigits? read, below⟩
      · cases found
  · rintro ⟨asks, below⟩
    obtain ⟨verb, rest, rfl, regular, precedes, -, limit_eq⟩ := asks.exists_verb
    rw [Verb.limitOf_append regular precedes, limit_eq, Option.filter_some,
      if_pos (decide_eq_true below)]

end

/-! ## Statements -/

/-- What a statement with a limit says before it. -/
def limitWord : List Char :=
  "LIMIT".toList

variable {query : Query} {name : String} {limit : Nat}

theorem shape_eq_single_iff (described : ofName? name = some query) :
    query.shape = .single ↔ ∃ count, AsksFor name.toList count := by
  obtain ⟨rest, read, -⟩ := described_of_ofName? described
  rw [← verb?_eq_single_iff, read]
  constructor
  · exact fun single => ⟨rest, by rw [single]⟩
  · rintro ⟨other, same⟩
    exact (Prod.mk.inj (Option.some.inj same)).1

theorem limit_eq_some_iff (described : ofName? name = some query) :
    query.limit = some limit ↔ AsksFor name.toList limit ∧ limit < limitBound := by
  obtain ⟨-, -, -, -, -, limit_eq⟩ := described_of_ofName? described
  rw [limit_eq, limitOf_eq_some_iff]

/-- A selection with a limit ends in it. -/
theorem exists_text_eq_limit
    (single : query.shape = .single)
    (limited : query.limit = some limit)
    (table : String)
    (columns : List String) :
    ∃ before, (query.statement table columns).text = before ++ " LIMIT " ++ toString limit := by
  refine ⟨query.beginning columns ++ table ++
    (Statement.filter (query.conditions.map (·.toCondition)) ++
      ((query.order.map (" ORDER BY " ++ ·)).getD "")), ?_⟩
  rw [text_statement, ending, single]
  simp only [Sql.Window.spelling, limited, Option.map_some, Option.getD_some, String.append_assoc]

theorem not_infix_limitWord_beginning
    {columns : List String}
    (absent : ∀ column ∈ columns, 'I' ∉ column.toList) :
    ¬ limitWord <:+: (query.beginning columns).toList := by
  unfold beginning
  cases query.shape with
  | count | existence | deletion => dsimp only; decide
  | many | single =>
    -- The word `FROM` holds `M`, so `I` is the letter that no selection has.
    refine not_infix_selected (c := 'I') ?_ absent ?_ ?_ ?_ ?_ <;> decide

/-- Without a limit, nothing behind the table holds the letter `M`. -/
theorem not_infix_limitWord_rest
    (described : ofName? name = some query)
    (unlimited : query.limit = none) :
    ¬ limitWord <:+:
      (Statement.filter (query.conditions.map (·.toCondition)) ++ query.ending).toList := by
  have in_filter := Sql.isForeign_M.notMem_filter (notMem_column_of_ofName? described (by decide))
  have in_order : 'M' ∉ ((query.order.map (" ORDER BY " ++ ·)).getD "").toList := by
    cases order_eq : query.order with
    | none => exact List.not_mem_nil
    | some order =>
      rw [Option.map_some, Option.getD_some, String.toList_append]
      exact List.not_mem_append (by decide)
        (notMem_order_of_ofName? described (by decide) (by decide) (by decide) order order_eq)
  have in_ending : 'M' ∉ query.ending.toList := by
    simp only [ending, Sql.Window.spelling, unlimited, Option.map_none, Option.getD_none,
      String.append_empty]
    cases query.shape with
    | count | deletion => exact List.not_mem_nil
    | existence =>
      rw [String.toList_append]
      exact List.not_mem_append in_order (by decide)
    | many | single => exact in_order
  intro occurs
  have found : 'M' ∈ _ := occurs.mem (by decide)
  rw [String.toList_append] at found
  exact List.not_mem_append in_filter in_ending found

/-- A described query is one for some rows exactly if its name asks for a number of them, and it
takes that many exactly if the number is below the bound; so limit and shape agree exactly if the
name asks for no more.  The statement of a query with a limit ends in it, and that of a query
without one speaks of limits only in the name of its table. -/
theorem limited_of_ofName? (described : ofName? name = some query) :
    (query.shape = .single ↔ ∃ count, AsksFor name.toList count) ∧
    (∀ limit, query.limit = some limit ↔
      AsksFor name.toList limit ∧ limit < limitBound) ∧
    ((query.limit.isSome ↔ query.shape = .single) ↔
      ∀ count, AsksFor name.toList count → count < limitBound) ∧
    ∀ entity : Entity,
      let text := (query.statement entity.table entity.columns).text
      (∀ limit, query.limit = some limit →
        ∃ before, text = before ++ " LIMIT " ++ toString limit) ∧
      (query.limit = none → limitWord <:+: text.toList →
        limitWord <:+: entity.bareTable.toList) := by
  have shape_iff := shape_eq_single_iff described
  have limit_iff (limit : Nat) :
      query.limit = some limit ↔ AsksFor name.toList limit ∧ limit < limitBound :=
    limit_eq_some_iff described
  refine ⟨shape_iff, limit_iff, ?_, fun entity => ⟨fun limit limited => ?_, ?_⟩⟩
  · constructor
    · intro same count asks
      obtain ⟨limit, limited⟩ :=
        Option.isSome_iff_exists.mp (same.mpr (shape_iff.mpr ⟨count, asks⟩))
      obtain ⟨asks_limit, below⟩ := (limit_iff limit).mp limited
      rwa [asks.unique asks_limit]
    · intro bounded
      rw [Option.isSome_iff_exists, shape_iff]
      exact exists_congr fun count =>
        (limit_iff count).trans (and_iff_left_of_imp (bounded count))
  · have single := shape_iff.mpr ⟨limit, ((limit_iff limit).mp limited).1⟩
    exact exists_text_eq_limit single limited entity.table entity.columns
  · intro unlimited occurs
    rw [text_statement, Entity.table] at occurs
    rcases Sql.infix_of_infix_quotedName (by decide) occurs with before | inside | behind
    · exact absurd before (not_infix_limitWord_beginning (entity.notMem_columns (by decide)))
    · exact inside
    · exact absurd behind (not_infix_limitWord_rest described unlimited)

/-! ## Members of a role -/

/-- A record of members. -/
def members : Entity :=
  { name := "Member"
    fields :=
      [{ name := "ID", type := "i64", constraint := {} },
        { name := "Role", type := "String", constraint := {} }]
    tableOverride := none
    package := "" }

/-- A name that asks for ten members. -/
def tenName : String :=
  "Top10MembersByRole"

/-- A name that asks for as many members as the bound says. -/
def boundedName : String :=
  "Top18446744073709551616MembersByRole"

theorem asksFor_tenName : AsksFor tenName.toList 10 :=
  @AsksFor.top "10".toList "MembersByRole".toList (by decide) (List.all_eq_true.mp (by decide))
    (by decide)

theorem asksFor_boundedName : AsksFor boundedName.toList limitBound :=
  @AsksFor.top "18446744073709551616".toList "MembersByRole".toList (by decide)
    (List.all_eq_true.mp (by decide)) (by decide)

theorem map_text_ofName?_members :
    (ofName? tenName).isSome ∧
      (ofName? boundedName).map (fun query =>
        (query.statement members.table members.columns).text) =
        some "SELECT id, role FROM \"member\" WHERE role = $1" := by
  decide +kernel

/-- Ten members are asked for, and ten are taken. -/
theorem limited_of_ofName?_tenName :
    ∃ query, ofName? tenName = some query ∧ query.shape = .single ∧ query.limit = some 10 ∧
      ∃ before, (query.statement members.table members.columns).text = before ++ " LIMIT 10" := by
  obtain ⟨query, described⟩ := Option.isSome_iff_exists.mp map_text_ofName?_members.1
  obtain ⟨shape_iff, limit_iff, -, stated⟩ := limited_of_ofName? described
  have limited : query.limit = some 10 := (limit_iff 10).mpr ⟨asksFor_tenName, by decide⟩
  obtain ⟨before, text_eq⟩ := (stated members).1 10 limited
  refine ⟨query, described, shape_iff.mpr ⟨10, asksFor_tenName⟩, limited, before, ?_⟩
  rw [text_eq, String.append_assoc]
  rfl

/-- So many members are asked for that no limit is left, and all of them are taken. -/
theorem not_limited_boundedName :
    AsksFor boundedName.toList limitBound ∧
      ∃ query, ofName? boundedName = some query ∧ query.shape = .single ∧ query.limit = none ∧
        (query.statement members.table members.columns).text =
          "SELECT id, role FROM \"member\" WHERE role = $1" := by
  obtain ⟨query, described, text_eq⟩ := Option.map_eq_some_iff.mp map_text_ofName?_members.2
  refine ⟨asksFor_boundedName, query, described,
    (shape_eq_single_iff described).mpr ⟨limitBound, asksFor_boundedName⟩, ?_, text_eq⟩
  rw [Option.eq_none_iff_forall_ne_some]
  intro limit limited
  obtain ⟨asks, below⟩ := (limit_eq_some_iff described).mp limited
  exact absurd (asks.unique asksFor_boundedName) (Nat.ne_of_lt below)

end Query
end Tablewright
