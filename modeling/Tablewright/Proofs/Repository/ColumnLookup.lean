import Tablewright.Proofs.Contract.Lookup
import Tablewright.Proofs.Repository.Completeness
import Tablewright.Proofs.Repository.Selection
import Tablewright.Proofs.Text.RoundTrip

/-!
# Lookups by one column

A method `find_by_<column>` is read in Pascal case, and the column that it looks rows up by is the
snake case of what follows `FindBy` there.  This is the column that was meant unless words of it run
together.
-/

namespace Tablewright

open Code (Identifier)
open Text (Alnum IsSnakeWord RunsOn pascalText)

variable {entity : Entity} {field : Field} {parts : List (List Char)}

/-- A stored column is made of small letters and digits with single underscores between them, and
the name of its field is one of ASCII, perhaps a raw one. -/
structure Entity.IsPlainColumn
    (entity : Entity)
    (field : Field)
    (parts : List (List Char)) : Prop where
  /-- The field is stored. -/
  stored : field ∈ entity.stored
  /-- Its name is made of letters, digits and underscores of ASCII. -/
  identifier : Alnum (Text.dropRawMarks field.name.toList)
  /-- The column has parts. -/
  ne_nil : parts ≠ []
  /-- The parts are made of small letters and digits. -/
  small : ∀ part ∈ parts, part ≠ [] ∧ ∀ c ∈ part, c.isLower ∨ c.isDigit
  /-- The column is made of them. -/
  column_eq : field.column.toList = ['_'].intercalate parts

namespace Entity.IsPlainColumn

theorem bare (plain : entity.IsPlainColumn field parts) :
    ∀ part ∈ parts, part ≠ [] ∧ '_' ∉ part := fun part found =>
  (plain.small part found).imp_right Text.notMem_underscore_of_small

/-- The parts of a column are the words of a name in snake case. -/
theorem isSnakeWord (plain : entity.IsPlainColumn field parts) :
    ∀ part ∈ parts, IsSnakeWord part := by
  have same : Text.snakeChars field.name.toList = ['_'].intercalate parts := by
    rw [← Text.toList_snakeCase, ← plain.column_eq, Field.column]
  exact Text.isSnakeWord_of_snakeChars_eq plain.identifier plain.ne_nil plain.bare same

/-- A lookup by the column is read as `FindBy` and the parts of the column with capitals. -/
theorem toList_pascalCase (plain : entity.IsPlainColumn field parts) :
    (Text.pascalCase (Text.trimmed ("find_by_" ++ field.column))).toList =
      "FindBy".toList ++ pascalText parts := by
  have name_eq : ("find_by_" ++ field.column).toList =
      ['_'].intercalate ("find".toList :: "by".toList :: parts) := by
    obtain ⟨part, others, rfl⟩ := List.exists_cons_of_ne_nil plain.ne_nil
    rw [String.toList_append, plain.column_eq]
    rfl
  have find_spelled : IsSnakeWord "find".toList :=
    ⟨by decide, .inl (List.all_eq_true.mp (by decide))⟩
  have by_spelled : IsSnakeWord "by".toList :=
    ⟨by decide, .inl (List.all_eq_true.mp (by decide))⟩
  have spelled : ∀ part ∈ "find".toList :: "by".toList :: parts, IsSnakeWord part :=
    List.forall_mem_cons.mpr ⟨find_spelled, List.forall_mem_cons.mpr
      ⟨by_spelled, plain.isSnakeWord⟩⟩
  have alnum : Alnum ("find_by_" ++ field.column).toList := by
    rw [name_eq]
    exact Text.alnum_intercalate fun part found => (spelled part found).alnum
  rw [alnum.trimmed_eq, Text.toList_pascalCase, name_eq,
    Text.pascalChars_intercalate (List.cons_ne_nil _ _) spelled]
  rfl

/-- The text after `FindBy` has the column for its snake case exactly if no parts run together. -/
theorem snakeCase_eq_iff (plain : entity.IsPlainColumn field parts) :
    Text.snakeCase (String.ofList (pascalText parts)) = field.column ↔
      parts.IsChain fun v w => ¬ RunsOn v w := by
  rw [← String.toList_inj, Text.toList_snakeCase, String.toList_ofList, plain.column_eq,
    Text.snakeChars_pascalText_eq_iff plain.ne_nil plain.isSnakeWord]

/-- What the column is the snake case of is no shorter than the text after `FindBy`. -/
theorem length_pascalText_le
    (plain : entity.IsPlainColumn field parts)
    {name : String}
    (alnum : Alnum name.toList)
    (same : Text.snakeCase name = field.column) :
    (pascalText parts).length ≤ name.toList.length := by
  rw [← String.toList_inj, Text.toList_snakeCase, plain.column_eq] at same
  rw [Text.length_pascalText plain.isSnakeWord]
  exact Text.length_flatten_le_of_snakeChars_eq alnum plain.ne_nil plain.bare same

end Entity.IsPlainColumn

/-! ## What the name asks for -/

namespace Convention

variable {name : String}

/-- The name is read as a lookup by the column if no parts of it run together. -/
theorem ofName?_of_isChain
    (plain : entity.IsPlainColumn field parts)
    (name_eq : name.toList = "FindBy".toList ++ pascalText parts)
    (apart : parts.IsChain fun v w => ¬ RunsOn v w) :
    ofName? entity name = some (.findBy [String.ofList (pascalText parts)]) := by
  have column : entity.columns.contains (Text.snakeCase (String.ofList (pascalText parts))) := by
    rw [List.contains_iff_mem, plain.snakeCase_eq_iff.mpr apart]
    exact List.mem_map_of_mem plain.stored
  have known : knownFields? entity (pascalText parts) =
      some [String.ofList (pascalText parts)] := by
    rw [knownFields?]
    exact if_pos column
  rw [ofName?, fixed?_eq_none_of_head name_eq, lookup?_eq_some_iff.mpr name_eq, Option.bind_some,
    known]

/-- Only lookups lead to a plan with fields. -/
theorem eq_findBy_of_plan_eq
    {convention : Convention}
    (plan_eq : convention.plan = .findBy) :
    convention = .findBy convention.fields := by
  cases convention with
  | findBy listed => rfl
  | _ => cases plan_eq

/-- A lookup by one column is by the column that was meant only if no parts of it run together. -/
theorem isChain_of_ofName?
    {found : String}
    (plain : entity.IsPlainColumn field parts)
    (name_eq : name.toList = "FindBy".toList ++ pascalText parts)
    (named : ofName? entity name = some (.findBy [found]))
    (same : Text.snakeCase found = field.column) :
    parts.IsChain fun v w => ¬ RunsOn v w := by
  have name_alnum : Alnum name.toList := by
    rw [name_eq]
    exact Alnum.append (by decide)
      (.pascalText fun part inner => (plain.isSnakeWord part inner).alnum)
  have member : found ∈ [found] := List.mem_singleton_self found
  have found_alnum : Alnum found.toList :=
    name_alnum.of_subset (subset_of_mem_fields named member)
  -- The column has as many letters and digits as the text after `FindBy`, so no part of that will
  -- do.
  have whole : found = String.ofList (pascalText parts) :=
    eq_of_mem_fields named name_eq member (plain.length_pascalText_le found_alnum same)
  rw [whole] at same
  exact plain.snakeCase_eq_iff.mp same

end Convention

/-! ## What is selected -/

namespace Repository

/-- The statement that selects the rows with a value in a column. -/
def selectionBy
    (entity : Entity)
    (column : String) : String :=
  "SELECT " ++ Sql.commas entity.columns ++ " FROM " ++ entity.table ++ " WHERE " ++ column ++
    " = $1"

theorem text_search_singleton
    (entity : Entity)
    (name : String) :
    (search entity [name]).text = selectionBy entity (Text.snakeCase name) := by
  have filter_eq : Sql.Statement.filter (Sql.Condition.allEqual [Text.snakeCase name] 1) =
      " WHERE " ++ (Text.snakeCase name ++ " " ++ "=" ++ " " ++ Sql.placeholder 1) :=
    rfl
  have compared : " " ++ ("=" ++ (" " ++ Sql.placeholder 1)) = " = $1" := by decide
  rw [search, text_select_unordered, List.map_singleton, filter_eq, String.append_assoc,
    String.append_assoc, String.append_assoc, compared, ← String.append_assoc,
    ← String.append_assoc]
  rfl

theorem selectionBy_inj
    {column other : String} :
    selectionBy entity column = selectionBy entity other ↔ column = other := by
  rw [selectionBy, selectionBy, String.append_left_inj, String.append_right_inj]

/-- An accepted method `find_by_<column>` is a lookup that compares just this column exactly if no
two neighbouring parts of the column are numbers, and no two are single letters. -/
theorem looksUp_iff_of_ofDecl
    {decl : MethodDecl}
    {method : Method}
    {name : Identifier}
    {result : Option Function}
    (plain : entity.IsPlainColumn field parts)
    (name_eq : decl.name = "find_by_" ++ field.column)
    (single : decl.params.length = 1)
    (unattached : Method.attached? decl = none)
    (built : Method.ofDecl entity decl = .ok method)
    (made : implementation? entity name method = .ok result) :
    ∃ function, result = some function ∧
      (method.plan = .findBy ∧
          function.body.sql = selectionBy entity field.column ↔
        parts.IsChain fun v w => ¬ RunsOn v w) := by
  have method_named : method.name.toList = "FindBy".toList ++ pascalText parts := by
    rw [(Method.of_ofDecl built).1, name_eq, plain.toList_pascalCase]
  have params_length : method.params.length = 1 := by
    rw [← single, (mapM_eq_ok_iff.mp (Method.of_ofDecl built).2.2).length_eq]
  obtain ⟨convention, follows⟩ := Method.exists_follows_of_unattached unattached built
  obtain ⟨function, result_eq, implements⟩ := implements_of_follows follows made
  refine ⟨function, result_eq, ?_, fun apart => ?_⟩
  · rintro ⟨plan_eq, sql_eq⟩
    have looks_up := Convention.eq_findBy_of_plan_eq (follows.plan_eq.symm.trans plan_eq)
    generalize convention.fields = fields at looks_up
    subst looks_up
    obtain ⟨found, rfl⟩ : ∃ found, fields = [found] := by
      rw [length_params_of_follows follows rfl] at params_length
      exact List.length_eq_one_iff.mp params_length
    rw [implements.sql_eq, statementOf, text_search_singleton, selectionBy_inj] at sql_eq
    exact Convention.isChain_of_ofName? plain method_named follows.named sql_eq
  · have named := Convention.ofName?_of_isChain plain method_named apart
    obtain rfl := Option.some.inj (follows.named.symm.trans named)
    refine ⟨follows.plan_eq, ?_⟩
    rw [implements.sql_eq, statementOf, text_search_singleton, plain.snakeCase_eq_iff.mpr apart]

/-! ## Places -/

/-- A field whose name has `And` inside. -/
def townField : Field :=
  { name := "TownAndStreet", type := "String", constraint := {} }

/-- A field whose name is two letters. -/
def letterField : Field :=
  { name := "x_y", type := "String", constraint := {} }

/-- Places with these fields. -/
def places : Entity :=
  { name := "Place"
    fields :=
      [{ name := "ID", type := "i64", constraint := { isPrimary := true } }, townField, letterField]
    tableOverride := none
    package := "" }

/-- The lookup by town and street as it is declared. -/
def townLookupDecl : MethodDecl :=
  { name := "find_by_town_and_street", params := [{ name := "value", type := "String" }] }

/-- The lookup by the two letters as it is declared. -/
def letterLookupDecl : MethodDecl :=
  { townLookupDecl with name := "find_by_x_y" }

/-- The lookup by town and street as it is accepted. -/
def townLookup : Method :=
  { name := "FindByTownAndStreet"
    plan := .findBy
    params := [{ name := "value", type := stringType }]
    returnsSingle := false
    returnsEntity := true
    scalarReturn := none
    findByFields := ["TownAndStreet"] }

/-- The lookup by the two letters as it is accepted. -/
def letterLookup : Method :=
  { townLookup with name := "FindByXY", findByFields := ["XY"] }

/-- The function of the lookup by town and street. -/
def townFunction : Function :=
  { name := ⟨"find_by_town_and_street", by decide⟩
    params := [(⟨"value", by decide⟩, [.word "String"])]
    result := entityType ⟨"Place", by decide⟩ false
    body :=
      { action := .fetchMany ⟨"Place", by decide⟩
        sql := "SELECT id, town_and_street, x_y FROM \"place\" WHERE town_and_street = $1"
        bindings := [.param ⟨"value", by decide⟩] } }

/-- The function of the lookup by the two letters. -/
def letterFunction : Function :=
  { townFunction with
    name := ⟨"find_by_xy", by decide⟩
    body :=
      { townFunction.body with
        sql := "SELECT id, town_and_street, x_y FROM \"place\" WHERE xy = $1" } }

theorem ofDecl_townLookup : Method.ofDecl places townLookupDecl = .ok townLookup := by
  rfl

theorem ofDecl_letterLookup : Method.ofDecl places letterLookupDecl = .ok letterLookup := by
  rfl

theorem implementation?_townLookup :
    implementation? places ⟨"Place", by decide⟩ townLookup = .ok (some townFunction) := by
  rfl

theorem implementation?_letterLookup :
    implementation? places ⟨"Place", by decide⟩ letterLookup = .ok (some letterFunction) := by
  rfl

theorem column_townField : townField.column = "town_and_street" := by
  decide +kernel

theorem column_letterField : letterField.column = "x_y" := by
  decide +kernel

theorem small_of_all
    (all : parts.all fun part => !part.isEmpty && part.all fun c => c.isLower || c.isDigit) :
    ∀ part ∈ parts, part ≠ [] ∧ ∀ c ∈ part, c.isLower ∨ c.isDigit := by
  simpa using all

theorem isPlainColumn_townField :
    places.IsPlainColumn townField ["town".toList, "and".toList, "street".toList] where
  stored := by decide +kernel
  identifier := by decide
  ne_nil := List.cons_ne_nil _ _
  small := small_of_all (by decide)
  column_eq := by
    rw [column_townField]
    decide

theorem isPlainColumn_letterField :
    places.IsPlainColumn letterField ["x".toList, "y".toList] where
  stored := by decide +kernel
  identifier := by decide
  ne_nil := List.cons_ne_nil _ _
  small := small_of_all (by decide)
  column_eq := by
    rw [column_letterField]
    decide

/-- The column with `and` inside is looked up, the one of two letters is not. -/
theorem looksUp_iff_of_ofDecl_places :
    (townLookup.plan = .findBy ∧
        townFunction.body.sql = selectionBy places "town_and_street") ∧
      ¬ (letterLookup.plan = .findBy ∧
        letterFunction.body.sql = selectionBy places "x_y") := by
  have town_named : townLookupDecl.name = "find_by_" ++ townField.column := by
    rw [column_townField]
    decide
  have letter_named : letterLookupDecl.name = "find_by_" ++ letterField.column := by
    rw [column_letterField]
    decide
  obtain ⟨_, ⟨⟩, town_iff⟩ := looksUp_iff_of_ofDecl isPlainColumn_townField town_named rfl rfl
    ofDecl_townLookup implementation?_townLookup
  obtain ⟨_, ⟨⟩, letter_iff⟩ := looksUp_iff_of_ofDecl isPlainColumn_letterField letter_named rfl rfl
    ofDecl_letterLookup implementation?_letterLookup
  rw [column_townField] at town_iff
  rw [column_letterField] at letter_iff
  exact ⟨town_iff.mpr (by decide), mt letter_iff.mp (by decide)⟩

/-- The lookup by the two letters is accepted, and compares a column that there is not. -/
theorem letterLookup_comparesOther :
    Entity.ofDecl
        { name := "Place"
          fields :=
            [⟨"ID", "i64", "pk"⟩, ⟨"TownAndStreet", "String", ""⟩, ⟨"x_y", "String", ""⟩] } =
        .ok places ∧
      Method.ofDecl places letterLookupDecl = .ok letterLookup ∧
      letterLookup.plan = .findBy ∧ letterLookup.findByFields = ["XY"] ∧
      implementation? places ⟨"Place", by decide⟩ letterLookup = .ok (some letterFunction) ∧
      letterFunction.body.sql ≠ selectionBy places "x_y" ∧
      letterFunction.body.sql = selectionBy places "xy" ∧ "xy" ∉ places.columns :=
  ⟨rfl, ofDecl_letterLookup, rfl, rfl, implementation?_letterLookup, by decide +kernel,
    by decide +kernel, by decide +kernel⟩

end Repository

end Tablewright
