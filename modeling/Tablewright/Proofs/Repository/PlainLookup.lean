import Tablewright.Proofs.Query.Conjunction
import Tablewright.Proofs.Repository.Completeness

/-!
# Lookups and queries of the same conditions

A lookup by fields and a query with a subject and the same fields are read in different ways: the
lookup knows the columns and cuts its name at `And`, the query knows none and cuts at `And` and
`Or`, then splits operators.  For plain fields both come to the same statement.
-/

namespace Tablewright

open Code (Identifier)
open Query (IsPlainField IsPlainSubject conjunction nameOf)

/-! ## Names of letters and digits -/

namespace Text

/-- A name of letters and digits that begins with a capital is left alone. -/
theorem pascalCase_trimmed
    {name : String}
    {c : Char}
    {rest : List Char}
    (name_eq : name.toList = c :: rest)
    (capital : c.isUpper)
    (alphanum : ∀ d ∈ name.toList, d.isAlphanum) :
    pascalCase (trimmed name) = name := by
  have alnum : Alnum name.toList := fun d member => by simp [isAlnum, alphanum d member]
  have no_underscore : '_' ∉ name.toList := fun member => absurd (alphanum '_' member) (by decide)
  have pascal : isPascal name.toList := by
    rw [name_eq] at no_underscore ⊢
    rw [isPascal, Query.isUpperChar_of_isUpper capital, Bool.true_and, Bool.not_eq_true',
      List.contains_eq_mem, decide_eq_false_iff_not]
    exact no_underscore
  rw [alnum.trimmed_eq, ← String.toList_inj, toList_pascalCase, pascalChars, if_pos pascal]

end Text

/-! ## What the names ask for -/

namespace Convention

variable {entity : Entity} {name : String} {fields : List (List Char)} {subject : List Char}

/-- The known columns of a conjunction of columns are its fields. -/
theorem knownFields?_conjunction
    (fields_ne : fields ≠ [])
    (fields_plain : ∀ field ∈ fields, IsPlainField field)
    (known : ∀ field ∈ fields, Text.snakeCase (String.ofList field) ∈ entity.columns)
    (apart : 2 ≤ fields.length →
      Text.snakeCase (String.ofList (conjunction fields)) ∉ entity.columns) :
    knownFields? entity (conjunction fields) = some (fields.map String.ofList) := by
  unfold knownFields?
  dsimp only
  rw [Query.listedFields_conjunction fields_ne fields_plain]
  match fields with
  | [] => exact absurd rfl fields_ne
  | [field] =>
    have column : entity.columns.contains (Text.snakeCase (String.ofList field)) := by
      rw [List.contains_iff_mem]
      exact known field List.mem_cons_self
    have single : conjunction [field] = field := List.intercalate_singleton
    rw [single, if_pos column]
    rfl
  | field :: next :: fields =>
    have no_column : ¬ entity.columns.contains
        (Text.snakeCase (String.ofList (conjunction (field :: next :: fields)))) := by
      rw [List.contains_iff_mem]
      exact apart (Nat.le_add_left 2 fields.length)
    have columns : ((field :: next :: fields).map String.ofList).all fun name =>
        entity.columns.contains (Text.snakeCase name) := by
      rw [List.all_map, List.all_eq_true]
      intro field member
      exact List.contains_iff_mem.mpr (known field member)
    rw [if_neg no_column, columns]
    rfl

/-- A lookup by known columns has the columns that it lists. -/
theorem ofName?_lookup
    (fields_ne : fields ≠ [])
    (fields_plain : ∀ field ∈ fields, IsPlainField field)
    (known : ∀ field ∈ fields, Text.snakeCase (String.ofList field) ∈ entity.columns)
    (apart : 2 ≤ fields.length →
      Text.snakeCase (String.ofList (conjunction fields)) ∉ entity.columns)
    (name_eq : name.toList = "FindBy".toList ++ conjunction fields) :
    ofName? entity name = some (.findBy (fields.map String.ofList)) := by
  have looked : lookup? name = some (conjunction fields) := lookup?_eq_some_iff.mpr name_eq
  rw [ofName?, fixed?_eq_none_of_head name_eq, looked, Option.bind_some,
    knownFields?_conjunction fields_ne fields_plain known apart]

/-- The subject of a query keeps it from being a lookup. -/
theorem lookup?_eq_none
    {rest : List Char}
    (subject_plain : IsPlainSubject subject)
    (name_eq : name.toList = nameOf .find subject rest) :
    lookup? name = none := by
  rw [Option.eq_none_iff_forall_ne_some]
  intro cs looked
  have same : "Find".toList ++ (Query.byWord ++ cs) =
      "Find".toList ++ (subject ++ (Query.byWord ++ rest)) := by
    have begins := (lookup?_eq_some_iff.mp looked).symm.trans name_eq
    rwa [nameOf, List.append_assoc] at begins
  have same := List.append_cancel_left same
  rw [Query.byWord_eq] at same
  -- The subject would begin with `By`, or be a `B` before another.
  obtain _ | ⟨c, _ | ⟨d, more⟩⟩ := subject
  · exact subject_plain.ne rfl
  · simp at same
  · simp only [List.cons_append, List.cons.injEq] at same
    obtain ⟨rfl, rfl, -⟩ := same
    have starts : Query.byWord <+: 'B' :: 'y' :: more := by
      rw [Query.byWord_eq]
      exact ⟨more, rfl⟩
    exact subject_plain.no_by starts.isInfix

/-- A query by a conjunction is no lookup. -/
theorem ofName?_query
    (subject_plain : IsPlainSubject subject)
    (fields_ne : fields ≠ [])
    (fields_plain : ∀ field ∈ fields, IsPlainField field)
    (name_eq : name.toList = nameOf .find subject (conjunction fields)) :
    ofName? entity name = some (.query (Query.ofConjunction name fields)) := by
  have not_fixed : fixed? name = none := fixed?_eq_none_of_head name_eq
  rw [ofName?, not_fixed, lookup?_eq_none subject_plain name_eq, Option.bind_none,
    Query.ofName?_conjunction subject_plain fields_ne fields_plain name_eq]

end Convention

/-! ## Accepted methods -/

theorem isAlphanum_of_mem_conjunction
    {fields : List (List Char)}
    (alphanum : ∀ field ∈ fields, ∀ c ∈ field, c.isAlphanum) :
    ∀ c ∈ conjunction fields, c.isAlphanum := by
  induction fields with
  | nil => exact nofun
  | cons field fields ih =>
    obtain ⟨here, later⟩ := List.forall_mem_cons.mp alphanum
    cases fields with
    | nil =>
      rw [conjunction, List.intercalate_singleton]
      exact here
    | cons next fields =>
      have connects : ∀ c ∈ Query.connectorSpelling .and, c.isAlphanum :=
        List.all_eq_true.mp (by decide)
      rw [Query.conjunction_cons_cons, List.forall_mem_append, List.forall_mem_append]
      exact ⟨here, connects, ih later⟩

namespace Method

variable {entity : Entity} {decl : MethodDecl} {method : Method} {fields : List (List Char)}

/-- An accepted method without an attached statement follows the convention of its name, and keeps a
name of letters and digits that begins with a capital. -/
theorem exists_follows
    {c : Char}
    {rest : List Char}
    (unattached : attached? decl = none)
    (built : ofDecl entity decl = .ok method)
    (name_eq : decl.name.toList = c :: rest)
    (capital : c.isUpper)
    (alphanum : ∀ d ∈ c :: rest, d.isAlphanum) :
    ∃ convention, Convention.ofName? entity decl.name = some convention ∧
      method.Follows entity convention := by
  have kept : method.name = decl.name := by
    rw [(of_ofDecl built).1, Text.pascalCase_trimmed name_eq capital (name_eq ▸ alphanum)]
  obtain ⟨convention, follows⟩ := exists_follows_of_unattached unattached built
  exact ⟨convention, kept ▸ follows.named, follows⟩

/-- An accepted name that looks rows up by columns leads to the lookup. -/
theorem follows_lookup
    (fields_ne : fields ≠ [])
    (alphanum : ∀ field ∈ fields, ∀ c ∈ field, c.isAlphanum)
    (fields_plain : ∀ field ∈ fields, IsPlainField field)
    (known : ∀ field ∈ fields, Text.snakeCase (String.ofList field) ∈ entity.columns)
    (apart : 2 ≤ fields.length →
      Text.snakeCase (String.ofList (conjunction fields)) ∉ entity.columns)
    (name_eq : decl.name = "FindBy" ++ String.ofList (conjunction fields))
    (unattached : attached? decl = none)
    (built : ofDecl entity decl = .ok method) :
    method.Follows entity (.findBy (fields.map String.ofList)) := by
  have chars : decl.name.toList = "FindBy".toList ++ conjunction fields := by
    rw [name_eq, String.toList_append]
    exact congrArg ("FindBy".toList ++ ·) String.toList_ofList
  have name_alphanum : ∀ c ∈ "FindBy".toList ++ conjunction fields, c.isAlphanum :=
    List.forall_mem_append.mpr
      ⟨List.all_eq_true.mp (by decide), isAlphanum_of_mem_conjunction alphanum⟩
  obtain ⟨convention, named, follows⟩ :=
    exists_follows unattached built chars (by decide) name_alphanum
  rw [Convention.ofName?_lookup fields_ne fields_plain known apart chars] at named
  exact Option.some.inj named ▸ follows

/-- An accepted name that finds a plain subject by fields leads to the query. -/
theorem follows_query
    {subject : List Char}
    (fields_ne : fields ≠ [])
    (alphanum : ∀ field ∈ fields, ∀ c ∈ field, c.isAlphanum)
    (fields_plain : ∀ field ∈ fields, IsPlainField field)
    (subject_alphanum : ∀ c ∈ subject, c.isAlphanum)
    (subject_plain : IsPlainSubject subject)
    (name_eq : decl.name =
      "Find" ++ String.ofList subject ++ "By" ++ String.ofList (conjunction fields))
    (unattached : attached? decl = none)
    (built : ofDecl entity decl = .ok method) :
    method.Follows entity (.query (Query.ofConjunction decl.name fields)) := by
  have chars : decl.name.toList = nameOf .find subject (conjunction fields) := by
    rw [name_eq]
    simp only [String.toList_append, String.toList_ofList, nameOf, List.append_assoc]
    rfl
  have name_alphanum : ∀ c ∈ nameOf .find subject (conjunction fields), c.isAlphanum := by
    simp only [nameOf, List.forall_mem_append]
    exact ⟨⟨List.all_eq_true.mp (by decide), subject_alphanum⟩, List.all_eq_true.mp (by decide),
      isAlphanum_of_mem_conjunction alphanum⟩
  obtain ⟨convention, named, follows⟩ :=
    exists_follows unattached built chars (by decide) name_alphanum
  rw [Convention.ofName?_query subject_plain fields_ne fields_plain chars] at named
  exact Option.some.inj named ▸ follows

end Method

namespace Repository

/-- The statement of a query by a conjunction of columns is that of the lookup by its fields. -/
theorem text_statement_conjunction
    {entity : Entity}
    {fields : List (List Char)}
    (fields_plain : ∀ field ∈ fields, IsPlainField field)
    (columns_ne : entity.columns ≠ [])
    (name : String) :
    ((Query.ofConjunction name fields).statement entity.table entity.columns).text =
      (search entity (fields.map String.ofList)).text := by
  have columns_eq : (if entity.columns.isEmpty then ["*"] else entity.columns) = entity.columns :=
    if_neg (by simpa using columns_ne)
  simp only [Query.statement, Query.ofConjunction, columns_eq]
  rw [text_select_unordered, Query.filter_numbered_conjuncts fields_plain, search,
    text_select_unordered]

/-- A lookup by columns and a query of any subject by the same fields come to the same statement. -/
theorem sql_lookup_eq_sql_query
    {entity : Entity}
    {fields : List (List Char)}
    {subject : List Char}
    {plainDecl derivedDecl : MethodDecl}
    {plain derived : Method}
    {name : Identifier}
    {result : Option Function}
    (fields_ne : fields ≠ [])
    (fields_alphanum : ∀ field ∈ fields, ∀ c ∈ field, c.isAlphanum)
    (fields_plain : ∀ field ∈ fields, IsPlainField field)
    (known : ∀ field ∈ fields, Text.snakeCase (String.ofList field) ∈ entity.columns)
    (apart : 2 ≤ fields.length →
      Text.snakeCase (String.ofList (conjunction fields)) ∉ entity.columns)
    (subject_alphanum : ∀ c ∈ subject, c.isAlphanum)
    (subject_plain : IsPlainSubject subject)
    (plain_name : plainDecl.name = "FindBy" ++ String.ofList (conjunction fields))
    (derived_name : derivedDecl.name =
      "Find" ++ String.ofList subject ++ "By" ++ String.ofList (conjunction fields))
    (plain_unattached : Method.attached? plainDecl = none)
    (derived_unattached : Method.attached? derivedDecl = none)
    (plain_built : Method.ofDecl entity plainDecl = .ok plain)
    (derived_built : Method.ofDecl entity derivedDecl = .ok derived)
    (made : implementation? entity name plain = .ok result) :
    plain.plan = .findBy ∧ plain.findByFields = fields.map String.ofList ∧
      plain.params.length = fields.length ∧
      derived.plan = .derived ∧ derived.params.length = fields.length ∧
      ∃ function, result = some function ∧ derived.derivedSql = some function.body.sql := by
  have columns_ne : entity.columns ≠ [] := by
    obtain ⟨field, others, rfl⟩ := List.exists_cons_of_ne_nil fields_ne
    exact List.ne_nil_of_mem (known field List.mem_cons_self)
  have looks_up := Method.follows_lookup fields_ne fields_alphanum fields_plain known apart
    plain_name plain_unattached plain_built
  have asks := Method.follows_query fields_ne fields_alphanum fields_plain subject_alphanum
    subject_plain derived_name derived_unattached derived_built
  obtain ⟨function, result_eq, implements⟩ := implements_of_follows looks_up made
  refine ⟨looks_up.plan_eq, looks_up.fields_eq, ?_, asks.plan_eq, ?_, function, result_eq, ?_⟩
  · rw [length_params_of_follows looks_up rfl]
    exact List.length_map _
  · rw [length_params_of_follows asks rfl]
    exact Query.countP_numbered_conjuncts fields_plain 1
  · rw [asks.derivedSql_eq, implements.sql_eq]
    refine congrArg some ?_
    exact text_statement_conjunction fields_plain columns_ne derivedDecl.name

/-! ## Members by address and state -/

/-- Members with an address and a state. -/
def members : Entity :=
  { name := "Member"
    fields :=
      [{ name := "ID", type := "i64", constraint := { isPrimary := true } },
        { name := "Email", type := "String", constraint := {} },
        { name := "Active", type := "bool", constraint := {} }]
    tableOverride := none
    package := "" }

/-- The declared parameters of a method that finds members. -/
def memberParamDecls : List ParamDecl :=
  [{ name := "email", type := "String" }, { name := "active", type := "bool" }]

/-- The parameters as they are accepted. -/
def memberParams : List Param :=
  [{ name := "email", type := stringType },
    { name := "active"
      type := { text := "bool", code := [.word "bool"], shape := .named "bool" } }]

/-- The statement that finds members. -/
def memberSelection : String :=
  "SELECT id, email, active FROM \"member\" WHERE email = $1 AND active = $2"

/-- A lookup of members. -/
def memberLookup : Method :=
  { name := "FindByEmailAndActive"
    plan := .findBy
    params := memberParams
    returnsSingle := false
    returnsEntity := true
    scalarReturn := none
    findByFields := ["Email", "Active"] }

theorem ofDecl_memberLookup :
    Method.ofDecl members { name := "FindByEmailAndActive", params := memberParamDecls } =
      .ok memberLookup := by
  rfl

/-- A query for members, its subject the word that would begin an order elsewhere. -/
def memberQuery : Method :=
  { memberLookup with
    name := "FindOrderByEmailAndActive"
    plan := .derived
    findByFields := []
    derivedSql := some memberSelection }

theorem ofDecl_memberQuery :
    Method.ofDecl members { name := "FindOrderByEmailAndActive", params := memberParamDecls } =
      .ok memberQuery := by
  rfl

/-- The function of the lookup. -/
def memberFunction : Function :=
  { name := ⟨"find_by_email_and_active", by decide⟩
    params := [(⟨"email", by decide⟩, [.word "String"]), (⟨"active", by decide⟩, [.word "bool"])]
    result := entityType ⟨"Member", by decide⟩ false
    body :=
      { action := .fetchMany ⟨"Member", by decide⟩
        sql := memberSelection
        bindings := [.param ⟨"email", by decide⟩, .param ⟨"active", by decide⟩] } }

theorem implementation?_memberLookup :
    implementation? members ⟨"Member", by decide⟩ memberLookup = .ok (some memberFunction) := by
  rfl

theorem isAlphanum_of_mem_members :
    ∀ field ∈ ["Email".toList, "Active".toList], ∀ c ∈ field, c.isAlphanum := by
  have fields : ["Email".toList, "Active".toList].all (·.all Char.isAlphanum) := by decide
  exact fun field member => List.all_eq_true.mp (List.all_eq_true.mp fields field member)

theorem isPlainField_of_mem_members :
    ∀ field ∈ ["Email".toList, "Active".toList], IsPlainField field := by
  have email : IsPlainField "Email".toList :=
    ⟨by decide, by rintro (_ | _) <;> decide, by decide⟩
  have active : IsPlainField "Active".toList :=
    ⟨by decide, by rintro (_ | _) <;> decide, by decide⟩
  exact List.forall_mem_cons.mpr ⟨email, List.forall_mem_singleton.mpr active⟩

theorem isPlainSubject_order : IsPlainSubject "Order".toList :=
  ⟨by decide, by decide, .inl rfl⟩

/-- Lookup and query select the members with the address and the state. -/
theorem sql_lookup_eq_sql_query_members :
    memberLookup.plan = .findBy ∧ memberLookup.findByFields = ["Email", "Active"] ∧
      memberQuery.plan = .derived ∧
      memberQuery.derivedSql = some memberFunction.body.sql := by
  have subject_alphanum : ∀ c ∈ "Order".toList, c.isAlphanum := List.all_eq_true.mp (by decide)
  obtain ⟨plan_eq, fields_eq, -, derived_plan, -, function, same, derived_eq⟩ :=
    sql_lookup_eq_sql_query (List.cons_ne_nil _ _) isAlphanum_of_mem_members
      isPlainField_of_mem_members (by decide +kernel) (by decide +kernel) subject_alphanum
      isPlainSubject_order (by decide) (by decide) rfl rfl ofDecl_memberLookup ofDecl_memberQuery
      implementation?_memberLookup
  cases same
  exact ⟨plan_eq, fields_eq, derived_plan, derived_eq⟩

end Repository
end Tablewright
