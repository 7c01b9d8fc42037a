import Tablewright.Proofs.Contract.Lookup
import Tablewright.Proofs.Query.Conditionless
import Tablewright.Proofs.Repository.Emission

/-!
# Statements that pick rows

Lookups and removals are meant to pick rows by conditions.  Most of them do; two kinds of accepted
names describe a lookup or a removal without naming any condition, and their statements pick every
row of the table.
-/

namespace Tablewright.Repository

open Code (Identifier)
open Sql (Condition Statement)

/-! ## Filters -/

/-- A statement goes on with at least one condition. -/
def Filtered (start sql : String) : Prop :=
  ∃ conditions, conditions ≠ [] ∧ sql = start ++ " WHERE " ++ Condition.spelled conditions

/-- A beginning with conditions is longer than the beginning alone. -/
theorem Filtered.ne
    {start sql : String}
    (filtered : Filtered start sql) :
    sql ≠ start := by
  obtain ⟨conditions, -, rfl⟩ := filtered
  intro same
  have lengths := congrArg String.length same
  simp only [String.length_append] at lengths
  have keyword : " WHERE ".length = 7 := by decide
  omega

/-- A statement is filtered exactly if it has conditions. -/
theorem filtered_append_filter_iff
    {start : String}
    {conditions : List Condition} :
    Filtered start (start ++ Statement.filter conditions) ↔ conditions ≠ [] := by
  constructor
  · rintro filtered rfl
    apply filtered.ne
    simp [Statement.filter]
  · intro conditions_ne
    refine ⟨conditions, conditions_ne, ?_⟩
    simp [Statement.filter, conditions_ne, String.append_assoc]

/-- A statement ends where its conditions would begin exactly if it has none. -/
theorem append_filter_eq_iff
    {start : String}
    {conditions : List Condition} :
    start ++ Statement.filter conditions = start ↔ conditions = [] := by
  constructor
  · intro same
    by_contra conditions_ne
    exact (filtered_append_filter_iff.mpr conditions_ne).ne same
  · rintro rfl
    simp [Statement.filter]

theorem allEqual_eq_nil_iff
    (columns : List String)
    (first : Nat) :
    Condition.allEqual columns first = [] ↔ columns = [] := by
  simp [Condition.allEqual, Sql.slots, List.zipIdx_eq_nil_iff]

/-- A key has columns, declared or not. -/
theorem keyColumns_ne_nil (entity : Entity) : entity.keyColumns ≠ [] := by
  unfold Entity.keyColumns
  split
  · simp
  · next declared => simpa using declared

/-! ## Methods that pick rows -/

/-- The beginning of the statement of a method that is meant to pick rows. -/
def pickingStart?
    (entity : Entity)
    (method : Method) : Option String :=
  match method.plan with
  | .getById | .findBy => some (Sql.selection entity.columns entity.table)
  | .delete => some ("DELETE FROM " ++ entity.table)
  | .derived =>
    ((Query.ofName? method.name).filter (·.shape = .deletion)).map fun _ =>
      "DELETE FROM " ++ entity.table
  | _ => none

/-- The name of a method names no condition, although its statement is meant to pick rows. -/
def NamesNoCondition
    (entity : Entity)
    (method : Method) : Prop :=
  match method.plan with
  | .findBy => Convention.IsBareLookup entity method.name.toList
  | .derived => Query.IsBareDeletion method.name.toList
  | _ => False

/-- A selection without order and limit ends with its conditions. -/
theorem text_select_unordered
    (columns : List String)
    (table : String)
    (conditions : List Condition) :
    (Statement.select columns table conditions {}).text =
      Sql.selection columns table ++ Statement.filter conditions := by
  have window : Sql.Window.spelling {} = "" := by decide
  rw [Statement.text_select, window, String.append_empty]

/-- A query that a method name describes is the one that its convention holds. -/
theorem ofName?_of_named
    {entity : Entity}
    {name : String}
    {query : Query}
    (named : Convention.ofName? entity name = some (.query query)) :
    Query.ofName? name = some query := by
  unfold Convention.ofName? at named
  split at named
  · next convention fixed =>
    cases named
    unfold Convention.fixed? at fixed
    split_ifs at fixed <;> cases fixed
  · split at named
    · cases named
    · split at named
      · next found described =>
        cases named
        exact described
      · obtain ⟨_, -, no_query⟩ := Option.map_eq_some_iff.mp named
        cases no_query

/-- The statement of a method that is meant to pick rows is its beginning with the conditions, and
they are missing exactly if the name names none. -/
theorem exists_conditions_of_follows
    {entity : Entity}
    {method : Method}
    {convention : Convention}
    {start : String}
    (follows : method.Follows entity convention)
    (picks : pickingStart? entity method = some start) :
    ∃ conditions,
      (statementOf entity method.returnsEntity convention).text =
        start ++ Statement.filter conditions ∧
      (conditions = [] ↔ NamesNoCondition entity method) := by
  have plan_eq := follows.plan_eq
  have named := follows.named
  cases convention with
  | getById =>
    simp only [pickingStart?, plan_eq, Convention.plan, Option.some.injEq] at picks
    subst picks
    refine ⟨Condition.allEqual entity.keyColumns 1, text_select_unordered _ _ _, ?_⟩
    simp [NamesNoCondition, plan_eq, Convention.plan, allEqual_eq_nil_iff, keyColumns_ne_nil]
  | delete =>
    simp only [pickingStart?, plan_eq, Convention.plan, Option.some.injEq] at picks
    subst picks
    refine ⟨Condition.allEqual entity.keyColumns 1, rfl, ?_⟩
    simp [NamesNoCondition, plan_eq, Convention.plan, allEqual_eq_nil_iff, keyColumns_ne_nil]
  | findBy fields =>
    simp only [pickingStart?, plan_eq, Convention.plan, Option.some.injEq] at picks
    subst picks
    refine ⟨Condition.allEqual (fields.map Text.snakeCase) 1, text_select_unordered _ _ _, ?_⟩
    rw [allEqual_eq_nil_iff, List.map_eq_nil_iff, NamesNoCondition, plan_eq]
    exact Convention.fields_eq_nil_iff_isBareLookup named
  | query found =>
    have described := ofName?_of_named named
    simp only [pickingStart?, plan_eq, Convention.plan, described] at picks
    obtain ⟨query, filtered, rfl⟩ := Option.map_eq_some_iff.mp picks
    obtain ⟨same, deletion⟩ := Option.filter_eq_some_iff.mp filtered
    cases same
    have deletion : found.shape = .deletion := of_decide_eq_true deletion
    refine ⟨found.conditions.map (·.toCondition), ?_, ?_⟩
    · rw [statementOf, Query.statement, deletion]
      rfl
    · rw [List.map_eq_nil_iff, NamesNoCondition, plan_eq]
      exact Query.conditions_eq_nil_iff_isBareDeletion described deletion
  | create => simp [pickingStart?, plan_eq, Convention.plan] at picks
  | update => simp [pickingStart?, plan_eq, Convention.plan] at picks
  | list => simp [pickingStart?, plan_eq, Convention.plan] at picks

/-! ## Bare deletions -/

/-- The first letter of the text of a statement. -/
def initial : Statement → Char
  | .insert .. => 'I'
  | .update .. => 'U'
  | .delete .. => 'D'
  | .select .. | .count .. | .existence .. => 'S'

theorem head?_text (statement : Statement) :
    statement.text.toList.head? = some (initial statement) := by
  cases statement <;>
    simp [Statement.text_insert, Statement.text_update, Statement.text_delete,
      Statement.text_select, Statement.text_count, Statement.text_existence, Sql.selection,
      initial]

/-- Only a deletion has the text of one. -/
theorem eq_delete_of_text_eq
    {statement : Statement}
    {table : String}
    (text_eq : statement.text = "DELETE FROM " ++ table) :
    ∃ table conditions, statement = .delete table conditions := by
  have head := head?_text statement
  rw [text_eq] at head
  cases statement <;> simp [initial] at head ⊢

/-- Only methods that are meant to pick rows delete. -/
theorem pickingStart?_of_text_eq
    {entity : Entity}
    {method : Method}
    {convention : Convention}
    (follows : method.Follows entity convention)
    (text_eq : (statementOf entity method.returnsEntity convention).text =
      "DELETE FROM " ++ entity.table) :
    pickingStart? entity method = some ("DELETE FROM " ++ entity.table) := by
  obtain ⟨table, conditions, deletes⟩ := eq_delete_of_text_eq text_eq
  have plan_eq := follows.plan_eq
  unfold pickingStart?
  cases convention with
  | delete => rw [plan_eq, Convention.plan]
  | query found =>
    have deletion : found.shape = .deletion := by
      cases shape_eq : found.shape <;> simp [statementOf, Query.statement, shape_eq] at deletes
      rfl
    rw [plan_eq, ofName?_of_named follows.named]
    simp [Convention.plan, deletion]
  | _ => cases deletes

/-- A method of an accepted contract without a statement of its own has a function.  If it is meant
to pick rows, the statement of the function has conditions unless the name names none, and picks
every row if so; no other method has the statement that deletes every row. -/
theorem filtered_iff_namesCondition
    {entity : Entity}
    {decl : ContractDecl}
    {contract : Contract}
    {method : Method}
    {name : Identifier}
    {result : Option Function}
    (built : Contract.ofDecl entity decl = .ok contract)
    (member : method ∈ contract.methods)
    (no_statement : method.customSql = none)
    (made : implementation? entity name method = .ok result) :
    ∃ function, result = some function ∧
      (∀ start, pickingStart? entity method = some start →
        (Filtered start function.body.sql ↔ ¬ NamesNoCondition entity method) ∧
          (function.body.sql = start ↔ NamesNoCondition entity method)) ∧
      (function.body.sql = "DELETE FROM " ++ entity.table →
        pickingStart? entity method = some ("DELETE FROM " ++ entity.table)) := by
  obtain ⟨convention, follows⟩ := Contract.follows_of_mem built member no_statement
  obtain ⟨function, result_eq, implements⟩ := implements_of_follows follows made
  refine ⟨function, result_eq, ?_, ?_⟩
  · intro start picks
    obtain ⟨conditions, text_eq, missing_iff⟩ := exists_conditions_of_follows follows picks
    rw [implements.sql_eq, text_eq, filtered_append_filter_iff, append_filter_eq_iff]
    exact ⟨not_congr missing_iff, missing_iff⟩
  · rw [implements.sql_eq]
    exact pickingStart?_of_text_eq follows

/-! ## A deletion by an order -/

/-- Users with a key and a name. -/
def users : Entity :=
  { name := "User"
    fields :=
      [{ name := "ID", type := "i64", constraint := { isPrimary := true } },
        { name := "Name", type := "String", constraint := {} }]
    tableOverride := none
    package := "" }

/-- A repository of users with a deletion that names an order and no condition. -/
def userRepository : ContractDecl :=
  { name := "UserRepository", entity := "User", methods := [{ name := "DeleteUsersOrderByName" }] }

/-- The deletion as it is accepted. -/
def deletionByOrder : Method :=
  { name := "DeleteUsersOrderByName"
    plan := .derived
    params := []
    returnsSingle := false
    returnsEntity := false
    scalarReturn := none
    derivedSql := some "DELETE FROM \"user\"" }

/-- The repository as it is accepted. -/
def userContract : Contract :=
  { name := "UserRepository", entity := "User", methods := [deletionByOrder] }

theorem ofDecl_userRepository : Contract.ofDecl users userRepository = .ok userContract := by
  rfl

/-- The function of the deletion. -/
def deletionFunction : Function :=
  { name := ⟨"delete_users_order_by_name", by decide⟩
    params := []
    result := unitType
    body := { action := .execute, sql := "DELETE FROM \"user\"", bindings := [] } }

theorem implementation?_deletionByOrder :
    implementation? users ⟨"User", by decide⟩ deletionByOrder = .ok (some deletionFunction) := by
  rfl

/-- The accepted deletion by an order removes every row. -/
theorem deletionByOrder_deletesAll :
    Entity.ofDecl { name := "User", fields := [⟨"ID", "i64", "pk"⟩, ⟨"Name", "String", ""⟩] } =
        .ok users ∧
      Contract.ofDecl users userRepository = .ok userContract ∧
      deletionByOrder ∈ userContract.methods ∧ deletionByOrder.customSql = none ∧
      implementation? users ⟨"User", by decide⟩ deletionByOrder = .ok (some deletionFunction) ∧
      deletionFunction.body.sql = "DELETE FROM " ++ users.table := by
  refine ⟨by decide +kernel, ofDecl_userRepository, List.mem_singleton.mpr rfl, rfl,
    implementation?_deletionByOrder, by decide +kernel⟩

theorem filtered_iff_namesCondition_deletionByOrder :
    ∃ function, some deletionFunction = some function ∧
      (∀ start, pickingStart? users deletionByOrder = some start →
        (Filtered start function.body.sql ↔ ¬ NamesNoCondition users deletionByOrder) ∧
          (function.body.sql = start ↔ NamesNoCondition users deletionByOrder)) ∧
      (function.body.sql = "DELETE FROM " ++ users.table →
        pickingStart? users deletionByOrder = some ("DELETE FROM " ++ users.table)) :=
  filtered_iff_namesCondition ofDecl_userRepository (List.mem_singleton.mpr rfl) rfl
    implementation?_deletionByOrder

end Tablewright.Repository
