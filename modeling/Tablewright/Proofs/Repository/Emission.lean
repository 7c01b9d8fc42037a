import Tablewright.Proofs.Contract.Acceptance
import Tablewright.Repository.Function

/-!
# Emitted functions

A method that follows a convention has a function unless a name cannot be spelled.  The function
runs the statement of the convention, and binds the parameters or fields of the first one.
-/

namespace Tablewright.Repository

open Code (Identifier Unspellable)

/-- The statement that a convention leads to. -/
def statementOf
    (entity : Entity)
    (isReturned : Bool) : Convention → Sql.Statement
  | .create => insertion entity isReturned
  | .getById => lookup entity
  | .update => change entity isReturned
  | .delete => removal entity
  | .list => listing entity
  | .findBy fields => search entity fields
  | .query found => found.statement entity.table entity.columns

/-- The fields of the first parameter that a convention binds, if it binds no parameters. -/
def boundFields? (entity : Entity) : Convention → Option (List String)
  | .create => some ((insertedFields entity).map (·.name))
  | .update => some (entity.updatable.map (·.name) ++ entity.keyFields.map (·.1))
  | _ => none

/-- The bindings are those that a convention asks of a method. -/
def Binds
    (entity : Entity)
    (method : Method)
    (convention : Convention)
    (bindings : List Binding) : Prop :=
  match boundFields? entity convention with
  | some fields =>
    ∃ item, method.params.head? = some item ∧ fieldBindings item.name fields = .ok bindings
  | none => paramBindings method.params = .ok bindings

/-- An action fetches no single value, or one of the types that queries have. -/
def FetchesKnown (action : Action) : Prop :=
  ∀ type, action = .fetchScalar type → type = Code.words ["i64"] ∨ type = Code.words ["bool"]

/-- A function does what a convention asks of a method. -/
structure Implements
    (entity : Entity)
    (method : Method)
    (convention : Convention)
    (function : Function) : Prop where
  /-- It runs the statement of the convention. -/
  sql_eq : function.body.sql = (statementOf entity method.returnsEntity convention).text
  /-- It fetches what queries have. -/
  fetches : FetchesKnown function.body.action
  /-- It binds what the convention asks for. -/
  binds : Binds entity method convention function.body.bindings

theorem fetchesKnown_rows
    (entity : Identifier)
    (isSingle : Bool) :
    FetchesKnown (Outcome.rows entity isSingle).action := by
  intro type fetched
  cases isSingle <;> cases fetched

theorem fetchesKnown_none : FetchesKnown Outcome.none.action :=
  nofun

theorem fetchesKnown_changed
    (entity : Identifier)
    (isReturned : Bool) :
    FetchesKnown (Outcome.changed entity isReturned).action := by
  cases isReturned with
  | false => exact fetchesKnown_none
  | true => exact fetchesKnown_rows entity true

theorem fetchesKnown_derived
    (entity : Identifier)
    (method : Method)
    (sql : String) :
    FetchesKnown (derivedOutcome entity method sql).action := by
  unfold derivedOutcome
  split
  · rintro type ⟨⟩
    exact Or.inl rfl
  · split
    · rintro type ⟨⟩
      exact Or.inr rfl
    · split
      · exact fetchesKnown_rows entity method.returnsSingle
      · exact fetchesKnown_none

/-- What the function of a method is made of. -/
structure IsMadeOf
    (method : Method)
    (outcome : Outcome)
    (sql : String)
    (bindings : Except Unspellable (List Binding))
    (function : Function) : Prop where
  /-- Its name is that of the method. -/
  name_ok : Identifier.ofName method.functionName = .ok function.name
  /-- Its result is that of the outcome. -/
  result_eq : function.result = outcome.result
  /-- It does what the outcome says. -/
  action_eq : function.body.action = outcome.action
  /-- It runs the statement. -/
  sql_eq : function.body.sql = sql
  /-- Its bindings can be spelled. -/
  bindings_ok : bindings = .ok function.body.bindings

theorem isMadeOf_of_functionOf
    {method : Method}
    {outcome : Outcome}
    {sql : String}
    {bindings : Except Unspellable (List Binding)}
    {function : Function}
    (made : functionOf method outcome sql bindings = .ok function) :
    IsMadeOf method outcome sql bindings function := by
  unfold functionOf at made
  obtain ⟨name, name_ok, made⟩ := bind_eq_ok_iff.mp made
  obtain ⟨params, -, made⟩ := bind_eq_ok_iff.mp made
  obtain ⟨bound, bound_ok, made⟩ := bind_eq_ok_iff.mp made
  cases made
  exact ⟨name_ok, rfl, rfl, rfl, bound_ok⟩

/-- The outcomes that a method may have. -/
inductive IsOutcomeOf
    (name : Identifier)
    (method : Method) : Outcome → Prop where
  /-- Nothing is returned. -/
  | none : IsOutcomeOf name method .none
  /-- One entity is returned, or a collection of them. -/
  | rows (isSingle : Bool) : IsOutcomeOf name method (.rows name isSingle)
  /-- What a derived statement shows is returned. -/
  | derived (sql : String) : IsOutcomeOf name method (derivedOutcome name method sql)
  /-- What is declared for an attached statement is returned. -/
  | custom : IsOutcomeOf name method (customOutcome name method)

theorem isOutcomeOf_changed
    (name : Identifier)
    (method : Method)
    (isReturned : Bool) :
    IsOutcomeOf name method (.changed name isReturned) := by
  cases isReturned with
  | false => exact .none
  | true => exact .rows true

/-- Whatever its plan, the function of a method has its name and one of its outcomes. -/
theorem exists_functionOf_of_implementation?
    {entity : Entity}
    {name : Identifier}
    {method : Method}
    {function : Function}
    (made : implementation? entity name method = .ok (some function)) :
    ∃ outcome sql bindings, IsOutcomeOf name method outcome ∧
      functionOf method outcome sql bindings = .ok function := by
  have of_some {outcome : Outcome} {sql : String}
      {bindings : Except Unspellable (List Binding)}
      (outcome_of : IsOutcomeOf name method outcome)
      (same : some <$> functionOf method outcome sql bindings = .ok (some function)) :
      ∃ outcome sql bindings, IsOutcomeOf name method outcome ∧
        functionOf method outcome sql bindings = .ok function := by
    obtain ⟨emitted, function_ok, emitted_eq⟩ := map_eq_ok_iff.mp same
    cases emitted_eq
    exact ⟨outcome, sql, bindings, outcome_of, function_ok⟩
  unfold implementation? at made
  cases plan_eq : method.plan <;> simp only [plan_eq] at made
  case create | update =>
    cases params_eq : method.params with
    | nil => simp [params_eq] at made
    | cons =>
      simp only [params_eq] at made
      exact of_some (isOutcomeOf_changed name method _) made
  case getById => exact of_some (.rows true) made
  case delete => exact of_some .none made
  case list => exact of_some (.rows false) made
  case findBy => exact of_some (.rows _) made
  case derived =>
    cases sql_eq : method.derivedSql with
    | none => simp [sql_eq] at made
    | some sql =>
      simp only [sql_eq] at made
      exact of_some (.derived sql) made
  case custom =>
    cases sql_eq : method.customSql with
    | none => simp [sql_eq] at made
    | some sql =>
      simp only [sql_eq] at made
      exact of_some .custom made

/-- A function that binds the parameters of its method. -/
theorem implements_of_params
    {entity : Entity}
    {method : Method}
    {convention : Convention}
    {outcome : Outcome}
    {bindings : Except Unspellable (List Binding)}
    {result : Option Function}
    (known : FetchesKnown outcome.action)
    (no_fields : boundFields? entity convention = none)
    (bindings_eq : bindings = paramBindings method.params)
    (made : some <$> functionOf method outcome
      (statementOf entity method.returnsEntity convention).text bindings = .ok result) :
    ∃ function, result = some function ∧ Implements entity method convention function := by
  obtain ⟨function, function_ok, rfl⟩ := map_eq_ok_iff.mp made
  have made_of := isMadeOf_of_functionOf function_ok
  refine ⟨function, rfl, made_of.sql_eq, made_of.action_eq ▸ known, ?_⟩
  rw [Binds, no_fields, ← bindings_eq]
  exact made_of.bindings_ok

/-- A function that binds fields of the first parameter of its method. -/
theorem implements_of_fields
    {entity : Entity}
    {method : Method}
    {convention : Convention}
    {outcome : Outcome}
    {item : Param}
    {fields : List String}
    {result : Option Function}
    (known : FetchesKnown outcome.action)
    (some_fields : boundFields? entity convention = some fields)
    (first : method.params.head? = some item)
    (made : some <$> functionOf method outcome
      (statementOf entity method.returnsEntity convention).text
      (fieldBindings item.name fields) = .ok result) :
    ∃ function, result = some function ∧ Implements entity method convention function := by
  obtain ⟨function, function_ok, rfl⟩ := map_eq_ok_iff.mp made
  have made_of := isMadeOf_of_functionOf function_ok
  refine ⟨function, rfl, made_of.sql_eq, made_of.action_eq ▸ known, ?_⟩
  rw [Binds, some_fields]
  exact ⟨item, first, made_of.bindings_ok⟩

/-- A method that adds or changes a row has a parameter. -/
theorem exists_param_of_follows
    {entity : Entity}
    {method : Method}
    {convention : Convention}
    {fields : List String}
    (follows : method.Follows entity convention)
    (some_fields : boundFields? entity convention = some fields) :
    ∃ item others, method.params = item :: others := by
  have accepted := follows.accepted
  cases params_eq : method.params with
  | cons item others => exact ⟨item, others, rfl⟩
  | nil =>
    cases convention <;>
      simp [params_eq, boundFields?, Convention.accepts, Convention.expectedParams]
        at accepted some_fields

/-- An accepted method whose plan adds or changes a row follows the convention of that plan. -/
theorem follows_of_plan_eq
    {entity : Entity}
    {decl : ContractDecl}
    {contract : Contract}
    {method : Method}
    {convention : Convention}
    {fields : List String}
    (built : Contract.ofDecl entity decl = .ok contract)
    (member : method ∈ contract.methods)
    (some_fields : boundFields? entity convention = some fields)
    (plan_eq : method.plan = convention.plan) :
    method.Follows entity convention := by
  obtain ⟨_, -, declared⟩ := Contract.exists_ofDecl_of_mem built member
  rcases Method.follows_of_ofDecl declared with ⟨sql, carries⟩ | ⟨other, follows⟩
  · have custom := plan_eq.symm.trans carries.plan_eq
    cases convention <;> cases custom
  have same := plan_eq.symm.trans follows.plan_eq
  cases convention with
  | create =>
    cases other with
    | create => exact follows
    | _ => cases same
  | update =>
    cases other with
    | update => exact follows
    | _ => cases same
  | _ => cases some_fields

/-- Any other method has as many parameters as its convention asks for. -/
theorem length_params_of_follows
    {entity : Entity}
    {method : Method}
    {convention : Convention}
    (follows : method.Follows entity convention)
    (no_fields : boundFields? entity convention = none) :
    method.params.length = (convention.expectedParams entity).1 := by
  have accepted := follows.accepted
  cases convention with
  | create => cases no_fields
  | update => cases no_fields
  | _ => exact (of_decide_eq_true accepted).symm

/-- A method that follows a convention gets a function that implements it. -/
theorem implements_of_follows
    {entity : Entity}
    {name : Identifier}
    {method : Method}
    {convention : Convention}
    {result : Option Function}
    (follows : method.Follows entity convention)
    (made : implementation? entity name method = .ok result) :
    ∃ function, result = some function ∧ Implements entity method convention function := by
  unfold implementation? at made
  rw [follows.plan_eq, follows.fields_eq, follows.derivedSql_eq] at made
  cases convention with
  | create =>
    obtain ⟨item, others, params_eq⟩ := exists_param_of_follows follows rfl
    simp only [Convention.plan, params_eq] at made
    exact implements_of_fields (fetchesKnown_changed _ _) rfl (by rw [params_eq]; rfl) made
  | update =>
    obtain ⟨item, others, params_eq⟩ := exists_param_of_follows follows rfl
    simp only [Convention.plan, params_eq] at made
    exact implements_of_fields (fetchesKnown_changed _ _) rfl (by rw [params_eq]; rfl) made
  | list =>
    have no_params : method.params = [] :=
      List.length_eq_zero_iff.mp (length_params_of_follows follows rfl)
    exact implements_of_params (fetchesKnown_rows _ _) rfl (by rw [no_params]; rfl) made
  | getById => exact implements_of_params (fetchesKnown_rows _ _) rfl rfl made
  | delete => exact implements_of_params fetchesKnown_none rfl rfl made
  | findBy fields => exact implements_of_params (fetchesKnown_rows _ _) rfl rfl made
  | query found => exact implements_of_params (fetchesKnown_derived _ _ _) rfl rfl made

end Tablewright.Repository
