import Tablewright.Proofs.Query.ShapeWord
import Tablewright.Proofs.Repository.Agreement

/-!
# Results of queries

The function of a method whose statement is derived from its name is told what to return by the text
of the statement alone.  The text shows the shape of the query, so a count returns a number, a test
for rows a truth value, a removal nothing, and a selection returns entities.
-/

namespace Tablewright

open Code (Identifier Unspellable)

namespace Repository

/-! ## Outcomes of functions -/

/-- A function does what an outcome says and has the result that it names. -/
structure Function.Gives
    (function : Function)
    (outcome : Outcome) : Prop where
  /-- What is done with the statement. -/
  action_eq : function.body.action = outcome.action
  /-- Type of the value. -/
  result_eq : function.result = outcome.result

/-- A function gives one entity of a name, or a collection of them. -/
def Function.GivesRows
    (function : Function)
    (entity : String)
    (isSingle : Bool) : Prop :=
  ∃ name : Identifier, name.text = entity ∧ function.Gives (.rows name isSingle)

/-- A function gives one outcome. -/
theorem Function.Gives.iff_eq
    {function : Function}
    {outcome other : Outcome}
    (gives : function.Gives outcome) :
    function.Gives other ↔ other = outcome := by
  constructor
  · intro gives_other
    obtain ⟨action, result⟩ := outcome
    obtain ⟨otherAction, otherResult⟩ := other
    rw [Outcome.mk.injEq]
    exact ⟨gives_other.action_eq.symm.trans gives.action_eq,
      gives_other.result_eq.symm.trans gives.result_eq⟩
  · rintro rfl
    exact gives

namespace Outcome

/-! ### Outcomes are told apart -/

variable {type otherType : Code} {entity otherEntity : Identifier} {isSingle otherSingle : Bool}

@[simp] theorem scalar_inj : scalar type = scalar otherType ↔ type = otherType := by
  constructor
  · intro same
    exact congrArg result same
  · rintro rfl
    rfl

@[simp] theorem scalar_ne_none : scalar type ≠ none :=
  nofun

@[simp] theorem scalar_ne_rows : scalar type ≠ rows entity isSingle := by
  cases isSingle <;> exact fun same => nomatch congrArg action same

@[simp] theorem none_ne_scalar : none ≠ scalar type :=
  nofun

@[simp] theorem none_ne_rows : none ≠ rows entity isSingle := by
  cases isSingle <;> exact fun same => nomatch congrArg action same

@[simp] theorem rows_ne_scalar : rows entity isSingle ≠ scalar type :=
  scalar_ne_rows.symm

@[simp] theorem rows_ne_none : rows entity isSingle ≠ none :=
  none_ne_rows.symm

@[simp] theorem rows_inj :
    rows entity isSingle = rows otherEntity otherSingle ↔
      entity = otherEntity ∧ isSingle = otherSingle := by
  constructor
  · intro same
    have same_action := congrArg action same
    cases isSingle <;> cases otherSingle <;> cases same_action <;> exact ⟨rfl, rfl⟩
  · rintro ⟨rfl, rfl⟩
    rfl

end Outcome

/-! ## Outcomes of shapes -/

/-- The type of a count. -/
def countType : Code :=
  Code.words ["i64"]

/-- The type of a test for rows. -/
def truthType : Code :=
  Code.words ["bool"]

/-- The outcome that a query of a shape asks for. -/
def shapeOutcome
    (entity : Identifier)
    (method : Method) : Query.Shape → Outcome
  | .count => .scalar countType
  | .existence => .scalar truthType
  | .deletion => .none
  | .many | .single =>
    if method.returnsEntity then .rows entity method.returnsSingle else .none

theorem occurs_iff
    {pattern text : String}
    (pattern_ne : pattern.toList ≠ []) :
    occurs pattern text ↔ pattern.toList <:+: text.toList := by
  unfold occurs
  constructor
  · intro found
    obtain ⟨index, index_eq⟩ := Option.isSome_iff_exists.mp found
    obtain ⟨before, after, text_eq, -⟩ := (Query.firstIndex?_eq_some_iff pattern_ne).mp index_eq
    exact ⟨before, after, by rw [text_eq, List.append_assoc]⟩
  · intro found
    by_contra absent
    rw [Option.not_isSome_iff_eq_none] at absent
    exact Query.not_infix_of_firstIndex?_eq_none pattern_ne absent found

/-- The text of the statement of a query shows the outcome that its shape asks for. -/
theorem derivedOutcome_eq
    {entity : Entity}
    {name : Identifier}
    {method : Method}
    {query : Query}
    (described : Query.ofName? method.name = some query)
    (no_count : ¬ Query.countWord <:+: entity.bareTable.toList)
    (no_existence : ¬ Query.existenceWord <:+: entity.bareTable.toList)
    (removal : query.shape = .deletion → method.returnsEntity = false) :
    derivedOutcome name method (query.statement entity.table entity.columns).text =
      shapeOutcome name method query.shape := by
  have counts : occurs "COUNT(*)" (query.statement entity.table entity.columns).text ↔
      query.shape = .count :=
    (occurs_iff (by decide)).trans
      (Query.infix_countWord_iff described (entity.notMem_columns (by decide)) no_count)
  have tests : occurs "EXISTS(" (query.statement entity.table entity.columns).text ↔
      query.shape = .existence :=
    (occurs_iff (by decide)).trans
      (Query.infix_existenceWord_iff described (entity.notMem_columns (by decide)) no_existence)
  unfold derivedOutcome
  simp only [counts, tests]
  cases shape_eq : query.shape with
  | count => rfl
  | existence => rfl
  | deletion =>
    rw [removal shape_eq]
    rfl
  | many => rfl
  | single => rfl

variable {entity : Entity} {method : Method} {name : Identifier}

/-- An accepted method with a derived statement follows the convention of its query, and it returns
no entity if the query removes rows. -/
theorem exists_query_of_derived
    {decl : ContractDecl}
    {contract : Contract}
    (built : Contract.ofDecl entity decl = .ok contract)
    (member : method ∈ contract.methods)
    (derived : method.plan = .derived) :
    ∃ query, method.Follows entity (.query query) ∧
      (query.shape = .deletion → method.returnsEntity = false) := by
  obtain ⟨declared, -, method_built⟩ := Contract.exists_ofDecl_of_mem built member
  rcases Method.follows_of_ofDecl method_built with ⟨sql, carries⟩ | ⟨convention, follows⟩
  · cases derived.symm.trans carries.plan_eq
  have plan_eq := derived.symm.trans follows.plan_eq
  cases convention with
  | query query =>
    refine ⟨query, follows, fun deletion => ?_⟩
    exact follows.returnsEntity_eq_false method_built (decide_eq_true deletion)
  | _ => cases plan_eq

/-- The function of an accepted method with a derived statement gives what the shape of its query
asks for, unless the name of the table holds one of the words that show a shape. -/
theorem gives_shapeOutcome
    {query : Query}
    {result : Option Function}
    (follows : method.Follows entity (.query query))
    (removal : query.shape = .deletion → method.returnsEntity = false)
    (made : implementation? entity name method = .ok result)
    (no_count : ¬ Query.countWord <:+: entity.bareTable.toList)
    (no_existence : ¬ Query.existenceWord <:+: entity.bareTable.toList) :
    ∃ function, result = some function ∧
      function.Gives (shapeOutcome name method query.shape) := by
  unfold implementation? at made
  rw [follows.plan_eq, follows.derivedSql_eq] at made
  obtain ⟨function, function_ok, result_eq⟩ := map_eq_ok_iff.mp made
  refine ⟨function, result_eq.symm, ?_⟩
  rw [← derivedOutcome_eq (ofName?_of_named follows.named) no_count no_existence removal]
  have made_of := isMadeOf_of_functionOf function_ok
  exact ⟨made_of.action_eq, made_of.result_eq⟩

/-! ## Results by shape -/

theorem countType_ne_truthType : countType ≠ truthType := by
  have apart : ([.word "i64"] : Code) ≠ [.word "bool"] := by simp
  exact apart

/-- A query of a shape selects entities. -/
def IsSelection (shape : Query.Shape) : Prop :=
  shape = .many ∨ shape = .single

section

variable (name : Identifier) (method : Method) (shape : Query.Shape)

theorem scalar_countType_eq_iff :
    .scalar countType = shapeOutcome name method shape ↔ shape = .count := by
  cases shape <;> cases returned : method.returnsEntity <;>
    simp [shapeOutcome, returned, countType_ne_truthType]

theorem scalar_truthType_eq_iff :
    .scalar truthType = shapeOutcome name method shape ↔ shape = .existence := by
  cases shape <;> cases returned : method.returnsEntity <;>
    simp [shapeOutcome, returned, countType_ne_truthType.symm]

theorem none_eq_shapeOutcome_iff :
    .none = shapeOutcome name method shape ↔
      shape = .deletion ∨ method.returnsEntity = false ∧ IsSelection shape := by
  cases shape <;> cases returned : method.returnsEntity <;>
    simp [shapeOutcome, returned, IsSelection]

theorem rows_eq_shapeOutcome_iff
    (entity : Identifier)
    (isSingle : Bool) :
    .rows entity isSingle = shapeOutcome name method shape ↔
      (IsSelection shape ∧ method.returnsEntity ∧ method.returnsSingle = isSingle) ∧
        entity = name := by
  cases shape <;> cases returned : method.returnsEntity <;>
    simp [shapeOutcome, returned, IsSelection, and_comm, eq_comm]

end

/-- The function of an accepted method with a derived statement returns a number exactly if the
query is a count, a truth value exactly if it is a test for rows, and nothing exactly if it removes
rows or selects them for a method without an entity to return; any other method gets the entities
that are selected, one of them or all.  The table must not be named like a call. -/
theorem gives_iff_shape
    {decl : ContractDecl}
    {contract : Contract}
    {result : Option Function}
    (built : Contract.ofDecl entity decl = .ok contract)
    (member : method ∈ contract.methods)
    (derived : method.plan = .derived)
    (spelled : Identifier.ofName entity.name = .ok name)
    (made : implementation? entity name method = .ok result)
    (no_count : ¬ "COUNT(*)".toList <:+: entity.bareTable.toList)
    (no_existence : ¬ "EXISTS(".toList <:+: entity.bareTable.toList) :
    ∃ query function, Query.ofName? method.name = some query ∧ result = some function ∧
      (function.Gives (.scalar countType) ↔ query.shape = .count) ∧
      (function.Gives (.scalar truthType) ↔ query.shape = .existence) ∧
      (function.Gives .none ↔
        query.shape = .deletion ∨ method.returnsEntity = false ∧ IsSelection query.shape) ∧
      ∀ isSingle, function.GivesRows entity.name isSingle ↔
        IsSelection query.shape ∧ method.returnsEntity ∧ method.returnsSingle = isSingle := by
  obtain ⟨query, follows, removal⟩ := exists_query_of_derived built member derived
  obtain ⟨function, result_eq, gives⟩ :=
    gives_shapeOutcome follows removal made no_count no_existence
  refine ⟨query, function, ofName?_of_named follows.named, result_eq, ?_, ?_, ?_, ?_⟩
  · rw [gives.iff_eq, scalar_countType_eq_iff]
  · rw [gives.iff_eq, scalar_truthType_eq_iff]
  · rw [gives.iff_eq, none_eq_shapeOutcome_iff]
  · intro isSingle
    constructor
    · rintro ⟨other, -, gives_rows⟩
      rw [gives.iff_eq, rows_eq_shapeOutcome_iff] at gives_rows
      exact gives_rows.1
    · intro selects
      refine ⟨name, text_of_ofName spelled, ?_⟩
      rw [gives.iff_eq, rows_eq_shapeOutcome_iff]
      exact ⟨selects, rfl⟩

/-! ## Sales from a table named nearly like a call -/

/-- Sales with a key and a number of items. -/
def sales : Entity :=
  { name := "Sale"
    fields :=
      [{ name := "ID", type := "i64", constraint := { isPrimary := true } },
        { name := "Count", type := "i64", constraint := {} }]
    tableOverride := some "COUNT\"(*)"
    package := "" }

/-- A repository of sales with a list of those with a number of items. -/
def saleRepository : ContractDecl :=
  { name := "SaleRepository"
    entity := "Sale"
    methods :=
      [{ name := "ListSalesByCount"
         params := [{ name := "count", type := "i64" }] }] }

/-- The list as it is accepted. -/
def equalSales : Method :=
  { name := "ListSalesByCount"
    plan := .derived
    params :=
      [{ name := "count", type := { text := "i64", code := [.word "i64"], shape := .named "i64" } }]
    returnsSingle := false
    returnsEntity := true
    scalarReturn := none
    derivedSql := some "SELECT id, count FROM \"COUNT\"\"(*)\" WHERE count = $1" }

/-- The repository as it is accepted. -/
def saleContract : Contract :=
  { name := "SaleRepository", entity := "Sale", methods := [equalSales] }

theorem ofDecl_saleRepository : Contract.ofDecl sales saleRepository = .ok saleContract := by
  rfl

/-- The function of the list. -/
def equalSalesFunction : Function :=
  { name := ⟨"list_sales_by_count", by decide⟩
    params := [(⟨"count", by decide⟩, [.word "i64"])]
    result := entityType ⟨"Sale", by decide⟩ false
    body :=
      { action := .fetchMany ⟨"Sale", by decide⟩
        sql := "SELECT id, count FROM \"COUNT\"\"(*)\" WHERE count = $1"
        bindings := [.param ⟨"count", by decide⟩] } }

theorem implementation?_equalSales :
    implementation? sales ⟨"Sale", by decide⟩ equalSales = .ok (some equalSalesFunction) := by
  rfl

/-- The list of sales returns all of them and no number, whatever its table is called. -/
theorem gives_iff_shape_equalSales :
    equalSalesFunction.GivesRows "Sale" false ∧
      ¬ equalSalesFunction.Gives (.scalar countType) := by
  obtain ⟨query, function, described, same, counts, -, -, selects⟩ :=
    gives_iff_shape ofDecl_saleRepository (List.mem_singleton.mpr rfl) rfl rfl
      implementation?_equalSales (by decide) (by decide)
  cases same
  have shape_eq : query.shape = .many := by
    have shapes : (Query.ofName? equalSales.name).map (·.shape) = some .many := by decide +kernel
    rw [described] at shapes
    exact Option.some.inj shapes
  refine ⟨(selects false).mpr ⟨.inl shape_eq, rfl, rfl⟩, ?_⟩
  rw [counts, shape_eq]
  exact nofun

end Repository
end Tablewright
