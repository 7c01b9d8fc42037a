import Mathlib.Data.List.Forall2
import Tablewright.Contract.Building

/-!
# Accepted methods

What acceptance of a contract says about its methods: each carries a statement, or follows a
convention that its name and its parameters meet.
-/

namespace Tablewright

/-! ## Results -/

section

variable {ε α β : Type}

/-- A sequence of steps succeeds exactly if each step does. -/
theorem bind_eq_ok_iff
    {result : Except ε α}
    {next : α → Except ε β}
    {last : β} :
    (result >>= next) = .ok last ↔ ∃ value, result = .ok value ∧ next value = .ok last := by
  cases result with
  | error failure => simp [bind, Except.bind]
  | ok value => simp [bind, Except.bind]

/-- A step on the value of a result keeps whether it is one. -/
theorem map_eq_ok_iff
    {step : α → β}
    {result : Except ε α}
    {last : β} :
    (step <$> result) = .ok last ↔ ∃ value, result = .ok value ∧ step value = last := by
  cases result with
  | error failure => simp [Functor.map, Except.map]
  | ok value => simp [Functor.map, Except.map]

theorem toOption_eq_some_iff
    {result : Except ε α}
    {value : α} :
    result.toOption = some value ↔ result = .ok value := by
  cases result <;> simp [Except.toOption]

/-- A traversal succeeds exactly with the results of its elements. -/
theorem mapM_eq_ok_iff
    {step : α → Except ε β}
    {values : List α}
    {results : List β} :
    values.mapM step = .ok results ↔
      List.Forall₂ (fun value result => step value = .ok result) values results := by
  induction values generalizing results with
  | nil =>
    rw [List.mapM_nil, List.forall₂_nil_left_iff]
    constructor
    · intro done
      exact (Except.ok.inj done).symm
    · rintro rfl
      rfl
  | cons value values ih =>
    rw [List.mapM_cons, bind_eq_ok_iff, List.forall₂_cons_left_iff]
    constructor
    · rintro ⟨first, first_ok, more⟩
      obtain ⟨others, others_ok, done⟩ := bind_eq_ok_iff.mp more
      exact ⟨first, others, first_ok, ih.mp others_ok, (Except.ok.inj done).symm⟩
    · rintro ⟨first, others, first_ok, others_ok, rfl⟩
      exact ⟨first, first_ok, bind_eq_ok_iff.mpr ⟨others, ih.mpr others_ok, rfl⟩⟩

/-- Every result of a traversal comes from an element. -/
theorem exists_of_mem_of_mapM_eq_ok
    {step : α → Except ε β}
    {values : List α}
    {results : List β}
    (done : values.mapM step = .ok results)
    {result : β}
    (member : result ∈ results) :
    ∃ value ∈ values, step value = .ok result := by
  have each := mapM_eq_ok_iff.mp done
  clear done
  induction each with
  | nil => cases member
  | cons first_ok _ ih =>
    rcases List.mem_cons.mp member with rfl | later
    · exact ⟨_, List.mem_cons_self, first_ok⟩
    · obtain ⟨value, found, value_ok⟩ := ih later
      exact ⟨value, List.mem_cons_of_mem _ found, value_ok⟩

/-- Related lists show the same if related elements do. -/
theorem map_eq_map_of_forall₂
    {γ : Type}
    {relates : α → β → Prop}
    {shown : α → γ}
    {seen : β → γ}
    (each : ∀ value result, relates value result → shown value = seen result)
    {values : List α}
    {results : List β}
    (pairs : List.Forall₂ relates values results) :
    values.map shown = results.map seen := by
  induction pairs with
  | nil => rfl
  | cons first _ ih => rw [List.map_cons, List.map_cons, each _ _ first, ih]

/-- What the results of a traversal show is what its elements show. -/
theorem map_eq_map_of_mapM_eq_ok
    {γ : Type}
    {step : α → Except ε β}
    {shown : β → γ}
    {expected : α → γ}
    (each : ∀ value result, step value = .ok result → shown result = expected value)
    {values : List α}
    {results : List β}
    (done : values.mapM step = .ok results) :
    results.map shown = values.map expected :=
  (map_eq_map_of_forall₂ (fun value result step_ok => (each value result step_ok).symm)
    (mapM_eq_ok_iff.mp done)).symm

end

/-! ## Methods -/

namespace Method

/-- A method that runs the statement attached to it, and has nothing that other plans need. -/
structure Carries
    (method : Method)
    (sql : String) : Prop where
  /-- The plan is to run an attached statement. -/
  plan_eq : method.plan = .custom
  /-- The statement is attached. -/
  customSql_eq : method.customSql = some sql
  /-- No fields are looked up. -/
  fields_eq : method.findByFields = []
  /-- No statement is derived. -/
  derivedSql_eq : method.derivedSql = none

/-- A method that its name says how to implement: the name asks for what the plan does, there is
something to update if it updates, and the parameters are those that the convention asks for. -/
structure Follows
    (entity : Entity)
    (method : Method)
    (convention : Convention) : Prop where
  /-- The name asks for the convention. -/
  named : Convention.ofName? entity method.name = some convention
  /-- The plan is that of the convention. -/
  plan_eq : method.plan = convention.plan
  /-- The fields that are looked up are those of the convention. -/
  fields_eq : method.findByFields = convention.fields
  /-- The derived statement is that of the convention. -/
  derivedSql_eq : method.derivedSql = convention.derivedSql? entity
  /-- No statement is attached. -/
  customSql_eq_none : method.customSql = none
  /-- An update finds a column outside the key. -/
  updatable : convention = .update → entity.updatable ≠ []
  /-- The parameters are as many as the convention asks for. -/
  accepted : convention.accepts entity method.params.length

section

variable {entity : Entity} {decl : MethodDecl} {method : Method}

/-- What a method is whose names and types are checked: it carries the statement attached to it, or
it follows a convention, and then it returns no rows if the convention removes them. -/
theorem of_ofChecked
    {name : String}
    {params : List Param}
    {scalarReturn : Option Code.TypeExpr}
    (built : ofChecked entity decl name params scalarReturn = .ok method) :
    method.name = name ∧ method.params = params ∧
      ((∃ sql, attached? decl = some sql ∧ method.Carries sql) ∨
        (attached? decl = none ∧ ∃ convention, method.Follows entity convention ∧
          (convention.removes → method.returnsEntity = false))) := by
  unfold ofChecked at built
  cases attached : attached? decl with
  | some sql =>
    simp only [attached, Except.ok.injEq] at built
    cases built
    exact ⟨rfl, rfl, Or.inl ⟨sql, rfl, rfl, rfl, rfl, rfl⟩⟩
  | none =>
    cases named : Convention.ofName? entity name with
    | none => simp [attached, named] at built
    | some convention =>
      simp only [attached, named] at built
      by_cases stuck : convention = .update ∧ entity.updatable.isEmpty
      · rw [if_pos stuck] at built
        cases built
      rw [if_neg stuck] at built
      by_cases accepted : convention.accepts entity params.length
      · rw [if_pos accepted] at built
        cases built
        refine ⟨rfl, rfl, Or.inr ⟨rfl, convention, ⟨named, rfl, rfl, rfl, rfl, ?_, accepted⟩, ?_⟩⟩
        · intro update empty
          exact stuck ⟨update, by simp [empty]⟩
        · intro removes
          simp [removes]
      · rw [if_neg accepted] at built
        cases built

/-- A declared method that is accepted can report an error, and its names and types are checked. -/
theorem exists_ofChecked_of_ofDecl (built : ofDecl entity decl = .ok method) :
    ∃ params scalarReturn,
      checkNames [Text.snakeCase (Text.pascalCase (Text.trimmed decl.name))] = .ok () ∧
      decl.params.mapM Param.ofDecl = .ok params ∧
      ofChecked entity decl (Text.pascalCase (Text.trimmed decl.name)) params scalarReturn =
        .ok method := by
  unfold ofDecl at built
  by_cases infallible : !decl.returnsError
  · rw [if_pos infallible] at built
    cases built
  rw [if_neg infallible] at built
  obtain ⟨⟨⟩, checked, built⟩ := bind_eq_ok_iff.mp built
  obtain ⟨params, params_ok, built⟩ := bind_eq_ok_iff.mp built
  obtain ⟨scalarReturn, -, built⟩ := bind_eq_ok_iff.mp built
  exact ⟨params, scalarReturn, checked, params_ok, built⟩

/-- A declared method that is accepted carries a statement or follows a convention. -/
theorem follows_of_ofDecl (built : ofDecl entity decl = .ok method) :
    (∃ sql, method.Carries sql) ∨ ∃ convention, method.Follows entity convention := by
  obtain ⟨params, scalarReturn, -, -, checked⟩ := exists_ofChecked_of_ofDecl built
  rcases (of_ofChecked checked).2.2 with ⟨sql, -, carries⟩ | ⟨-, convention, follows, -⟩
  · exact Or.inl ⟨sql, carries⟩
  · exact Or.inr ⟨convention, follows⟩

/-- A method follows no more than one convention. -/
theorem Follows.unique
    {convention other : Convention}
    (follows : method.Follows entity convention)
    (follows_other : method.Follows entity other) :
    convention = other :=
  Option.some.inj (follows.named.symm.trans follows_other.named)

/-- A method that removes rows returns none. -/
theorem Follows.returnsEntity_eq_false
    {convention : Convention}
    (follows : method.Follows entity convention)
    (built : ofDecl entity decl = .ok method)
    (removes : convention.removes) :
    method.returnsEntity = false := by
  obtain ⟨params, scalarReturn, -, -, checked⟩ := exists_ofChecked_of_ofDecl built
  rcases (of_ofChecked checked).2.2 with ⟨sql, -, carries⟩ | ⟨-, other, follows_other, returns⟩
  · have unattached := follows.customSql_eq_none
    rw [carries.customSql_eq] at unattached
    cases unattached
  · rw [← follows.unique follows_other] at returns
    exact returns removes

end

end Method

namespace Contract

variable {entity : Entity} {decl : ContractDecl} {contract : Contract} {method : Method}

/-- What an accepted contract is made of: its own names are checked, and its methods are the
declared ones. -/
theorem of_ofDecl (built : ofDecl entity decl = .ok contract) :
    contract.name = decl.name ∧
      checkNames (decl.name :: entity.name :: entity.stored.map (·.name)) = .ok () ∧
      decl.methods.mapM (Method.ofDecl entity) = .ok contract.methods := by
  unfold ofDecl at built
  by_cases mismatch : decl.entity ≠ entity.name
  · rw [if_pos mismatch] at built
    cases built
  rw [if_neg mismatch] at built
  obtain ⟨⟨⟩, checked, built⟩ := bind_eq_ok_iff.mp built
  obtain ⟨methods, methods_ok, built⟩ := bind_eq_ok_iff.mp built
  cases built
  exact ⟨rfl, checked, methods_ok⟩

/-- A method of an accepted contract is one of those declared. -/
theorem exists_ofDecl_of_mem
    (built : ofDecl entity decl = .ok contract)
    (member : method ∈ contract.methods) :
    ∃ declared ∈ decl.methods, Method.ofDecl entity declared = .ok method :=
  exists_of_mem_of_mapM_eq_ok (of_ofDecl built).2.2 member

/-- A method of an accepted contract that carries no statement follows a convention. -/
theorem follows_of_mem
    (built : Contract.ofDecl entity decl = .ok contract)
    (member : method ∈ contract.methods)
    (no_statement : method.customSql = none) :
    ∃ convention, method.Follows entity convention := by
  obtain ⟨_, -, declared⟩ := exists_ofDecl_of_mem built member
  rcases Method.follows_of_ofDecl declared with ⟨sql, carries⟩ | follows
  · rw [carries.customSql_eq] at no_statement
    cases no_statement
  · exact follows

end Contract

end Tablewright
