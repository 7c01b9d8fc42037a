import Tablewright.Proofs.Contract.Names
import Tablewright.Proofs.Repository.Agreement
import Tablewright.Proofs.Repository.AsyncName

/-!
# Complete implementations

A method without a parameter to insert from, or without the statement that its plan runs, would
silently get no function.  Acceptance leaves no such method: the code of the implementation of a
contract has one asynchronous function for each declared method, in their order and under their
names.
-/

namespace Tablewright

open Code (Identifier hasNoAsync)

/-! ## Accepted methods -/

/-- Name of the function that implements a declared method. -/
def MethodDecl.functionName (decl : MethodDecl) : String :=
  Text.snakeCase (Text.pascalCase (Text.trimmed decl.name))

namespace Method

/-- A method has what its plan needs, and nothing that only another plan has. -/
structure IsWhole (method : Method) : Prop where
  /-- Methods of the plan with an attached statement, and no others, have one. -/
  attached_iff : method.customSql.isSome ↔ method.plan = .custom
  /-- Methods of the plan with a derived statement, and no others, have one. -/
  derived_iff : method.derivedSql.isSome ↔ method.plan = .derived
  /-- Only lookups have fields to look up by. -/
  no_fields : method.plan ≠ .findBy → method.findByFields = []
  /-- A method that adds or changes a row has a parameter to take it from. -/
  params_ne : method.plan = .create ∨ method.plan = .update → method.params ≠ []

variable {entity : Entity} {decl : MethodDecl} {method : Method}

theorem Carries.isWhole
    {sql : String}
    (carries : method.Carries sql) :
    method.IsWhole where
  attached_iff := by simp [carries.customSql_eq, carries.plan_eq]
  derived_iff := by simp [carries.derivedSql_eq, carries.plan_eq]
  no_fields _ := carries.fields_eq
  params_ne := by simp [carries.plan_eq]

/-- A plan that adds or changes a row is that of a convention that binds fields. -/
theorem Follows.params_ne
    {convention : Convention}
    (follows : method.Follows entity convention)
    (changes : method.plan = .create ∨ method.plan = .update) :
    method.params ≠ [] := by
  have some_fields : ∃ fields, Repository.boundFields? entity convention = some fields := by
    rw [follows.plan_eq] at changes
    cases convention <;> simp [Convention.plan, Repository.boundFields?] at changes ⊢
  obtain ⟨fields, some_fields⟩ := some_fields
  obtain ⟨item, others, params_eq⟩ := Repository.exists_param_of_follows follows some_fields
  exact params_eq ▸ List.cons_ne_nil item others

theorem Follows.isWhole
    {convention : Convention}
    (follows : method.Follows entity convention) :
    method.IsWhole where
  attached_iff := by
    rw [follows.customSql_eq_none, follows.plan_eq]
    cases convention <;> simp [Convention.plan]
  derived_iff := by
    rw [follows.derivedSql_eq, follows.plan_eq]
    cases convention <;> simp [Convention.plan, Convention.derivedSql?]
  no_fields other := by
    rw [follows.plan_eq] at other
    rw [follows.fields_eq]
    cases convention with
    | findBy => exact absurd rfl other
    | _ => rfl
  params_ne := follows.params_ne

theorem isWhole_of_ofDecl (built : ofDecl entity decl = .ok method) : method.IsWhole := by
  rcases follows_of_ofDecl built with ⟨sql, carries⟩ | ⟨convention, follows⟩
  · exact carries.isWhole
  · exact follows.isWhole

/-- What an accepted method keeps of its declaration. -/
structure IsDeclared
    (decl : MethodDecl)
    (method : Method) : Prop where
  /-- Its function has the declared name, in another case. -/
  named : method.functionName = decl.functionName
  /-- The statement attached to it is the declared one, unless that is blank. -/
  attached : method.customSql = attached? decl

theorem isDeclared_of_ofDecl (built : ofDecl entity decl = .ok method) :
    IsDeclared decl method where
  named := by
    rw [functionName, (of_ofDecl built).1]
    rfl
  attached := by
    obtain ⟨params, scalarReturn, -, -, checked⟩ := exists_ofChecked_of_ofDecl built
    rcases (of_ofChecked checked).2.2 with ⟨sql, attached, carries⟩ | ⟨unattached, _, follows, -⟩
    · rw [attached, carries.customSql_eq]
    · rw [unattached, follows.customSql_eq_none]

/-- An accepted method without an attached statement follows a convention. -/
theorem exists_follows_of_unattached
    (unattached : attached? decl = none)
    (built : ofDecl entity decl = .ok method) :
    ∃ convention, method.Follows entity convention := by
  refine (follows_of_ofDecl built).resolve_left ?_
  rintro ⟨sql, carries⟩
  have statement := (isDeclared_of_ofDecl built).attached
  rw [unattached, carries.customSql_eq] at statement
  cases statement

end Method

namespace Repository

/-! ## Implementations -/

theorem text_name_of_implementation?
    {entity : Entity}
    {name : Identifier}
    {method : Method}
    {function : Function}
    (made : implementation? entity name method = .ok (some function)) :
    function.name.text = method.functionName := by
  obtain ⟨_, _, _, -, function_ok⟩ := exists_functionOf_of_implementation? made
  exact text_of_ofName (isMadeOf_of_functionOf function_ok).name_ok

/-! ## Complete implementations -/

/-- The block that implements a contract for a structure, each called by its name. -/
def traitBlock
    (contract name : String)
    (body : Code) : Code :=
  Code.words ["impl"] ++ [.word contract] ++ Code.words ["for"] ++ [.word name] ++
    Code.braces body

/-- The code of an implementation ends with the block of its contract, in which its functions stand
one after the other. -/
theorem traitBlock_suffix_code
    {settings : RepositorySettings}
    {entity : Entity}
    {contract : Contract}
    {implementation : Implementation}
    (made : Implementation.ofContract settings entity contract = .ok implementation) :
    traitBlock contract.name (contract.name ++ settings.suffix)
        (implementation.functions.flatMap (Function.code settings.errorType.code)) <:+
      implementation.code settings := by
  unfold Implementation.ofContract at made
  obtain ⟨name, -, made⟩ := bind_eq_ok_iff.mp made
  obtain ⟨contractName, contract_ok, made⟩ := bind_eq_ok_iff.mp made
  obtain ⟨ownName, own_ok, made⟩ := bind_eq_ok_iff.mp made
  obtain ⟨results, -, made⟩ := bind_eq_ok_iff.mp made
  cases made
  rw [← text_of_ofName own_ok, ← text_of_ofName contract_ok]
  unfold Implementation.code traitBlock
  simp only [List.append_assoc]
  iterate 7 apply List.suffix_append_of_suffix
  exact List.suffix_refl _

/-- The implementation of a contract leaves out no declared method. -/
structure Implementation.IsComplete
    (implementation : Implementation)
    (settings : RepositorySettings)
    (entity : Entity)
    (contract : Contract)
    (decl : ContractDecl) : Prop where
  /-- The methods are the declared ones, in order. -/
  declared : List.Forall₂ Method.IsDeclared decl.methods contract.methods
  /-- Each of them has what its plan needs. -/
  whole : ∀ method ∈ contract.methods, method.IsWhole
  /-- None of them comes out without a function, whatever the entity is called in code. -/
  found : ∀ method ∈ contract.methods, ∀ name, implementation? entity name method ≠ .ok none
  /-- Each of them has its function, in order. -/
  implemented : List.Forall₂
    (fun method function => ∃ name, implementation? entity name method = .ok (some function))
    contract.methods implementation.functions
  /-- The functions have the names of the declared methods, in order. -/
  names : implementation.functions.map (·.name.text) = decl.methods.map (·.functionName)
  /-- The code ends with a block that implements the contract, and the asynchronous functions that
  are read off the tokens of this block are those of the declared methods, in order. -/
  code : ∃ body,
    traitBlock contract.name (contract.name ++ settings.suffix) body <:+
      implementation.code settings ∧
    asyncNames body = decl.methods.map (·.functionName)

section

variable {settings : RepositorySettings} {entity : Entity} {decl : ContractDecl}
  {contract : Contract} {implementation : Implementation}

theorem forall₂_isDeclared (built : Contract.ofDecl entity decl = .ok contract) :
    List.Forall₂ Method.IsDeclared decl.methods contract.methods :=
  (mapM_eq_ok_iff.mp (Contract.of_ofDecl built).2.2).imp fun _ _ => Method.isDeclared_of_ofDecl

theorem isWhole_of_mem
    {method : Method}
    (built : Contract.ofDecl entity decl = .ok contract)
    (member : method ∈ contract.methods) :
    method.IsWhole := by
  obtain ⟨_, -, method_ok⟩ := Contract.exists_ofDecl_of_mem built member
  exact Method.isWhole_of_ofDecl method_ok

/-- Functions have the names of the methods that they are paired with. -/
theorem map_text_name_eq
    {methods : List Method}
    {functions : List Function}
    (implemented : List.Forall₂
      (fun method function => ∃ name, implementation? entity name method = .ok (some function))
      methods functions) :
    functions.map (·.name.text) = methods.map (·.functionName) := by
  induction implemented with
  | nil => rfl
  | cons first _ ih =>
    obtain ⟨name, made⟩ := first
    rw [List.map_cons, List.map_cons, text_name_of_implementation? made, ih]

/-- The functions of an accepted contract are called as the methods are declared. -/
theorem map_text_name_eq_of_ofContract
    (built : Contract.ofDecl entity decl = .ok contract)
    (made : Implementation.ofContract settings entity contract = .ok implementation) :
    implementation.functions.map (·.name.text) = decl.methods.map (·.functionName) := by
  rw [map_text_name_eq (forall₂_functions_of_ofContract built made)]
  exact map_eq_map_of_mapM_eq_ok
    (fun _ _ method_ok => (Method.isDeclared_of_ofDecl method_ok).named)
    (Contract.of_ofDecl built).2.2

/-- The functions of an accepted contract have results without the word, as no entity of a contract
has it as its name. -/
theorem hasNoAsync_results
    (built : Contract.ofDecl entity decl = .ok contract)
    (made : Implementation.ofContract settings entity contract = .ok implementation) :
    ∀ function ∈ implementation.functions, hasNoAsync function.result := by
  obtain ⟨name, name_ok, pairs⟩ := exists_functions_of_ofContract built made
  have named : Code.isName entity.name :=
    Contract.isName_of_mem_checkedNames built entity.name (by simp [Contract.checkedNames])
  have other : name.text ≠ "async" := by
    rw [text_of_ofName name_ok]
    intro same
    exact absurd (same ▸ named) (by decide +kernel)
  have paired := pairs.flip.imp fun _ _ function_ok =>
    And.intro (hasNoAsync_result other function_ok) function_ok
  exact ((List.forall₂_and_left _ _).mp paired).1

/-- The implementation of an accepted contract leaves out no declared method. -/
theorem isComplete_of_ofContract
    (built : Contract.ofDecl entity decl = .ok contract)
    (made : Implementation.ofContract settings entity contract = .ok implementation) :
    implementation.IsComplete settings entity contract decl where
  declared := forall₂_isDeclared built
  whole := fun _ member => isWhole_of_mem built member
  found := by
    intro method member name nothing
    obtain ⟨function, impossible⟩ := exists_function_of_mem built member nothing
    cases impossible
  implemented := forall₂_functions_of_ofContract built made
  names := map_text_name_eq_of_ofContract built made
  code := by
    refine ⟨_, traitBlock_suffix_code made, ?_⟩
    rw [asyncNames_flatMap_code (hasNoAsync_results built made) settings.errorType.noAsync]
    exact map_text_name_eq_of_ofContract built made

end

/-! ## A repository with all kinds of methods -/

/-- A repository of users: a new row, a change, a lookup, a count, and a statement of its own. -/
def mixedRepository : ContractDecl :=
  { name := "UserRepository"
    entity := "User"
    methods :=
      [{ name := "Create", params := [{ name := "user", type := "User" }] },
        { name := "Update", params := [{ name := "user", type := "User" }] },
        { name := "FindByName", params := [{ name := "name", type := "String" }] },
        { name := "CountUsersByName", params := [{ name := "name", type := "String" }] },
        { name := "List", customSql := some " SELECT 1 " }] }

/-- The type of texts as it is accepted. -/
def stringType : Code.TypeExpr :=
  { text := "String", code := [.word "String"], shape := .named "String" }

/-- The settings of repositories when none are configured. -/
def plainSettings : RepositorySettings :=
  { poolType :=
      { text := "sqlx::PgPool"
        code := [.word "sqlx", .mark ':' true, .mark ':' false, .word "PgPool"]
        shape := .named "PgPool" }
    errorType :=
      { text := "sqlx::Error"
        code := [.word "sqlx", .mark ':' true, .mark ':' false, .word "Error"]
        shape := .named "Error" }
    suffix := "Impl" }

/-- The list is a statement of its own, and no method of the five is left out. -/
theorem isComplete_of_ofContract_mixed :
    ∃ contract implementation, Contract.ofDecl users mixedRepository = .ok contract ∧
      Implementation.ofContract plainSettings users contract = .ok implementation ∧
      contract.methods.map (·.plan) =
        [.create, .update, .findBy, .derived, .custom] ∧
      contract.methods.map (·.findByFields) = [[], [], ["Name"], [], []] ∧
      contract.methods.map (·.derivedSql) =
        [none, none, none, some "SELECT COUNT(*) FROM \"user\" WHERE name = $1", none] ∧
      contract.methods.map (·.customSql) = [none, none, none, none, some "SELECT 1"] ∧
      implementation.functions.map (·.name.text) =
        ["create", "update", "find_by_name", "count_users_by_name", "list"] ∧
      implementation.IsComplete plainSettings users contract mixedRepository :=
  ⟨_, _, rfl, rfl, by decide +kernel, by decide +kernel, by decide +kernel, by decide +kernel,
    by decide +kernel, isComplete_of_ofContract rfl rfl⟩

end Repository
end Tablewright
