import Tablewright.Proofs.Code.Name
import Tablewright.Proofs.Contract.Acceptance

/-!
# Names of accepted contracts

Acceptance of a contract checks the names of the contract, of its entity and the stored fields, and
of the functions and parameters of its methods.  They are the declared names, those of functions in
another case.
-/

namespace Tablewright

open Code (isName)
open Text (Alnum)

theorem checkNames_eq_ok_iff {names : List String} :
    checkNames names = .ok () ↔ ∀ name ∈ names, isName name := by
  unfold checkNames
  constructor
  · intro passed
    split at passed
    · cases passed
    · next none_found =>
      intro name member
      simpa using List.find?_eq_none.mp none_found name member
  · intro named
    have none_found : names.find? (!isName ·) = none := by
      rw [List.find?_eq_none]
      intro name member
      simpa using named name member
    rw [none_found]

theorem Param.of_ofDecl
    {decl : ParamDecl}
    {param : Param}
    (built : Param.ofDecl decl = .ok param) :
    param.name = decl.name ∧ isName param.name := by
  unfold Param.ofDecl at built
  obtain ⟨⟨⟩, checked, built⟩ := bind_eq_ok_iff.mp built
  obtain ⟨type, -, built⟩ := bind_eq_ok_iff.mp built
  cases built
  exact ⟨rfl, checkNames_eq_ok_iff.mp checked decl.name (List.mem_singleton_self _)⟩

namespace Method

/-- Names that a method brings into code. -/
def checkedNames (method : Method) : List String :=
  method.functionName :: method.params.map (·.name)

/-- What an accepted method is made of: its name is the declared one in Pascal case, and the name of
its function is checked. -/
theorem of_ofDecl
    {entity : Entity}
    {decl : MethodDecl}
    {method : Method}
    (built : ofDecl entity decl = .ok method) :
    method.name = Text.pascalCase (Text.trimmed decl.name) ∧ isName method.functionName ∧
      decl.params.mapM Param.ofDecl = .ok method.params := by
  obtain ⟨params, scalarReturn, names_ok, params_ok, checked⟩ := exists_ofChecked_of_ofDecl built
  obtain ⟨name_eq, params_eq, -⟩ := of_ofChecked checked
  refine ⟨name_eq, ?_, params_eq ▸ params_ok⟩
  rw [functionName, name_eq]
  exact checkNames_eq_ok_iff.mp names_ok _ (List.mem_singleton_self _)

theorem isName_of_mem_checkedNames
    {entity : Entity}
    {decl : MethodDecl}
    {method : Method}
    (built : ofDecl entity decl = .ok method) :
    ∀ name ∈ method.checkedNames, isName name := by
  obtain ⟨-, function_named, params_ok⟩ := of_ofDecl built
  refine List.forall_mem_cons.mpr ⟨function_named, ?_⟩
  intro name member
  obtain ⟨param, found, rfl⟩ := List.mem_map.mp member
  obtain ⟨_, -, param_ok⟩ := exists_of_mem_of_mapM_eq_ok params_ok found
  exact (Param.of_ofDecl param_ok).2

/-- A method declared with letters, digits and underscores brings no other names into code. -/
theorem alnum_of_mem_checkedNames
    {entity : Entity}
    {decl : MethodDecl}
    {method : Method}
    (built : ofDecl entity decl = .ok method)
    (name_alnum : Alnum decl.name.toList)
    (params_alnum : ∀ param ∈ decl.params, Alnum param.name.toList) :
    ∀ name ∈ method.checkedNames, Alnum name.toList := by
  obtain ⟨name_eq, -, params_ok⟩ := of_ofDecl built
  refine List.forall_mem_cons.mpr ⟨?_, ?_⟩
  · rw [functionName, name_eq]
    exact name_alnum.trimmed.pascalCase.snakeCase
  · intro name member
    obtain ⟨param, found, rfl⟩ := List.mem_map.mp member
    obtain ⟨declared, declared_found, param_ok⟩ := exists_of_mem_of_mapM_eq_ok params_ok found
    rw [(Param.of_ofDecl param_ok).1]
    exact params_alnum declared declared_found

end Method

namespace Contract

/-- Names that acceptance of a contract checks. -/
def checkedNames
    (entity : Entity)
    (contract : Contract) : List String :=
  contract.name :: entity.name :: entity.stored.map (·.name) ++
    contract.methods.flatMap Method.checkedNames

variable {entity : Entity} {decl : ContractDecl} {contract : Contract}

theorem isName_of_mem_checkedNames (built : ofDecl entity decl = .ok contract) :
    ∀ name ∈ contract.checkedNames entity, isName name := by
  obtain ⟨name_eq, checked, methods_ok⟩ := of_ofDecl built
  intro name member
  rw [checkedNames, name_eq] at member
  rcases List.mem_append.mp member with own | inner
  · exact checkNames_eq_ok_iff.mp checked name own
  · obtain ⟨method, found, inner⟩ := List.mem_flatMap.mp inner
    obtain ⟨_, -, method_ok⟩ := exists_of_mem_of_mapM_eq_ok methods_ok found
    exact Method.isName_of_mem_checkedNames method_ok name inner

/-- A contract declared with letters, digits and underscores, for an entity of such names, has no
others. -/
theorem alnum_of_mem_checkedNames
    (built : ofDecl entity decl = .ok contract)
    (entity_alnum : ∀ name ∈ entity.name :: entity.stored.map (·.name), Alnum name.toList)
    (name_alnum : Alnum decl.name.toList)
    (methods_alnum : ∀ method ∈ decl.methods,
      Alnum method.name.toList ∧ ∀ param ∈ method.params, Alnum param.name.toList) :
    ∀ name ∈ contract.checkedNames entity, Alnum name.toList := by
  obtain ⟨name_eq, -, methods_ok⟩ := of_ofDecl built
  intro name member
  rw [checkedNames, name_eq] at member
  rcases List.mem_append.mp member with own | inner
  · rcases List.mem_cons.mp own with rfl | own
    · exact name_alnum
    · exact entity_alnum name own
  · obtain ⟨method, found, inner⟩ := List.mem_flatMap.mp inner
    obtain ⟨declared, declared_found, method_ok⟩ := exists_of_mem_of_mapM_eq_ok methods_ok found
    obtain ⟨method_alnum, params_alnum⟩ := methods_alnum declared declared_found
    exact Method.alnum_of_mem_checkedNames method_ok method_alnum params_alnum name inner

end Contract

end Tablewright
