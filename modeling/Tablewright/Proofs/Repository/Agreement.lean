import Tablewright.Proofs.Repository.BindCall
import Tablewright.Proofs.Repository.Numbering

/-!
# Placeholders and bound values

The placeholders in the statement of an accepted method and the values that its function binds
agree: there are as many of the one as of the other, and the placeholders are numbered from one on
in the order in which the values are bound.
-/

namespace Tablewright.Repository

open Code (Identifier Unspellable)
open Sql (Holds Plain)

/-! ## Arguments -/

/-- A parameter as an argument. -/
def paramArgument (param : Param) : Code :=
  [.word param.name]

/-- A field of an item as an argument. -/
def fieldArgument (item field : String) : Code :=
  [.mark '&' false, .word item, .mark '.' false, .word field]

/-- What the function of a method binds, in order: fields of its first parameter if it adds or
changes a row, and its parameters otherwise. -/
def boundArguments
    (entity : Entity)
    (method : Method) : List Code :=
  match method.plan, method.params with
  | .create, item :: _ =>
    (insertedFields entity).map fun field => fieldArgument item.name field.name
  | .update, item :: _ =>
    (entity.updatable.map (·.name) ++ entity.keyFields.map (·.1)).map (fieldArgument item.name)
  | _, params => params.map paramArgument

theorem text_of_ofName
    {name : String}
    {identifier : Identifier}
    (spelled : Identifier.ofName name = .ok identifier) :
    identifier.text = name := by
  unfold Identifier.ofName at spelled
  split at spelled
  · cases spelled
    rfl
  · cases spelled

theorem map_argument_of_paramBindings
    {params : List Param}
    {bindings : List Binding}
    (bound : paramBindings params = .ok bindings) :
    bindings.map Binding.argument = params.map paramArgument := by
  refine map_eq_map_of_mapM_eq_ok ?_ bound
  intro param binding binding_ok
  obtain ⟨identifier, spelled, rfl⟩ := map_eq_ok_iff.mp binding_ok
  rw [paramArgument, ← text_of_ofName spelled]
  rfl

theorem map_argument_of_fieldBindings
    {item : String}
    {fields : List String}
    {bindings : List Binding}
    (bound : fieldBindings item fields = .ok bindings) :
    bindings.map Binding.argument = fields.map (fieldArgument item) := by
  unfold fieldBindings at bound
  obtain ⟨owner, owner_spelled, bound⟩ := bind_eq_ok_iff.mp bound
  refine map_eq_map_of_mapM_eq_ok ?_ bound
  intro field binding binding_ok
  obtain ⟨identifier, spelled, rfl⟩ := map_eq_ok_iff.mp binding_ok
  rw [fieldArgument, ← text_of_ofName owner_spelled, ← text_of_ofName spelled]
  rfl

/-- A function binds the arguments of its method. -/
theorem map_argument_of_binds
    {entity : Entity}
    {method : Method}
    {convention : Convention}
    {bindings : List Binding}
    (follows : method.Follows entity convention)
    (binds : Binds entity method convention bindings) :
    bindings.map Binding.argument = boundArguments entity method := by
  unfold boundArguments
  rw [follows.plan_eq]
  cases convention with
  | create =>
    obtain ⟨item, first, bound⟩ := binds
    rw [List.head?_eq_some_iff] at first
    obtain ⟨others, params_eq⟩ := first
    rw [map_argument_of_fieldBindings bound, params_eq, List.map_map]
    rfl
  | update =>
    obtain ⟨item, first, bound⟩ := binds
    rw [List.head?_eq_some_iff] at first
    obtain ⟨others, params_eq⟩ := first
    rw [map_argument_of_fieldBindings bound, params_eq]
    rfl
  | _ => exact map_argument_of_paramBindings binds

/-- A method has as many arguments to bind as its convention has values. -/
theorem length_boundArguments
    {entity : Entity}
    {method : Method}
    {convention : Convention}
    (follows : method.Follows entity convention) :
    (boundArguments entity method).length = valueCount entity convention := by
  unfold boundArguments
  rw [follows.plan_eq]
  cases convention with
  | create =>
    obtain ⟨item, others, params_eq⟩ := exists_param_of_follows follows rfl
    simp only [Convention.plan, params_eq, valueCount, boundFields?, List.length_map]
  | update =>
    obtain ⟨item, others, params_eq⟩ := exists_param_of_follows follows rfl
    simp only [Convention.plan, params_eq, valueCount, boundFields?, List.length_map]
  | _ =>
    rw [valueCount, ← length_params_of_follows follows rfl]
    exact List.length_map _

/-- The placeholders in the statement of an accepted method without a statement of its own are
numbered from one on, left to right, and its function binds one argument for each of them, in their
order; these are the parameters, unless the method adds or changes a row. -/
theorem holds_range_boundIn
    {entity : Entity}
    {decl : ContractDecl}
    {contract : Contract}
    {method : Method}
    {name : Identifier}
    {result : Option Function}
    (built : Contract.ofDecl entity decl = .ok contract)
    (member : method ∈ contract.methods)
    (no_statement : method.customSql = none)
    (made : implementation? entity name method = .ok result)
    (table_plain : Plain entity.table)
    (columns_plain : ∀ column ∈ entity.columns, Plain column)
    (name_plain : Plain method.name) :
    ∃ function, result = some function ∧
      boundIn function.body.code = boundArguments entity method ∧
      Holds function.body.sql (List.range' 1 (boundArguments entity method).length) ∧
      (method.plan ≠ .create → method.plan ≠ .update →
        boundArguments entity method = method.params.map paramArgument) := by
  obtain ⟨convention, follows⟩ := Contract.follows_of_mem built member no_statement
  obtain ⟨function, result_eq, implements⟩ := implements_of_follows follows made
  refine ⟨function, result_eq, ?_, ?_, ?_⟩
  · rw [Body.boundIn_code implements.fetches, map_argument_of_binds follows implements.binds]
  · have plain := isPlain_statementOf follows table_plain columns_plain name_plain
      method.returnsEntity
    have holds := Sql.Statement.holds_text plain
    rwa [← implements.sql_eq, positions_statementOf follows, ← length_boundArguments follows]
      at holds
  · intro not_create not_update
    unfold boundArguments
    split
    · next plan_eq _ => exact absurd plan_eq not_create
    · next plan_eq _ => exact absurd plan_eq not_update
    · rfl

/-! ## A change of a user -/

/-- A repository of users with an update. -/
def updateRepository : ContractDecl :=
  { name := "UserRepository"
    entity := "User"
    methods := [{ name := "Update", params := [{ name := "user", type := "User" }] }] }

/-- The update as it is accepted. -/
def userUpdate : Method :=
  { name := "Update"
    plan := .update
    params :=
      [{ name := "user"
         type := { text := "User", code := [.word "User"], shape := .named "User" } }]
    returnsSingle := false
    returnsEntity := true
    scalarReturn := none }

/-- The repository as it is accepted. -/
def updateContract : Contract :=
  { name := "UserRepository", entity := "User", methods := [userUpdate] }

theorem ofDecl_updateRepository :
    Contract.ofDecl users updateRepository = .ok updateContract := by
  rfl

/-- The function of the update. -/
def updateFunction : Function :=
  { name := ⟨"update", by decide⟩
    params := [(⟨"user", by decide⟩, [.word "User"])]
    result := [.word "User"]
    body :=
      { action := .fetchOne ⟨"User", by decide⟩
        sql := "UPDATE \"user\" SET name = $1 WHERE id = $2 RETURNING id, name"
        bindings :=
          [.field ⟨"user", by decide⟩ ⟨"Name", by decide⟩,
            .field ⟨"user", by decide⟩ ⟨"ID", by decide⟩] } }

theorem implementation?_userUpdate :
    implementation? users ⟨"User", by decide⟩ userUpdate = .ok (some updateFunction) := by
  rfl

/-- The update binds the name before the key, as its placeholders ask. -/
theorem holds_range_boundIn_userUpdate :
    boundIn updateFunction.body.code = [fieldArgument "user" "Name", fieldArgument "user" "ID"] ∧
      Holds updateFunction.body.sql [1, 2] := by
  obtain ⟨function, same, bound, holds, -⟩ :=
    holds_range_boundIn ofDecl_updateRepository (List.mem_singleton.mpr rfl) rfl
      implementation?_userUpdate (by decide +kernel) (by decide +kernel) (by decide)
  cases same
  exact ⟨bound, holds⟩

end Tablewright.Repository
