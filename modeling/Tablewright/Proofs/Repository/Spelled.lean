import Tablewright.Proofs.Contract.Names
import Tablewright.Repository.Implementation

/-!
# Names in repositories

The names that the implementation of a contract holds are those checked when the contract is
accepted, names that go on from them, and the name of the key where no field is declared as one.
Where all of these can be spelled, there is an implementation.
-/

namespace Tablewright

/-! ## Results that are there -/

/-- A computation succeeds, and something holds of its result. -/
def Yields
    {ε α : Type}
    (result : Except ε α)
    (holds : α → Prop) : Prop :=
  ∃ value, result = .ok value ∧ holds value

namespace Yields

variable {ε α β : Type} {result : Except ε α} {holds : α → Prop} {last : β → Prop}

theorem of_ok
    {value : α}
    (held : holds value) :
    Yields (.ok value : Except ε α) holds :=
  ⟨value, rfl, held⟩

theorem bind
    {next : α → Except ε β}
    (first : Yields result holds)
    (second : ∀ value, holds value → Yields (next value) last) :
    Yields (result >>= next) last := by
  obtain ⟨value, value_ok, held⟩ := first
  obtain ⟨final, final_ok, final_held⟩ := second value held
  exact ⟨final, bind_eq_ok_iff.mpr ⟨value, value_ok, final_ok⟩, final_held⟩

theorem map
    {step : α → β}
    (first : Yields result holds)
    (second : ∀ value, holds value → last (step value)) :
    Yields (step <$> result) last := by
  obtain ⟨value, value_ok, held⟩ := first
  exact ⟨step value, map_eq_ok_iff.mpr ⟨value, value_ok, rfl⟩, second value held⟩

theorem mono
    {other : α → Prop}
    (first : Yields result holds)
    (weaker : ∀ value, holds value → other value) :
    Yields result other := by
  obtain ⟨value, value_ok, held⟩ := first
  exact ⟨value, value_ok, weaker value held⟩

theorem mapM
    {step : α → Except ε β}
    {values : List α}
    (each : ∀ value ∈ values, Yields (step value) last) :
    Yields (values.mapM step) fun results => ∀ final ∈ results, last final := by
  induction values with
  | nil => exact of_ok nofun
  | cons value values ih =>
    rw [List.mapM_cons]
    refine (each value List.mem_cons_self).bind fun first first_held => ?_
    refine (ih fun value member => each value (List.mem_cons_of_mem _ member)).bind
      fun others others_held => ?_
    exact of_ok (List.forall_mem_cons.mpr ⟨first_held, others_held⟩)

end Yields

namespace Repository

open Code (Identifier Unspellable isSpelling)

/-! ## Names in code -/

/-- Names in the call that binds a value. -/
def Binding.names : Binding → List String
  | param name => [name.text]
  | field item name => [item.text, name.text]

/-- Names in what a function does with its statement. -/
def Action.names : Action → List String
  | fetchOne entity | fetchMany entity => [entity.text]
  | fetchScalar _ | execute => []

/-- Names in a function, its types left out. -/
def Function.names (function : Function) : List String :=
  function.name.text :: function.params.map (·.1.text) ++ function.body.action.names ++
    function.body.bindings.flatMap Binding.names

/-- Names in an implementation. -/
def Implementation.names (implementation : Implementation) : List String :=
  implementation.contract.text :: implementation.name.text ::
    implementation.functions.flatMap Function.names

/-! ## Allowed names -/

section

variable {Allowed : String → Prop} (spelled : ∀ name, Allowed name → isSpelling name.toList)
include spelled

theorem yields_ofName
    {name : String}
    (allowed : Allowed name) :
    Yields (Identifier.ofName name) (Allowed ·.text) := by
  rw [Identifier.ofName, dif_pos (spelled name allowed)]
  exact .of_ok allowed

theorem yields_signatureParams
    {params : List Param}
    (allowed : ∀ param ∈ params, Allowed param.name) :
    Yields (signatureParams params) fun pairs => ∀ pair ∈ pairs, Allowed pair.1.text := by
  apply Yields.mapM
  intro param member
  exact (yields_ofName spelled (allowed param member)).bind fun name held => .of_ok held

theorem yields_paramBindings
    {params : List Param}
    (allowed : ∀ param ∈ params, Allowed param.name) :
    Yields (paramBindings params) fun bindings =>
      ∀ binding ∈ bindings, ∀ name ∈ binding.names, Allowed name := by
  apply Yields.mapM
  intro param member
  refine (yields_ofName spelled (allowed param member)).map fun name held => ?_
  exact List.forall_mem_singleton.mpr held

theorem yields_fieldBindings
    {item : String}
    {fields : List String}
    (item_allowed : Allowed item)
    (allowed : ∀ field ∈ fields, Allowed field) :
    Yields (fieldBindings item fields) fun bindings =>
      ∀ binding ∈ bindings, ∀ name ∈ binding.names, Allowed name := by
  refine (yields_ofName spelled item_allowed).bind fun owner owner_held => ?_
  apply Yields.mapM
  intro field member
  refine (yields_ofName spelled (allowed field member)).map fun name held => ?_
  exact List.forall_mem_cons.mpr ⟨owner_held, List.forall_mem_singleton.mpr held⟩

/-- A function has the names of its method, its action and its bindings. -/
theorem yields_functionOf
    {method : Method}
    {outcome : Outcome}
    {bindings : Except Unspellable (List Binding)}
    (allowed : ∀ name ∈ method.checkedNames, Allowed name)
    (action_allowed : ∀ name ∈ outcome.action.names, Allowed name)
    (bound : Yields bindings fun bindings =>
      ∀ binding ∈ bindings, ∀ name ∈ binding.names, Allowed name)
    (sql : String) :
    Yields (functionOf method outcome sql bindings) fun function =>
      ∀ name ∈ function.names, Allowed name := by
  obtain ⟨name_allowed, params_allowed⟩ := List.forall_mem_cons.mp allowed
  rw [List.forall_mem_map] at params_allowed
  refine (yields_ofName spelled name_allowed).bind fun name name_held => ?_
  refine (yields_signatureParams spelled params_allowed).bind fun params params_held => ?_
  refine bound.bind fun bindings bindings_held => .of_ok ?_
  intro inner member
  simp only [Function.names, List.cons_append, List.mem_cons, List.mem_append, List.mem_map,
    List.mem_flatMap] at member
  rcases member with rfl | (⟨pair, found, rfl⟩ | action) | ⟨binding, found, inner_found⟩
  · exact name_held
  · exact params_held pair found
  · exact action_allowed inner action
  · exact bindings_held binding found inner inner_found

end

/-! ## Outcomes -/

section

variable {entity : Identifier} {name : String}

theorem names_rows
    (isSingle : Bool)
    (member : name ∈ (Outcome.rows entity isSingle).action.names) :
    name = entity.text := by
  cases isSingle <;> exact List.mem_singleton.mp member

theorem names_changed
    (isReturned : Bool)
    (member : name ∈ (Outcome.changed entity isReturned).action.names) :
    name = entity.text := by
  cases isReturned with
  | false => cases member
  | true => exact names_rows true member

theorem names_derivedOutcome
    {method : Method}
    {sql : String}
    (member : name ∈ (derivedOutcome entity method sql).action.names) :
    name = entity.text := by
  unfold derivedOutcome at member
  split at member
  · cases member
  · split at member
    · cases member
    · split at member
      · exact names_rows method.returnsSingle member
      · cases member

theorem names_customOutcome
    {method : Method}
    (member : name ∈ (customOutcome entity method).action.names) :
    name = entity.text := by
  unfold customOutcome at member
  split at member
  · cases member
  · split at member
    · exact names_rows method.returnsSingle member
    · cases member

end

/-! ## Implementations -/

section

variable {Allowed : String → Prop} {entity : Entity}

theorem allowed_of_mem_filter
    (fields_allowed : ∀ field ∈ entity.stored, Allowed field.name)
    (test : Field → Bool) :
    ∀ name ∈ (entity.stored.filter test).map (·.name), Allowed name := by
  intro name member
  obtain ⟨field, found, rfl⟩ := List.mem_map.mp member
  exact fields_allowed field (List.mem_of_mem_filter found)

/-- A key is named after its fields, or has a name of its own. -/
theorem allowed_of_mem_keyFields
    (fields_allowed : ∀ field ∈ entity.stored, Allowed field.name)
    (key_allowed : entity.primaryKey = [] → Allowed Entity.fallbackKey) :
    ∀ name ∈ entity.keyFields.map (·.1), Allowed name := by
  unfold Entity.keyFields
  split
  · next undeclared =>
    exact List.forall_mem_singleton.mpr (key_allowed (List.isEmpty_iff.mp undeclared))
  · rw [List.map_map]
    exact allowed_of_mem_filter fields_allowed _

variable (spelled : ∀ name, Allowed name → isSpelling name.toList)
include spelled

/-- A function for a method on an entity has the names of both. -/
theorem yields_some_functionOf
    {name : Identifier}
    {method : Method}
    {outcome : Outcome}
    {bindings : Except Unspellable (List Binding)}
    (name_allowed : Allowed name.text)
    (allowed : ∀ inner ∈ method.checkedNames, Allowed inner)
    (outcome_names : ∀ inner ∈ outcome.action.names, inner = name.text)
    (bound : Yields bindings fun bindings =>
      ∀ binding ∈ bindings, ∀ inner ∈ binding.names, Allowed inner)
    (sql : String) :
    Yields (some <$> functionOf method outcome sql bindings) fun result =>
      ∀ function ∈ result, ∀ inner ∈ function.names, Allowed inner := by
  have action_allowed : ∀ inner ∈ outcome.action.names, Allowed inner := by
    intro inner member
    rw [outcome_names inner member]
    exact name_allowed
  refine (yields_functionOf spelled allowed action_allowed bound sql).map fun function held => ?_
  rintro _ ⟨⟩
  exact held

/-- A method has a function or none; the names are those of the method, the entity and its fields,
and the name of the key where no field is declared as one. -/
theorem yields_implementation?
    {name : Identifier}
    {method : Method}
    (name_allowed : Allowed name.text)
    (fields_allowed : ∀ field ∈ entity.stored, Allowed field.name)
    (key_allowed : entity.primaryKey = [] → Allowed Entity.fallbackKey)
    (allowed : ∀ name ∈ method.checkedNames, Allowed name) :
    Yields (implementation? entity name method) fun result =>
      ∀ function ∈ result, ∀ name ∈ function.names, Allowed name := by
  have params_allowed : ∀ param ∈ method.params, Allowed param.name :=
    List.forall_mem_map.mp (List.forall_mem_cons.mp allowed).2
  have params_bound := yields_paramBindings spelled params_allowed
  have stored_allowed := allowed_of_mem_filter fields_allowed
  have missing : Yields (.ok none : Except Unspellable (Option Function)) fun result =>
      ∀ function ∈ result, ∀ name ∈ function.names, Allowed name := .of_ok nofun
  have made {outcome : Outcome} {sql : String} {bindings : Except Unspellable (List Binding)}
      (outcome_names : ∀ inner ∈ outcome.action.names, inner = name.text)
      (bound : Yields bindings fun bindings =>
        ∀ binding ∈ bindings, ∀ inner ∈ binding.names, Allowed inner) :=
    yields_some_functionOf spelled name_allowed allowed outcome_names bound sql
  unfold implementation?
  cases method.plan with
  | create =>
    cases params_eq : method.params with
    | nil => exact missing
    | cons item others =>
      rw [params_eq] at params_allowed
      exact made (fun _ => names_changed _)
        (yields_fieldBindings spelled (params_allowed item List.mem_cons_self) (stored_allowed _))
  | update =>
    cases params_eq : method.params with
    | nil => exact missing
    | cons item others =>
      rw [params_eq] at params_allowed
      have keys_allowed := allowed_of_mem_keyFields fields_allowed key_allowed
      refine made (fun _ => names_changed _)
        (yields_fieldBindings spelled (params_allowed item List.mem_cons_self) ?_)
      exact List.forall_mem_append.mpr ⟨stored_allowed _, keys_allowed⟩
  | getById => exact made (fun _ => names_rows _) params_bound
  | delete => exact made nofun params_bound
  | list => exact made (fun _ => names_rows _) (.of_ok nofun)
  | findBy => exact made (fun _ => names_rows _) params_bound
  | derived =>
    cases method.derivedSql with
    | none => exact missing
    | some sql => exact made (fun _ => names_derivedOutcome) params_bound
  | custom =>
    cases method.customSql with
    | none => exact missing
    | some sql => exact made (fun _ => names_customOutcome) params_bound

/-- A contract has an implementation if its names are allowed. -/
theorem yields_ofContract
    {settings : RepositorySettings}
    {contract : Contract}
    (allowed : ∀ name ∈ contract.checkedNames entity, Allowed name)
    (own_allowed : Allowed (contract.name ++ settings.suffix))
    (key_allowed : entity.primaryKey = [] → Allowed Entity.fallbackKey) :
    Yields (Implementation.ofContract settings entity contract) fun implementation =>
      ∀ name ∈ implementation.names, Allowed name := by
  have contract_allowed : Allowed contract.name := allowed _ (by simp [Contract.checkedNames])
  have entity_allowed : Allowed entity.name := allowed _ (by simp [Contract.checkedNames])
  have fields_allowed : ∀ field ∈ entity.stored, Allowed field.name := by
    intro field member
    refine allowed _ (List.mem_append_left _ ?_)
    exact List.mem_cons_of_mem _ (List.mem_cons_of_mem _ (List.mem_map_of_mem member))
  have methods_allowed : ∀ method ∈ contract.methods, ∀ name ∈ method.checkedNames,
      Allowed name := by
    intro method found name member
    exact allowed _ (List.mem_append_right _ (List.mem_flatMap_of_mem found member))
  refine (yields_ofName spelled entity_allowed).bind fun entityName entity_held => ?_
  refine (yields_ofName spelled contract_allowed).bind fun contractName contract_held => ?_
  refine (yields_ofName spelled own_allowed).bind fun name name_held => ?_
  refine (Yields.mapM fun method found => yields_implementation? spelled entity_held fields_allowed
    key_allowed (methods_allowed method found)).bind fun functions functions_held => .of_ok ?_
  refine List.forall_mem_cons.mpr ⟨contract_held, List.forall_mem_cons.mpr ⟨name_held, ?_⟩⟩
  intro inner member
  obtain ⟨function, found, inner_found⟩ := List.mem_flatMap.mp member
  obtain ⟨result, result_found, rfl⟩ := List.mem_filterMap.mp found
  exact functions_held _ result_found function rfl inner inner_found

end

end Repository

end Tablewright
