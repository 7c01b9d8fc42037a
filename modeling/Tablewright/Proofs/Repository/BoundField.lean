import Tablewright.Proofs.Repository.Agreement

/-!
# Fields of bound values

A method that adds or changes a row binds fields of its first parameter, and each value belongs to
one column of the statement.  The field is the one that the column stores, unless the column is that
of a key that no field is declared as: then a field `id` is bound, whatever the field of the column
`id` is called.
-/

namespace Tablewright

/-! ## Slots of statements -/

namespace Sql

theorem slots_append
    (columns others : List String)
    (first : Nat) :
    slots (columns ++ others) first =
      slots columns first ++ slots others (columns.length + first) := by
  rw [slots, List.zipIdx_append, List.map_append, Nat.add_comm]
  rfl

/-- The slot whose value a condition compares its column with. -/
def Condition.slot? (condition : Condition) : Option Slot :=
  condition.position.map fun position => { column := condition.column, position }

theorem Condition.filterMap_slot?_allEqual
    (columns : List String)
    (first : Nat) :
    (allEqual columns first).filterMap slot? = slots columns first := by
  rw [allEqual, List.filterMap_map]
  exact List.filterMap_some

/-- Columns with the positions of the values that are put into them or compared with them, left to
right. -/
def Statement.slots : Statement → List Slot
  | insert _ columns _ => Sql.slots columns 1
  | update _ sets conditions _ => sets ++ conditions.filterMap Condition.slot?
  | delete _ conditions | select _ _ conditions _ | count _ conditions
  | existence _ conditions _ => conditions.filterMap Condition.slot?

/-- The slots of a statement have the positions of its values. -/
theorem Statement.map_position_slots (statement : Statement) :
    statement.slots.map (·.position) = statement.positions := by
  have of_conditions (conditions : List Condition) :
      (conditions.filterMap Condition.slot?).map (·.position) =
        Condition.positions conditions := by
    rw [List.map_filterMap, Condition.positions]
    refine List.filterMap_congr fun condition _ => ?_
    rw [Condition.slot?, Option.map_map]
    exact Option.map_id'
  cases statement with
  | insert table columns returning => exact Repository.positions_slots columns 1
  | update table sets conditions returning =>
    rw [slots, List.map_append, of_conditions, positions]
  | delete table conditions => exact of_conditions conditions
  | select columns table conditions window => exact of_conditions conditions
  | count table conditions => exact of_conditions conditions
  | existence table conditions window => exact of_conditions conditions

end Sql

namespace Repository

open Code (Identifier)
open Sql (Slot Statement)

/-! ## Fields and columns -/

/-- An argument is the field of an item that the column of a slot stores. -/
def Fills
    (entity : Entity)
    (item : String)
    (slot : Slot)
    (argument : Code) : Prop :=
  ∃ field ∈ entity.stored, field.column = slot.column ∧ argument = fieldArgument item field.name

theorem fieldArgument_inj
    {item field other : String} :
    fieldArgument item field = fieldArgument item other ↔ field = other := by
  simp [fieldArgument]

/-- Named fields of an item fill the slots of columns exactly if each of them is stored in its
column. -/
theorem forall₂_fills_iff
    {entity : Entity}
    {item : String}
    {pairs : List (String × String)}
    {first : Nat} :
    List.Forall₂ (Fills entity item) (Sql.slots (pairs.map (·.2)) first)
        ((pairs.map (·.1)).map (fieldArgument item)) ↔
      ∀ pair ∈ pairs, ∃ field ∈ entity.stored, field.column = pair.2 ∧ field.name = pair.1 := by
  induction pairs generalizing first with
  | nil => simp [Sql.slots]
  | cons pair pairs ih =>
    have slots_cons : Sql.slots ((pair :: pairs).map (·.2)) first =
        ⟨pair.2, first⟩ :: Sql.slots (pairs.map (·.2)) (first + 1) :=
      rfl
    rw [slots_cons, List.map_cons, List.map_cons, List.forall₂_cons, ih, List.forall_mem_cons]
    refine and_congr_left' ?_
    simp only [Fills, fieldArgument_inj, eq_comm (a := pair.1)]

/-- Names and columns of the fields that a method binds. -/
def boundPairs
    (entity : Entity)
    (method : Method) : List (String × String) :=
  match method.plan with
  | .create => (insertedFields entity).map fun field => (field.name, field.column)
  | .update => (entity.updatable.map fun field => (field.name, field.column)) ++ entity.keyFields
  | _ => []

/-- The statement of a method that adds or changes a row. -/
def rowStatement?
    (entity : Entity)
    (method : Method) : Option Statement :=
  match method.plan with
  | .create => some (insertion entity method.returnsEntity)
  | .update => some (change entity method.returnsEntity)
  | _ => none

variable {entity : Entity} {method : Method} {statement : Statement}

theorem rowStatement?_eq_some_iff :
    rowStatement? entity method = some statement ↔
      (method.plan = .create ∧ insertion entity method.returnsEntity = statement) ∨
        (method.plan = .update ∧ change entity method.returnsEntity = statement) := by
  unfold rowStatement?
  cases method.plan <;> simp

/-- The statement has the slots of the columns, in the order in which their fields are bound. -/
theorem slots_rowStatement (changes : rowStatement? entity method = some statement) :
    statement.slots = Sql.slots ((boundPairs entity method).map (·.2)) 1 := by
  rcases rowStatement?_eq_some_iff.mp changes with ⟨plan_eq, rfl⟩ | ⟨plan_eq, rfl⟩
  · simp only [boundPairs, plan_eq, insertion, Statement.slots, List.map_map, Function.comp_def]
  · simp only [boundPairs, plan_eq, change, Statement.slots,
      Sql.Condition.filterMap_slot?_allEqual, ← Sql.slots_append, List.map_append, List.map_map,
      Function.comp_def]

theorem boundArguments_eq
    {item : Param}
    {others : List Param}
    (changes : rowStatement? entity method = some statement)
    (params_eq : method.params = item :: others) :
    boundArguments entity method =
      ((boundPairs entity method).map (·.1)).map (fieldArgument item.name) := by
  rcases rowStatement?_eq_some_iff.mp changes with ⟨plan_eq, -⟩ | ⟨plan_eq, -⟩
  · simp only [boundArguments, boundPairs, plan_eq, params_eq, List.map_map, Function.comp_def]
  · simp only [boundArguments, boundPairs, plan_eq, params_eq, List.map_append, List.map_map,
      Function.comp_def]

theorem exists_field_of_mem_map
    {fields : List Field}
    {pair : String × String}
    (stored : fields ⊆ entity.stored)
    (member : pair ∈ fields.map fun field => (field.name, field.column)) :
    ∃ field ∈ entity.stored, field.column = pair.2 ∧ field.name = pair.1 := by
  obtain ⟨field, found, rfl⟩ := List.mem_map.mp member
  exact ⟨field, stored found, rfl, rfl⟩

/-- The key fields are stored in their columns exactly if they are declared or a field is called
`id`. -/
theorem forall_keyFields_iff :
    (∀ pair ∈ entity.keyFields,
        ∃ field ∈ entity.stored, field.column = pair.2 ∧ field.name = pair.1) ↔
      entity.primaryKey ≠ [] ∨ ∃ field ∈ entity.stored, field.name = "id" := by
  unfold Entity.keyFields
  split
  · next undeclared =>
    rw [List.isEmpty_iff] at undeclared
    simp only [undeclared, ne_eq, not_true_eq_false, false_or, List.forall_mem_singleton]
    refine exists_congr fun field => and_congr_right fun _ => and_iff_right_of_imp fun named => ?_
    rw [Field.column, named]
    decide +kernel
  · next declared =>
    rw [List.isEmpty_iff] at declared
    refine iff_of_true ?_ (.inl declared)
    exact fun pair => exists_field_of_mem_map (List.filter_subset_self _)

/-- The bound fields are stored in their columns exactly if a row is added, or the key fields
are. -/
theorem forall_boundPairs_iff (changes : rowStatement? entity method = some statement) :
    (∀ pair ∈ boundPairs entity method,
        ∃ field ∈ entity.stored, field.column = pair.2 ∧ field.name = pair.1) ↔
      method.plan = .create ∨ entity.primaryKey ≠ [] ∨
        ∃ field ∈ entity.stored, field.name = "id" := by
  rcases rowStatement?_eq_some_iff.mp changes with ⟨plan_eq, -⟩ | ⟨plan_eq, -⟩
  · rw [boundPairs, plan_eq]
    refine iff_of_true ?_ (.inl rfl)
    exact fun pair => exists_field_of_mem_map (List.filter_subset_self _)
  · simp only [boundPairs, plan_eq, reduceCtorEq, false_or]
    rw [List.forall_mem_append, forall_keyFields_iff]
    exact and_iff_right fun pair => exists_field_of_mem_map (List.filter_subset_self _)

/-- An accepted method that adds or changes a row follows a convention that binds fields. -/
theorem exists_follows_of_rowStatement
    {decl : ContractDecl}
    {contract : Contract}
    (built : Contract.ofDecl entity decl = .ok contract)
    (member : method ∈ contract.methods)
    (changes : rowStatement? entity method = some statement) :
    ∃ convention fields, method.Follows entity convention ∧
      boundFields? entity convention = some fields ∧
      statementOf entity method.returnsEntity convention = statement := by
  rcases rowStatement?_eq_some_iff.mp changes with ⟨plan_eq, same⟩ | ⟨plan_eq, same⟩
  · exact ⟨.create, _, follows_of_plan_eq built member rfl plan_eq, rfl, same⟩
  · exact ⟨.update, _, follows_of_plan_eq built member rfl plan_eq, rfl, same⟩

/-- The function of an accepted method that adds or changes a row binds one value for each slot of
its statement, in their order.  Each value is the field of the first parameter that the column of
the slot stores exactly if the method adds a row, the key is declared, or a field is called `id`. -/
theorem forall₂_fills_boundIn_iff
    {decl : ContractDecl}
    {contract : Contract}
    {name : Identifier}
    {result : Option Function}
    (built : Contract.ofDecl entity decl = .ok contract)
    (member : method ∈ contract.methods)
    (changes : rowStatement? entity method = some statement)
    (made : implementation? entity name method = .ok result) :
    ∃ function item others, result = some function ∧ method.params = item :: others ∧
      function.body.sql = statement.text ∧
      statement.slots.map (·.position) =
        List.range' 1 (boundIn function.body.code).length ∧
      (List.Forall₂ (Fills entity item.name) statement.slots (boundIn function.body.code) ↔
        method.plan = .create ∨ entity.primaryKey ≠ [] ∨
          ∃ field ∈ entity.stored, field.name = "id") := by
  obtain ⟨convention, fields, follows, some_fields, statement_eq⟩ :=
    exists_follows_of_rowStatement built member changes
  obtain ⟨function, result_eq, implements⟩ := implements_of_follows follows made
  obtain ⟨item, others, params_eq⟩ := exists_param_of_follows follows some_fields
  have bound : boundIn function.body.code = boundArguments entity method := by
    rw [Body.boundIn_code implements.fetches, map_argument_of_binds follows implements.binds]
  refine ⟨function, item, others, result_eq, params_eq, ?_, ?_, ?_⟩
  · rw [implements.sql_eq, statement_eq]
  · rw [bound, length_boundArguments follows, Statement.map_position_slots, ← statement_eq,
      positions_statementOf follows]
  · rw [bound, boundArguments_eq changes params_eq, slots_rowStatement changes,
      forall₂_fills_iff, forall_boundPairs_iff changes]

/-- The update of users binds the fields that its columns store, though they are called
otherwise. -/
theorem forall₂_fills_boundIn_userUpdate :
    List.Forall₂ (Fills users "user") [⟨"name", 1⟩, ⟨"id", 2⟩]
      (boundIn updateFunction.body.code) := by
  obtain ⟨function, item, others, same, params_eq, -, -, fills⟩ :=
    forall₂_fills_boundIn_iff ofDecl_updateRepository (List.mem_singleton.mpr rfl) rfl
      implementation?_userUpdate
  cases same
  cases params_eq
  exact fills.mpr (.inr (.inl (by decide)))

/-! ## Logs without a declared key -/

/-- A record of logs, none of whose fields is declared as the key. -/
def logDecl : RecordDecl :=
  { name := "Log", fields := [⟨"ID", "i64", ""⟩, ⟨"Text", "String", ""⟩] }

/-- The record as it is accepted. -/
def logs : Entity :=
  Entity.ofFields "Log" (logDecl.fields.map Field.ofDecl) ""

/-- A repository of logs with an update. -/
def logRepository : ContractDecl :=
  { name := "LogRepository"
    entity := "Log"
    methods := [{ name := "Update", params := [⟨"item", "&Log"⟩] }] }

/-- The update as it is accepted. -/
def logUpdate : Method :=
  { name := "Update"
    plan := .update
    params :=
      [{ name := "item"
         type :=
           { text := "&Log"
             code := [.mark '&' false, .word "Log"]
             shape := .reference (.named "Log") } }]
    returnsSingle := false
    returnsEntity := true
    scalarReturn := none }

/-- The function of the update, named like the one of users. -/
def logFunction : Function :=
  { name := updateFunction.name
    params := [(⟨"item", by decide⟩, [.mark '&' false, .word "Log"])]
    result := [.word "Log"]
    body :=
      { action := .fetchOne ⟨"Log", by decide⟩
        sql := "UPDATE \"log\" SET text = $1 WHERE id = $2 RETURNING id, text"
        bindings :=
          [.field ⟨"item", by decide⟩ ⟨"Text", by decide⟩,
            .field ⟨"item", by decide⟩ ⟨"id", by decide⟩] } }

/-- The field of the column `id` is called otherwise, and the update binds one that no log has. -/
theorem not_forall₂_fills_logUpdate :
    Entity.ofDecl logDecl = .ok logs ∧ logs.columns = ["id", "text"] ∧
      Contract.ofDecl logs logRepository =
        .ok { name := "LogRepository", entity := "Log", methods := [logUpdate] } ∧
      rowStatement? logs logUpdate = some (change logs true) ∧
      implementation? logs ⟨"Log", by decide⟩ logUpdate = .ok (some logFunction) ∧
      (change logs true).slots = [⟨"text", 1⟩, ⟨"id", 2⟩] ∧
      boundIn logFunction.body.code = [fieldArgument "item" "Text", fieldArgument "item" "id"] ∧
      ¬ List.Forall₂ (Fills logs "item") (change logs true).slots
          (boundIn logFunction.body.code) := by
  have slots_eq : (change logs true).slots = [⟨"text", 1⟩, ⟨"id", 2⟩] := by decide +kernel
  have bound_eq : boundIn logFunction.body.code =
      [fieldArgument "item" "Text", fieldArgument "item" "id"] :=
    rfl
  have called_otherwise : ∀ field ∈ logs.stored, field.name ≠ "id" := by decide +kernel
  refine ⟨rfl, by decide +kernel, rfl, rfl, rfl, slots_eq, bound_eq, ?_⟩
  rw [slots_eq, bound_eq, List.forall₂_cons, List.forall₂_cons]
  rintro ⟨-, ⟨field, member, -, same⟩, -⟩
  exact called_otherwise field member (fieldArgument_inj.mp same).symm

end Repository
end Tablewright
