import Tablewright.Proofs.Query.Numbering
import Tablewright.Proofs.Repository.Selection

/-!
# Numbers of bound values

The positions of the statement of a convention are those from one to the number of values that the
convention binds, left to right.
-/

namespace Tablewright.Repository

open Code (Identifier Unspellable)
open Sql (Condition Plain Slot Statement)

/-! ## Positions -/

theorem positions_slots (columns : List String) (first : Nat) :
    (Sql.slots columns first).map (·.position) = List.range' first columns.length := by
  rw [Sql.slots, List.map_map]
  exact List.zipIdx_map_snd first columns

theorem positions_allEqual (columns : List String) (first : Nat) :
    Condition.positions (Condition.allEqual columns first) =
      List.range' first columns.length := by
  rw [← positions_slots, Condition.positions, Condition.allEqual, List.filterMap_map]
  exact congrFun List.filterMap_eq_map _

/-- The number of values that a convention binds. -/
def valueCount
    (entity : Entity)
    (convention : Convention) : Nat :=
  match boundFields? entity convention with
  | some fields => fields.length
  | none => (convention.expectedParams entity).1

/-- The conditions of a described query are numbered from one on. -/
theorem positions_of_ofName?
    {name : String}
    {query : Query}
    (described : Query.ofName? name = some query) :
    Condition.positions (query.conditions.map (·.toCondition)) =
      List.range' 1 query.valueCount := by
  obtain ⟨-, -, -, conditions_eq, -⟩ := Query.described_of_ofName? described
  unfold Query.valueCount
  rw [conditions_eq, Query.conditionsOf]
  split
  · rfl
  · exact Query.positions_numbered 1 _

/-- The values of a statement are numbered from one on, left to right. -/
theorem positions_statementOf
    {entity : Entity}
    {method : Method}
    {convention : Convention}
    (follows : method.Follows entity convention)
    (isReturned : Bool) :
    (statementOf entity isReturned convention).positions =
      List.range' 1 (valueCount entity convention) := by
  cases convention with
  | create =>
    simp only [statementOf, insertion, Statement.positions, valueCount, boundFields?,
      List.length_map]
  | update =>
    simp only [statementOf, change, Statement.positions, valueCount, boundFields?,
      positions_slots, positions_allEqual, List.length_map, List.length_append]
    rw [Nat.add_comm _ 1]
    exact List.range'_append_1
  | getById =>
    simp only [statementOf, lookup, Statement.positions, positions_allEqual]
    rfl
  | delete =>
    simp only [statementOf, removal, Statement.positions, positions_allEqual]
    rfl
  | list => rfl
  | findBy fields =>
    simp only [statementOf, search, Statement.positions, positions_allEqual, List.length_map]
    rfl
  | query found =>
    have numbered := positions_of_ofName? (ofName?_of_named follows.named)
    rw [statementOf, Query.statement]
    cases found.shape <;> exact numbered

/-! ## Names -/

section

variable {entity : Entity} {method : Method} {convention : Convention}

theorem column_of_mem_slots
    {columns : List String}
    {first : Nat}
    {slot : Slot}
    (member : slot ∈ Sql.slots columns first) :
    slot.column ∈ columns := by
  obtain ⟨⟨column, position⟩, found, rfl⟩ := List.mem_map.mp member
  exact List.fst_mem_of_mem_zipIdx found

theorem isPlain_of_mem_allEqual
    {columns : List String}
    {first : Nat}
    (plain : ∀ column ∈ columns, Plain column) :
    ∀ condition ∈ Condition.allEqual columns first, condition.IsPlain := by
  intro condition member
  obtain ⟨slot, found, rfl⟩ := List.mem_map.mp member
  exact ⟨plain slot.column (column_of_mem_slots found), fun _ => rfl⟩

/-- Columns of stored fields that pass a test are columns of the entity. -/
theorem mem_columns_of_mem_filter
    {column : String}
    {test : Field → Bool}
    (member : column ∈ (entity.stored.filter test).map (·.column)) :
    column ∈ entity.columns := by
  obtain ⟨field, found, rfl⟩ := List.mem_map.mp member
  exact List.mem_map_of_mem (List.mem_of_mem_filter found)

theorem plain_keyColumns
    (plain : ∀ column ∈ entity.columns, Plain column) :
    ∀ column ∈ entity.keyColumns, Plain column := by
  intro column member
  unfold Entity.keyColumns at member
  split at member
  · rw [List.mem_singleton.mp member]
    decide
  · exact plain column (mem_columns_of_mem_filter member)

theorem map_keyFields (entity : Entity) : entity.keyFields.map (·.2) = entity.keyColumns := by
  unfold Entity.keyFields Entity.keyColumns
  split
  · rfl
  · rw [List.map_map]
    rfl

theorem plain_of_mem_returning
    (plain : ∀ column ∈ entity.columns, Plain column)
    (isReturned : Bool) :
    ∀ columns ∈ returning entity isReturned, ∀ column ∈ columns, Plain column := by
  intro columns found
  unfold returning at found
  split at found
  · cases found
    exact plain
  · cases found

theorem plain_of_named_findBy
    {fields : List String}
    (named : Convention.ofName? entity method.name = some (.findBy fields))
    (plain : Plain method.name) :
    ∀ column ∈ fields.map Text.snakeCase, Plain column := by
  intro column member
  obtain ⟨field, found, rfl⟩ := List.mem_map.mp member
  exact Query.plain_snakeCase_of_subset plain (Convention.subset_of_mem_fields named found)

theorem isPlain_of_ofName?
    {query : Query}
    (described : Query.ofName? method.name = some query)
    (table_plain : Plain entity.table)
    (columns_plain : ∀ column ∈ entity.columns, Plain column)
    (name_plain : Plain method.name) :
    (query.statement entity.table entity.columns).IsPlain := by
  obtain ⟨-, -, -, conditions_eq, order_eq, -⟩ := Query.described_of_ofName? described
  have conditions_plain : ∀ condition ∈ query.conditions.map (·.toCondition),
      condition.IsPlain := by
    intro condition member
    obtain ⟨named, found, rfl⟩ := List.mem_map.mp member
    rw [conditions_eq] at found
    exact Query.isPlain_of_mem_conditionsOf name_plain found
  have order_plain : ∀ order ∈ query.order, Plain order := by
    intro order found
    rw [order_eq] at found
    exact Query.plain_of_orderOf name_plain found
  have selected_plain : ∀ column ∈ (if entity.columns.isEmpty then ["*"] else entity.columns),
      Plain column := by
    split
    · intro column member
      rw [List.mem_singleton.mp member]
      decide
    · exact columns_plain
  unfold Query.statement
  cases query.shape with
  | count => exact ⟨table_plain, conditions_plain⟩
  | existence => exact ⟨table_plain, conditions_plain, order_plain⟩
  | deletion => exact ⟨table_plain, conditions_plain⟩
  | many => exact ⟨table_plain, selected_plain, conditions_plain, order_plain⟩
  | single => exact ⟨table_plain, selected_plain, conditions_plain, order_plain⟩

/-- The statement of a convention is plain if the table, the columns and the name are. -/
theorem isPlain_statementOf
    (follows : method.Follows entity convention)
    (table_plain : Plain entity.table)
    (columns_plain : ∀ column ∈ entity.columns, Plain column)
    (name_plain : Plain method.name)
    (isReturned : Bool) :
    (statementOf entity isReturned convention).IsPlain := by
  have keys_plain := plain_keyColumns columns_plain
  have returning_plain := plain_of_mem_returning columns_plain isReturned
  have no_order : ∀ order ∈ (none : Option String), Plain order := nofun
  cases convention with
  | create =>
    refine ⟨table_plain, ?_, returning_plain⟩
    exact fun column member => columns_plain column (mem_columns_of_mem_filter member)
  | update =>
    refine ⟨table_plain, ?_, ?_, returning_plain⟩
    · intro slot member
      exact columns_plain _ (mem_columns_of_mem_filter (column_of_mem_slots member))
    · rw [map_keyFields]
      exact isPlain_of_mem_allEqual keys_plain
  | getById =>
    exact ⟨table_plain, columns_plain, isPlain_of_mem_allEqual keys_plain, no_order⟩
  | delete => exact ⟨table_plain, isPlain_of_mem_allEqual keys_plain⟩
  | list =>
    refine ⟨table_plain, columns_plain, nofun, ?_⟩
    intro order order_eq
    cases order_eq
    exact Sql.plain_commas keys_plain
  | findBy fields =>
    exact ⟨table_plain, columns_plain,
      isPlain_of_mem_allEqual (plain_of_named_findBy follows.named name_plain), no_order⟩
  | query found =>
    exact isPlain_of_ofName? (ofName?_of_named follows.named) table_plain columns_plain name_plain

end

end Tablewright.Repository
