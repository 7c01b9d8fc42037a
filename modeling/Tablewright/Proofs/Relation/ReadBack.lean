import Tablewright.Proofs.Relation.Coverage
import Tablewright.Proofs.Relation.Key
import Tablewright.Proofs.Relation.Names
import Tablewright.Proofs.Repository.Agreement
import Tablewright.Proofs.Repository.DistinctColumns

/-!
# What join queries read back

A join query selects every column of its tables under a name that carries the number of the table,
and rebuilds the entities by reading these names.  The row is picked by the key: each key column is
compared with one placeholder, for which one parameter is bound.
-/

namespace Tablewright

open Code (Identifier isSpelling)
open Sql (Condition Holds Plain numerals)

namespace Relations

/-! ## Names of selected columns -/

/-- Columns of a table, each with the name under which it is selected. -/
def JoinedTable.aliases (table : JoinedTable) : List (String × String) :=
  table.entity.columns.map fun column =>
    (qualified table.position column, columnAlias table.position column)

/-- Columns that a join query selects, each with its name, in order. -/
def aliases
    (relations : Relations)
    (query : JoinQuery) : List (String × String) :=
  (tables relations query).flatMap (·.aliases)

/-- Conditions without connectors are joined by AND. -/
theorem spelled_eq_intercalate
    {conditions : List Condition}
    (unconnected : ∀ condition ∈ conditions, condition.connector = none) :
    Condition.spelled conditions =
      " AND ".intercalate (conditions.map (·.spelling)) := by
  have keyword : " " ++ Sql.Connector.and.keyword ++ " " = " AND " := by decide
  induction conditions with
  | nil => rfl
  | cons condition conditions ih =>
    obtain ⟨here, later⟩ := List.forall_mem_cons.mp unconnected
    cases conditions with
    | nil => rw [Condition.spelled, List.map_singleton, String.intercalate_singleton]
    | cons next conditions =>
      have rest := ih later
      rw [List.map_cons] at rest
      rw [Condition.spelled_cons_cons, here, Option.getD_none, keyword, rest, List.map_cons,
        List.map_cons, String.intercalate_cons_cons, String.append_assoc]

/-- The conditions that pick the row of an entity: each key column is compared with a
placeholder. -/
def keyComparisons (entity : Entity) : String :=
  " AND ".intercalate ((entity.keyColumns.zipIdx 1).map fun (column, position) =>
    qualified 0 column ++ " = " ++ Sql.placeholder position)

theorem spelled_keyConditions (entity : Entity) :
    Condition.spelled (keyConditions entity) = keyComparisons entity := by
  have unconnected : ∀ condition ∈ keyConditions entity, condition.connector = none := by
    intro condition member
    obtain ⟨slot, -, rfl⟩ := List.mem_map.mp member
    rfl
  rw [spelled_eq_intercalate unconnected, keyConditions, Condition.allEqual, Sql.slots,
    List.zipIdx_map, List.map_map, List.map_map, List.map_map, keyComparisons]
  refine congrArg _ (List.map_congr_left fun pair _ => ?_)
  have sign : " " ++ Sql.Operator.eq.keyword ++ " " = " = " := by decide
  change qualified 0 pair.1 ++ " " ++ Sql.Operator.eq.keyword ++ " " ++ Sql.placeholder pair.2 =
    qualified 0 pair.1 ++ " = " ++ Sql.placeholder pair.2
  simp only [← sign, String.append_assoc]

/-- The clause that joins the table at a position: columns of the first table are related to columns
of this one. -/
def joinClause
    (join : Join)
    (position : Nat) : String :=
  " JOIN " ++ join.related.table ++ " " ++ tableAlias position ++ " ON " ++
    " AND ".intercalate (join.pairs.map fun (column, target) =>
      qualified 0 column ++ " = " ++ qualified position target)

/-- A join query selects columns under their names, joins the tables of its joins, and compares the
key with placeholders. -/
theorem sql_eq
    (relations : Relations)
    (query : JoinQuery) :
    sql relations query =
      "SELECT " ++ Sql.commas ((aliases relations query).map fun (column, name) =>
        column ++ " AS " ++ name) ++
      " FROM " ++ relations.entity.table ++ " " ++ tableAlias 0 ++
      String.join ((query.joins.zipIdx 1).map fun (join, position) => joinClause join position) ++
      " WHERE " ++ keyComparisons relations.entity := by
  have selected_eq : (tables relations query).flatMap (·.selected) =
      (aliases relations query).map fun (column, name) => column ++ " AS " ++ name := by
    rw [aliases, List.map_flatMap]
    refine List.flatMap_congr fun table _ => ?_
    rw [JoinedTable.selected, JoinedTable.aliases, List.map_map]
    rfl
  have joined_eq : ((tables relations query).drop 1).map (·.joined) =
      (query.joins.zipIdx 1).map fun (join, position) => joinClause join position := by
    rw [tables, List.drop_one, List.tail_cons, List.map_map]
    refine List.map_congr_left fun pair _ => ?_
    rw [Function.comp_apply, JoinedTable.joined, JoinedTable.aliased, ← String.append_assoc,
      ← String.append_assoc]
    rfl
  rw [sql, selected_eq, joined_eq, spelled_keyConditions, Sql.selection, ← String.append_assoc,
    ← String.append_assoc]

/-! ## Placeholders -/

end Relations

/-! ## Keys -/

namespace Entity

variable {entity : Entity} {link : Link} {pair : String × String}

end Entity

namespace Relations

section

variable {entity : Entity} {entities : List Entity} {relations : Relations}
  (made : ofEntity entity entities = .ok (some relations))
include made

end

/-! ## Functions of join queries -/

end Relations
end Tablewright
