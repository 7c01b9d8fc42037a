import Mathlib.Data.List.Basic
import Tablewright.Proofs.Entity.Outline
import Tablewright.Relation.Code

/-!
# Relations of outlines

The relations of an outline within a batch of outlines are the outline of the relations, and their
code is the same.
-/

namespace Tablewright

open Code (Identifier)
open Entity (name_outline stored_outline bareTable_outline)

/-- A join that leads to an outline. -/
def Join.outline (join : Join) : Join :=
  { join with related := join.related.outline }

/-- A query along joins to outlines. -/
def JoinQuery.outline (query : JoinQuery) : JoinQuery :=
  { query with joins := query.joins.map Join.outline }

namespace Relations

/-- Relations of an outline with outlines. -/
def outline (relations : Relations) : Relations :=
  { relations with
    entity := relations.entity.outline
    joins := relations.joins.map Join.outline }

/-- A link that leads to an outline. -/
def outlineLink (link : ResolvedLink) : ResolvedLink :=
  (link.1, link.2.outline)

/-! ## Joins -/

theorem keyFields_outline (entity : Entity) : keyFields entity.outline = keyFields entity := by
  simp only [keyFields, Entity.keyColumns_outline, stored_outline]

theorem target?_outline
    (entities : List Entity)
    (link : Link) :
    target? (entities.map Entity.outline) link = (target? entities link).map Entity.outline := by
  rw [target?, target?, List.find?_map]
  rfl

theorem resolved_outline
    (entity : Entity)
    (entities : List Entity) :
    resolved entity.outline (entities.map Entity.outline) =
      (resolved entity entities).map outlineLink := by
  rw [resolved, resolved, Entity.links_outline, List.map_filterMap]
  apply List.filterMap_congr
  intro link _
  rw [target?_outline, Option.map_map, Option.map_map]
  rfl

theorem isShared_outline
    (links : List ResolvedLink)
    (table : String) :
    isShared (links.map outlineLink) table = isShared links table := by
  rw [isShared, isShared, List.countP_map]
  rfl

theorem resultName_outline
    (entity : Entity)
    (links : List ResolvedLink)
    (link : ResolvedLink) :
    resultName entity.outline (links.map outlineLink) (outlineLink link) =
      resultName entity links link := by
  rw [resultName, resultName, isShared_outline]
  rfl

theorem joinsFrom_outline
    (entity : Entity)
    (all links : List ResolvedLink)
    (taken : List String)
    (position : Nat) :
    joinsFrom entity.outline (all.map outlineLink) taken position (links.map outlineLink) =
      (joinsFrom entity all taken position links).map Join.outline := by
  induction links generalizing taken position with
  | nil => rfl
  | cons link links ih =>
    rw [List.map_cons, joinsFrom, joinsFrom, resultName_outline, List.map_cons, ← ih]
    rfl

/-! ## Queries -/

theorem firstJoins_outline (joins : List Join) :
    firstJoins (joins.map Join.outline) = (firstJoins joins).map Join.outline := by
  let choose (chosen : List Join) (join : Join) : List Join :=
    if chosen.any fun other => other.related.bareTable = join.related.bareTable then chosen
    else chosen ++ [join]
  have step (chosen : List Join) (join : Join) :
      choose (chosen.map Join.outline) join.outline = (choose chosen join).map Join.outline := by
    have same : ((chosen.map Join.outline).any fun other =>
        other.related.bareTable = join.outline.related.bareTable) =
          chosen.any fun other => other.related.bareTable = join.related.bareTable := by
      rw [List.any_map]
      rfl
    simp only [choose, same]
    split
    · rfl
    · rw [List.map_append, List.map_singleton]
  have fold (chosen : List Join) :
      (joins.map Join.outline).foldl choose (chosen.map Join.outline) =
        (joins.foldl choose chosen).map Join.outline := by
    induction joins generalizing chosen with
    | nil => rfl
    | cons join joins ih => rw [List.map_cons, List.foldl_cons, List.foldl_cons, step, ih]
  exact fold []

theorem queries_outline (relations : Relations) :
    relations.outline.queries = relations.queries.map JoinQuery.outline := by
  have combined : firstJoins relations.outline.joins =
      (firstJoins relations.joins).map Join.outline :=
    firstJoins_outline relations.joins
  have single : relations.outline.joins.map (fun join => JoinQuery.mk join.name [join]) =
      (relations.joins.map fun join => JoinQuery.mk join.name [join]).map JoinQuery.outline := by
    rw [outline, List.map_map, List.map_map]
    rfl
  rw [queries, queries, single, combined, List.length_map, List.map_append]
  split
  · rfl
  · rfl

theorem names_outline (relations : Relations) : relations.outline.names = relations.names := by
  have joined : (relations.outline.joins.flatMap fun join =>
      join.role :: join.related.name :: join.related.stored.map (·.name)) =
        relations.joins.flatMap fun join =>
          join.role :: join.related.name :: join.related.stored.map (·.name) := by
    rw [outline, List.flatMap_map]
    simp only [Join.outline, stored_outline, name_outline]
  have queried : (relations.outline.queries.flatMap fun query => [query.functionName, query.name]) =
      relations.queries.flatMap fun query => [query.functionName, query.name] := by
    rw [queries_outline, List.flatMap_map]
    rfl
  have stored : relations.outline.entity.stored = relations.entity.stored :=
    stored_outline relations.entity
  rw [names, names, joined, queried, stored]
  rfl

/-- The relations of an outline are the outline of the relations. -/
theorem ofEntity_outline
    (entity : Entity)
    (entities : List Entity) :
    ofEntity entity.outline (entities.map Entity.outline) =
      (ofEntity entity entities).map (Option.map outline) := by
  rw [ofEntity, ofEntity, keyFields_outline, resolved_outline, name_outline, List.isEmpty_map]
  dsimp only
  rw [joinsFrom_outline]
  split
  · rfl
  cases (keyFields entity).mapM keyParam with
  | error defect => rfl
  | ok keys =>
    let relations : Relations :=
      { entity
        role := Text.snakeCase entity.name
        keys
        joins := joinsFrom entity (resolved entity entities) [Text.snakeCase entity.name] 1
          (resolved entity entities) }
    change (do checkNames relations.outline.names; return some relations.outline) =
      Except.map (Option.map outline) (do checkNames relations.names; return some relations)
    rw [names_outline]
    cases checkNames relations.names with
    | error defect => rfl
    | ok passed => rfl

/-! ## Code -/

/-- A table that stores an outline. -/
def JoinedTable.outline (table : JoinedTable) : JoinedTable :=
  { table with entity := table.entity.outline }

theorem tables_outline
    (relations : Relations)
    (query : JoinQuery) :
    tables relations.outline query.outline = (tables relations query).map JoinedTable.outline := by
  rw [tables, tables, JoinQuery.outline, List.map_cons, List.zipIdx_map, List.map_map, List.map_map]
  rfl

theorem RowLiteral.ofTable_outline (table : JoinedTable) :
    ofTable table.outline = ofTable table := by
  have length_lt : (table.entity.stored.length < table.entity.outline.fields.length) =
      (table.entity.stored.length < table.entity.fields.length) :=
    propext (Entity.length_stored_lt_outline table.entity)
  simp only [ofTable, JoinedTable.outline, name_outline, stored_outline, length_lt]

theorem selected_outline (table : JoinedTable) : table.outline.selected = table.selected := by
  simp only [JoinedTable.selected, JoinedTable.outline, Entity.columns_outline]

theorem sql_outline
    (relations : Relations)
    (query : JoinQuery) :
    sql relations.outline query.outline = sql relations query := by
  have selected : ((tables relations query).map JoinedTable.outline).flatMap (·.selected) =
      (tables relations query).flatMap (·.selected) := by
    rw [List.flatMap_map]
    simp only [selected_outline]
  have joined : (((tables relations query).map JoinedTable.outline).drop 1).map (·.joined) =
      ((tables relations query).drop 1).map (·.joined) := by
    rw [← List.map_drop, List.map_map]
    rfl
  have conditions : keyConditions relations.outline.entity = keyConditions relations.entity := by
    rw [keyConditions, keyConditions, outline, Entity.keyColumns_outline]
  rw [sql, sql, tables_outline, selected, joined, conditions]
  rfl

theorem joinFunction_outline
    (relations : Relations)
    (query : JoinQuery) :
    joinFunction relations.outline query.outline = joinFunction relations query := by
  have related : query.outline.joins.map (·.related.name) =
      query.joins.map (·.related.name) := by
    rw [JoinQuery.outline, List.map_map]
    rfl
  have parts : ((tables relations query).map JoinedTable.outline).mapM (fun table => do
      let role ← Identifier.ofName table.role
      let literal ← RowLiteral.ofTable table
      return (role, literal)) =
        (tables relations query).mapM (fun table => do
          let role ← Identifier.ofName table.role
          let literal ← RowLiteral.ofTable table
          return (role, literal)) := by
    rw [List.mapM_map]
    simp only [Function.comp_def, RowLiteral.ofTable_outline]
    rfl
  rw [joinFunction, joinFunction, tables_outline, parts, sql_outline, related]
  rfl

/-- Relations have the same source as their outline. -/
theorem source_outline
    (settings : RepositorySettings)
    (relations : Relations) :
    relations.outline.source settings = relations.source settings := by
  have code : JoinCode.ofRelations relations.outline = JoinCode.ofRelations relations := by
    have functions :
        joinFunction relations.outline ∘ JoinQuery.outline = joinFunction relations := by
      funext query
      exact joinFunction_outline relations query
    rw [JoinCode.ofRelations, JoinCode.ofRelations, queries_outline, List.mapM_map, functions]
    rfl
  rw [source, source, code]

end Relations

end Tablewright
