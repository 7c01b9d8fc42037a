import Tablewright.Relation.Basic
import Tablewright.Repository.Implementation

/-!
# Join queries in code

Every table of a join query has an alias, `t0` for the entity and `t1`, `t2`, … for the joined
ones.  Columns are selected under names that carry the alias, and each entity is rebuilt from its
columns field by field; fields that are not stored are filled in by default.
-/

namespace Tablewright

open Code (Identifier Unspellable)

namespace Relations

/-- Alias of the table at a position. -/
def tableAlias (position : Nat) : String :=
  "t" ++ toString position

/-- Name under which a column of the table at a position is selected. -/
def columnAlias
    (position : Nat)
    (column : String) : String :=
  tableAlias position ++ "_" ++ column

/-- A column of the table at a position. -/
def qualified
    (position : Nat)
    (column : String) : String :=
  tableAlias position ++ "." ++ column

/-- A table of a join query. -/
structure JoinedTable where
  /-- Its position. -/
  position : Nat
  /-- The entity that it stores. -/
  entity : Entity
  /-- The role of the entity. -/
  role : String
  /-- Pairs of a column of the first table and a column of this one; none for the first table. -/
  pairs : List (String × String)
  deriving DecidableEq, Repr

/-- Tables of a join query: the entity's own, then the joined ones. -/
def tables
    (relations : Relations)
    (query : JoinQuery) : List JoinedTable :=
  { position := 0, entity := relations.entity, role := relations.role, pairs := [] } ::
    (query.joins.zipIdx 1).map fun (join, position) =>
      { position, entity := join.related, role := join.role, pairs := join.pairs }

namespace JoinedTable

/-- The selected columns of a table. -/
def selected (table : JoinedTable) : List String :=
  table.entity.columns.map fun column =>
    qualified table.position column ++ " AS " ++ columnAlias table.position column

/-- The table with its alias. -/
def aliased (table : JoinedTable) : String :=
  table.entity.table ++ " " ++ tableAlias table.position

/-- The comparison of a pair of columns. -/
def comparison
    (table : JoinedTable)
    (pair : String × String) : String :=
  qualified 0 pair.1 ++ " = " ++ qualified table.position pair.2

/-- The clause that joins the table. -/
def joined (table : JoinedTable) : String :=
  " JOIN " ++ table.aliased ++ " ON " ++ " AND ".intercalate (table.pairs.map table.comparison)

end JoinedTable

/-- The conditions that pick the row of the entity. -/
def keyConditions (entity : Entity) : List Sql.Condition :=
  Sql.Condition.allEqual (entity.keyColumns.map (qualified 0)) 1

/-- The statement of a join query. -/
def sql
    (relations : Relations)
    (query : JoinQuery) : String :=
  let all := tables relations query
  Sql.selection (all.flatMap (·.selected)) (relations.entity.table ++ " " ++ tableAlias 0) ++
    String.join ((all.drop 1).map (·.joined)) ++ " WHERE " ++
    Sql.Condition.spelled (keyConditions relations.entity)

/-- A field read back from a row. -/
structure FieldRead where
  /-- The field. -/
  field : Identifier
  /-- Name under which its column was selected. -/
  column : String

/-- A value of an entity rebuilt from a row. -/
structure RowLiteral where
  /-- Name of the entity. -/
  entity : Identifier
  /-- Stored fields in order. -/
  fields : List FieldRead
  /-- Whether other fields are filled in by default. -/
  isCompleted : Bool

/-- A value of the entity of a table, rebuilt from a row. -/
def RowLiteral.ofTable (table : JoinedTable) : Except Unspellable RowLiteral := do
  let entity ← Identifier.ofName table.entity.name
  let fields ← table.entity.stored.mapM fun field => do
    let name ← Identifier.ofName field.name
    return { field := name, column := columnAlias table.position field.column : FieldRead }
  let isCompleted := table.entity.stored.length < table.entity.fields.length
  return { entity, fields, isCompleted }

/-- A field read back, as code. -/
def FieldRead.code (read : FieldRead) : Code :=
  read.field.code ++ Code.words [":", "sqlx", "::", "Row", "::", "try_get"] ++
    Code.parens (Code.words ["&", "row", ","] ++ [.literal (Code.quoted read.column)]) ++
    Code.words ["?"]

/-- A rebuilt value as code. -/
def RowLiteral.code (literal : RowLiteral) : Code :=
  literal.entity.code ++
    Code.braces
      ((literal.fields.flatMap fun read => read.code ++ Code.words [","]) ++
        (if literal.isCompleted then Code.words ["..", "Default", "::", "default"] ++ Code.parens []
        else []))

/-- The function of a join query and the structure of its result. -/
structure JoinFunction where
  /-- Name of the entity that the query belongs to. -/
  subject : String
  /-- Names of the joined entities. -/
  related : List String
  /-- Name of the result structure. -/
  result : Identifier
  /-- Name of the function. -/
  name : Identifier
  /-- Roles and rebuilt values, the entity's own first. -/
  parts : List (Identifier × RowLiteral)
  /-- Key parameters. -/
  params : List (Identifier × Code)
  /-- Its statement. -/
  sql : String
  /-- Values bound to the statement. -/
  bindings : List Repository.Binding

/-- The function of a join query. -/
def joinFunction
    (relations : Relations)
    (query : JoinQuery) : Except Unspellable JoinFunction := do
  let result ← Identifier.ofName query.name
  let name ← Identifier.ofName query.functionName
  let parts ← (tables relations query).mapM fun table => do
    let role ← Identifier.ofName table.role
    let literal ← RowLiteral.ofTable table
    return (role, literal)
  let params ← Repository.signatureParams relations.keys
  let bindings ← Repository.paramBindings relations.keys
  let subject := relations.entity.name
  let related := query.joins.map (·.related.name)
  return { subject, related, result, name, parts, params, sql := sql relations query, bindings }

/-- A name as documentation shows it. -/
def mentioned (name : String) : String :=
  "`" ++ name ++ "`"

/-- The result structure as code. -/
def JoinFunction.structureCode (function : JoinFunction) : Code :=
  Repository.documentation
      (Code.quoted (mentioned function.subject ++ " joined with " ++
        Sql.commas (function.related.map mentioned) ++ ".")) ++
    Code.words ["pub", "struct"] ++ function.result.code ++
    Code.braces (Code.separated (function.parts.map fun (role, literal) =>
      Code.words ["pub"] ++ role.code ++ Code.words [":"] ++ literal.entity.code))

/-- The function as code, given the type of errors. -/
def JoinFunction.code
    (error : Code)
    (function : JoinFunction) : Code :=
  Code.words ["pub", "async", "fn"] ++ function.name.code ++
    Repository.parameters function.params ++ Code.words ["->"] ++
    Repository.fallible function.result.code error ++
    Code.braces
      (Code.words ["let", "row", "=", "sqlx", "::", "query"] ++
        Code.parens [.literal (Code.quoted function.sql)] ++
        function.bindings.flatMap Repository.Binding.code ++ Code.words [".", "fetch_one"] ++
        Repository.poolArgument ++ Repository.awaited ++ Code.words [";"] ++
        Repository.succeeding (function.result.code ++
          Code.braces (Code.separated (function.parts.map fun (role, literal) =>
            role.code ++ Code.words [":"] ++ literal.code))))

/-- The code of all join queries of an entity. -/
structure JoinCode where
  /-- Name of the entity. -/
  subject : String
  /-- Name of the structure that holds the connection pool. -/
  name : Identifier
  /-- Functions in the order of the queries. -/
  functions : List JoinFunction

/-- The code of relations. -/
def JoinCode.ofRelations (relations : Relations) : Except Unspellable JoinCode := do
  let _ ← Identifier.ofName relations.entity.name
  let name ← Identifier.ofName (relations.entity.name ++ "Relations")
  let functions ← relations.queries.mapM (joinFunction relations)
  return { subject := relations.entity.name, name, functions }

/-- All join queries as code. -/
def JoinCode.code
    (settings : RepositorySettings)
    (joins : JoinCode) : Code :=
  joins.functions.flatMap (·.structureCode) ++
    Repository.documentation
      (Code.quoted ("Join queries over " ++ mentioned joins.subject ++
        " and the entities it references.")) ++
    Repository.poolStructure joins.name settings.poolType.code ++
    Code.words ["impl"] ++ joins.name.code ++
    Code.braces
      (Repository.constructor "Create a query set over a connection pool."
          settings.poolType.code ++
        joins.functions.flatMap (JoinFunction.code settings.errorType.code))

/-- Source text of the join queries of an entity. -/
def source
    (settings : RepositorySettings)
    (relations : Relations) : Except Unspellable String := do
  let joins ← JoinCode.ofRelations relations
  return (joins.code settings).text

end Relations
end Tablewright
