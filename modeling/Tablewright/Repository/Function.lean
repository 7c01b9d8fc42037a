import Tablewright.Contract.Building
import Tablewright.Repository.Body

/-!
# Functions

The function that implements a method of a contract: its signature and its body.  A method whose
plan lacks what it needs, an item or a statement, has no function.
-/

namespace Tablewright.Repository

open Code (Identifier Unspellable)

/-- A generated function. -/
structure Function where
  /-- Its name. -/
  name : Identifier
  /-- Its parameters, the receiver left out. -/
  params : List (Identifier × Code)
  /-- Type of its value when it succeeds. -/
  result : Code
  /-- Its body. -/
  body : Body

/-- A parameter as code. -/
def parameter (param : Identifier × Code) : Code :=
  param.1.code ++ Code.words [":"] ++ param.2

/-- The receiver and the parameters of a function, in parentheses. -/
def parameters (params : List (Identifier × Code)) : Code :=
  Code.parens (Code.words ["&", "self", ","] ++ Code.separated (params.map parameter))

/-- The type of a result that may be an error. -/
def fallible
    (value error : Code) : Code :=
  Code.words ["Result", "<"] ++ value ++ Code.words [","] ++ error ++ Code.words [">"]

/-- The function as code, given the type of errors. -/
def Function.code
    (error : Code)
    (function : Function) : Code :=
  Code.words ["async", "fn"] ++ function.name.code ++ parameters function.params ++
    Code.words ["->"] ++ fallible function.result error ++ Code.braces function.body.code

/-- The type of nothing. -/
def unitType : Code :=
  Code.parens []

/-- The type of one entity, or of a collection of them. -/
def entityType
    (entity : Identifier)
    (isSingle : Bool) : Code :=
  if isSingle then entity.code else Code.words ["Vec", "<"] ++ entity.code ++ Code.words [">"]

/-- Names and types of parameters. -/
def signatureParams (params : List Param) : Except Unspellable (List (Identifier × Code)) :=
  params.mapM fun param => do
    let name ← Identifier.ofName param.name
    return (name, param.type.code)

/-- What a statement does with its rows, and the type of the function's value. -/
structure Outcome where
  /-- What is done. -/
  action : Action
  /-- Type of the value. -/
  result : Code

namespace Outcome

/-- Nothing is returned. -/
def none : Outcome := { action := .execute, result := unitType }

/-- One value of a scalar type is returned. -/
def scalar (type : Code) : Outcome := { action := .fetchScalar type, result := type }

/-- One entity is returned, or a collection of them. -/
def rows
    (entity : Identifier)
    (isSingle : Bool) : Outcome :=
  { action := if isSingle then .fetchOne entity else .fetchMany entity
    result := entityType entity isSingle }

/-- The changed entity is returned, or nothing. -/
def changed
    (entity : Identifier)
    (isReturned : Bool) : Outcome :=
  if isReturned then rows entity true else none

end Outcome

/-- Whether a text occurs in another. -/
def occurs
    (pattern text : String) : Bool :=
  (Query.firstIndex? pattern.toList text.toList).isSome

/-- The outcome of a statement derived from a method name, as its text shows it. -/
def derivedOutcome
    (entity : Identifier)
    (method : Method)
    (sql : String) : Outcome :=
  if occurs "COUNT(*)" sql then .scalar (Code.words ["i64"])
  else if occurs "EXISTS(" sql then .scalar (Code.words ["bool"])
  else if method.returnsEntity then .rows entity method.returnsSingle
  else .none

/-- The outcome of a statement attached to a method. -/
def customOutcome
    (entity : Identifier)
    (method : Method) : Outcome :=
  match method.scalarReturn with
  | some type => .scalar type.code
  | none => if method.returnsEntity then .rows entity method.returnsSingle else .none

/-! ## Statements of the fixed plans -/

/-- Fields that a new row is given values for. -/
def insertedFields (entity : Entity) : List Field :=
  entity.stored.filter fun field => some field.name ≠ entity.identity?.map (·.name)

/-- Columns that a changing statement returns. -/
def returning
    (entity : Entity)
    (isReturned : Bool) : Option (List String) :=
  if isReturned then some entity.columns else none

/-- The statement that adds a row. -/
def insertion
    (entity : Entity)
    (isReturned : Bool) : Sql.Statement :=
  .insert entity.table ((insertedFields entity).map (·.column)) (returning entity isReturned)

/-- The statement that changes the row with a key. -/
def change
    (entity : Entity)
    (isReturned : Bool) : Sql.Statement :=
  let columns := entity.updatable.map (·.column)
  .update entity.table (Sql.slots columns 1)
    (Sql.Condition.allEqual (entity.keyFields.map (·.2)) (columns.length + 1))
    (returning entity isReturned)

/-- The statement that fetches the row with a key. -/
def lookup (entity : Entity) : Sql.Statement :=
  .select entity.columns entity.table (Sql.Condition.allEqual entity.keyColumns 1) {}

/-- The statement that removes the row with a key. -/
def removal (entity : Entity) : Sql.Statement :=
  .delete entity.table (Sql.Condition.allEqual entity.keyColumns 1)

/-- The statement that fetches all rows in the order of the key. -/
def listing (entity : Entity) : Sql.Statement :=
  .select entity.columns entity.table [] { order := some (Sql.commas entity.keyColumns) }

/-- The statement that fetches the rows in which fields have given values. -/
def search
    (entity : Entity)
    (fields : List String) : Sql.Statement :=
  .select entity.columns entity.table (Sql.Condition.allEqual (fields.map Text.snakeCase) 1) {}

/-! ## Functions of methods -/

/-- The function of a method with its statement, outcome and bindings. -/
def functionOf
    (method : Method)
    (outcome : Outcome)
    (sql : String)
    (bindings : Except Unspellable (List Binding)) : Except Unspellable Function := do
  let name ← Identifier.ofName method.functionName
  let params ← signatureParams method.params
  let bindings ← bindings
  let body := { action := outcome.action, sql, bindings }
  return { name, params, result := outcome.result, body }

/-- The function that implements a method, if there is one. -/
def implementation?
    (entity : Entity)
    (name : Identifier)
    (method : Method) : Except Unspellable (Option Function) :=
  let params := paramBindings method.params
  let changing (statement : Sql.Statement) (fields : List String) :=
    match method.params with
    | [] => .ok none
    | item :: _ =>
      some <$> functionOf method (.changed name method.returnsEntity) statement.text
        (fieldBindings item.name fields)
  match method.plan with
  | .create =>
    changing (insertion entity method.returnsEntity) ((insertedFields entity).map (·.name))
  | .update =>
    changing (change entity method.returnsEntity)
      (entity.updatable.map (·.name) ++ entity.keyFields.map (·.1))
  | .getById => some <$> functionOf method (.rows name true) (lookup entity).text params
  | .delete => some <$> functionOf method .none (removal entity).text params
  | .list => some <$> functionOf method (.rows name false) (listing entity).text (.ok [])
  | .findBy =>
    some <$> functionOf method (.rows name method.returnsSingle)
      (search entity method.findByFields).text params
  | .derived =>
    match method.derivedSql with
    | none => .ok none
    | some sql => some <$> functionOf method (derivedOutcome name method sql) sql params
  | .custom =>
    match method.customSql with
    | none => .ok none
    | some sql => some <$> functionOf method (customOutcome name method) sql params

end Tablewright.Repository
