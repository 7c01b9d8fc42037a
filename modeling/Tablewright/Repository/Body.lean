import Tablewright.Code.Identifier
import Tablewright.Code.Quoted
import Tablewright.Code.Token
import Tablewright.Contract.Basic

/-!
# Function bodies

A generated function runs one statement: it binds values, fetches rows or none, and returns what it
fetched.  Every failure of the database is passed on.
-/

namespace Tablewright

namespace Code.Identifier

/-- The identifier as code. -/
def code (name : Identifier) : Code :=
  [.word name.text]

end Code.Identifier

namespace Repository

open Code (Identifier Unspellable)

/-- A value bound to a placeholder. -/
inductive Binding where
  /-- A parameter. -/
  | param (name : Identifier)
  /-- A field of the first parameter. -/
  | field (item name : Identifier)

/-- The call that binds the value. -/
def Binding.code : Binding → Code
  | param name => Code.words [".", "bind"] ++ Code.parens name.code
  | field item name =>
    Code.words [".", "bind"] ++ Code.parens (Code.words ["&"] ++ item.code ++ Code.words ["."] ++
      name.code)

/-- Bindings of parameters, in order. -/
def paramBindings (params : List Param) : Except Unspellable (List Binding) :=
  params.mapM fun param => Binding.param <$> Identifier.ofName param.name

/-- Bindings of the fields of an item, in order. -/
def fieldBindings
    (item : String)
    (fields : List String) : Except Unspellable (List Binding) := do
  let item ← Identifier.ofName item
  fields.mapM fun field => Binding.field item <$> Identifier.ofName field

/-- What a function does with its statement. -/
inductive Action where
  /-- Fetches one row as an entity. -/
  | fetchOne (entity : Identifier)
  /-- Fetches all rows as entities. -/
  | fetchMany (entity : Identifier)
  /-- Fetches one value. -/
  | fetchScalar (type : Code)
  /-- Fetches nothing. -/
  | execute

/-- The body of a function. -/
structure Body where
  /-- What it does. -/
  action : Action
  /-- Its statement. -/
  sql : String
  /-- Values bound to the statement. -/
  bindings : List Binding

/-- The reference to the connection pool. -/
def poolArgument : Code :=
  Code.parens (Code.words ["&", "self", ".", "pool"])

/-- The end of a call that waits for the database and passes failures on. -/
def awaited : Code :=
  Code.words [".", "await", "?"]

/-- The successful result with the given value. -/
def succeeding (value : Code) : Code :=
  Code.words ["Ok"] ++ Code.parens value

/-- The body as code. -/
def Body.code (body : Body) : Code :=
  let sql : Code := Code.parens [.literal (Code.quoted body.sql)]
  let bindings := body.bindings.flatMap Binding.code
  match body.action with
  | .fetchOne entity =>
    Code.words ["let", "item", ":"] ++ entity.code ++
      Code.words ["=", "sqlx", "::", "query_as"] ++ sql ++ bindings ++
      Code.words [".", "fetch_one"] ++ poolArgument ++ awaited ++ Code.words [";"] ++
      succeeding (Code.words ["item"])
  | .fetchMany entity =>
    Code.words ["let", "mut", "rows", "=", "sqlx", "::", "query_as", "::", "<", "_", ","] ++
      entity.code ++ Code.words [">"] ++ sql ++ bindings ++ Code.words [".", "fetch"] ++
      poolArgument ++ Code.words [";", "let", "mut", "items", "=", "Vec", "::", "new"] ++
      Code.parens [] ++ Code.words [";", "while", "let", "Some"] ++
      Code.parens (Code.words ["item"]) ++
      Code.words ["=", "futures", "::", "TryStreamExt", "::", "try_next"] ++
      Code.parens (Code.words ["&", "mut", "rows"]) ++ awaited ++
      Code.braces (Code.words ["items", ".", "push"] ++ Code.parens (Code.words ["item"]) ++
        Code.words [";"]) ++
      succeeding (Code.words ["items"])
  | .fetchScalar type =>
    Code.words ["let", "value", ":"] ++ type ++
      Code.words ["=", "sqlx", "::", "query_scalar"] ++ sql ++ bindings ++
      Code.words [".", "fetch_one"] ++ poolArgument ++ awaited ++ Code.words [";"] ++
      succeeding (Code.words ["value"])
  | .execute =>
    Code.words ["sqlx", "::", "query"] ++ sql ++ bindings ++ Code.words [".", "execute"] ++
      poolArgument ++ awaited ++ Code.words [";"] ++ succeeding (Code.parens [])

end Repository
end Tablewright
