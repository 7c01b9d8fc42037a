import Tablewright.Contract.Basic
import Tablewright.Entity.View
import Tablewright.Query.MethodName

/-!
# Naming conventions

What the name of a method without a statement of its own says about it: one of the fixed names, a
lookup by fields, or a query.
-/

namespace Tablewright

/-- What a method name asks for. -/
inductive Convention where
  | create
  | getById
  | update
  | delete
  | list
  | findBy (fields : List String)
  | query (query : Query)
  deriving DecidableEq, Repr

namespace Convention

/-- Names between the occurrences of `And`, given the open one last character first. -/
def namesAfter (back : List Char) : List Char → List (List Char)
  | 'A' :: 'n' :: 'd' :: rest => back.reverse :: namesAfter [] rest
  | c :: rest => namesAfter (c :: back) rest
  | [] => [back.reverse]

/-- The fields that a text lists, with `And` between them. -/
def listedFields (cs : List Char) : List String :=
  ((namesAfter [] cs).filter (!·.isEmpty)).map String.ofList

/-- The text after `FindBy`. -/
def lookup? (name : String) : Option (List Char) :=
  if "FindBy".toList.isPrefixOf name.toList then some (name.toList.drop 6) else none

/-- The columns that a lookup names, if all of them exist; the whole text may be one column. -/
def knownFields?
    (entity : Entity)
    (cs : List Char) : Option (List String) :=
  let columns := entity.columns
  let isColumn (name : String) : Bool := columns.contains (Text.snakeCase name)
  let fields := listedFields cs
  if isColumn (String.ofList cs) then some [String.ofList cs]
  else if !fields.isEmpty && fields.all isColumn then some fields
  else none

/-- Names that always ask for the same. -/
def fixed? (name : String) : Option Convention :=
  if name = "Create" then some create
  else if name = "GetByID" || name = "GetById" || name = "Get" then some getById
  else if name = "Update" then some update
  else if name = "Delete" then some delete
  else if name = "List" || name = "ListAll" then some list
  else none

/-- What a name asks for on an entity.  A lookup by known columns comes before a query, and a
query before a lookup by anything else. -/
def ofName?
    (entity : Entity)
    (name : String) : Option Convention :=
  match fixed? name with
  | some convention => some convention
  | none =>
    match (lookup? name).bind (knownFields? entity) with
    | some fields => some (.findBy fields)
    | none =>
      match Query.ofName? name with
      | some found => some (.query found)
      | none =>
        ((lookup? name).filter (!·.isEmpty)).map fun cs => .findBy (listedFields cs)

/-- The plan that a convention leads to. -/
def plan : Convention → Plan
  | create => .create
  | getById => .getById
  | update => .update
  | delete => .delete
  | list => .list
  | findBy _ => .findBy
  | query _ => .derived

/-- The fields that a convention looks rows up by. -/
def fields : Convention → List String
  | findBy fields => fields
  | _ => []

/-- The statement that a convention derives from the name. -/
def derivedSql? (entity : Entity) : Convention → Option String
  | query found => some (found.statement entity.table entity.columns).text
  | _ => none

/-- Whether rows are removed, so that none can be returned. -/
def removes : Convention → Bool
  | delete => true
  | query found => found.shape = .deletion
  | _ => false

/-- Number of parameters that a convention asks for, and whether more are allowed. -/
def expectedParams (entity : Entity) : Convention → Nat × Bool
  | create | update => (1, true)
  | getById | delete => (entity.keyColumns.length, false)
  | list => (0, false)
  | findBy fields => (fields.length, false)
  | query found => (found.valueCount, false)

/-- Whether a number of parameters is what a convention asks for. -/
def accepts
    (convention : Convention)
    (entity : Entity)
    (count : Nat) : Bool :=
  let (expected, mayExceed) := convention.expectedParams entity
  if mayExceed then expected ≤ count else expected = count

end Convention
end Tablewright
