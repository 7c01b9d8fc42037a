import Tablewright.Code.TypeExpr

/-!
# Contracts

A repository contract whose methods are known to be implementable, and the reasons why a declared
contract may not be one.
-/

namespace Tablewright

/-- A parameter of a generated function. -/
structure Param where
  /-- Parameter name. -/
  name : String
  /-- Parameter type. -/
  type : Code.TypeExpr

/-- How a method is implemented. -/
inductive Plan where
  /-- A new row. -/
  | create
  /-- The row with a key. -/
  | getById
  /-- A change of the row with a key. -/
  | update
  /-- The removal of the row with a key. -/
  | delete
  /-- All rows in the order of the key. -/
  | list
  /-- The rows in which fields have given values. -/
  | findBy
  /-- The statement derived from the method name. -/
  | derived
  /-- The statement attached to the method. -/
  | custom
  deriving DecidableEq, Repr

/-- A method of a contract. -/
structure Method where
  /-- Method name in Pascal case. -/
  name : String
  /-- How it is implemented. -/
  plan : Plan
  /-- Parameters in order. -/
  params : List Param
  /-- Whether one value is returned rather than a collection. -/
  returnsSingle : Bool
  /-- Whether the entity, or a collection of it, is returned. -/
  returnsEntity : Bool
  /-- Type of a scalar result. -/
  scalarReturn : Option Code.TypeExpr
  /-- Fields that rows are looked up by. -/
  findByFields : List String := []
  /-- Statement attached to the method. -/
  customSql : Option String := none
  /-- Statement derived from the method name. -/
  derivedSql : Option String := none

/-- A repository contract. -/
structure Contract where
  /-- Contract name. -/
  name : String
  /-- Name of the entity that it serves. -/
  entity : String
  /-- Methods in order. -/
  methods : List Method

/-- Why a contract, or the join queries of an entity, cannot be implemented. -/
inductive Contract.Defect where
  /-- No entity has the name that the contract gives. -/
  | unknownEntity (contract entity : String)
  /-- The contract names another entity than the one at hand. -/
  | entityMismatch (contract expected found : String)
  /-- A name is no identifier. -/
  | invalidName (name : String)
  /-- A type as written is none. -/
  | invalidType (type : String)
  /-- A method has no statement, and its name describes none. -/
  | unresolvedMethod (method : String)
  /-- A method cannot report an error. -/
  | infallibleMethod (method : String)
  /-- An update finds no column outside the key. -/
  | nothingToUpdate (method entity : String)
  /-- A method has more or fewer parameters than its statement binds. -/
  | paramCount (method : String) (expected found : Nat)
  deriving DecidableEq, Repr

/-- The defect in words. -/
def Contract.Defect.message : Contract.Defect → String
  | unknownEntity contract entity =>
    "contract `" ++ contract ++ "` targets unknown entity `" ++ entity ++ "`"
  | entityMismatch contract expected found =>
    "contract `" ++ contract ++ "` targets `" ++ expected ++ "` but was given `" ++ found ++ "`"
  | invalidName name => "`" ++ name ++ "` is not a valid Rust identifier"
  | invalidType type => "`" ++ type ++ "` is not a valid Rust type"
  | unresolvedMethod method =>
    "method `" ++ method ++ "` has no SQL and its name does not describe a query"
  | infallibleMethod method => "method `" ++ method ++ "` must return a result"
  | nothingToUpdate method entity =>
    "method `" ++ method ++ "` has nothing to update: every column of `" ++ entity ++ "` is a key"
  | paramCount method expected found =>
    "method `" ++ method ++ "` expects " ++ toString expected ++ " parameter(s), found " ++
      toString found

end Tablewright
