import Tablewright.Repository.Function
import Tablewright.Repository.Settings

/-!
# Implementations

The implementation of a contract: a structure that holds the connection pool, a way to make one,
and a function for each method.
-/

namespace Tablewright.Repository

open Code (Identifier Unspellable)

/-- The implementation of a contract. -/
structure Implementation where
  /-- Name of the contract. -/
  contract : Identifier
  /-- Name of the structure. -/
  name : Identifier
  /-- Functions in the order of the methods. -/
  functions : List Function

/-- The implementation of a contract for its entity. -/
def Implementation.ofContract
    (settings : RepositorySettings)
    (entity : Entity)
    (contract : Contract) : Except Unspellable Implementation := do
  let entityName ← Identifier.ofName entity.name
  let contractName ← Identifier.ofName contract.name
  let name ← Identifier.ofName (contract.name ++ settings.suffix)
  let functions ← contract.methods.mapM (implementation? entity entityName)
  return { contract := contractName, name, functions := functions.filterMap id }

/-- An attribute that documents what follows it. -/
def documentation (literal : String) : Code :=
  Code.words ["#"] ++ Code.brackets (Code.words ["doc", "="] ++ [.literal literal])

/-- A structure that holds the connection pool. -/
def poolStructure
    (name : Identifier)
    (pool : Code) : Code :=
  Code.words ["pub", "struct"] ++ name.code ++ Code.braces (Code.words ["pool", ":"] ++ pool)

/-- The function that makes a structure from a connection pool, with its documentation. -/
def constructor
    (documented : String)
    (pool : Code) : Code :=
  documentation ("r\" " ++ documented ++ "\"") ++ Code.words ["pub", "fn", "new"] ++
    Code.parens (Code.words ["pool", ":"] ++ pool) ++ Code.words ["->", "Self"] ++
    Code.braces (Code.words ["Self"] ++ Code.braces (Code.words ["pool"]))

/-- The implementation as code. -/
def Implementation.code
    (settings : RepositorySettings)
    (implementation : Implementation) : Code :=
  documentation (Code.quoted ("`" ++ implementation.contract.text ++ "` backed by PostgreSQL.")) ++
    poolStructure implementation.name settings.poolType.code ++
    Code.words ["impl"] ++ implementation.name.code ++
    Code.braces (constructor "Create a repository over a connection pool."
      settings.poolType.code) ++
    Code.words ["#"] ++ Code.brackets (Code.words ["async_trait", "::", "async_trait"]) ++
    Code.words ["impl"] ++ implementation.contract.code ++ Code.words ["for"] ++
    implementation.name.code ++
    Code.braces (implementation.functions.flatMap (Function.code settings.errorType.code))

/-- Source text of the implementation of a contract. -/
def source
    (settings : RepositorySettings)
    (entity : Entity)
    (contract : Contract) : Except Unspellable String := do
  let implementation ← Implementation.ofContract settings entity contract
  return (implementation.code settings).text

end Tablewright.Repository
