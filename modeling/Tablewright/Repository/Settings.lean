import Tablewright.Code.Lexeme
import Tablewright.Code.TypeExpr

/-!
# Repository settings

The types that generated repositories are built on, and the end of their names.  The end must make
an identifier of a name, and the types must be types; the end is judged first.
-/

namespace Tablewright

/-- Settings of repositories as configured. -/
structure RepositoryConfig where
  /-- Type of the connection pool. -/
  poolType : String := "sqlx::PgPool"
  /-- Type of errors. -/
  errorType : String := "sqlx::Error"
  /-- What is appended to a contract name to name its implementation. -/
  suffix : String := "Impl"
  deriving DecidableEq, Repr

/-- Settings of repositories, checked. -/
structure RepositorySettings where
  /-- Type of the connection pool. -/
  poolType : Code.TypeExpr
  /-- Type of errors. -/
  errorType : Code.TypeExpr
  /-- What is appended to a contract name to name its implementation. -/
  suffix : String

/-- A configured value that cannot stand in code. -/
structure RepositoryConfig.Defect where
  /-- Key of the value. -/
  key : String
  /-- The value. -/
  value : String
  deriving DecidableEq, Repr

/-- The defect in words. -/
def RepositoryConfig.Defect.message (defect : RepositoryConfig.Defect) : String :=
  "invalid `" ++ defect.key ++ "` in config: `" ++ defect.value ++ "` is not a Rust type"

namespace RepositorySettings

/-- The type that a configured value spells. -/
def checkedType
    (key value : String) : Except RepositoryConfig.Defect Code.TypeExpr :=
  match Code.TypeExpr.ofText? value with
  | some type => .ok type
  | none => .error { key, value }

/-- The settings that are configured. -/
def ofConfig (config : RepositoryConfig) : Except RepositoryConfig.Defect RepositorySettings := do
  if !Code.isName ("Repository" ++ config.suffix) then
    throw { key := "impl_suffix", value := config.suffix }
  let poolType ← checkedType "pool_type" config.poolType
  let errorType ← checkedType "error_type" config.errorType
  return { poolType, errorType, suffix := config.suffix }

end RepositorySettings
end Tablewright
