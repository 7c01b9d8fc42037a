import Tablewright.Repository.Settings
import Tablewright.Schema.Basic
import Tablewright.Toml.Document

/-!
# Configuration

Settings of schema and repositories.  Every setting has a default; a key that names no setting, or
a value of another kind than its setting, makes the whole configuration malformed.
-/

namespace Tablewright

/-- Settings of the schema as configured. -/
structure SchemaConfig where
  /-- Length of character columns; zero stores strings as text. -/
  varcharLength : Nat := 255
  /-- Whether definitions pass over what is already there. -/
  ifNotExists : Bool := false
  deriving DecidableEq, Repr

/-- The settings that are configured. -/
def SchemaConfig.settings (config : SchemaConfig) : SchemaSettings :=
  { stringLength := if 0 < config.varcharLength then some config.varcharLength else none
    ifNotExists := config.ifNotExists }

/-- A configuration. -/
structure Config where
  /-- Settings of the schema. -/
  schema : SchemaConfig := {}
  /-- Settings of repositories. -/
  repository : RepositoryConfig := {}
  deriving DecidableEq, Repr

namespace Config

/-- Why there is no configuration. -/
inductive Fault where
  /-- There is no text. -/
  | unreadable
  /-- The text describes no configuration. -/
  | malformed
  deriving DecidableEq, Repr

/-- A setting: its key, and how its value is stored. -/
structure Setting (α : Type) where
  /-- The key. -/
  key : String
  /-- The settings with the value stored, if it is of the right kind. -/
  store : α → Toml.Value → Option α

/-- Numbers that settings hold are below this one. -/
def numberBound : Nat := Nat.pow 2 32

/-- The string that a value is. -/
def text? : Toml.Value → Option String
  | .text value => some value
  | _ => none

/-- The truth value that a value is. -/
def flag? : Toml.Value → Option Bool
  | .flag value => some value
  | _ => none

/-- The number that a value is, if it is neither negative nor too large. -/
def number? : Toml.Value → Option Nat
  | .integer value => if 0 ≤ value ∧ value < numberBound then some value.toNat else none
  | _ => none

/-- Settings stored one after another. -/
def storeAll
    {α : Type}
    (settings : α)
    (values : List (Setting α × Toml.Value)) : Option α :=
  values.foldlM (fun settings (setting, value) => setting.store settings value) settings

/-- Settings given by a value: a table with known keys only, or an array of the values in order. -/
def fill
    {α : Type}
    (known : List (Setting α))
    (settings : α) : Toml.Value → Option α
  | .table _ entries => do
    let values ← entries.mapM fun (key, value) => do
      let setting ← known.find? (·.key = key)
      some (setting, value)
    storeAll settings values
  | .array items => storeAll settings (known.zip items)
  | _ => none

/-- Settings of the schema. -/
def schemaSettings : List (Setting SchemaConfig) :=
  [{ key := "varchar_length"
     store := fun config value =>
      (number? value).map fun varcharLength => { config with varcharLength } },
    { key := "if_not_exists"
      store := fun config value =>
        (flag? value).map fun ifNotExists => { config with ifNotExists } }]

/-- Settings of repositories. -/
def repositorySettings : List (Setting RepositoryConfig) :=
  [{ key := "pool_type"
     store := fun config value => (text? value).map fun poolType => { config with poolType } },
    { key := "error_type"
      store := fun config value => (text? value).map fun errorType => { config with errorType } },
    { key := "impl_suffix"
      store := fun config value => (text? value).map fun suffix => { config with suffix } }]

/-- Groups of settings. -/
def groups : List (Setting Config) :=
  [{ key := "schema"
     store := fun config value =>
      (fill schemaSettings {} value).map fun schema => { config with schema } },
    { key := "repository"
      store := fun config value =>
        (fill repositorySettings {} value).map fun repository => { config with repository } }]

/-- The configuration that a text describes. -/
def ofText (text : String) : Except Fault Config :=
  match (Toml.document? text).bind (fill groups {}) with
  | some config => .ok config
  | none => .error .malformed

/-- The configuration that the bytes of a file describe, if there is a file. -/
def ofBytes (bytes : Option ByteArray) : Except Fault Config :=
  match bytes.bind String.fromUTF8? with
  | some text => ofText text
  | none => .error .unreadable

end Config
end Tablewright
