/-!
# Tables in TOML

A table is defined once: by a header of its own, by dotted keys, or as a value.  A longer header
implies the tables on its way, which may still be opened; dotted keys reach no table with a header
of its own, and nothing is added to a table that is a value.
-/

namespace Tablewright.Toml

/-- How a table came about. -/
inductive Origin where
  /-- By a longer header. -/
  | implied
  /-- By dotted keys. -/
  | dotted
  /-- By its own header. -/
  | opened
  /-- As a value. -/
  | closed
  deriving DecidableEq, Repr

/-- A value. -/
inductive Value where
  /-- A string. -/
  | text (value : String)
  /-- A whole number. -/
  | integer (value : Int)
  /-- A truth value. -/
  | flag (value : Bool)
  /-- Another number, or a date or time. -/
  | other
  /-- An array. -/
  | array (items : List Value)
  /-- A table with its entries in order. -/
  | table (origin : Origin) (entries : List (String × Value))

/-- Entries of a table in order. -/
abbrev Entries := List (String × Value)

namespace Entries

/-- The entries with the value of a key put in the place of the one there, or at the end. -/
def set
    (key : String)
    (value : Value) : Entries → Entries
  | [] => [(key, value)]
  | entry :: rest =>
    if entry.1 = key then (key, value) :: rest else entry :: set key value rest

/-- The entries with a value under a dotted key. -/
def assign : List String → Value → Entries → Option Entries
  | [], _, _ => none
  | [key], value, entries =>
    if (entries.lookup key).isSome then none else some (entries.set key value)
  | key :: next :: path, value, entries =>
    match entries.lookup key with
    | none =>
      (assign (next :: path) value []).map fun inner => entries.set key (.table .dotted inner)
    | some (.table origin inner) =>
      if origin = .dotted ∨ (origin = .implied ∧ path ≠ []) then
        (assign (next :: path) value inner).map fun inner => entries.set key (.table origin inner)
      else none
    | some _ => none

/-- The entries with a table opened by a header. -/
def openTable : List String → Entries → Option Entries
  | [], _ => none
  | [key], entries =>
    match entries.lookup key with
    | none => some (entries.set key (.table .opened []))
    | some (.table .implied inner) => some (entries.set key (.table .opened inner))
    | some _ => none
  | key :: next :: path, entries =>
    match entries.lookup key with
    | none =>
      (openTable (next :: path) []).map fun inner => entries.set key (.table .implied inner)
    | some (.table origin inner) =>
      if origin = .closed then none
      else (openTable (next :: path) inner).map fun inner => entries.set key (.table origin inner)
    | some _ => none

/-- The entries with a table on a path changed. -/
def changeAt
    (change : Entries → Option Entries) : List String → Entries → Option Entries
  | [], entries => change entries
  | key :: path, entries =>
    match entries.lookup key with
    | some (.table origin inner) =>
      (changeAt change path inner).map fun inner => entries.set key (.table origin inner)
    | _ => none

end Entries
end Tablewright.Toml
