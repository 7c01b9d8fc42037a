import Tablewright.Text.Blank
import Tablewright.Text.CaseMap

/-!
# Referential actions

What happens to child rows when the row they reference changes.  Tags spell an action with
underscores, SQL with spaces; a tag may use either case and leave the separators out.
-/

namespace Tablewright

/-- An action on the rows that reference a changed row. -/
inductive ReferentialAction where
  | cascade
  | setNull
  | setDefault
  | restrict
  | noAction
  deriving DecidableEq, Repr, Inhabited

namespace ReferentialAction

/-- Spelling in a tag. -/
def tagSpelling : ReferentialAction → String
  | cascade => "CASCADE"
  | setNull => "SET_NULL"
  | setDefault => "SET_DEFAULT"
  | restrict => "RESTRICT"
  | noAction => "NO_ACTION"

/-- Spelling in SQL. -/
def sqlSpelling : ReferentialAction → String
  | cascade => "CASCADE"
  | setNull => "SET NULL"
  | setDefault => "SET DEFAULT"
  | restrict => "RESTRICT"
  | noAction => "NO ACTION"

/-- Letters of a spelling in lower case, blanks at the ends, spaces and underscores removed. -/
def letters (cs : List Char) : List Char :=
  (Text.lower (Text.trim cs)).filter fun c => c ≠ ' ' && c ≠ '_'

/-- The action that a text spells. -/
def ofChars? (cs : List Char) : Option ReferentialAction :=
  let key := letters cs
  if key = "cascade".toList then some cascade
  else if key = "setnull".toList then some setNull
  else if key = "setdefault".toList then some setDefault
  else if key = "restrict".toList then some restrict
  else if key = "noaction".toList then some noAction
  else none

/-- The action that a string spells. -/
def ofText? (s : String) : Option ReferentialAction :=
  ofChars? s.toList

/-- Every action is read back from its spelling in a tag. -/
@[simp] theorem ofText?_tagSpelling (action : ReferentialAction) :
    ofText? action.tagSpelling = some action := by
  cases action <;> decide

end ReferentialAction
end Tablewright
