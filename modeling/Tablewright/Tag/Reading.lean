import Tablewright.Tag.Segment
import Tablewright.Tag.Token
import Tablewright.Text.Affix

/-!
# Reading a tag

A segment that states a token is a head.  A value that may hold commas takes the segments after it
up to the next head; a segment that no value takes is unrecognized, or skipped when blank.  Reading
never fails.
-/

namespace Tablewright.Tag

/-- What a head states. -/
inductive Head where
  /-- A token without a value. -/
  | bare (token : Token)
  /-- A key and the beginning of its value. -/
  | keyed (key : Key) (value : List Char)

/-- The token that a text without a value states. -/
def bareToken? (cs : List Char) : Option Token :=
  if cs = "pk".toList then some .primaryKey
  else if cs = "unique".toList then some .unique
  else if cs = "-".toList then some .ignore
  else if cs = "index".toList then some (.index false none)
  else if cs = "unique_index".toList then some (.index true none)
  else none

/-- The head that a segment is, if any. -/
def head? (segment : List Char) : Option Head :=
  let text := Text.trim segment
  match bareToken? text with
  | some token => some (.bare token)
  | none => Key.all.findSome? fun key =>
      (Text.afterPrefix? key.spelling.toList text).map (.keyed key)

/-- Trimmed parts of a list, the blank ones dropped. -/
def valuesOf (parts : List (List Char)) : List (List Char) :=
  (parts.map Text.trim).filter (!·.isEmpty)

/-- An argument of a foreign key. -/
inductive ForeignKeyPart where
  | name (text : List Char)
  | onDelete (action : Option ReferentialAction)
  | onUpdate (action : Option ReferentialAction)
  deriving DecidableEq

/-- The kind of one argument of a foreign key. -/
def foreignKeyPart (part : List Char) : ForeignKeyPart :=
  match Text.afterPrefix? "on_delete:".toList part with
  | some action => .onDelete (ReferentialAction.ofChars? action)
  | none =>
    match Text.afterPrefix? "on_update:".toList part with
    | some action => .onUpdate (ReferentialAction.ofChars? action)
    | none => .name part

/-- Arguments read so far: names in reverse, and the last action of each kind. -/
structure ForeignKeyArguments where
  names : List (List Char) := []
  onDelete : Option ReferentialAction := none
  onUpdate : Option ReferentialAction := none

/-- Arguments after one more part; an unknown action spoils them all. -/
def ForeignKeyArguments.add
    (arguments : ForeignKeyArguments)
    (part : List Char) : Option ForeignKeyArguments :=
  match foreignKeyPart part with
  | .name text => some { arguments with names := arguments.names ++ [text] }
  | .onDelete (some action) => some { arguments with onDelete := some action }
  | .onUpdate (some action) => some { arguments with onUpdate := some action }
  | .onDelete none | .onUpdate none => none

/-- The foreign key that a list of parts states: table and column, a label before them if it is
composite, and actions anywhere. -/
def foreignKey? (parts : List (List Char)) : Option ForeignKey := do
  let arguments ← (valuesOf parts).foldlM ForeignKeyArguments.add {}
  match arguments.names with
  | [table, column] =>
    some ⟨none, .ofList table, .ofList column, arguments.onDelete, arguments.onUpdate⟩
  | [group, table, column] =>
    some ⟨some (.ofList group), .ofList table, .ofList column, arguments.onDelete,
      arguments.onUpdate⟩
  | _ => none

/-- The token that a key states with the parts of its value. -/
def keyedToken
    (key : Key)
    (parts : List (List Char)) : Token :=
  let value := Text.trim ([','].intercalate parts)
  let text := String.ofList value
  let unrecognized := Token.unrecognized (key.spelling ++ text)
  if value.isEmpty then unrecognized
  else
    match key with
    | .check => .check text
    | .default => .default text
    | .index => .index false (some text)
    | .uniqueIndex => .index true (some text)
    | .uniqueGroup => .uniqueGroup text
    | .table => .table text
    | .values =>
      let allowed := valuesOf parts
      if allowed.isEmpty then unrecognized else .values (allowed.map String.ofList)
    | .foreignKey =>
      match foreignKey? parts with
      | some key => .foreignKey key
      | none => unrecognized

/-- A list of segments without the blank ones at its end. -/
def dropBlankEnd (parts : List (List Char)) : List (List Char) :=
  (parts.reverse.dropWhile fun part => part.all Text.isBlank).reverse

/-- Tokens of segments that no value takes. -/
def looseTokens (parts : List (List Char)) : List Token :=
  (valuesOf parts).map fun part => .unrecognized (String.ofList part)

/-- The segments before the first head, and the tokens from it on. -/
def readSegments : List (List Char) → List (List Char) × List Token
  | [] => ([], [])
  | segment :: rest =>
    let (loose, tokens) := readSegments rest
    match head? segment with
    | none => (segment :: loose, tokens)
    | some (.bare token) => ([], token :: (looseTokens loose ++ tokens))
    | some (.keyed key value) =>
      if key.absorbs then ([], keyedToken key (value :: dropBlankEnd loose) :: tokens)
      else ([], keyedToken key [value] :: (looseTokens loose ++ tokens))

/-- Tokens of a tag given as characters. -/
def readChars (cs : List Char) : List Token :=
  let (loose, tokens) := readSegments (segments (Text.trim cs))
  looseTokens loose ++ tokens

/-- Tokens of a tag, left to right. -/
def read (tag : String) : List Token :=
  readChars tag.toList

end Tablewright.Tag
