import Tablewright.Text.Blank
import Tablewright.Toml.Quoted
import Tablewright.Toml.Scalar
import Tablewright.Toml.Table

/-!
# Documents in TOML

A document is a sequence of lines: assignments to keys, and headers that open tables.  Lists of
tables that headers build up are refused: no setting is one.
-/

namespace Tablewright.Toml

/-- A character of a key without quotes. -/
def isKeyChar (c : Char) : Bool :=
  c.isAlphanum || c = '_' || c = '-'

/-- A key without dots. -/
def simpleKey : Reader String := fun cs =>
  match opening? cs with
  | some (style, rest) => if style.spansLines then none else style.rest rest
  | none =>
    let word := cs.takeWhile isKeyChar
    if word.isEmpty then none else some (String.ofList word, cs.dropWhile isKeyChar)

/-- A key of no more than a number of parts, with spaces around it. -/
def keyWithin : Nat → Reader (List String)
  | 0, _ => none
  | n + 1, cs => do
    let (key, cs) ← simpleKey (skipSpace cs)
    match skipSpace cs with
    | '.' :: cs =>
      let (path, cs) ← keyWithin n cs
      some (key :: path, cs)
    | cs => some ([key], cs)

/-- A key, dotted or not, with spaces around it. -/
def key : Reader (List String) := fun cs =>
  keyWithin (cs.length + 1) cs

/-- The value of a scalar. -/
def Scalar.value : Scalar → Value
  | integer n => .integer n
  | flag b => .flag b
  | other => .other

mutual

/-- A value nested no deeper and no longer than a number says. -/
def valueWithin : Nat → Reader Value
  | 0, _ => none
  | n + 1, cs =>
    match opening? cs with
    | some (style, rest) => (style.rest rest).map fun (text, rest) => (.text text, rest)
    | none =>
      match cs with
      | '[' :: rest => (itemsWithin n rest).map fun (items, rest) => (.array items, rest)
      | '\x7b' :: rest =>
        (entriesWithin n [] rest).map fun (entries, rest) => (.table .closed entries, rest)
      | cs => (scalar cs).map fun (scalar, rest) => (scalar.value, rest)

/-- Items of an array up to its closing bracket; the last one may have a comma after it. -/
def itemsWithin : Nat → Reader (List Value)
  | 0, _ => none
  | n + 1, cs =>
    match skipLines cs with
    | ']' :: rest => some ([], rest)
    | cs => do
      let (item, rest) ← valueWithin n cs
      match skipLines rest with
      | ',' :: rest =>
        let (items, rest) ← itemsWithin n rest
        some (item :: items, rest)
      | ']' :: rest => some ([item], rest)
      | _ => none

/-- Entries of a table up to its closing brace, given the ones before them; the last one may have a
comma after it. -/
def entriesWithin : Nat → Entries → Reader Entries
  | 0, _, _ => none
  | n + 1, entries, cs =>
    match skipLines cs with
    | '\x7d' :: rest => some (entries, rest)
    | cs => do
      let (path, cs) ← key cs
      let cs ← after? '=' cs
      let (value, rest) ← valueWithin n (skipSpace cs)
      let entries ← entries.assign path value
      match skipLines rest with
      | ',' :: rest => entriesWithin n entries rest
      | '\x7d' :: rest => some (entries, rest)
      | _ => none

end

/-- A value. -/
def value : Reader Value := fun cs =>
  valueWithin (2 * cs.length + 1) cs

/-- The entries of a document of no more than a number of lines, given the entries so far and the
header that the lines belong to. -/
def linesWithin : Nat → List String → Entries → List Char → Option Entries
  | 0, _, _, _ => none
  | n + 1, header, entries, cs =>
    match skipLines cs with
    | [] => some entries
    | '[' :: rest => do
      let (path, rest) ← key rest
      let rest ← after? ']' rest
      let entries ← entries.openTable path
      let rest ← nextLine? rest
      linesWithin n path entries rest
    | cs => do
      let (path, cs) ← key cs
      let cs ← after? '=' cs
      let (value, rest) ← value (skipSpace cs)
      let entries ← entries.changeAt (Entries.assign path value) header
      let rest ← nextLine? rest
      linesWithin n header entries rest

/-- The table that a text describes. -/
def document? (text : String) : Option Value :=
  let cs := Text.dropByteOrderMark text.toList
  (linesWithin (cs.length + 1) [] [] cs).map (.table .opened)

end Tablewright.Toml
