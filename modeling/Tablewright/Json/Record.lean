import Tablewright.Json.Value

/-!
# Records in JSON

A record is an object whose known members fill in its parts, or an array of the parts in order.
Members that nobody knows are passed over.  A known member stands once; whether one that must be
there is missing shows where the record ends.
-/

namespace Tablewright.Json

/-- A string. -/
def string : Reader String := fun cs =>
  match skipSpace cs with
  | '"' :: rest => stringRest rest
  | cs => .error (mismatch cs)

/-- A truth value. -/
def flag : Reader Bool := fun cs =>
  match skipSpace cs with
  | 't' :: rest => (skipWord "rue".toList rest).map fun (_, cs) => (true, cs)
  | 'f' :: rest => (skipWord "alse".toList rest).map fun (_, cs) => (false, cs)
  | cs => .error (mismatch cs)

/-- A value or null. -/
def optional
    {α : Type}
    (read : Reader α) : Reader (Option α) := fun cs =>
  match skipSpace cs with
  | 'n' :: rest => (skipWord "ull".toList rest).map fun (_, cs) => (none, cs)
  | cs => (read cs).map fun (value, cs) => (some value, cs)

/-- Whether an array goes on; the comma before the next item is passed over, the closing bracket is
not. -/
def hasNext (isFirst : Bool) : Reader Bool := fun cs =>
  match skipSpace cs with
  | ']' :: rest => .ok (false, ']' :: rest)
  | c :: rest =>
    if isFirst then .ok (true, c :: rest)
    else if c = ',' then
      match skipSpace rest with
      | ']' :: _ => .error .malformed
      | [] => .error .truncated
      | rest => .ok (true, rest)
    else .error .malformed
  | [] => .error .truncated

/-- Items of an array after its opening bracket, given the items so far from the last one on; there
are no more items than characters in a budget. -/
def itemsWithin
    {α : Type}
    (read : Reader α) : List Char → List α → Reader (List α)
  | [], _, _ => .error .truncated
  | _ :: budget, back, cs => do
    let (more, cs) ← hasNext back.isEmpty cs
    if more then
      let (item, cs) ← read cs
      itemsWithin read budget (item :: back) cs
    else return (back.reverse, cs)

/-- A list of values. -/
def list
    {α : Type}
    (read : Reader α) : Reader (List α) := fun cs =>
  match skipSpace cs with
  | '[' :: rest => do
    let (items, rest) ← itemsWithin read rest [] rest
    let (_, rest) ← skipMark ']' rest
    return (items, rest)
  | cs => .error (mismatch cs)

/-- A member of a record. -/
structure Member (α : Type) where
  /-- Its key. -/
  key : String
  /-- Whether it must be there. -/
  isRequired : Bool
  /-- Reads the member and fills it in. -/
  fill : α → Reader α

/-- A member that must be there. -/
def required
    {α β : Type}
    (key : String)
    (read : Reader β)
    (store : α → β → α) : Member α :=
  { key
    isRequired := true
    fill := fun value cs => (read cs).map fun (part, cs) => (store value part, cs) }

/-- A member that may be missing. -/
def defaulted
    {α β : Type}
    (key : String)
    (read : Reader β)
    (store : α → β → α) : Member α :=
  { required key read store with isRequired := false }

/-- The next key of an object, if there is one; the closing brace is passed over. -/
def nextKey (isFirst : Bool) : Reader (Option String) := fun cs =>
  let key : Reader (Option String) := fun cs => do
    let (_, cs) ← skipMark '"' cs
    let (key, cs) ← stringRest cs
    return (some key, cs)
  match skipSpace cs with
  | '\x7d' :: rest => .ok (none, rest)
  | c :: rest =>
    if isFirst then key (c :: rest)
    else if c = ',' then key rest
    else .error .malformed
  | [] => .error .truncated

/-- Members of an object after its opening brace, given the known keys so far and the value filled
in so far; there are no more members than characters in a budget. -/
def membersWithin
    {α : Type}
    (members : List (Member α)) : List Char → Bool → List String → α → Reader α
  | [], _, _, _, _ => .error .truncated
  | _ :: budget, isFirst, seen, value, cs => do
    match ← nextKey isFirst cs with
    | (none, cs) =>
      if members.any fun member => member.isRequired && !seen.contains member.key then
        throw .mismatched
      return (value, cs)
    | (some key, cs) =>
      if seen.contains key then throw .mismatched
      let (_, cs) ← skipMark ':' cs
      match members.find? (·.key = key) with
      | some member =>
        let (value, cs) ← member.fill value cs
        membersWithin members budget false (key :: seen) value cs
      | none =>
        let (_, cs) ← skipValue cs
        membersWithin members budget false seen value cs

/-- Members of a record in order, as the items of an array after its opening bracket. -/
def positional
    {α : Type} : List (Member α) → Bool → α → Reader α
  | [], _, value, cs => .ok (value, cs)
  | member :: members, isFirst, value, cs => do
    let (more, cs) ← hasNext isFirst cs
    if more then
      let (value, cs) ← member.fill value cs
      positional members false value cs
    else if member.isRequired then throw .mismatched
    else positional members isFirst value cs

/-- A record; as an array it holds no more than its parts. -/
def record
    {α : Type}
    (members : List (Member α))
    (empty : α) : Reader α := fun cs =>
  match skipSpace cs with
  | '\x7b' :: rest => membersWithin members rest true [] empty rest
  | '[' :: rest => do
    let (value, rest) ← positional members true empty rest
    let (_, rest) ← skipMark ']' rest
    return (value, rest)
  | cs => .error (mismatch cs)

/-- The value of a whole text. -/
def document
    {α : Type}
    (read : Reader α)
    (text : String) : Except Fault α := do
  let (value, rest) ← read text.toList
  if (skipSpace rest).isEmpty then return value else throw .malformed

end Tablewright.Json
