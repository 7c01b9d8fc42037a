import Tablewright.Query.Splitting
import Tablewright.Query.Suffix
import Tablewright.Sql.Statement
import Tablewright.Text.Casing
import Tablewright.Text.Numeral

/-!
# Queries named by methods

A method name such as `FindUsersByAgeGreaterThanOrderByName` is a verb, a subject, conditions after
`By`, and an order after `OrderBy`.  The name is read without knowledge of the entity.
-/

namespace Tablewright

namespace Query

open Sql (Operator)

/-- What a query answers. -/
inductive Shape where
  /-- The number of rows. -/
  | count
  /-- Whether there are rows. -/
  | existence
  /-- Nothing: it removes the rows. -/
  | deletion
  /-- All rows. -/
  | many
  /-- As many rows as its limit says. -/
  | single
  deriving DecidableEq, Repr

/-- A condition with the field that the name gives it. -/
structure NamedCondition extends Sql.Condition where
  /-- The field as the name spells it. -/
  field : String
  deriving DecidableEq, Repr

end Query

/-- A query that a method name describes. -/
structure Query where
  /-- The name. -/
  method : String
  /-- What it answers. -/
  shape : Query.Shape
  /-- Its conditions in order. -/
  conditions : List Query.NamedCondition
  /-- What its rows are ordered by. -/
  order : Option String
  /-- How many rows are taken. -/
  limit : Option Nat
  deriving DecidableEq, Repr

namespace Query

/-! ## Words within a name -/

/-- Where a text first occurs in another. -/
def firstIndex? (pattern : List Char) : List Char → Option Nat
  | [] => none
  | c :: rest =>
    if pattern.isPrefixOf (c :: rest) then some 0 else (firstIndex? pattern rest).map (· + 1)

/-- Where a text last occurs in another. -/
def lastIndex? (pattern : List Char) : List Char → Option Nat
  | [] => none
  | c :: rest =>
    match lastIndex? pattern rest with
    | some i => some (i + 1)
    | none => if pattern.isPrefixOf (c :: rest) then some 0 else none

/-- The word before the conditions. -/
def byWord : List Char := "By".toList

/-- The words before the order. -/
def orderWord : List Char := "OrderBy".toList

theorem byWord_eq : byWord = ['B', 'y'] := by
  decide

theorem orderWord_eq : orderWord = ['O', 'r', 'd', 'e', 'r', 'B', 'y'] := by
  decide

/-! ## Verb and limit -/

/-- Verbs and what they ask for, in the order in which they are tried. -/
def verbs : List (String × Shape) :=
  [("Count", .count), ("Exists", .existence), ("Delete", .deletion), ("List", .many),
    ("Find", .many), ("First", .single)]

/-- The digits after `Top`, if there are any. -/
def topDigits? : List Char → Option (List Char)
  | 'T' :: 'o' :: 'p' :: rest =>
    let digits := rest.takeWhile Char.isDigit
    if digits.isEmpty then none else some digits
  | _ => none

/-- The verb of a name: what it asks for, and the rest of the name. -/
def verb? (name : List Char) : Option (Shape × List Char) :=
  match verbs.find? fun (word, _) => word.toList.isPrefixOf name with
  | some (word, shape) => some (shape, name.drop word.length)
  | none => (topDigits? name).map fun digits => (.single, name.drop (3 + digits.length))

/-- Limits are below this number; a larger one is no limit. -/
def limitBound : Nat := Nat.pow 2 64

/-- The limit that a name gives. -/
def limitOf (name : List Char) : Option Nat :=
  if "First".toList.isPrefixOf name then some 1
  else
    (topDigits? name).bind fun digits =>
      let limit := Text.numeralValue 10 digits
      if limit < limitBound then some limit else none

/-! ## Order -/

/-- Whether a text is a verb alone; the digits after `Top` may be missing. -/
def isBareVerb (cs : List Char) : Bool :=
  verbs.any (fun (word, _) => word.toList = cs) ||
    match cs with
    | 'T' :: 'o' :: 'p' :: digits => digits.all Char.isDigit
    | _ => false

/-- Where the order of a name begins.  `OrderBy` right after the verb, the first `By` of the name,
makes `Order` the subject and begins no order. -/
def orderIndex? (name : List Char) : Option Nat :=
  match lastIndex? orderWord name with
  | none => none
  | some order =>
    match firstIndex? byWord name with
    | some first =>
      if order ≤ first && isBareVerb (name.take order) then none else some order
    | none => some order

/-- The field and direction that the text of an order names. -/
def directed (cs : List Char) : List Char × String :=
  match Text.beforeEnd? "Desc".toList cs with
  | some field => (field, "DESC")
  | none =>
    match Text.beforeEnd? "Asc".toList cs with
    | some field => (field, "ASC")
    | none => (cs, "ASC")

/-- The order that a name gives. -/
def orderOf (name : List Char) : Option String :=
  (orderIndex? name).bind fun order =>
    let (field, direction) := directed (name.drop (order + orderWord.length))
    if field.isEmpty then none
    else some (Text.snakeCase (String.ofList field) ++ " " ++ direction)

/-! ## Conditions -/

/-- The text between the first `By` of a name and its order; none if there is no such `By`. -/
def conditionText? (name : List Char) : Option (List Char) :=
  match firstIndex? byWord name with
  | none => none
  | some first =>
    match orderIndex? name with
    | none => some (name.drop (first + byWord.length))
    | some order =>
      if first = order + orderWord.length - byWord.length then none
      else if first < order then some ((name.take order).drop (first + byWord.length))
      else some (name.drop (first + byWord.length))

/-- Conditions of the pieces, their values from a position on. -/
def numbered (position : Nat) : List Piece → List NamedCondition
  | [] => []
  | piece :: rest =>
    let (field, operator) := splitOperator piece.text
    let name := String.ofList field
    let condition (position : Option Nat) : NamedCondition :=
      { field := name
        column := Text.snakeCase name
        operator
        position
        connector := piece.connector }
    if operator.takesValue then condition (some position) :: numbered (position + 1) rest
    else condition none :: numbered position rest

/-- The conditions that a name gives, cut by the given splitter. -/
def conditionsOf
    (split : Splitter)
    (name : List Char) : List NamedCondition :=
  match conditionText? name with
  | none => []
  | some cs => numbered 1 (split cs)

/-! ## Recognition -/

/-- Whether `By` occurs in a text with something before and after it. -/
def hasInnerBy : List Char → Bool
  | [] => false
  | _ :: rest => followed rest
where
  /-- Whether `By` occurs in a text with something after it. -/
  followed : List Char → Bool
    | 'B' :: 'y' :: _ :: _ => true
    | _ :: rest => followed rest
    | [] => false

/-- Whether the rest of a name after its verb describes a query. -/
def isDescribed
    (shape : Shape)
    (rest : List Char) : Bool :=
  match shape with
  | .count => !rest.isEmpty
  | _ => hasInnerBy rest

/-- The query that a name describes, its conditions cut by the given splitter. -/
def ofNameWith?
    (split : Splitter)
    (name : String) : Option Query :=
  (verb? name.toList).bind fun (shape, rest) =>
    if isDescribed shape rest then
      some
        { method := name
          shape
          conditions := conditionsOf split name.toList
          order := orderOf name.toList
          limit := limitOf name.toList }
    else none

/-- The query that a name describes. -/
def ofName? (name : String) : Option Query :=
  ofNameWith? pieces name

/-! ## Statement -/

/-- Number of values that a query binds. -/
def valueCount (query : Query) : Nat :=
  query.conditions.countP (·.position.isSome)

/-- The statement of a query on a table; every column is selected if none is given. -/
def statement
    (query : Query)
    (table : String)
    (columns : List String) : Sql.Statement :=
  let conditions := query.conditions.map (·.toCondition)
  let window : Sql.Window := { order := query.order, limit := query.limit }
  match query.shape with
  | .count => .count table conditions
  | .existence => .existence table conditions window
  | .deletion => .delete table conditions
  | .many | .single => .select (if columns.isEmpty then ["*"] else columns) table conditions window

end Query
end Tablewright
