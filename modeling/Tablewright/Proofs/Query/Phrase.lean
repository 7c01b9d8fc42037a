import Mathlib.Data.List.Infix
import Tablewright.Query.MethodName

/-!
# Phrases

The naming convention of queries seen from its other side: a phrase is a query in words, with a
spelling as a method name and a meaning as a query.  The regular phrases are those whose parts
hold no word of the convention by accident.
-/

namespace Tablewright.Query

open Sql (Connector Operator)

/-! ## Verbs -/

/-- The verb of a phrase. -/
inductive Verb where
  | count
  | existence
  | deletion
  | list
  | find
  | first
  /-- The first rows, as many as the digits say. -/
  | top (digits : List Char)

namespace Verb

/-- The word of the verb. -/
def word : Verb → String
  | count => "Count"
  | existence => "Exists"
  | deletion => "Delete"
  | list => "List"
  | find => "Find"
  | first => "First"
  | top _ => "Top"

/-- The digits after the word. -/
def digits : Verb → List Char
  | top digits => digits
  | _ => []

/-- The verb as a name spells it. -/
def spelling (verb : Verb) : List Char :=
  verb.word.toList ++ verb.digits

/-- What the verb asks for. -/
def shape : Verb → Shape
  | count => .count
  | existence => .existence
  | deletion => .deletion
  | list | find => .many
  | first | top _ => .single

/-- How many rows the verb takes. -/
def limit : Verb → Option Nat
  | first => some 1
  | top digits => (some (Text.numeralValue 10 digits)).filter (· < limitBound)
  | _ => none

/-- A number of rows has digits. -/
def IsRegular : Verb → Prop
  | top digits => digits ≠ [] ∧ ∀ c ∈ digits, c.isDigit
  | _ => True

/-- A verb that ends in digits cannot stand before another digit. -/
def Precedes : Verb → List Char → Prop
  | top _, subject => ∀ c ∈ subject.head?, ¬ c.isDigit
  | _, _ => True

end Verb

/-! ## Terms -/

/-- The word after the field in the spelling of a comparison. -/
def operatorWord : Operator → String
  | .eq | .ne => ""
  | .gt => "GreaterThan"
  | .lt => "LessThan"
  | .gte => "GreaterThanOrEqual"
  | .lte => "LessThanOrEqual"
  | .like => "Like"
  | .startsWith => "StartingWith"
  | .endsWith => "EndingWith"
  | .contains => "Containing"
  | .isIn => "In"
  | .notIn => "NotIn"
  | .isNull => "IsNull"
  | .isNotNull => "IsNotNull"

/-- What follows the field in the spelling of a comparison. -/
def operatorEnding (operator : Operator) : List Char :=
  (operatorWord operator).toList

/-- Whether a text can be taken for a field with the ending of an operator. -/
def EndsInOperator (cs : List Char) : Prop :=
  ∃ field operator, field ≠ [] ∧ operatorEnding operator ≠ [] ∧
    cs = field ++ operatorEnding operator

/-- A comparison in words. -/
structure Term where
  /-- The field. -/
  field : List Char
  /-- The comparison. -/
  operator : Operator

namespace Term

/-- The comparison as a name spells it. -/
def spelling (term : Term) : List Char :=
  (if term.operator = .ne then "Not".toList else []) ++ term.field ++
    operatorEnding term.operator

/-- A term that cannot be taken for another one. -/
structure IsRegular (term : Term) : Prop where
  /-- The field begins with a capital. -/
  capital : ∃ c rest, term.field = c :: rest ∧ c.isUpper
  /-- The spelling can be cut nowhere. -/
  no_connector : ∀ connector, ¬ connectorSpelling connector <:+: term.spelling
  /-- A spelling without an ending does not end like one with it. -/
  no_ending : term.operator = .eq ∨ term.operator = .ne → ¬ EndsInOperator term.spelling
  /-- Equality is not spelled like its negation. -/
  no_negation : term.operator = .eq →
    ∀ c rest, Text.isUpperChar c → term.spelling ≠ "Not".toList ++ c :: rest
  /-- Membership is not spelled like its negation. -/
  no_exclusion : term.operator = .isIn →
    term.field = "Not".toList ∨ ¬ "Not".toList <:+ term.field

end Term

/-- A list of terms, each with the connector after it, and the last term. -/
def connect
    (terms : List (Term × Connector))
    (last : Term) : List (Term × Option Connector) :=
  terms.map (fun (term, connector) => (term, some connector)) ++ [(last, none)]

/-- Connected terms as a name spells them. -/
def termsSpelling (terms : List (Term × Option Connector)) : List Char :=
  terms.flatMap fun (term, connector) =>
    term.spelling ++ (connector.map connectorSpelling).getD []

/-- The conditions that terms stand for, each with the connector after it; values are counted from
a position on. -/
def conditionsFrom (position : Nat) : List (Term × Option Connector) → List NamedCondition
  | [] => []
  | (term, connector) :: rest =>
    { field := String.ofList term.field
      column := Text.snakeCase (String.ofList term.field)
      operator := term.operator
      position := if term.operator.takesValue then some position else none
      connector } ::
      conditionsFrom (if term.operator.takesValue then position + 1 else position) rest

/-! ## Orders -/

/-- The direction of an order, perhaps left unsaid. -/
inductive Direction where
  | ascending
  | descending
  | unsaid
  deriving DecidableEq

namespace Direction

/-- The word of the direction. -/
def word : Direction → String
  | ascending => "Asc"
  | descending => "Desc"
  | unsaid => ""

/-- The direction as a name spells it. -/
def spelling (direction : Direction) : List Char :=
  direction.word.toList

/-- The direction as SQL spells it. -/
def keyword : Direction → String
  | ascending | unsaid => "ASC"
  | descending => "DESC"

end Direction

/-- An order in words. -/
structure Order where
  /-- The field that rows are ordered by. -/
  field : List Char
  /-- The direction. -/
  direction : Direction

namespace Order

/-- The order as a name spells it. -/
def spelling (order : Order) : List Char :=
  orderWord ++ order.field ++ order.direction.spelling

/-- The order as SQL spells it. -/
def meaning (order : Order) : String :=
  Text.snakeCase (String.ofList order.field) ++ " " ++ order.direction.keyword

/-- An order by a field that cannot be taken for an order or a direction. -/
structure IsRegular (order : Order) : Prop where
  /-- There is a field. -/
  field_ne : order.field ≠ []
  /-- No other order begins in the field. -/
  no_order : ¬ orderWord <:+: order.field
  /-- A direction left unsaid is not said by the field. -/
  no_direction : order.direction = .unsaid →
    ¬ "Asc".toList <:+ order.field ∧ ¬ "Desc".toList <:+ order.field

end Order

/-! ## Phrases -/

/-- A query in words. -/
structure Phrase where
  /-- What is asked for. -/
  verb : Verb
  /-- What it is asked of. -/
  subject : List Char
  /-- The terms before the last one, each with the connector after it. -/
  terms : List (Term × Connector)
  /-- The last term. -/
  last : Term
  /-- The order, if there is one. -/
  order : Option Order

namespace Phrase

/-- The terms, each with the connector after it if there is one. -/
def connected (phrase : Phrase) : List (Term × Option Connector) :=
  connect phrase.terms phrase.last

/-- The order of a phrase as a name spells it. -/
def orderSpelling (phrase : Phrase) : List Char :=
  (phrase.order.map Order.spelling).getD []

/-- The phrase as a method name. -/
def spelling (phrase : Phrase) : List Char :=
  phrase.verb.spelling ++ (phrase.subject ++ (byWord ++
    (termsSpelling phrase.connected ++ phrase.orderSpelling)))

/-- The phrase as a query. -/
def meaning (phrase : Phrase) : Query :=
  { method := String.ofList phrase.spelling
    shape := phrase.verb.shape
    conditions := conditionsFrom 1 phrase.connected
    order := phrase.order.map Order.meaning
    limit := phrase.verb.limit }

/-- A phrase whose parts hold no word of the convention by accident. -/
structure IsRegular (phrase : Phrase) : Prop where
  /-- The verb is one. -/
  verb : phrase.verb.IsRegular
  /-- There is a subject. -/
  subject_ne : phrase.subject ≠ []
  /-- The subject does not go on where the verb ends. -/
  verb_precedes : phrase.verb.Precedes phrase.subject
  /-- The conditions do not begin in the subject. -/
  no_by : ¬ byWord <:+: phrase.subject
  /-- No order begins in the subject, unless it is all of it. -/
  no_order : phrase.subject = "Order".toList ∨ ¬ "Order".toList <:+ phrase.subject
  /-- Each term is regular. -/
  terms : ∀ term ∈ phrase.connected, term.1.IsRegular
  /-- The order is regular. -/
  order : ∀ order ∈ phrase.order, order.IsRegular

end Phrase
end Tablewright.Query
