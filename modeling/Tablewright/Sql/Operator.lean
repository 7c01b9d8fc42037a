/-!
# Comparison operators

The comparisons that a condition can make, and their SQL.
-/

namespace Tablewright.Sql

/-- A comparison of a column with a value, or with nothing. -/
inductive Operator where
  | eq
  | ne
  | gt
  | lt
  | gte
  | lte
  | like
  | startsWith
  | endsWith
  | contains
  | isIn
  | notIn
  | isNull
  | isNotNull
  deriving DecidableEq, Repr

/-- A connector of two conditions. -/
inductive Connector where
  | and
  | or
  deriving DecidableEq, Repr

/-- The connector as SQL spells it. -/
def Connector.keyword : Connector → String
  | and => "AND"
  | or => "OR"

namespace Operator

/-- The word or sign of an operator. -/
def keyword : Operator → String
  | eq => "="
  | ne => "!="
  | gt => ">"
  | lt => "<"
  | gte => ">="
  | lte => "<="
  | like | startsWith | endsWith | contains => "LIKE"
  | isIn => "IN"
  | notIn => "NOT IN"
  | isNull => "IS NULL"
  | isNotNull => "IS NOT NULL"

/-- Whether a value is compared with. -/
def takesValue : Operator → Bool
  | isNull | isNotNull => false
  | _ => true

/-- The comparison of a column with a value as SQL spells it. -/
def comparison
    (operator : Operator)
    (column value : String) : String :=
  match operator with
  | startsWith => column ++ " LIKE " ++ value ++ " || '%'"
  | endsWith => column ++ " LIKE '%' || " ++ value
  | contains => column ++ " LIKE '%' || " ++ value ++ " || '%'"
  | isIn => column ++ " = ANY(" ++ value ++ ")"
  | notIn => column ++ " <> ALL(" ++ value ++ ")"
  | isNull | isNotNull => column ++ " " ++ operator.keyword
  | _ => column ++ " " ++ operator.keyword ++ " " ++ value

end Operator
end Tablewright.Sql
