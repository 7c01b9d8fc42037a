import Tablewright.Toml.Moment

/-!
# Numbers and truth values in TOML

Underscores may stand between the digits of a number.  A decimal number has no zeros at its
beginning; numbers of other bases have no sign.
-/

namespace Tablewright.Toml

/-- A value that stands for itself without quotes. -/
inductive Scalar where
  /-- A whole number. -/
  | integer (value : Int)
  /-- A truth value. -/
  | flag (value : Bool)
  /-- A number with a fraction or an exponent, or a date or time. -/
  | other
  deriving DecidableEq, Repr

/-- Digits of a base without the underscores between them, given whether a digit came before. -/
def ungrouped?
    (base : Nat)
    (seen : Bool) : List Char → Option (List Char)
  | [] => if seen then some [] else none
  | c :: rest =>
    if Text.isDigitOf base c then (ungrouped? base true rest).map (c :: ·)
    else if c = '_' ∧ seen then ungrouped? base false rest
    else none

/-- The whole number that a text spells in a base. -/
def numeral?
    (base : Nat)
    (cs : List Char) : Option Nat :=
  (ungrouped? base false cs).map (Text.numeralValue base)

/-- The decimal number that a text spells without a sign. -/
def decimal? (cs : List Char) : Option Nat :=
  if cs.head? = some '0' ∧ cs ≠ ['0'] then none else numeral? 10 cs

/-- A text without a sign at its beginning. -/
def unsigned : List Char → List Char
  | '+' :: rest => rest
  | '-' :: rest => rest
  | cs => cs

/-- The whole number that a text spells. -/
def integer? : List Char → Option Int
  | '0' :: 'x' :: digits => (numeral? 16 digits).map Int.ofNat
  | '0' :: 'o' :: digits => (numeral? 8 digits).map Int.ofNat
  | '0' :: 'b' :: digits => (numeral? 2 digits).map Int.ofNat
  | '-' :: digits => (decimal? digits).map fun n => -(n : Int)
  | cs => (decimal? (unsigned cs)).map Int.ofNat

/-- Whether a text is an exponent, or nothing. -/
def isExponent : List Char → Bool
  | [] => true
  | c :: rest => (c = 'e' || c = 'E') && (numeral? 10 (unsigned rest)).isSome

/-- A digit or an underscore. -/
def isGrouped (c : Char) : Bool :=
  c.isDigit || c = '_'

/-- Whether a text is a number with a fraction or an exponent. -/
def isFractional (cs : List Char) : Bool :=
  let cs := unsigned cs
  let whole := cs.takeWhile isGrouped
  let rest := cs.dropWhile isGrouped
  cs = "inf".toList || cs = "nan".toList ||
    ((decimal? whole).isSome && !rest.isEmpty &&
      match rest with
      | '.' :: rest =>
        (numeral? 10 (rest.takeWhile isGrouped)).isSome && isExponent (rest.dropWhile isGrouped)
      | rest => isExponent rest)

/-- A character of a value without quotes. -/
def isScalarChar (c : Char) : Bool :=
  c.isAlphanum || ['+', '-', '_', '.', ':'].contains c

/-- The value that a text spells without quotes. -/
def scalar? (cs : List Char) : Option Scalar :=
  if cs = "true".toList then some (.flag true)
  else if cs = "false".toList then some (.flag false)
  else
    match integer? cs with
    | some value => some (.integer value)
    | none => if isFractional cs || isMoment cs then some .other else none

/-- The text of a value without quotes; a space may stand between a date and a time. -/
def scalarText (cs : List Char) : List Char :=
  let first := cs.takeWhile isScalarChar
  match afterDate? first, cs.drop first.length with
  | some [], ' ' :: c :: rest =>
    if c.isDigit then first ++ ' ' :: (c :: rest).takeWhile isScalarChar else first
  | _, _ => first

/-- A value without quotes. -/
def scalar : Reader Scalar := fun cs =>
  (scalar? (scalarText cs)).map fun value => (value, cs.drop (scalarText cs).length)

end Tablewright.Toml
