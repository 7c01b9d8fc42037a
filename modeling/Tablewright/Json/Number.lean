import Tablewright.Json.Basic
import Tablewright.Text.Numeral

/-!
# Numbers in JSON

No value that is asked for is a number, but a number in the place of another value must be well
written all the same, and one too large for a double is not.
-/

namespace Tablewright.Json

/-- A number without its sign, as written. -/
structure Number where
  /-- Digits before the point. -/
  whole : List Char
  /-- Digits after the point. -/
  fraction : List Char
  /-- Power of ten. -/
  exponent : Int

/-- A sequence of digits with at least one digit. -/
def digits : Reader (List Char) := fun cs =>
  let rest := cs.dropWhile Char.isDigit
  if (cs.takeWhile Char.isDigit).isEmpty then .error (unexpected rest)
  else .ok (cs.takeWhile Char.isDigit, rest)

/-- The digits before the point: a zero stands alone. -/
def wholePart : Reader (List Char) := fun cs => do
  let (whole, rest) ← digits cs
  if whole.head? = some '0' ∧ whole ≠ ['0'] then throw .malformed
  return (whole, rest)

/-- The point and the digits after it, if there is a point. -/
def fractionPart : Reader (List Char)
  | '.' :: rest => digits rest
  | cs => .ok ([], cs)

/-- A power of ten after its letter. -/
def signedExponent : Reader Int
  | '-' :: rest => (digits rest).map fun (ds, rest) => (-(Text.numeralValue 10 ds : Int), rest)
  | '+' :: rest => (digits rest).map fun (ds, rest) => ((Text.numeralValue 10 ds : Int), rest)
  | cs => (digits cs).map fun (ds, rest) => ((Text.numeralValue 10 ds : Int), rest)

/-- The power of ten, if there is one. -/
def exponentPart : Reader Int
  | 'e' :: rest => signedExponent rest
  | 'E' :: rest => signedExponent rest
  | cs => .ok (0, cs)

/-- A number without its sign. -/
def number : Reader Number := fun cs => do
  let (whole, cs) ← wholePart cs
  let (fraction, cs) ← fractionPart cs
  let (exponent, cs) ← exponentPart cs
  return ({ whole, fraction, exponent }, cs)

/-- Passes over a number without its sign; one cut short is malformed. -/
def skipNumber : Reader Unit := fun cs =>
  match number cs with
  | .ok (_, rest) => .ok ((), rest)
  | .error _ => .error .malformed

namespace Number

/-- The least number that rounds to no finite double. -/
def doubleBound : Nat := Nat.pow 2 1024 - Nat.pow 2 970

/-- Digits of the doubles that are largest. -/
def doubleDigits : Nat := 309

/-- Whether the number is too large for a double. -/
def isTooLarge (number : Number) : Bool :=
  let significant := (number.whole ++ number.fraction).dropWhile (· = '0')
  let scale := number.exponent - number.fraction.length
  let count := significant.length + scale
  if significant.isEmpty || count < doubleDigits then false
  else if (doubleDigits : Int) < count then true
  else
    doubleBound * Nat.pow 10 (-scale).toNat ≤
      Text.numeralValue 10 significant * Nat.pow 10 scale.toNat

end Number
end Tablewright.Json
