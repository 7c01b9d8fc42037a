/-!
# Numerals

Digits of bases up to sixteen and the numbers that sequences of them stand for.
-/

namespace Tablewright.Text

/-- A hexadecimal digit, in either case. -/
def isHexDigit (c : Char) : Bool :=
  c.isDigit || ('a' ≤ c && c ≤ 'f') || ('A' ≤ c && c ≤ 'F')

/-- Value of a hexadecimal digit. -/
def digitValue (c : Char) : Nat :=
  if c.isDigit then c.toNat - 48 else if c.toNat ≤ 70 then c.toNat - 55 else c.toNat - 87

/-- Whether a character is a digit of a base. -/
def isDigitOf
    (base : Nat)
    (c : Char) : Bool :=
  isHexDigit c && decide (digitValue c < base)

/-- The number that a sequence of digits stands for. -/
def numeralValue
    (base : Nat)
    (digits : List Char) : Nat :=
  digits.foldl (fun value c => base * value + digitValue c) 0

end Tablewright.Text
