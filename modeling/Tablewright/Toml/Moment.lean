import Tablewright.Toml.Basic

/-!
# Dates and times in TOML

No setting is a date or a time, but a value that looks like one must be one.
-/

namespace Tablewright.Toml

/-- A number of a fixed count of digits. -/
def fixedDigits (count : Nat) : Reader Nat := fun cs =>
  let digits := cs.take count
  if digits.length = count ∧ digits.all Char.isDigit then
    some (Text.numeralValue 10 digits, cs.drop count)
  else none

/-- The text after one character. -/
def after? (mark : Char) : List Char → Option (List Char)
  | c :: rest => if c = mark then some rest else none
  | [] => none

/-- Number of days in a month. -/
def daysIn
    (year month : Nat) : Nat :=
  if month = 2 then
    if year % 4 = 0 ∧ (year % 100 ≠ 0 ∨ year % 400 = 0) then 29 else 28
  else if [4, 6, 9, 11].contains month then 30
  else 31

/-- The text after a date. -/
def afterDate? (cs : List Char) : Option (List Char) := do
  let (year, cs) ← fixedDigits 4 cs
  let cs ← after? '-' cs
  let (month, cs) ← fixedDigits 2 cs
  let cs ← after? '-' cs
  let (day, cs) ← fixedDigits 2 cs
  if 1 ≤ month ∧ month ≤ 12 ∧ 1 ≤ day ∧ day ≤ daysIn year month then some cs else none

/-- The text after hours and minutes. -/
def afterMinutes? (cs : List Char) : Option (List Char) := do
  let (hour, cs) ← fixedDigits 2 cs
  let cs ← after? ':' cs
  let (minute, cs) ← fixedDigits 2 cs
  if hour ≤ 23 ∧ minute ≤ 59 then some cs else none

/-- The text after the fraction of a second, if there is a point. -/
def afterFraction? : List Char → Option (List Char)
  | '.' :: rest =>
    if (rest.takeWhile Char.isDigit).isEmpty then none else some (rest.dropWhile Char.isDigit)
  | cs => some cs

/-- The text after a time; the seconds may be missing. -/
def afterTime? (cs : List Char) : Option (List Char) := do
  let cs ← afterMinutes? cs
  match cs with
  | ':' :: cs =>
    let (second, cs) ← fixedDigits 2 cs
    if second ≤ 60 then afterFraction? cs else none
  | cs => some cs

/-- The text after an offset, if there is one. -/
def afterOffset? : List Char → Option (List Char)
  | 'Z' :: rest => some rest
  | 'z' :: rest => some rest
  | '+' :: rest => afterMinutes? rest
  | '-' :: rest => afterMinutes? rest
  | cs => some cs

/-- Whether a text is a date, a time, or both with `T` or a space between them. -/
def isMoment (cs : List Char) : Bool :=
  let moment : Option (List Char) :=
    match afterDate? cs with
    | none => afterTime? cs
    | some [] => some []
    | some (c :: rest) =>
      if ['T', 't', ' '].contains c then (afterTime? rest).bind afterOffset? else none
  moment = some []

end Tablewright.Toml
