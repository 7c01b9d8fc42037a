import Tablewright.Json.Number
import Tablewright.Json.Quoted

/-!
# Values passed over

Members that nobody asks for may hold any value; it must be well written, and its content does not
matter.
-/

namespace Tablewright.Json

mutual

/-- Passes over a value nested no deeper and no longer than a number says. -/
def skipWithin : Nat → Reader Unit
  | 0, _ => .error .truncated
  | n + 1, cs =>
    match skipSpace cs with
    | 'n' :: rest => skipWord "ull".toList rest
    | 't' :: rest => skipWord "rue".toList rest
    | 'f' :: rest => skipWord "alse".toList rest
    | '"' :: rest => skipString rest
    | '-' :: rest => skipNumber rest
    | '[' :: rest =>
      match skipSpace rest with
      | ']' :: rest => .ok ((), rest)
      | rest => skipItems n rest
    | '\x7b' :: rest =>
      match skipSpace rest with
      | '\x7d' :: rest => .ok ((), rest)
      | rest => skipMembers n rest
    | c :: rest => if c.isDigit then skipNumber (c :: rest) else .error .malformed
    | [] => .error .truncated

/-- Passes over the items of an array and its closing bracket. -/
def skipItems : Nat → Reader Unit
  | 0, _ => .error .truncated
  | n + 1, cs =>
    match skipWithin n cs with
    | .error fault => .error fault
    | .ok (_, rest) =>
      match skipSpace rest with
      | ',' :: rest => skipItems n rest
      | ']' :: rest => .ok ((), rest)
      | rest => .error (unexpected rest)

/-- Passes over the members of an object and its closing brace. -/
def skipMembers : Nat → Reader Unit
  | 0, _ => .error .truncated
  | n + 1, cs =>
    match skipMark '"' cs with
    | .error fault => .error fault
    | .ok (_, rest) =>
      match skipString rest with
      | .error fault => .error fault
      | .ok (_, rest) =>
        match skipMark ':' rest with
        | .error fault => .error fault
        | .ok (_, rest) =>
          match skipWithin n rest with
          | .error fault => .error fault
          | .ok (_, rest) =>
            match skipSpace rest with
            | ',' :: rest => skipMembers n rest
            | '\x7d' :: rest => .ok ((), rest)
            | rest => .error (unexpected rest)

end

/-- Passes over a value. -/
def skipValue : Reader Unit := fun cs =>
  skipWithin (2 * cs.length + 1) cs

/-- The fault of a text that was read over, given the fault of its value if it has one. -/
def faultOf {α : Type} : Except Fault (α × List Char) → Fault
  | .error fault => fault
  | .ok _ => .mismatched

/-- The fault of a number in the place of another value. -/
def numberFault (cs : List Char) : Fault :=
  match number cs with
  | .error fault => fault
  | .ok (number, _) => if number.isTooLarge then .malformed else .mismatched

/-- The fault of a text without spaces at its beginning that begins with no value of the form asked
for: arrays and objects are not looked into, other values must be well written. -/
def mismatch : List Char → Fault
  | 'n' :: rest => faultOf (skipWord "ull".toList rest)
  | 't' :: rest => faultOf (skipWord "rue".toList rest)
  | 'f' :: rest => faultOf (skipWord "alse".toList rest)
  | '"' :: rest => faultOf (stringRest rest)
  | '-' :: rest => numberFault rest
  | '[' :: _ => .mismatched
  | '\x7b' :: _ => .mismatched
  | c :: rest => if c.isDigit then numberFault (c :: rest) else .malformed
  | [] => .truncated

end Tablewright.Json
