import Tablewright.Json.Basic
import Tablewright.Text.Numeral

/-!
# Strings in JSON

A string stands between double quotes.  Control characters must be escaped; a code point beyond the
first plane is escaped as a pair of surrogates, and a surrogate alone is a fault, except in strings
that are passed over.
-/

namespace Tablewright.Json

/-- Number of bytes that store a text. -/
def byteCount (cs : List Char) : Nat :=
  cs.foldl (fun count c => count + c.utf8Size) 0

/-- The four hexadecimal digits of an escape. -/
def hexEscape : Reader Nat
  | a :: b :: c :: d :: rest =>
    if [a, b, c, d].all Text.isHexDigit then .ok (Text.numeralValue 16 [a, b, c, d], rest)
    else .error .malformed
  | cs => .error (if byteCount cs < 4 then .truncated else .malformed)

/-- The first surrogate of a pair. -/
def isLeading (n : Nat) : Bool :=
  0xD800 ≤ n && n ≤ 0xDBFF

/-- The second surrogate of a pair. -/
def isTrailing (n : Nat) : Bool :=
  0xDC00 ≤ n && n ≤ 0xDFFF

/-- The code point of a pair of surrogates. -/
def pairedValue
    (leading trailing : Nat) : Nat :=
  0x10000 + 0x400 * (leading - 0xD800) + (trailing - 0xDC00)

/-- The character after `\u`. -/
def unicodeEscape : Reader (List Char) := fun cs => do
  let (n, cs) ← hexEscape cs
  if isTrailing n then throw .malformed
  if isLeading n then
    let (_, cs) ← skipWord ['\\', 'u'] cs
    let (m, cs) ← hexEscape cs
    if isTrailing m then return ([Char.ofNat (pairedValue n m)], cs) else throw .malformed
  else return ([Char.ofNat n], cs)

/-- The character that one letter escapes. -/
def shortEscape? : Char → Option Char
  | '"' => some '"'
  | '\\' => some '\\'
  | '/' => some '/'
  | 'b' => some '\x08'
  | 'f' => some '\x0c'
  | 'n' => some '\n'
  | 'r' => some '\r'
  | 't' => some '\t'
  | _ => none

/-- The escape after a backslash, given how the digits after `u` are read. -/
def escape (unicode : Reader (List Char)) : Reader (List Char)
  | [] => .error .truncated
  | c :: rest =>
    if c = 'u' then unicode rest
    else
      match shortEscape? c with
      | some c => .ok ([c], rest)
      | none => .error .malformed

/-- The rest of a string after its opening quote, given the characters so far from the last one on;
there are no more steps than characters in a budget. -/
def stringWithin
    (unicode : Reader (List Char)) : List Char → List Char → Reader String
  | [], _, _ => .error .truncated
  | _ :: _, _, [] => .error .truncated
  | _ :: budget, back, c :: rest =>
    if c = '"' then .ok (String.ofList back.reverse, rest)
    else if c = '\\' then
      match escape unicode rest with
      | .ok (cs, rest) => stringWithin unicode budget (cs ++ back) rest
      | .error fault => .error fault
    else if c.toNat < 0x20 then .error .malformed
    else stringWithin unicode budget (c :: back) rest

/-- The rest of a string after its opening quote. -/
def stringRest : Reader String := fun cs =>
  stringWithin unicodeEscape cs [] cs

/-- Passes over the rest of a string; its surrogates need not be paired. -/
def skipString : Reader Unit := fun cs =>
  let unicode : Reader (List Char) := fun cs => (hexEscape cs).map fun (_, cs) => ([], cs)
  (stringWithin unicode cs [] cs).map fun (_, cs) => ((), cs)

end Tablewright.Json
