import Tablewright.Code.Identifier
import Tablewright.Code.Quoted
import Tablewright.Code.Token
import Tablewright.Text.Blank
import Tablewright.Text.Numeral

/-!
# Reading tokens

The tokens that a text of code spells.  Blanks and comments stand between tokens; brackets must
match; a text with anything else has no tokens.
-/

namespace Tablewright.Code

/-! ## Words and spaces -/

/-- A blank between tokens; the two direction marks count. -/
def isSpace (c : Char) : Bool :=
  (9 ≤ c.toNat && c.toNat ≤ 13) || c.toNat = 32 || c.toNat = 0x85 || c.toNat = 0xA0 ||
    c.toNat = 0x1680 || (0x2000 ≤ c.toNat && c.toNat ≤ 0x200A) || c.toNat = 0x2028 ||
    c.toNat = 0x2029 || c.toNat = 0x202F || c.toNat = 0x205F || c.toNat = 0x3000 ||
    c = '\u200e' || c = '\u200f'

/-- Whether a text begins with the given characters. -/
def begins (start : String) (cs : List Char) : Bool :=
  start.toList.isPrefixOf cs

/-- The word at the beginning of a text, without a raw mark, and the rest. -/
def word? : List Char → Option (List Char × List Char)
  | [] => none
  | c :: rest =>
    if Text.isIdentifierStart c then
      some (c :: rest.takeWhile Text.isIdentifierPart, rest.dropWhile Text.isIdentifierPart)
    else none

/-- The identifier at the beginning of a text, raw or not, and the rest. -/
def spelling? : List Char → Option (List Char × List Char)
  | 'r' :: '#' :: rest =>
    match word? rest with
    | some (text, rest) =>
      if neverRaw.contains text then none else some ('r' :: '#' :: text, rest)
    | none => none
  | cs => word? cs

/-- A text after a word at its beginning, if there is one. -/
def dropWord (cs : List Char) : List Char :=
  match word? cs with
  | some (_, rest) => rest
  | none => cs

/-! ## Literals -/

/-- What quoted text may hold. -/
inductive TextKind where
  /-- Any character. -/
  | text
  /-- Bytes. -/
  | bytes
  /-- Any character but the null character. -/
  | terminated
  deriving DecidableEq

/-- The digits after `\x`, of a character below 128 unless bytes are read. -/
def afterHexEscape
    (kind : TextKind) : List Char → Option (List Char)
  | a :: b :: rest =>
    let fits :=
      match kind with
      | .text => '0' ≤ a && a ≤ '7'
      | .bytes => Text.isHexDigit a
      | .terminated => Text.isHexDigit a && !(a = '0' && b = '0')
    if fits && Text.isHexDigit b then some rest else none
  | _ => none

/-- The digits of `\u` after the brace: code point so far, number of digits so far. -/
def afterCodePoint (value count : Nat) : List Char → Option (Nat × List Char)
  | [] => none
  | c :: rest =>
    if c = '_' ∧ 0 < count then afterCodePoint value count rest
    else if c = '\x7d' ∧ 0 < count then
      if value < 0xD800 ∨ (0xDFFF < value ∧ value < 0x110000) then some (value, rest) else none
    else if Text.isHexDigit c ∧ count < 6 then
      afterCodePoint (16 * value + Text.digitValue c) (count + 1) rest
    else none

/-- The braces and digits after `\u`. -/
def afterUnicodeEscape : List Char → Option (Nat × List Char)
  | '\x7b' :: rest => afterCodePoint 0 0 rest
  | _ => none

/-- The blanks that a backslash at the end of a line joins to it; `last` is the line's end. -/
def afterLineJoin (last : Char) : List Char → Option (List Char)
  | [] => none
  | c :: rest =>
    if last = '\r' then if c = '\n' then afterLineJoin '\n' rest else none
    else if c = ' ' ∨ c = '\t' ∨ c = '\n' ∨ c = '\r' then afterLineJoin c rest
    else some (c :: rest)

/-- What follows a backslash in quoted text. -/
def afterEscape
    (kind : TextKind) : List Char → Option (List Char)
  | 'x' :: rest => afterHexEscape kind rest
  | 'u' :: rest =>
    match kind, afterUnicodeEscape rest with
    | .bytes, _ => none
    | .text, some (_, rest) => some rest
    | .terminated, some (value, rest) => if value = 0 then none else some rest
    | _, none => none
  | '0' :: rest => if kind = .terminated then none else some rest
  | '\n' :: rest => afterLineJoin '\n' rest
  | '\r' :: rest => afterLineJoin '\r' rest
  | c :: rest =>
    if c = 'n' ∨ c = 'r' ∨ c = 't' ∨ c = '\\' ∨ c = '\'' ∨ c = '"' then some rest else none
  | [] => none

/-- The rest after quoted text with escapes and its closing quote; at most `fuel` characters are
looked at. -/
def afterQuoted
    (kind : TextKind) : Nat → List Char → Option (List Char)
  | 0, _ | _, [] => none
  | fuel + 1, c :: rest =>
    if c = '"' then some (dropWord rest)
    else if c = '\r' then
      match rest with
      | '\n' :: rest => afterQuoted kind fuel rest
      | _ => none
    else if c = '\\' then (afterEscape kind rest).bind (afterQuoted kind fuel)
    else if kind = .bytes ∧ 128 ≤ c.toNat then none
    else if kind = .terminated ∧ c = '\x00' then none
    else afterQuoted kind fuel rest

/-- The rest after raw text that ends with a quote and the given hash marks. -/
def afterRaw
    (kind : TextKind)
    (hashes : List Char) : List Char → Option (List Char)
  | [] => none
  | '\r' :: rest =>
    match rest with
    | '\n' :: rest => afterRaw kind hashes rest
    | _ => none
  | c :: rest =>
    if c = '"' ∧ hashes.isPrefixOf rest then some (dropWord (rest.drop hashes.length))
    else if kind = .bytes ∧ 128 ≤ c.toNat then none
    else if kind = .terminated ∧ c = '\x00' then none
    else afterRaw kind hashes rest

/-- The rest after raw text whose hash marks and opening quote come first. -/
def afterRawOpening
    (kind : TextKind)
    (cs : List Char) : Option (List Char) :=
  let hashes := cs.takeWhile (· = '#')
  match cs.dropWhile (· = '#') with
  | '"' :: rest => if hashes.length ≤ 255 then afterRaw kind hashes rest else none
  | _ => none

/-- The rest after a string literal of any kind. -/
def afterString (cs : List Char) : Option (List Char) :=
  match cs with
  | '"' :: rest => afterQuoted .text cs.length rest
  | 'b' :: '"' :: rest => afterQuoted .bytes cs.length rest
  | 'c' :: '"' :: rest => afterQuoted .terminated cs.length rest
  | 'r' :: rest => afterRawOpening .text rest
  | 'b' :: 'r' :: rest => afterRawOpening .bytes rest
  | 'c' :: 'r' :: rest => afterRawOpening .terminated rest
  | _ => none

/-- The rest after one character or escape and a closing apostrophe. -/
def afterOneChar
    (kind : TextKind)
    (cs : List Char) : Option (List Char) :=
  let rest? :=
    match cs with
    | '\\' :: '\n' :: _ | '\\' :: '\r' :: _ => none
    | '\\' :: rest => afterEscape kind rest
    | c :: rest => if kind = .bytes ∧ 128 ≤ c.toNat then none else some rest
    | [] => none
  match rest? with
  | some ('\'' :: rest) => some (dropWord rest)
  | _ => none

/-- The rest after a character or byte literal. -/
def afterCharacter : List Char → Option (List Char)
  | '\'' :: rest => afterOneChar .text rest
  | 'b' :: '\'' :: rest => afterOneChar .bytes rest
  | _ => none

/-- The rest after the digits of an exponent: whether a sign and a digit were seen. -/
def afterExponent (signed valued : Bool) : List Char → Option (List Char)
  | [] => if valued then some [] else none
  | c :: rest =>
    if c = '+' ∨ c = '-' then
      if valued then some (c :: rest)
      else if signed then none
      else afterExponent true valued rest
    else if c.isDigit then afterExponent signed true rest
    else if c = '_' then afterExponent signed valued rest
    else if valued then some (c :: rest) else none

/-- The rest after digits with a point or an exponent, given whether a point was seen. -/
def afterDecimal (pointed : Bool) : List Char → Option (List Char)
  | [] => if pointed then some [] else none
  | c :: rest =>
    if c.isDigit || c = '_' then afterDecimal pointed rest
    else if c = '.' && !pointed then
      match rest with
      | [] => some []
      | d :: _ => if d = '.' || Text.isIdentifierStart d then none else afterDecimal true rest
    else if c = 'e' || c = 'E' then
      match afterExponent false false rest with
      | some rest => some rest
      | none => if pointed then some (c :: rest) else none
    else if pointed then some (c :: rest) else none

/-- The rest after the digits of a whole number in a base, given whether a digit was seen. -/
def afterDigits
    (base : Nat)
    (seen : Bool) : List Char → Option (List Char)
  | [] => if seen then some [] else none
  | c :: rest =>
    if c.isDigit then
      if Text.digitValue c < base then afterDigits base true rest else none
    else if Text.isDigitOf base c then afterDigits base true rest
    else if c = '_' then if !seen && base = 10 then none else afterDigits base seen rest
    else if seen then some (c :: rest) else none

/-- The rest after the digits of a whole number with its base mark. -/
def afterWhole : List Char → Option (List Char)
  | '0' :: 'x' :: rest => afterDigits 16 false rest
  | '0' :: 'o' :: rest => afterDigits 8 false rest
  | '0' :: 'b' :: rest => afterDigits 2 false rest
  | cs => afterDigits 10 false cs

/-- A text that does not go on like a word. -/
def atWordBreak (cs : List Char) : Option (List Char) :=
  match cs with
  | [] => some []
  | c :: _ => if Text.isIdentifierPart c then none else some cs

/-- The rest after a number with its suffix. -/
def afterNumber (cs : List Char) : Option (List Char) :=
  let decimal? :=
    match cs with
    | c :: rest => if c.isDigit then afterDecimal false rest else none
    | [] => none
  match decimal?.bind fun rest => atWordBreak (dropWord rest) with
  | some rest => some rest
  | none => (afterWhole cs).bind fun rest => atWordBreak (dropWord rest)

/-- The rest after a literal. -/
def afterLiteral (cs : List Char) : Option (List Char) :=
  (afterString cs).or ((afterCharacter cs).or (afterNumber cs))

/-! ## Marks and comments -/

/-- Punctuation marks. -/
def markChars : List Char := "~!@#$%^&*-=+|;:,<.>/?'".toList

/-- The mark at the beginning of a text that begins no comment. -/
def mark? (cs : List Char) : Option (Char × List Char) :=
  if begins "//" cs || begins "/*" cs then none
  else
    match cs with
    | [] => none
    | c :: rest => if markChars.contains c then some (c, rest) else none

/-- Whether an apostrophe before `rest` begins the name of a lifetime. -/
def beginsLifetime (rest : List Char) : Bool :=
  match spelling? rest with
  | none => false
  | some (_, after) =>
    !(begins "'" after || (begins "#" after && !begins "r#" rest))

/-- Texts that begin a string or byte literal, and so no word. -/
def literalBeginnings : List String :=
  ["r\"", "r#\"", "r##", "b\"", "b'", "br\"", "br#", "c\"", "cr\"", "cr#"]

/-- A comment to the end of the line: its text and the rest. -/
def lineComment : List Char → List Char × List Char
  | [] => ([], [])
  | '\n' :: rest => ([], '\n' :: rest)
  | '\r' :: '\n' :: rest => ([], '\n' :: rest)
  | c :: rest => (c :: (lineComment rest).1, (lineComment rest).2)

/-- A comment between marks, which nest: its text with the closing marks, and the rest. -/
def blockComment (depth : Nat) : List Char → Option (List Char × List Char)
  | '/' :: '*' :: rest =>
    (blockComment (depth + 1) rest).map fun (text, rest) => ('/' :: '*' :: text, rest)
  | '*' :: '/' :: rest =>
    if depth ≤ 1 then some (['*', '/'], rest)
    else (blockComment (depth - 1) rest).map fun (text, rest) => ('*' :: '/' :: text, rest)
  | c :: rest => (blockComment depth rest).map fun (text, rest) => (c :: text, rest)
  | [] => none

/-- Whether every carriage return of a text ends a line. -/
def returnsEndLines : List Char → Bool
  | [] => true
  | '\r' :: rest =>
    match rest with
    | '\n' :: rest => returnsEndLines rest
    | _ => false
  | _ :: rest => returnsEndLines rest

/-- A comment that documents, its text, and the rest. -/
structure DocComment where
  /-- Whether it documents what it stands in. -/
  isInner : Bool
  /-- What it says. -/
  text : List Char
  /-- What follows it. -/
  rest : List Char

/-- The documentation comment at the beginning of a text. -/
def docComment? (cs : List Char) : Option DocComment :=
  let comment? : Option DocComment :=
    if begins "//!" cs then
      let (text, rest) := lineComment (cs.drop 3)
      some ⟨true, text, rest⟩
    else if begins "/*!" cs then
      (blockComment 0 cs).map fun (text, rest) => ⟨true, (text.drop 3).dropLast.dropLast, rest⟩
    else if begins "///" cs && !begins "////" cs then
      let (text, rest) := lineComment (cs.drop 3)
      some ⟨false, text, rest⟩
    else if begins "/**" cs && !begins "/***" cs && !begins "/**/" cs then
      (blockComment 0 cs).map fun (text, rest) => ⟨false, (text.drop 3).dropLast.dropLast, rest⟩
    else none
  comment?.filter fun comment => returnsEndLines comment.text

/-- The rest after the plain comment at the beginning of a text. -/
def afterComment (cs : List Char) : Option (List Char) :=
  if begins "//" cs then
    if (begins "///" cs && !begins "////" cs) || begins "//!" cs then none
    else some (lineComment cs).2
  else if begins "/**/" cs then some (cs.drop 4)
  else if begins "/*" cs then
    if (begins "/**" cs && !begins "/***" cs) || begins "/*!" cs then none
    else (blockComment 0 cs).map (·.2)
  else none

/-! ## Lexemes -/

/-- A bracket or a token without brackets. -/
inductive Lexeme where
  | opening (delimiter : Delimiter)
  | closing (delimiter : Delimiter)
  | leaf (token : Token)

/-- The token without brackets at the beginning of a text. -/
def leaf? (cs : List Char) : Option (Token × List Char) :=
  match afterLiteral cs with
  | some rest => some (.literal (String.ofList (cs.take (cs.length - rest.length))), rest)
  | none =>
    match mark? cs with
    | some ('\'', rest) => if beginsLifetime rest then some (.mark '\'' true, rest) else none
    | some (c, rest) => some (.mark c (mark? rest).isSome, rest)
    | none =>
      if literalBeginnings.any (begins · cs) then none
      else (spelling? cs).map fun (text, rest) => (.word (String.ofList text), rest)

/-- The lexemes that a documentation comment stands for. -/
def DocComment.lexemes (comment : DocComment) : List Lexeme :=
  [.leaf (.mark '#' false)] ++ (if comment.isInner then [.leaf (.mark '!' false)] else []) ++
    [.opening .bracket, .leaf (.word "doc"), .leaf (.mark '=' false),
      .leaf (.literal (quoted (String.ofList comment.text))), .closing .bracket]

/-- Lexemes at the beginning of a text, and the rest; none for blanks and comments. -/
def nextLexemes (cs : List Char) : Option (List Lexeme × List Char) :=
  match cs with
  | [] => none
  | c :: rest =>
    if isSpace c then some ([], rest)
    else
      match afterComment cs with
      | some rest => some ([], rest)
      | none =>
        match docComment? cs with
        | some comment => some (comment.lexemes, comment.rest)
        | none =>
          match Delimiter.ofOpening? c with
          | some delimiter => some ([.opening delimiter], rest)
          | none =>
            match Delimiter.ofClosing? c with
            | some delimiter => some ([.closing delimiter], rest)
            | none => (leaf? cs).map fun (token, rest) => ([.leaf token], rest)

/-- Lexemes of a text, read in at most `fuel` steps. -/
def lexemesWithin : Nat → List Char → Option (List Lexeme)
  | _, [] => some []
  | 0, _ :: _ => none
  | fuel + 1, cs =>
    match nextLexemes cs with
    | none => none
    | some (lexemes, rest) => (lexemesWithin fuel rest).map (lexemes ++ ·)

/-- An open bracket with the tokens before it, last first. -/
abbrev Opened := Delimiter × List Token

/-- Tokens of a list of lexemes, given the open brackets and the tokens since the last of them,
last first. -/
def tokensAfter
    (opened : List Opened)
    (back : List Token) : List Lexeme → Option (List Token)
  | [] => if opened.isEmpty then some back.reverse else none
  | .leaf token :: rest => tokensAfter opened (token :: back) rest
  | .opening delimiter :: rest => tokensAfter ((delimiter, back) :: opened) [] rest
  | .closing delimiter :: rest =>
    match opened with
    | [] => none
    | (expected, before) :: opened =>
      if delimiter = expected then
        tokensAfter opened (.group delimiter back.reverse :: before) rest
      else none

/-- The code that a text spells, if it spells any. -/
def read? (text : String) : Option Code :=
  let cs := Text.dropByteOrderMark text.toList
  (lexemesWithin cs.length cs).bind (tokensAfter [] [])

/-- Whether a text names something: one identifier that is not reserved, perhaps with blanks and
comments around it. -/
def isName (text : String) : Bool :=
  match read? text with
  | some [.word word] => !isReserved word
  | _ => false

end Tablewright.Code
