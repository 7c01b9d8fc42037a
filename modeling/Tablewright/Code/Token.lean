/-!
# Code tokens

Generated code is a sequence of tokens: words, punctuation marks, literals and bracketed groups.
Its text sets one space between tokens, except after a mark that belongs to an operator together
with the mark that follows.
-/

namespace Tablewright.Code

/-- Brackets around a group. -/
inductive Delimiter where
  | parenthesis
  | bracket
  | brace
  deriving DecidableEq, Repr

namespace Delimiter

/-- The opening character. -/
def opening : Delimiter → Char
  | parenthesis => '('
  | bracket => '['
  | brace => '\x7b'

/-- The closing character. -/
def closing : Delimiter → Char
  | parenthesis => ')'
  | bracket => ']'
  | brace => '\x7d'

/-- The delimiter that a character opens. -/
def ofOpening? (c : Char) : Option Delimiter :=
  [parenthesis, bracket, brace].find? (·.opening = c)

/-- The delimiter that a character closes. -/
def ofClosing? (c : Char) : Option Delimiter :=
  [parenthesis, bracket, brace].find? (·.closing = c)

end Delimiter

/-- A token of code. -/
inductive Token where
  /-- A word, with its raw mark if it has one. -/
  | word (text : String)
  /-- A punctuation mark; `joint` if it goes together with the next one. -/
  | mark (c : Char) (joint : Bool)
  /-- A literal, as spelled. -/
  | literal (text : String)
  /-- A bracketed sequence. -/
  | group (delimiter : Delimiter) (body : List Token)

namespace Token

/-- Whether no space follows. -/
def isJoint : Token → Bool
  | mark _ joint => joint
  | _ => false

/-- The space after a token that another one follows. -/
def gap (token : Token) : String :=
  if token.isJoint then "" else " "

mutual

/-- Pieces of text that spell a token. -/
def pieces : Token → List String
  | word text => [text]
  | mark c _ => [String.ofList [c]]
  | literal text => [text]
  | group .brace [] => ["\x7b \x7d"]
  | group .brace (t :: body) => "\x7b " :: (piecesOf (t :: body) ++ [" \x7d"])
  | group delimiter body =>
    String.ofList [delimiter.opening] :: (piecesOf body ++ [String.ofList [delimiter.closing]])

/-- Pieces of text that spell a sequence of tokens. -/
def piecesOf : List Token → List String
  | [] => []
  | token :: rest =>
    token.pieces ++ (if rest.isEmpty then [] else [token.gap]) ++ piecesOf rest

end

/-- The marks of an operator. -/
def marks : List Char → List Token
  | [] => []
  | [c] => [mark c false]
  | c :: rest => mark c true :: marks rest

/-- The tokens that a word or operator spells. -/
def spelledBy (text : String) : List Token :=
  match text.toList with
  | [] => []
  | c :: rest =>
    if c.isAlphanum || c = '_' then [word text] else marks (c :: rest)

end Token
end Code

/-- A sequence of tokens. -/
abbrev Code := List Code.Token

namespace Code

/-- Text of a sequence of tokens. -/
def text (code : Code) : String :=
  String.join (Token.piecesOf code)

/-- Code given by its words and operators, separated by spaces. -/
def words (texts : List String) : Code :=
  texts.flatMap Token.spelledBy

/-- Code in parentheses. -/
def parens (body : Code) : Code :=
  [.group .parenthesis body]

/-- Code in square brackets. -/
def brackets (body : Code) : Code :=
  [.group .bracket body]

/-- Code in braces. -/
def braces (body : Code) : Code :=
  [.group .brace body]

/-- Pieces of code with commas between them. -/
def separated : List Code → Code
  | [] => []
  | [code] => code
  | code :: rest => code ++ .mark ',' false :: separated rest

end Code
end Tablewright
