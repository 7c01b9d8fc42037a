import Tablewright.Text.IdentifierChar

/-!
# Identifiers

An identifier begins with a letter or an underscore and goes on with letters, digits and
underscores; `r#` before it makes it raw, which a few words do not allow.  Reserved words are
spelled like identifiers without being names.
-/

namespace Tablewright.Code

/-- Words that cannot be names. -/
def reservedWords : List String :=
  ["_", "abstract", "as", "async", "await", "become", "box", "break", "const", "continue", "crate",
    "do", "dyn", "else", "enum", "extern", "false", "final", "fn", "for", "if", "impl", "in", "let",
    "loop", "macro", "match", "mod", "move", "mut", "override", "priv", "pub", "ref", "return",
    "Self", "self", "static", "struct", "super", "trait", "true", "try", "type", "typeof", "unsafe",
    "unsized", "use", "virtual", "where", "while", "yield"]

/-- Whether a word names nothing of its own. -/
def isReserved (word : String) : Bool :=
  reservedWords.contains word

/-- Words that cannot be raw. -/
def neverRaw : List (List Char) :=
  ["_".toList, "super".toList, "self".toList, "Self".toList, "crate".toList]

/-- A text spelled like an identifier without a raw mark. -/
def isWord : List Char → Bool
  | [] => false
  | c :: rest => Text.isIdentifierStart c && rest.all Text.isIdentifierPart

/-- A text spelled like an identifier, raw or not, reserved words included. -/
def isSpelling : List Char → Bool
  | 'r' :: '#' :: rest => isWord rest && !neverRaw.contains rest
  | cs => isWord cs

/-- A name that code can hold. -/
structure Identifier where
  /-- The name as code spells it. -/
  text : String
  /-- It is spelled like an identifier. -/
  isSpelling_text : isSpelling text.toList = true

/-- A name that no identifier spells, met where code needs one. -/
structure Unspellable where
  /-- The name. -/
  name : String
  deriving DecidableEq, Repr

/-- The identifier that a name spells exactly, reserved words included. -/
def Identifier.ofName (name : String) : Except Unspellable Identifier :=
  if h : isSpelling name.toList = true then .ok ⟨name, h⟩ else .error ⟨name⟩

end Tablewright.Code
