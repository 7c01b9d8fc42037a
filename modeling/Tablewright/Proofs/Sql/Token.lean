import Tablewright.Sql.Quoted
import Tablewright.Sql.Statement
import Tablewright.Text.Blank

/-!
# Tokens of SQL

A reader of SQL takes a doubled delimiter inside quotes for the delimiter itself and any other
character, a backslash too, for what it is.  Whatever text is put between quotes is read back as one
token, and the reader goes on behind it.
-/

namespace Tablewright.Sql

/-- A token of SQL, as far as quotes decide what is one. -/
inductive Token where
  /-- A name in quotes. -/
  | name (text : String)
  /-- A string literal. -/
  | text (value : String)
  /-- A run of letters, digits and underscores without quotes. -/
  | word (text : String)
  /-- Any other character. -/
  | mark (c : Char)
  /-- A delimiter that nothing closes, with the text after it. -/
  | unclosed (text : String)
  deriving DecidableEq, Repr

/-- The token that two delimiters enclose: double quotes make a name of a text, single ones a
literal. -/
def enclosedToken
    (quote : Char)
    (text : List Char) : Token :=
  if quote = '"' then .name (String.ofList text) else .text (String.ofList text)

/-- Where a reader is. -/
inductive Place where
  /-- Between tokens. -/
  | outside
  /-- In a word, given last character first. -/
  | word (back : List Char)
  /-- Behind a hyphen, which a second one makes the beginning of a comment. -/
  | hyphen
  /-- In a comment, which ends with the line. -/
  | comment
  /-- Behind a delimiter and the text after it, given last character first. -/
  | quoted (quote : Char) (back : List Char)
  /-- Behind the next delimiter, which closes the token unless another follows. -/
  | closing (quote : Char) (back : List Char)

/-- A character of a word without quotes. -/
def isWordChar (c : Char) : Bool :=
  c.isAlphanum || c = '_'

namespace Place

/-- The tokens that end where nothing goes on with them. -/
def pending : Place → List Token
  | outside | comment => []
  | word back => [.word (String.ofList back.reverse)]
  | hyphen => [.mark '-']
  | quoted _ back => [.unclosed (String.ofList back.reverse)]
  | closing quote back => [enclosedToken quote back.reverse]

/-- Where the reader is after a character that goes on with the token or the comment. -/
def next? (c : Char) : Place → Option Place
  | outside => none
  | word back => if isWordChar c then some (word (c :: back)) else none
  | hyphen => if c = '-' then some comment else none
  | comment => some (if c = '\n' then outside else comment)
  | quoted quote back =>
    some (if c = quote then closing quote back else quoted quote (c :: back))
  | closing quote back => if c = quote then some (quoted quote (quote :: back)) else none

/-- Where the reader is after the first character of a token, and the token if that is all of it. -/
def start (c : Char) : List Token × Place :=
  if c = '"' ∨ c = '\'' then ([], quoted c [])
  else if Text.isBlank c then ([], outside)
  else if c = '-' then ([], hyphen)
  else if isWordChar c then ([], word [c])
  else ([.mark c], outside)

end Place

/-- The tokens of a text that is read from a place on. -/
def tokensFrom (place : Place) : List Char → List Token
  | [] => place.pending
  | c :: rest =>
    match place.next? c with
    | some next => tokensFrom next rest
    | none => place.pending ++ (Place.start c).1 ++ tokensFrom (Place.start c).2 rest

/-- The tokens of a text. -/
def tokens (cs : List Char) : List Token :=
  tokensFrom .outside cs

variable {quote : Char} {rest : List Char}

/-- A token ends before a text that does not go on with it. -/
theorem tokensFrom_of_next?
    {place : Place}
    (ends : ∀ c ∈ rest.head?, place.next? c = none) :
    tokensFrom place rest = place.pending ++ tokens rest := by
  cases rest with
  | nil => exact (List.append_nil _).symm
  | cons c rest =>
    rw [tokensFrom, ends c rfl, tokens, tokensFrom, List.append_assoc]
    rfl

/-! ## Quotes -/

/-- Inside quotes the reader takes up a text with doubled delimiters as the text itself. -/
theorem tokensFrom_doubled
    (cs back rest : List Char) :
    tokensFrom (.quoted quote back) (doubled quote cs ++ rest) =
      tokensFrom (.quoted quote (cs.reverse ++ back)) rest := by
  induction cs generalizing back with
  | nil => rfl
  | cons c cs ih =>
    rw [List.reverse_cons, List.append_assoc, List.singleton_append, ← ih (c :: back), doubled]
    by_cases delimits : c = quote
    · -- The first of two delimiters might close the token, and the second shows that it does not.
      subst delimits
      rw [if_pos rfl, List.cons_append, List.cons_append, tokensFrom, Place.next?, if_pos rfl]
      dsimp only
      rw [tokensFrom, Place.next?, if_pos rfl]
    · rw [if_neg delimits, List.cons_append, tokensFrom, Place.next?, if_neg delimits]

/-- A text between delimiters is one token, if no delimiter follows. -/
theorem tokens_enclosed_append
    (delimits : quote = '"' ∨ quote = '\'')
    (apart : quote ∉ rest.head?)
    (cs : List Char) :
    tokens (enclosed quote cs ++ rest) = enclosedToken quote cs :: tokens rest := by
  have opened : tokens (enclosed quote cs ++ rest) =
      tokensFrom (.quoted quote []) (doubled quote cs ++ quote :: rest) := by
    rw [enclosed, List.cons_append, List.append_assoc, List.singleton_append, tokens, tokensFrom,
      Place.next?, Place.start, if_pos delimits]
    rfl
  have closes : ∀ c ∈ rest.head?, (Place.closing quote cs.reverse).next? c = none := by
    intro c first
    refine if_neg ?_
    rintro rfl
    exact apart first
  rw [opened, tokensFrom_doubled, List.append_nil, tokensFrom, Place.next?, if_pos rfl]
  dsimp only
  rw [tokensFrom_of_next? closes, Place.pending, List.reverse_reverse]
  rfl

theorem tokens_quotedName_append
    (apart : '"' ∉ rest.head?)
    (name : String) :
    tokens ((quotedName name).toList ++ rest) = .name name :: tokens rest := by
  rw [toList_quotedName, tokens_enclosed_append (.inl rfl) apart, enclosedToken, if_pos rfl,
    String.ofList_toList]

theorem tokens_quotedText_append
    (apart : '\'' ∉ rest.head?)
    (value : String) :
    tokens ((quotedText value).toList ++ rest) = .text value :: tokens rest := by
  rw [toList_quotedText, tokens_enclosed_append (.inr rfl) apart, enclosedToken,
    if_neg (by decide), String.ofList_toList]

/-- The tokens of literals with commas between them. -/
def literalTokens (values : List String) : List Token :=
  (values.map Token.text).intersperse (.mark ',')

/-- Literals with commas between them are read one by one. -/
theorem tokens_commas_quotedText_append
    (apart : '\'' ∉ rest.head?)
    (values : List String) :
    tokens ((commas (values.map quotedText)).toList ++ rest) =
      literalTokens values ++ tokens rest := by
  induction values with
  | nil => rfl
  | cons value values ih =>
    cases values with
    | nil =>
      rw [List.map_singleton, commas, String.intercalate_singleton,
        tokens_quotedText_append apart]
      rfl
    | cons next values =>
      have separated (more : List Char) : tokens (", ".toList ++ more) = .mark ',' :: tokens more :=
        rfl
      have comma_apart (more : List Char) : '\'' ∉ (", ".toList ++ more).head? := by
        simp
      rw [List.map_cons, List.map_cons, commas, String.intercalate_cons_cons, ← List.map_cons,
        String.toList_append, String.toList_append, List.append_assoc, List.append_assoc,
        tokens_quotedText_append (comma_apart _), separated]
      exact congrArg (Token.text value :: Token.mark ',' :: ·) ih

end Tablewright.Sql
