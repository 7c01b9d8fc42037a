import Tablewright.Code.Lexeme
import Tablewright.Proofs.Text.Alnum

/-!
# Names that code can hold

A text may pass for a name with blanks and comments around it, which no identifier has.  One of
letters, digits and underscores has none of them: if it is a name, code can hold it as it stands,
and so code can hold whatever goes on from it with characters of identifiers.
-/

namespace Tablewright.Code

open Text (Alnum)

/-! ## Tokens of a text -/

/-- The tokens before all open brackets, last first. -/
def outermost (back : List Token) : List Opened → List Token
  | [] => back
  | (_, before) :: opened => outermost before opened

theorem prefix_outermost_cons
    (token : Token)
    (back : List Token)
    (opened : List Opened) :
    (outermost back opened).reverse <+: (outermost (token :: back) opened).reverse := by
  cases opened with
  | nil =>
    rw [outermost, outermost, List.reverse_cons]
    exact List.prefix_append _ _
  | cons => exact List.prefix_refl _

/-- Tokens that stand before all brackets come first among the tokens of a text. -/
theorem prefix_of_tokensAfter
    {opened : List Opened}
    {back tokens : List Token}
    {lexemes : List Lexeme}
    (read : tokensAfter opened back lexemes = some tokens) :
    (outermost back opened).reverse <+: tokens := by
  fun_induction tokensAfter opened back lexemes with
  | case1 opened back closed =>
    have whole : back.reverse = tokens := Option.some.inj read
    subst whole
    rw [List.isEmpty_iff.mp closed]
    exact List.prefix_refl back.reverse
  | case2 => cases read
  | case3 opened back token rest ih =>
    exact (prefix_outermost_cons token back opened).trans (ih read)
  | case4 opened back delimiter rest ih => exact ih read
  | case5 => cases read
  | case6 back rest expected before opened ih =>
    exact (prefix_outermost_cons _ before opened).trans (ih read)
  | case7 => cases read

/-! ## Texts that begin with a digit -/

section

variable {c : Char} {rest : List Char}

theorem of_isDigit_of_table
    (holds : Char → Prop)
    (table : ∀ n : Fin 128, (Char.ofNat n).isDigit → holds (Char.ofNat n))
    (digit : c.isDigit) :
    holds c :=
  Text.of_table (fun c => c.isDigit → holds c) table
    (Text.lt_of_isAlnum (Text.isAlnum_of_isDigit digit)) digit

theorem begins_eq_false
    {start : String}
    (other : start.toList.head? ≠ some c)
    (start_ne : start.toList ≠ []) :
    begins start (c :: rest) = false := by
  obtain ⟨first, more, start_eq⟩ := List.exists_cons_of_ne_nil start_ne
  rw [start_eq, List.head?_cons, ne_eq, Option.some_inj] at other
  rw [begins, start_eq, List.isPrefixOf_cons_cons, beq_eq_false_iff_ne.mpr other, Bool.false_and]

/-- What a digit begins is a literal, if it is a token at all. -/
theorem leaf?_of_isDigit
    (digit : c.isDigit)
    (rest : List Char) :
    leaf? (c :: rest) = none ∨ ∃ text after, leaf? (c :: rest) = some (.literal text, after) := by
  have no_slash : c ≠ '/' := by
    rintro rfl
    cases digit
  have no_mark : mark? (c :: rest) = none := by
    have absent : markChars.contains c = false :=
      of_isDigit_of_table (fun c => markChars.contains c = false) (by decide +kernel) digit
    have no_line : begins "//" (c :: rest) = false :=
      begins_eq_false (by simpa using no_slash.symm) (by decide)
    have no_block : begins "/*" (c :: rest) = false :=
      begins_eq_false (by simpa using no_slash.symm) (by decide)
    simp only [mark?, no_line, no_block, absent]
    rfl
  have no_literal : literalBeginnings.any (begins · (c :: rest)) = false := by
    have others : ∀ start ∈ literalBeginnings,
        start.toList.head? ≠ some c ∧ start.toList ≠ [] :=
      of_isDigit_of_table
        (fun c => ∀ start ∈ literalBeginnings,
          start.toList.head? ≠ some c ∧ start.toList ≠ [])
        (by decide +kernel) digit
    rw [List.any_eq_false]
    intro start member
    rw [begins_eq_false (others start member).1 (others start member).2]
    exact Bool.false_ne_true
  have no_word : spelling? (c :: rest) = none := by
    have no_start : Text.isIdentifierStart c = false :=
      of_isDigit_of_table (fun c => Text.isIdentifierStart c = false) (by decide +kernel)
        digit
    have no_raw : c ≠ 'r' := by
      rintro rfl
      cases digit
    rw [spelling?]
    · simp [word?, no_start]
    · intro more same
      exact absurd (List.cons.inj same).1 no_raw
  unfold leaf?
  cases afterLiteral (c :: rest) with
  | some after => exact .inr ⟨_, after, rfl⟩
  | none =>
    refine .inl ?_
    simp only [no_mark, no_literal, no_word]
    rfl

/-- Where a digit stands, no token begins but a literal. -/
theorem nextLexemes_of_isDigit
    (digit : c.isDigit)
    (rest : List Char) :
    nextLexemes (c :: rest) = none ∨
      ∃ text after, nextLexemes (c :: rest) = some ([.leaf (.literal text)], after) := by
  have no_slash : c ≠ '/' := by
    rintro rfl
    cases digit
  have no_space : isSpace c = false :=
    of_isDigit_of_table (fun c => isSpace c = false) (by decide +kernel) digit
  have no_bracket : Delimiter.ofOpening? c = none ∧ Delimiter.ofClosing? c = none :=
    of_isDigit_of_table (fun c => Delimiter.ofOpening? c = none ∧ Delimiter.ofClosing? c = none)
      (by decide +kernel) digit
  have begins_slash {start : String} (slash : start.toList.head? = some '/') :
      begins start (c :: rest) = false := by
    refine begins_eq_false ?_ ?_
    · rw [slash, ne_eq, Option.some_inj]
      exact no_slash.symm
    · rintro nothing
      rw [nothing] at slash
      cases slash
  have no_comment : afterComment (c :: rest) = none := by
    simp only [afterComment, begins_slash (show "//".toList.head? = some '/' from rfl),
      begins_slash (show "/**/".toList.head? = some '/' from rfl),
      begins_slash (show "/*".toList.head? = some '/' from rfl)]
    rfl
  have no_doc : docComment? (c :: rest) = none := by
    simp only [docComment?, begins_slash (show "//!".toList.head? = some '/' from rfl),
      begins_slash (show "/*!".toList.head? = some '/' from rfl),
      begins_slash (show "///".toList.head? = some '/' from rfl),
      begins_slash (show "/**".toList.head? = some '/' from rfl)]
    rfl
  simp only [nextLexemes, no_space, no_comment, no_doc, no_bracket.1, no_bracket.2]
  rcases leaf?_of_isDigit digit rest with nothing | ⟨text, after, found⟩
  · exact .inl (by rw [nothing]; rfl)
  · exact .inr ⟨text, after, by rw [found]; rfl⟩

end

/-! ## Names -/

/-- A name is read as one word. -/
theorem exists_word_of_isName
    {name : String}
    (named : isName name) :
    ∃ word, read? name = some [.word word] := by
  unfold isName at named
  split at named
  · next word read => exact ⟨word, read⟩
  · cases named

/-- A text that begins with a digit is no name. -/
theorem not_isName_of_isDigit
    {name : String}
    {c : Char}
    {rest : List Char}
    (name_eq : name.toList = c :: rest)
    (digit : c.isDigit) :
    ¬ isName name := by
  intro named
  obtain ⟨word, read⟩ := exists_word_of_isName named
  have no_mark : Text.dropByteOrderMark (c :: rest) = c :: rest := by
    have other : c ≠ '\ufeff' := by
      rintro rfl
      cases digit
    rw [Text.dropByteOrderMark]
    intro more same
    exact other (List.cons.inj same).1
  rw [read?, name_eq, no_mark, Option.bind_eq_some_iff] at read
  obtain ⟨lexemes, lexemes_eq, tokens_eq⟩ := read
  simp only [List.length_cons, lexemesWithin] at lexemes_eq
  rcases nextLexemes_of_isDigit digit rest with nothing | ⟨text, after, found⟩
  · rw [nothing] at lexemes_eq
    cases lexemes_eq
  · rw [found] at lexemes_eq
    obtain ⟨more, -, rfl⟩ := Option.map_eq_some_iff.mp lexemes_eq
    -- The literal that the digit begins stands before all brackets.
    have later : tokensAfter [] [.literal text] more = some [.word word] := tokens_eq
    have first : [Token.literal text] <+: [.word word] := prefix_of_tokensAfter later
    cases (List.cons_prefix_cons.mp first).1

theorem isSpelling_of_isWord
    {cs : List Char}
    (word : isWord cs) :
    isSpelling cs := by
  unfold isSpelling
  split
  · next rest =>
    have no_part : Text.isIdentifierPart '#' = false := by decide
    rw [isWord, List.all_cons, no_part, Bool.false_and, Bool.and_false] at word
    cases word
  · exact word

/-- A name of letters, digits and underscores is spelled like an identifier. -/
theorem isWord_of_isName
    {name : String}
    (alnum : Alnum name.toList)
    (named : isName name) :
    isWord name.toList := by
  cases name_eq : name.toList with
  | nil =>
    have empty : name = "" := String.toList_inj.mp name_eq
    subst empty
    cases named
  | cons c rest =>
    rw [name_eq] at alnum
    have first : Text.isAlnum c := alnum c List.mem_cons_self
    have start_or_digit : Text.isIdentifierStart c ∨ c.isDigit :=
      Text.of_isAlnum_of_table (fun c => Text.isIdentifierStart c ∨ c.isDigit) (by decide +kernel)
        first
    rcases start_or_digit with start | digit
    · rw [isWord, start, Bool.true_and, List.all_eq_true]
      intro d member
      exact Text.isIdentifierPart_of_isAlnum (alnum d (List.mem_cons_of_mem c member))
    · exact absurd named (not_isName_of_isDigit name_eq digit)

/-- A name goes on from another with characters of identifiers. -/
def Extends (start name : String) : Prop :=
  ∃ rest, name.toList = start.toList ++ rest ∧ ∀ c ∈ rest, Text.isIdentifierPart c

theorem Extends.refl (name : String) : Extends name name :=
  ⟨[], (List.append_nil _).symm, nofun⟩

/-- Letters, digits and underscores may go on from any name. -/
theorem Extends.append
    (start : String)
    {rest : String}
    (alnum : Alnum rest.toList) :
    Extends start (start ++ rest) :=
  ⟨rest.toList, String.toList_append, fun c member =>
    Text.isIdentifierPart_of_isAlnum (alnum c member)⟩

/-- Code can hold what goes on from a name of letters, digits and underscores. -/
theorem isSpelling_of_extends
    {start name : String}
    (alnum : Alnum start.toList)
    (named : isName start)
    (extended : Extends start name) :
    isSpelling name.toList := by
  obtain ⟨rest, name_eq, parts⟩ := extended
  have word := isWord_of_isName alnum named
  apply isSpelling_of_isWord
  rw [name_eq]
  cases start_eq : start.toList with
  | nil =>
    rw [start_eq] at word
    cases word
  | cons c cs =>
    rw [start_eq, isWord, Bool.and_eq_true] at word
    rw [List.cons_append, isWord, word.1, Bool.true_and, List.all_append, word.2, Bool.true_and,
      List.all_eq_true]
    exact parts

/-- A name that was checked to be one, or goes on from one that was. -/
def IsVouched
    (checked : List String)
    (name : String) : Prop :=
  ∃ start ∈ checked, isName start ∧ Extends start name

section

variable {checked : List String} {name : String}

theorem IsVouched.of_mem
    (named : ∀ start ∈ checked, isName start)
    (member : name ∈ checked) :
    IsVouched checked name :=
  ⟨name, member, named name member, .refl name⟩

/-- Code can hold what is vouched for by names of letters, digits and underscores. -/
theorem IsVouched.isSpelling
    (vouched : IsVouched checked name)
    (alnum : ∀ start ∈ checked, Alnum start.toList) :
    isSpelling name.toList := by
  obtain ⟨start, member, named, extended⟩ := vouched
  exact isSpelling_of_extends (alnum start member) named extended

/-- What goes on from no checked name is not vouched for. -/
theorem not_isVouched
    (apart : ∀ start ∈ checked, ¬ start.toList <+: name.toList) :
    ¬ IsVouched checked name := by
  rintro ⟨start, member, -, rest, name_eq, -⟩
  exact apart start member ⟨rest, name_eq.symm⟩

end

end Tablewright.Code
