import Tablewright.Text.CaseRun
import Tablewright.Text.CasedContext

/-!
# Case maps

Upper and lower case of characters and texts.  A character may grow under the map; a capital sigma
that ends a word becomes the final sigma.
-/

namespace Tablewright.Text

/-- The image of a character under the runs and expansions of one case map. -/
def caseImage
    (runs : List CaseRun)
    (expansions : List (Nat × List Nat))
    (c : Char) : List Char :=
  match expansions.lookup c.toNat with
  | some image => image.map Char.ofNat
  | none =>
    match runImage runs c.toNat with
    | some image => [Char.ofNat image]
    | none => [c]

/-- Upper case of a character. -/
def upperChar (c : Char) : List Char :=
  if c.toNat < 128 then [c.toUpper] else caseImage upperRuns upperExpansions c

/-- Lower case of a character, the sigma at the end of a word apart. -/
def lowerChar (c : Char) : List Char :=
  if c.toNat < 128 then [c.toLower] else caseImage lowerRuns lowerExpansions c

/-- An upper-case character: the property `Uppercase`. -/
def isUpperChar (c : Char) : Bool :=
  if c.toNat < 128 then c.isUpper
  else
    inside caselessUpperEdges c.toNat ||
      (lowerChar c ≠ [c] && !inside titleEdges c.toNat)

/-- Upper case of a text. -/
def upper (cs : List Char) : List Char :=
  cs.flatMap upperChar

/-- Whether the first character that counts is a letter. -/
def meetsLetter (cs : List Char) : Bool :=
  ((cs.dropWhile isCaseIgnorable).head?.map isCased).getD false

/-- Lower case of a text whose preceding characters, last first, are given. -/
def lowerAfter (before : List Char) : List Char → List Char
  | [] => []
  | c :: rest =>
    (if c = 'Σ' then
      [if meetsLetter before && !meetsLetter rest then 'ς' else 'σ']
    else lowerChar c) ++ lowerAfter (c :: before) rest

/-- Lower case of a text. -/
def lower (cs : List Char) : List Char :=
  lowerAfter [] cs

@[simp] theorem lowerAfter_nil (before : List Char) : lowerAfter before [] = [] := rfl

end Tablewright.Text
