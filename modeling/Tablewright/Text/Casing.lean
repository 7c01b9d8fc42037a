import Tablewright.Text.CaseMap
import Tablewright.Text.Cluster

/-!
# Casing of names

Names are cut into words and put together again in snake or Pascal case.  A word ends at `_`, `-`
or a space, between lower and upper case, between letters and digits, and before the last capital
of a run that a small letter follows, so that `HTMLContent` reads `html_content`.
-/

namespace Tablewright.Text

/-- A cluster changed by the case maps and in upper case. -/
def isUpperCluster (g : List Char) : Bool :=
  upper g ≠ lower g && g = upper g

/-- A cluster changed by the case maps and in lower case. -/
def isLowerCluster (g : List Char) : Bool :=
  upper g ≠ lower g && g = lower g

/-- A cluster of decimal digits. -/
def isDigitCluster (g : List Char) : Bool :=
  g.all Char.isDigit

/-- A cluster that separates words and belongs to none. -/
def isSeparator (g : List Char) : Bool :=
  g = ['_'] || g = ['-'] || g = [' ']

/-- Whether a word ends between `g` and the clusters after it. -/
def endsWord
    (g : List Char)
    (after : List (List Char)) : Bool :=
  match after with
  | [] => false
  | h :: more =>
    (isLowerCluster g && isUpperCluster h) ||
    (isLowerCluster g && isDigitCluster h) ||
    (isUpperCluster g && isDigitCluster h) ||
    (isDigitCluster g && isLowerCluster h) ||
    (isDigitCluster g && isUpperCluster h) ||
    (isUpperCluster g && isUpperCluster h && (more.head?.map isLowerCluster).getD false)

/-- Words of the clusters that follow the open word given. -/
def wordsAfter (word : List Char) : List (List Char) → List (List Char)
  | [] => [word]
  | g :: rest =>
    if isSeparator g then word :: wordsAfter [] rest
    else if endsWord g rest then (word ++ g) :: wordsAfter [] rest
    else wordsAfter (word ++ g) rest

/-- Words of a name; the empty name has none, separators side by side leave empty ones. -/
def words (cs : List Char) : List (List Char) :=
  if cs.isEmpty then [] else wordsAfter [] (clusters cs)

/-- A word with a capital first character and the rest in lower case. -/
def capitalized : List Char → List Char
  | [] => []
  | c :: rest => upperChar c ++ lower rest

/-- A text without the marks `r#` at its beginning. -/
def dropRawMarks : List Char → List Char
  | 'r' :: '#' :: rest => dropRawMarks rest
  | cs => cs

/-- Characters of a name in snake case. -/
def snakeChars (cs : List Char) : List Char :=
  ['_'].intercalate ((words (dropRawMarks cs)).map lower)

/-- A name in snake case, as columns, tables and functions are spelled. -/
def snakeCase (name : String) : String :=
  String.ofList (snakeChars name.toList)

/-- Whether a name is left alone by the Pascal case: a capital first and no underscore. -/
def isPascal : List Char → Bool
  | [] => false
  | c :: rest => isUpperChar c && !(c :: rest).contains '_'

/-- Characters of a name in Pascal case. -/
def pascalChars (cs : List Char) : List Char :=
  if isPascal cs then cs else (words cs).flatMap capitalized

/-- A name in Pascal case, as methods are matched; capitals such as `ID` survive. -/
def pascalCase (name : String) : String :=
  String.ofList (pascalChars name.toList)

@[simp] theorem toList_snakeCase (name : String) :
    (snakeCase name).toList = snakeChars name.toList := by
  simp [snakeCase]

@[simp] theorem toList_pascalCase (name : String) :
    (pascalCase name).toList = pascalChars name.toList := by
  simp [pascalCase]

end Tablewright.Text
