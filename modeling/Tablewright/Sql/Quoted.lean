/-!
# Quoted text in SQL

A delimiter inside quoted text is written twice; every other character stands for itself.
-/

namespace Tablewright.Sql

/-- A text with each delimiter written twice. -/
def doubled (quote : Char) : List Char → List Char
  | [] => []
  | c :: cs => if c = quote then quote :: quote :: doubled quote cs else c :: doubled quote cs

/-- A text between delimiters. -/
def enclosed
    (quote : Char)
    (cs : List Char) : List Char :=
  quote :: (doubled quote cs ++ [quote])

/-- A quoted identifier, safe for reserved words. -/
def quotedName (name : String) : String :=
  String.ofList (enclosed '"' name.toList)

/-- A string literal. -/
def quotedText (text : String) : String :=
  String.ofList (enclosed '\'' text.toList)

@[simp] theorem toList_quotedName (name : String) :
    (quotedName name).toList = enclosed '"' name.toList := by
  simp [quotedName]

@[simp] theorem toList_quotedText (text : String) :
    (quotedText text).toList = enclosed '\'' text.toList := by
  simp [quotedText]

end Tablewright.Sql
