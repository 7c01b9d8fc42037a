import Tablewright.Proofs.Schema.Clause
import Tablewright.Proofs.Sql.Token
import Tablewright.Schema.Basic

/-!
# Quotes in definitions

The names of tables, columns, constraints and indexes stand in quotes in their definitions, and so
do the values that a column allows.  A reader of SQL gets each of them back, whatever text it is,
and reads on where its quotes end.
-/

namespace Tablewright.Schema

open Sql (Token literalTokens tokens)

/-! ## Allowed values -/

namespace Column

/-- The clause that lists the allowed values of a column. -/
def allowedClause (column : Column) : String :=
  "CHECK (" ++ Sql.quotedName column.name ++ " IN (" ++
    Sql.commas (column.allowed.map Sql.quotedText) ++ "))"

/-- A column that does not allow all values says so. -/
theorem allowedClause_mem_clauses
    (column : Column)
    (restricted : column.allowed ≠ []) :
    column.allowedClause ∈ column.clauses := by
  have listed : ¬ column.allowed.isEmpty := by simpa using restricted
  simp only [clauses, if_neg listed, List.mem_append]
  exact .inl (.inl (.inl (.inr (List.mem_singleton_self _))))

/-- The list of allowed values is read as one literal for each, and closes where it is to close. -/
theorem tokens_allowedClause_append
    (column : Column)
    (rest : List Char) :
    tokens (column.allowedClause.toList ++ rest) =
      [.word "CHECK", .mark '(', .name column.name, .word "IN", .mark '('] ++
        literalTokens column.allowed ++ [.mark ')', .mark ')'] ++ tokens rest := by
  have opening (more : List Char) :
      tokens ("CHECK (".toList ++ more) = .word "CHECK" :: .mark '(' :: tokens more :=
    rfl
  have between (more : List Char) :
      tokens (" IN (".toList ++ more) = .word "IN" :: .mark '(' :: tokens more :=
    rfl
  have closing (more : List Char) :
      tokens ("))".toList ++ more) = .mark ')' :: .mark ')' :: tokens more :=
    rfl
  simp only [allowedClause, String.toList_append, List.append_assoc]
  rw [opening, Sql.tokens_quotedName_append (by simp), between,
    Sql.tokens_commas_quotedText_append (by simp), closing]
  rfl

end Column

/-! ## Names -/

/-- A text begins with some tokens and a name in quotes, and a reader gets back both and what
follows. -/
def Names
    (before : List Token)
    (name : String)
    (text : String) : Prop :=
  ∃ start rest, text = start ++ Sql.quotedName name ++ rest ∧
    tokens text.toList = before ++ .name name :: tokens rest.toList

/-- A name in quotes is read back behind whole tokens and before anything but another quote. -/
theorem names_of_tokens_append
    {before : List Token}
    {start rest : String}
    (begins : ∀ more, tokens (start.toList ++ more) = before ++ tokens more)
    (apart : '"' ∉ rest.toList.head?)
    (name : String) :
    Names before name (start ++ Sql.quotedName name ++ rest) := by
  refine ⟨start, rest, rfl, ?_⟩
  rw [String.toList_append, String.toList_append, List.append_assoc, begins,
    Sql.tokens_quotedName_append apart]

/-- The words that let a definition pass over what is already there, as tokens. -/
def existenceTokens (ifNotExists : Bool) : List Token :=
  if ifNotExists then [.word "IF", .word "NOT", .word "EXISTS"] else []

/-- The tokens before the name of an index. -/
def indexTokens (isUnique ifNotExists : Bool) : List Token :=
  [.word "CREATE"] ++ (if isUnique then [.word "UNIQUE"] else []) ++ [.word "INDEX"] ++
    existenceTokens ifNotExists

theorem tokens_indexWords
    (isUnique ifNotExists : Bool)
    (more : List Char) :
    tokens ("CREATE ".toList ++ ((if isUnique then "UNIQUE " else "").toList ++
        ("INDEX ".toList ++ ((existence ifNotExists).toList ++ more)))) =
      indexTokens isUnique ifNotExists ++ tokens more := by
  cases isUnique <;> cases ifNotExists <;> rfl

/-- The definition of a column begins with its name. -/
theorem names_column (column : Column) : Names [] column.name column.line := by
  have line_eq : column.line =
      "    " ++ Sql.quotedName column.name ++
        (" " ++ " ".intercalate (column.type.spelling :: column.clauses)) := by
    rw [Column.line, String.intercalate_cons_cons, String.append_assoc]
  rw [line_eq]
  exact names_of_tokens_append (fun _ => rfl) (by simp) _

theorem line_unique
    (name : String)
    (columns : List String) :
    (TableConstraint.unique name columns).line =
      "    CONSTRAINT " ++ Sql.quotedName name ++ " UNIQUE (" ++ Sql.commas columns ++ ")" :=
  rfl

theorem line_foreignKey
    (name : String)
    (columns : List String)
    (table : String)
    (targets : List String)
    (actions : Actions) :
    (TableConstraint.foreignKey name columns table targets actions).line =
      "    CONSTRAINT " ++ Sql.quotedName name ++ " FOREIGN KEY (" ++ Sql.commas columns ++
        ") REFERENCES " ++ table ++ " (" ++ Sql.commas targets ++ ")" ++ actions.spelling :=
  rfl

/-- A constraint over several columns begins with its name, the key apart, which has none. -/
theorem names_unique
    (name : String)
    (columns : List String) :
    Names [.word "CONSTRAINT"] name (TableConstraint.unique name columns).line := by
  have line_eq : (TableConstraint.unique name columns).line =
      "    CONSTRAINT " ++ Sql.quotedName name ++ (" UNIQUE (" ++ Sql.commas columns ++ ")") := by
    rw [line_unique]
    simp only [String.append_assoc]
  rw [line_eq]
  exact names_of_tokens_append (fun _ => rfl) (by simp) _

theorem names_foreignKey
    (name : String)
    (columns : List String)
    (table : String)
    (targets : List String)
    (actions : Actions) :
    Names [.word "CONSTRAINT"] name
      (TableConstraint.foreignKey name columns table targets actions).line := by
  have line_eq : (TableConstraint.foreignKey name columns table targets actions).line =
      "    CONSTRAINT " ++ Sql.quotedName name ++
        (" FOREIGN KEY (" ++ Sql.commas columns ++ ") REFERENCES " ++ table ++ " (" ++
          Sql.commas targets ++ ")" ++ actions.spelling) := by
    rw [line_foreignKey]
    simp only [String.append_assoc]
  rw [line_eq]
  exact names_of_tokens_append (fun _ => rfl) (by simp) _

theorem tableText_eq
    (table : Table)
    (ifNotExists : Bool) :
    table.text ifNotExists =
      "CREATE TABLE " ++ existence ifNotExists ++ table.name ++ " (\n" ++
        ",\n".intercalate (table.columns.map (·.line) ++ table.constraints.map (·.line)) ++
        "\n);\n" :=
  rfl

theorem indexText_eq
    (settings : SchemaSettings)
    (entity : Entity)
    (index : Index) :
    indexText settings entity index =
      "CREATE " ++ (if index.isUnique then "UNIQUE " else "") ++ "INDEX " ++
        existence settings.ifNotExists ++ Sql.quotedName index.name ++ " ON " ++ entity.table ++
        " (" ++ Sql.commas (index.members.map (·.column)) ++ ");\n" :=
  rfl

/-- The definition of a table begins with its name. -/
theorem names_table
    (length : Option Nat)
    (entity : Entity)
    (ifNotExists : Bool) :
    Names ([.word "CREATE", .word "TABLE"] ++ existenceTokens ifNotExists) entity.bareTable
      ((Table.ofEntity length entity).text ifNotExists) := by
  have text_eq : (Table.ofEntity length entity).text ifNotExists =
      "CREATE TABLE " ++ existence ifNotExists ++ Sql.quotedName entity.bareTable ++
        (" (\n" ++ ",\n".intercalate ((Table.ofEntity length entity).columns.map (·.line) ++
          (Table.ofEntity length entity).constraints.map (·.line)) ++ "\n);\n") := by
    rw [tableText_eq]
    simp only [String.append_assoc]
    rfl
  rw [text_eq]
  refine names_of_tokens_append (fun more => ?_) (by simp) _
  rw [String.toList_append, List.append_assoc]
  cases ifNotExists <;> rfl

/-- The definition of an index begins with its name. -/
theorem names_index
    (settings : SchemaSettings)
    (entity : Entity)
    (index : Index) :
    Names (indexTokens index.isUnique settings.ifNotExists) index.name
      (indexText settings entity index) := by
  have text_eq : indexText settings entity index =
      "CREATE " ++ (if index.isUnique then "UNIQUE " else "") ++ "INDEX " ++
          existence settings.ifNotExists ++ Sql.quotedName index.name ++
        (" ON " ++ entity.table ++ " (" ++ Sql.commas (index.members.map (·.column)) ++
          ");\n") := by
    rw [indexText_eq]
    simp only [String.append_assoc]
  rw [text_eq]
  refine names_of_tokens_append (fun more => ?_) (by simp) _
  simp only [String.toList_append, List.append_assoc]
  exact tokens_indexWords _ _ _

/-- Behind the name of an index comes that of its table. -/
theorem names_table_of_index
    (settings : SchemaSettings)
    (entity : Entity)
    (index : Index) :
    Names (indexTokens index.isUnique settings.ifNotExists ++ [.name index.name, .word "ON"])
      entity.bareTable (indexText settings entity index) := by
  have text_eq : indexText settings entity index =
      "CREATE " ++ (if index.isUnique then "UNIQUE " else "") ++ "INDEX " ++
          existence settings.ifNotExists ++ Sql.quotedName index.name ++ " ON " ++
          Sql.quotedName entity.bareTable ++
        (" (" ++ Sql.commas (index.members.map (·.column)) ++ ");\n") := by
    rw [indexText_eq, Entity.table]
    simp only [String.append_assoc]
  rw [text_eq]
  refine names_of_tokens_append (fun more => ?_) (by simp) _
  have reads_on (more : List Char) : tokens (" ON ".toList ++ more) = .word "ON" :: tokens more :=
    rfl
  have reads_name (more : List Char) :
      tokens ((Sql.quotedName index.name).toList ++ (" ON ".toList ++ more)) =
        .name index.name :: .word "ON" :: tokens more := by
    rw [Sql.tokens_quotedName_append (by simp), reads_on]
  simp only [String.toList_append, List.append_assoc]
  rw [tokens_indexWords, reads_name]
  rfl

/-! ## Reading back -/

/-- The list of allowed values is read back as one literal for each value, in order and with its
text, and closes where it is to close; a name in quotes is read back as that name before anything
but another quote.  So stand the names of columns, constraints, tables and indexes. -/
theorem quotes_read_back :
    (∀ column : Column, column.allowed ≠ [] →
      column.allowedClause ∈ column.clauses ∧
        ∀ rest, tokens (column.allowedClause.toList ++ rest) =
          [.word "CHECK", .mark '(', .name column.name, .word "IN", .mark '('] ++
            (column.allowed.map Token.text).intersperse (.mark ',') ++
            [.mark ')', .mark ')'] ++ tokens rest) ∧
    (∀ name rest, '"' ∉ rest.head? →
      tokens ((Sql.quotedName name).toList ++ rest) = .name name :: tokens rest) ∧
    (∀ column : Column, Names [] column.name column.line) ∧
    (∀ name columns,
      Names [.word "CONSTRAINT"] name (TableConstraint.unique name columns).line) ∧
    (∀ name columns table targets actions,
      Names [.word "CONSTRAINT"] name
        (TableConstraint.foreignKey name columns table targets actions).line) ∧
    (∀ length entity ifNotExists,
      Names ([.word "CREATE", .word "TABLE"] ++ existenceTokens ifNotExists) entity.bareTable
        ((Table.ofEntity length entity).text ifNotExists)) ∧
    ∀ settings entity index,
      Names (indexTokens index.isUnique settings.ifNotExists) index.name
          (indexText settings entity index) ∧
        Names (indexTokens index.isUnique settings.ifNotExists ++ [.name index.name, .word "ON"])
          entity.bareTable (indexText settings entity index) := by
  refine ⟨fun column restricted => ?_, fun name rest apart => ?_, names_column, names_unique,
    names_foreignKey, names_table, fun settings entity index => ?_⟩
  · exact ⟨column.allowedClause_mem_clauses restricted, column.tokens_allowedClause_append⟩
  · exact Sql.tokens_quotedName_append apart name
  · exact ⟨names_index settings entity index, names_table_of_index settings entity index⟩

/-- A column whose name has a quote and whose values have quotes at their ends, next to each other
and before what looks like the end of the list. -/
def quotedColumn : Column where
  name := "a\"b"
  type := .text
  isIdentity := false
  isKey := false
  isUnique := false
  check := none
  allowed := ["'", "x''y", "'); --", "\\'", ""]
  default := none
  reference := none

theorem quotes_read_back_quotedColumn :
    (quotedColumn.allowed ≠ [] ∧
      tokens (quotedColumn.allowedClause.toList ++ [';']) =
        [.word "CHECK", .mark '(', .name "a\"b", .word "IN", .mark '(', .text "'", .mark ',',
          .text "x''y", .mark ',', .text "'); --", .mark ',', .text "\\'", .mark ',', .text "",
          .mark ')', .mark ')', .mark ';']) ∧
    ('"' ∉ [' ', 'x'].head? ∧
      tokens ((Sql.quotedName "\"--\"\"").toList ++ [' ', 'x']) =
        [.name "\"--\"\"", .word "x"]) :=
  have listed : quotedColumn.allowed ≠ [] := List.cons_ne_nil _ _
  have apart : '"' ∉ [' ', 'x'].head? := by decide
  ⟨⟨listed, (quotes_read_back.1 quotedColumn listed).2 [';']⟩,
    ⟨apart, quotes_read_back.2.1 _ _ apart⟩⟩

end Tablewright.Schema
