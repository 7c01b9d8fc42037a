import Tablewright.Proofs.Entity.Valid
import Tablewright.Proofs.Repository.Emission
import Tablewright.Proofs.Schema.Clause
import Tablewright.Proofs.Sql.Placeholder
import Tablewright.Proofs.Text.Word
import Tablewright.Relation.Code

/-!
# Distinct columns

The fields of an accepted record have names of their own, but a column is named after the words of a
name in lower case.  So the columns are distinct exactly if these words are, and then no table and
no statement names a column twice.
-/

namespace Tablewright

/-! ## Columns of fields -/

/-- What the column of a field is named after: the words of its name in lower case. -/
def Field.words (field : Field) : List (List Char) :=
  Text.lowerWords field.name.toList

namespace Entity

variable {entity : Entity}

/-- No field of a valid entity has a blank name. -/
theorem not_isBlankText_of_valid
    (valid : entity.defect? = none)
    {field : Field}
    (member : field ∈ entity.fields) :
    ¬ Text.isBlankText field.name := by
  rw [defect?] at valid
  split_ifs at valid
  split at valid
  · cases valid
  · rw [Option.map_eq_none_iff, List.findIdx?_eq_none_iff] at valid
    rw [valid field.name (List.mem_map_of_mem member)]
    exact Bool.false_ne_true

theorem nodup_columns_iff (entity : Entity) :
    entity.columns.Nodup ↔ (entity.stored.map (·.words)).Nodup := by
  rw [columns, List.Nodup, List.Nodup, List.pairwise_map, List.pairwise_map]
  exact List.Pairwise.iff fun field other => Text.snakeCase_eq_iff.not

end Entity

/-! ## Columns of statements -/

/-- Lists of columns that a statement writes or returns. -/
def Sql.Statement.columnLists : Statement → List (List String)
  | insert _ columns returning => columns :: returning.toList
  | update _ sets _ returning => sets.map (·.column) :: returning.toList
  | select columns _ _ _ => [columns]
  | delete _ _ | count _ _ | existence _ _ _ => []

theorem Sql.map_column_slots
    (columns : List String)
    (first : Nat) :
    (slots columns first).map (·.column) = columns := by
  rw [slots, List.map_map]
  exact List.zipIdx_map_fst first columns

namespace Repository

variable {entity : Entity}

theorem nodup_of_mem_returning
    (distinct : entity.columns.Nodup)
    {isReturned : Bool}
    {columns : List String}
    (member : columns ∈ (returning entity isReturned).toList) :
    columns.Nodup := by
  cases isReturned with
  | false => cases member
  | true => exact List.mem_singleton.mp member ▸ distinct

/-- The statements of an entity list no column twice exactly if its columns are distinct. -/
theorem nodup_columnLists_iff :
    (∀ isReturned convention, ∀ columns ∈ (statementOf entity isReturned convention).columnLists,
      columns.Nodup) ↔ entity.columns.Nodup := by
  constructor
  · intro lists
    exact lists false .getById entity.columns (List.mem_singleton_self _)
  · intro distinct isReturned convention columns member
    have of_filter (keep : Field → Bool) :
        ((entity.stored.filter keep).map (·.column)).Nodup :=
      (List.filter_sublist.map _).nodup distinct
    cases convention with
    | create =>
      rcases List.mem_cons.mp member with rfl | returned
      · exact of_filter _
      · exact nodup_of_mem_returning distinct returned
    | update =>
      rcases List.mem_cons.mp member with rfl | returned
      · rw [Sql.map_column_slots]
        exact of_filter _
      · exact nodup_of_mem_returning distinct returned
    | getById | list | findBy fields => exact List.mem_singleton.mp member ▸ distinct
    | delete => cases member
    | query found =>
      rw [statementOf, Query.statement] at member
      split at member
      · cases member
      · cases member
      · cases member
      all_goals
        rw [List.mem_singleton.mp member]
        split
        · exact List.nodup_singleton "*"
        · exact distinct

end Repository

/-! ## Columns of join queries -/

namespace Relations

open Sql (numerals)

/-- What a table of a join query selects begins with the number of its alias. -/
theorem toList_qualified_append
    (position : Nat)
    (column rest : String) :
    (qualified position column ++ rest).toList =
      't' :: (numerals position ++ '.' :: (column ++ rest).toList) := by
  simp [qualified, tableAlias, numerals]

theorem position_eq_of_qualified
    {position other : Nat}
    {column otherColumn rest otherRest : String}
    (same : qualified position column ++ rest = qualified other otherColumn ++ otherRest) :
    position = other := by
  rw [← String.toList_inj, toList_qualified_append, toList_qualified_append,
    List.cons_inj_right] at same
  have dot_apart (after : List Char) : ∀ c ∈ ('.' :: after).head?, ¬ c.isDigit := by
    rintro c ⟨⟩
    decide
  exact (Sql.numerals_append_inj (dot_apart _) (dot_apart _) same).1

theorem map_position_tables
    (relations : Relations)
    (query : JoinQuery) :
    (tables relations query).map (·.position) = List.range' 0 (query.joins.length + 1) := by
  rw [tables, List.map_cons, List.map_map, List.range'_succ]
  exact congrArg (0 :: ·) (List.zipIdx_map_snd 1 query.joins)

/-- No two tables of a join query have one position. -/
theorem pairwise_position_ne
    (relations : Relations)
    (query : JoinQuery) :
    (tables relations query).Pairwise fun table other => table.position ≠ other.position := by
  have positions : ((tables relations query).map (·.position)).Nodup := by
    rw [map_position_tables]
    exact List.nodup_range'
  exact List.pairwise_map.mp positions

namespace JoinedTable

theorem selected_injective (table : JoinedTable) :
    Function.Injective fun column =>
      qualified table.position column ++ " AS " ++ columnAlias table.position column := by
  intro column other same
  rw [← String.toList_inj] at same
  simp only [qualified, columnAlias, String.toList_append, List.append_assoc,
    List.append_cancel_left_eq] at same
  have lengths := congrArg List.length same
  simp only [List.length_append] at lengths
  have length_eq : column.toList.length = other.toList.length := by omega
  exact String.toList_inj.mp (List.append_inj_left same length_eq)

theorem nodup_selected_iff (table : JoinedTable) :
    table.selected.Nodup ↔ table.entity.columns.Nodup :=
  List.nodup_map_iff table.selected_injective

end JoinedTable

/-- Columns that a join query selects, in order. -/
def selectedColumns
    (relations : Relations)
    (query : JoinQuery) : List String :=
  (tables relations query).flatMap (·.selected)

/-- A join query selects no column twice exactly if each of its tables has distinct columns. -/
theorem nodup_selectedColumns_iff
    (relations : Relations)
    (query : JoinQuery) :
    (selectedColumns relations query).Nodup ↔
      ∀ table ∈ tables relations query, table.entity.columns.Nodup := by
  have apart : (tables relations query).Pairwise
      fun table other => table.selected.Disjoint other.selected := by
    refine (pairwise_position_ne relations query).imp fun {table other} different => ?_
    rw [List.disjoint_left]
    intro item here there
    obtain ⟨column, -, rfl⟩ := List.mem_map.mp here
    obtain ⟨otherColumn, -, same⟩ := List.mem_map.mp there
    rw [String.append_assoc, String.append_assoc] at same
    exact different (position_eq_of_qualified same).symm
  rw [selectedColumns, List.nodup_flatMap]
  refine (and_iff_left apart).trans ?_
  exact forall₂_congr fun table _ => table.nodup_selected_iff

end Relations

/-! ## Columns of accepted records -/

namespace Repository

/-- The fields of an accepted record have distinct names, none of them blank.  A column is blank if
nothing is left of the name without raw marks, and the columns are distinct exactly if no two fields
have the same words but for case.  The table defines these columns, so it defines none twice, and no
statement lists one twice, exactly if they are distinct; a join query needs this of all its
tables. -/
theorem nodup_columns_iff_of_ofDecl
    {decl : RecordDecl}
    {entity : Entity}
    (accepted : Entity.ofDecl decl = .ok entity) :
    ((entity.stored.map (·.name)).Nodup ∧
        ∀ field ∈ entity.stored, ¬ Text.isBlankText field.name) ∧
      (∀ field ∈ entity.stored, field.column = "" ↔ Text.dropRawMarks field.name.toList = []) ∧
      (entity.columns.Nodup ↔ (entity.stored.map (·.words)).Nodup) ∧
      (∀ length, (Schema.Table.ofEntity length entity).columns.map (·.name) = entity.columns) ∧
      ((∀ isReturned convention,
          ∀ columns ∈ (statementOf entity isReturned convention).columnLists, columns.Nodup) ↔
        entity.columns.Nodup) ∧
      ∀ relations query, (Relations.selectedColumns relations query).Nodup ↔
        ∀ table ∈ Relations.tables relations query, table.entity.columns.Nodup := by
  have valid := Entity.valid_of_ofDecl accepted
  refine ⟨⟨Entity.nodup_stored_names_of_valid valid, fun field member => ?_⟩, fun field _ => ?_,
    entity.nodup_columns_iff, fun length => Schema.Table.map_name_columns length entity,
    nodup_columnLists_iff, Relations.nodup_selectedColumns_iff⟩
  · exact Entity.not_isBlankText_of_valid valid (List.mem_of_mem_filter member)
  · exact Text.snakeCase_eq_empty_iff

/-- A record of members. -/
def memberDecl : RecordDecl :=
  { name := "Member"
    fields := [⟨"ID", "i64", "pk"⟩, ⟨"FullName", "String", ""⟩, ⟨"r#type", "String", ""⟩] }

/-- The names of the members' fields differ in more than case. -/
theorem nodup_columns_iff_of_ofDecl_memberDecl :
    ∃ entity, Entity.ofDecl memberDecl = .ok entity ∧
      entity.columns = ["id", "full_name", "type"] ∧ (entity.stored.map (·.words)).Nodup := by
  have accepted : Entity.ofDecl memberDecl =
      .ok (Entity.ofFields "Member" (memberDecl.fields.map Field.ofDecl) "") :=
    rfl
  refine ⟨_, accepted, by decide +kernel, ?_⟩
  exact (nodup_columns_iff_of_ofDecl accepted).2.2.1.mp (by decide +kernel)

/-- A record of accounts whose two fields are spelled apart. -/
def accountDecl : RecordDecl :=
  { name := "Account", fields := [⟨"UserID", "i64", ""⟩, ⟨"user_id", "i64", ""⟩] }

/-- The record is accepted, and its table and its statements name one column twice. -/
theorem not_nodup_columns_accountDecl :
    ∃ entity, Entity.ofDecl accountDecl = .ok entity ∧
      entity.columns = ["user_id", "user_id"] ∧ ¬ entity.columns.Nodup ∧
      (lookup entity).text = "SELECT user_id, user_id FROM \"account\" WHERE id = $1" :=
  ⟨_, rfl, by decide +kernel, by decide +kernel, by decide +kernel⟩

end Repository
end Tablewright
