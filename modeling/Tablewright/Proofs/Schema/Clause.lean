import Tablewright.Schema.Table

/-!
# Clauses of tables

What the definition of a column says besides its name and its type: whether the database fills it
in, whether it is the key, whether its values are unique, and more that begins with other words.
Behind the columns stand constraints over several of them.
-/

namespace Tablewright.Schema

/-! ## Clauses of columns -/

theorem ColumnReference.head?_spelling (reference : ColumnReference) :
    reference.spelling.toList.head? = some 'R' := by
  -- An equation for the definition would first compare texts byte by byte.
  delta spelling
  simp

namespace Column

/-- The clause that makes a column the key. -/
def keyClause : String :=
  "PRIMARY KEY"

/-- The clause that leaves a column to the database. -/
def identityClause : String :=
  "GENERATED BY DEFAULT AS IDENTITY"

/-- The clause that makes the values of a column unique. -/
def uniqueClause : String :=
  "UNIQUE"

/-- The clause that lets no value of a column be missing. -/
def notNullClause : String :=
  "NOT NULL"

/-- The clause that checks an expression. -/
def checkClause (expression : String) : String :=
  "CHECK (" ++ expression ++ ")"

/-- What holds of the values of a column without negative numbers. -/
def nonNegative (column : Column) : String :=
  Sql.quotedName column.name ++ " >= 0"

/-- Whether the definition of a column leaves it to the database. -/
def isGenerated (column : Column) : Bool :=
  column.clauses.contains identityClause

/-- Whether the definition of a column makes its values unique. -/
def isDeclaredUnique (column : Column) : Bool :=
  column.clauses.contains uniqueClause

/-- What is said of a column besides where its values come from and whether they may be missing. -/
def remarks (column : Column) : List String :=
  let name := Sql.quotedName column.name
  (if column.isUnique then ["UNIQUE"] else []) ++
  (column.check.map fun check => "CHECK (" ++ check ++ ")").toList ++
  (if column.allowed.isEmpty then []
    else
      ["CHECK (" ++ name ++ " IN (" ++ Sql.commas (column.allowed.map Sql.quotedText) ++ "))"]) ++
  (if column.type.needsCheck then ["CHECK (" ++ name ++ " >= 0)"] else []) ++
  (column.default.map fun default => "DEFAULT " ++ default).toList ++
  (column.reference.map (·.spelling)).toList

theorem clauses_eq (column : Column) :
    column.clauses =
      (if column.isIdentity then [identityClause] else []) ++
        ((if column.isKey then [keyClause]
            else if column.type.nullable then [] else ["NOT NULL"]) ++
          column.remarks) := by
  simp only [clauses, remarks, keyClause, identityClause, List.append_assoc]

/-- A remark calls the column unique, or is told from the other clauses by its first letter. -/
theorem of_mem_remarks
    {column : Column}
    {remark : String}
    (member : remark ∈ column.remarks) :
    (column.isUnique ∧ remark = uniqueClause) ∨
      remark.toList.head? ∈ [some 'C', some 'D', some 'R'] := by
  simp only [remarks, List.mem_append, Option.mem_toList, Option.map_eq_some_iff] at member
  rcases member with ((((unique | ⟨_, _, rfl⟩) | listed) | checked) | ⟨_, _, rfl⟩) | ⟨_, _, rfl⟩
  · split at unique
    · next is_unique => exact .inl ⟨is_unique, List.mem_singleton.mp unique⟩
    · cases unique
  all_goals right
  · simp
  · split at listed
    · cases listed
    · rw [List.mem_singleton.mp listed]
      simp
  · split at checked
    · rw [List.mem_singleton.mp checked]
      simp
    · cases checked
  · simp
  · rw [ColumnReference.head?_spelling]
    decide

theorem notMem_remarks
    {clause : String}
    (not_unique : clause ≠ uniqueClause)
    (apart : clause.toList.head? ∉ [some 'C', some 'D', some 'R'])
    (column : Column) :
    clause ∉ column.remarks := by
  intro member
  rcases of_mem_remarks member with ⟨-, same⟩ | letter
  · exact not_unique same
  · exact apart letter

theorem keyClause_notMem_remarks (column : Column) : keyClause ∉ column.remarks :=
  column.notMem_remarks (by decide) (by decide)

theorem identityClause_notMem_remarks (column : Column) : identityClause ∉ column.remarks :=
  column.notMem_remarks (by decide) (by decide)

theorem uniqueClause_mem_remarks_iff {column : Column} :
    uniqueClause ∈ column.remarks ↔ column.isUnique := by
  constructor
  · intro member
    rcases of_mem_remarks member with ⟨unique, -⟩ | letter
    · exact unique
    · exact absurd letter (by decide)
  · intro unique
    simp only [remarks, if_pos unique, List.append_assoc]
    exact List.mem_cons_self

/-- A column is called the key once or not at all. -/
theorem count_keyClause (column : Column) :
    column.clauses.count keyClause = if column.isKey then 1 else 0 := by
  have no_remark := List.count_eq_zero_of_not_mem column.keyClause_notMem_remarks
  rw [clauses_eq, List.count_append, List.count_append, no_remark]
  cases column.isIdentity <;> cases column.isKey <;> cases column.type.nullable <;> rfl

/-- A column is left to the database exactly if it is an identity column. -/
theorem isGenerated_eq (column : Column) : column.isGenerated = column.isIdentity := by
  have no_keyword : identityClause ∉
      if column.isKey then [keyClause] else if column.type.nullable then [] else ["NOT NULL"] := by
    cases column.isKey <;> cases column.type.nullable <;> decide
  rw [isGenerated, clauses_eq, List.contains_eq_mem]
  cases column.isIdentity with
  | true => exact decide_eq_true List.mem_cons_self
  | false =>
    apply decide_eq_false
    rw [if_neg Bool.false_ne_true, List.nil_append, List.mem_append, not_or]
    exact ⟨no_keyword, column.identityClause_notMem_remarks⟩

/-- The values of a column are made unique exactly if they are to be. -/
theorem isDeclaredUnique_eq (column : Column) : column.isDeclaredUnique = column.isUnique := by
  have not_before : uniqueClause ∉
      (if column.isIdentity then [identityClause] else []) ++
        if column.isKey then [keyClause]
        else if column.type.nullable then [] else ["NOT NULL"] := by
    cases column.isIdentity <;> cases column.isKey <;> cases column.type.nullable <;> decide
  rw [isDeclaredUnique, clauses_eq, ← List.append_assoc, List.contains_eq_mem,
    Bool.eq_iff_iff, decide_eq_true_iff, List.mem_append, or_iff_right not_before,
    uniqueClause_mem_remarks_iff]

theorem keyClause_mem_iff {column : Column} : keyClause ∈ column.clauses ↔ column.isKey := by
  rw [← List.count_pos_iff, count_keyClause]
  cases column.isKey <;> decide

/-- A value may not be missing exactly if the column may hold nothing else, unless it is the key. -/
theorem notNullClause_mem_iff {column : Column} :
    notNullClause ∈ column.clauses ↔ ¬ column.isKey ∧ ¬ column.type.nullable := by
  have no_remark : notNullClause ∉ column.remarks := column.notMem_remarks (by decide) (by decide)
  rw [clauses_eq, List.mem_append, List.mem_append, or_iff_left no_remark]
  cases column.isIdentity <;> cases column.isKey <;> cases column.type.nullable <;> decide

theorem checkClause_injective : Function.Injective checkClause := by
  intro one other same
  unfold checkClause at same
  simpa only [← String.toList_inj, String.toList_append, List.append_cancel_left_eq,
    List.append_cancel_right_eq] using same

theorem checkClause_nonNegative (column : Column) :
    checkClause column.nonNegative = "CHECK (" ++ Sql.quotedName column.name ++ " >= 0)" := by
  rw [checkClause, nonNegative, ← String.append_assoc, String.append_assoc]
  rfl

/-- A check of allowed values is no check of unsigned numbers. -/
theorem checkClause_nonNegative_ne
    (column : Column)
    (values : String) :
    checkClause column.nonNegative ≠
      "CHECK (" ++ Sql.quotedName column.name ++ " IN (" ++ values ++ "))" := by
  intro same
  have same := congrArg String.toList same
  simp [checkClause, nonNegative] at same

/-- Only checks begin with the letter of a check. -/
theorem count_checkClause_eq_zero
    {texts : List String}
    (heads : ∀ text ∈ texts, text.toList.head? ≠ some 'C')
    (expression : String) :
    texts.count (checkClause expression) = 0 := by
  refine List.count_eq_zero_of_not_mem fun member => heads _ member ?_
  simp [checkClause]

theorem count_checkClause_map
    (check : Option String)
    (expression : String) :
    (check.map fun check => "CHECK (" ++ check ++ ")").toList.count (checkClause expression) =
      if check = some expression then 1 else 0 := by
  cases check with
  | none => rfl
  | some check =>
    change [checkClause check].count (checkClause expression) = _
    simp only [List.count_singleton, beq_iff_eq, checkClause_injective.eq_iff, Option.some.injEq]

theorem count_nonNegative_remarks (column : Column) :
    column.remarks.count (checkClause column.nonNegative) =
      (if column.check = some column.nonNegative then 1 else 0) +
        if column.type.needsCheck then 1 else 0 := by
  have unique : (if column.isUnique then ["UNIQUE"] else []).count
      (checkClause column.nonNegative) = 0 :=
    count_checkClause_eq_zero (by cases column.isUnique <;> decide) _
  have default : (column.default.map fun default => "DEFAULT " ++ default).toList.count
      (checkClause column.nonNegative) = 0 :=
    count_checkClause_eq_zero (by cases column.default <;> simp) _
  have reference : (column.reference.map (·.spelling)).toList.count
      (checkClause column.nonNegative) = 0 :=
    count_checkClause_eq_zero
      (by cases column.reference <;> simp [ColumnReference.head?_spelling]) _
  simp only [remarks, List.count_append]
  rw [unique, default, reference, count_checkClause_map, ← checkClause_nonNegative]
  cases column.type.needsCheck <;> cases column.allowed.isEmpty <;>
    simp [(column.checkClause_nonNegative_ne _).symm]

/-- The check of unsigned numbers is stated once for the type of a column, and once more if the tag
states the same. -/
theorem count_nonNegative (column : Column) :
    column.clauses.count (checkClause column.nonNegative) =
      (if column.check = some column.nonNegative then 1 else 0) +
        if column.type.needsCheck then 1 else 0 := by
  have identity : (if column.isIdentity then [identityClause] else []).count
      (checkClause column.nonNegative) = 0 :=
    count_checkClause_eq_zero (by cases column.isIdentity <;> decide) _
  have required : (if column.isKey then [keyClause]
      else if column.type.nullable then [] else ["NOT NULL"]).count
      (checkClause column.nonNegative) = 0 :=
    count_checkClause_eq_zero
      (by cases column.isKey <;> cases column.type.nullable <;> decide) _
  rw [clauses_eq, List.count_append, List.count_append, identity, required,
    count_nonNegative_remarks, Nat.zero_add, Nat.zero_add]

end Column

/-- A table has the columns of its entity. -/
theorem Table.map_name_columns
    (length : Option Nat)
    (entity : Entity) :
    (Table.ofEntity length entity).columns.map (·.name) = entity.columns := by
  rw [Table.ofEntity, List.map_map]
  rfl

/-! ## Constraints behind the columns -/

/-- What is made of the constraints of an entity is made of its key and its rendered groups. -/
theorem TableConstraint.filterMap_ofEntity
    {α : Type}
    (step : TableConstraint → Option α)
    (entity : Entity) :
    (ofEntity entity).filterMap step =
      (if entity.hasCompositeKey then
          (step (.primaryKey (entity.primaryKey.map (·.column)))).toList
        else []) ++
        (entity.uniqueGroups.filter (·.isRendered)).filterMap
          (fun group => step (.unique group.name group.columns)) ++
        (entity.foreignKeyGroups.filter (·.isRendered)).filterMap
          fun group => step (ofForeignKeyGroup group) := by
  have of_one (constraint : TableConstraint) :
      [constraint].filterMap step = (step constraint).toList := by
    rw [List.filterMap_cons]
    cases step constraint <;> rfl
  rw [ofEntity, List.filterMap_append, List.filterMap_append, List.filterMap_map,
    List.filterMap_map, apply_ite (List.filterMap step), of_one]
  rfl

end Tablewright.Schema
