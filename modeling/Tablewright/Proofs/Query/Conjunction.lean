import Tablewright.Proofs.Contract.Lookup
import Tablewright.Proofs.Query.PhraseReading
import Tablewright.Proofs.Text.Trim

/-!
# Conjunctions of fields

Fields with `And` between them, as lookups list them and queries compare them.  A lookup cuts the
text at `And` alone, a query at `And` and `Or`; where no field holds either word, both find the same
fields, and the conditions that they make of them read the same.
-/

namespace Tablewright

/-! ## Missing connectors -/

namespace Sql.Condition

/-- The condition with the connector that a missing one reads as. -/
def connected (condition : Condition) : Condition :=
  { condition with connector := some (condition.connector.getD .and) }

/-- Conditions read the same with their missing connectors. -/
theorem spelled_map_connected (conditions : List Condition) :
    spelled (conditions.map connected) = spelled conditions := by
  induction conditions with
  | nil => rfl
  | cons condition conditions ih =>
    cases conditions with
    | nil => rfl
    | cons next conditions =>
      rw [List.map_cons, List.map_cons, spelled, spelled, ← List.map_cons, ih]
      rfl

/-- Statements filter the same by conditions with their missing connectors. -/
theorem filter_map_connected (conditions : List Condition) :
    Statement.filter (conditions.map connected) = Statement.filter conditions := by
  rw [Statement.filter, Statement.filter, spelled_map_connected, List.isEmpty_map]

end Sql.Condition

namespace Query

open Sql (Condition Connector Statement)

/-! ## Fields -/

/-- Fields with `And` between them. -/
def conjunction (fields : List (List Char)) : List Char :=
  (connectorSpelling .and).intercalate fields

theorem conjunction_cons_cons (field next : List Char) (fields : List (List Char)) :
    conjunction (field :: next :: fields) =
      field ++ (connectorSpelling .and ++ conjunction (next :: fields)) := by
  rw [conjunction, List.intercalate_cons_cons, List.append_assoc]
  rfl

/-- A text that is a field and nothing else to lookups and queries. -/
structure IsPlainField (field : List Char) : Prop where
  /-- There is something in it. -/
  ne : field ≠ []
  /-- It can be cut nowhere. -/
  no_connector : ∀ connector, ¬ connectorSpelling connector <:+: field
  /-- No operator is split off. -/
  unsplit : splitOperator field = (field, .eq)

variable {field next : List Char} {fields : List (List Char)}

/-! ## Where connectors occur -/

/-- The word `Or` does not begin anywhere in a conjunction. -/
theorem quiet_or_conjunction (plain : ∀ field ∈ fields, IsPlainField field) :
    Quiet (connectorSpelling .or) (conjunction fields) [] := by
  induction fields with
  | nil => exact Quiet.nil _ _
  | cons field fields ih =>
    obtain ⟨here, later⟩ := List.forall_mem_cons.mp plain
    cases fields with
    | nil =>
      rw [conjunction, List.intercalate_singleton]
      exact NoConnector.quiet here.no_connector (by simp) .or
    | cons next fields =>
      rw [conjunction_cons_cons, Quiet.append_iff, Quiet.append_iff, List.append_nil]
      have quiet := NoConnector.quiet here.no_connector
        (head?_connectorSpelling_append .and (conjunction (next :: fields))) .or
      refine ⟨quiet, ?_, ih later⟩
      rw [connectorSpelling_or]
      exact Quiet.of_notMem_head (by decide)

/-- No order begins in a conjunction. -/
theorem not_infix_orderWord_conjunction (plain : ∀ field ∈ fields, IsPlainField field) :
    ¬ orderWord <:+: conjunction fields := by
  intro occurs
  have begins : connectorSpelling .or <:+: orderWord := by decide
  have quiet := quiet_or_conjunction plain
  exact quiet.not_infix (by decide) (begins.trans occurs)

theorem conjunction_ne
    (fields_ne : fields ≠ [])
    (plain : ∀ field ∈ fields, IsPlainField field) :
    conjunction fields ≠ [] := by
  obtain ⟨field, fields, rfl⟩ := List.exists_cons_of_ne_nil fields_ne
  exact Text.intercalate_ne_nil _ (plain field List.mem_cons_self).ne fields

/-! ## What lookups list -/

/-- A text in which `And` does not begin goes into the open name. -/
theorem namesAfter_append_of_quiet
    {text rest : List Char}
    (quiet : Quiet (connectorSpelling .and) text rest)
    (back : List Char) :
    Convention.namesAfter back (text ++ rest) =
      Convention.namesAfter (text.reverse ++ back) rest := by
  induction text generalizing back with
  | nil => rfl
  | cons c text ih =>
    obtain ⟨here, later⟩ := Quiet.cons_iff.mp quiet
    have step : Convention.namesAfter back (c :: (text ++ rest)) =
        Convention.namesAfter (c :: back) (text ++ rest) := by
      apply Convention.namesAfter.eq_2
      rintro more rfl equal
      exact here (by simp [connectorSpelling_and, equal])
    rw [List.cons_append, step, ih later, List.reverse_cons, List.append_assoc]
    rfl

theorem namesAfter_conjunction
    (fields_ne : fields ≠ [])
    (plain : ∀ field ∈ fields, IsPlainField field) :
    Convention.namesAfter [] (conjunction fields) = fields := by
  induction fields with
  | nil => exact absurd rfl fields_ne
  | cons field fields ih =>
    obtain ⟨here, later⟩ := List.forall_mem_cons.mp plain
    cases fields with
    | nil =>
      have quiet : Quiet (connectorSpelling .and) field [] :=
        NoConnector.quiet here.no_connector (by simp) .and
      have read := namesAfter_append_of_quiet quiet []
      rw [List.append_nil, List.append_nil] at read
      rw [conjunction, List.intercalate_singleton, read, Convention.namesAfter,
        List.reverse_reverse]
    | cons next fields =>
      have quiet := NoConnector.quiet here.no_connector
        (head?_connectorSpelling_append .and (conjunction (next :: fields))) .and
      rw [conjunction_cons_cons, namesAfter_append_of_quiet quiet, List.append_nil]
      have cut : Convention.namesAfter field.reverse
          (connectorSpelling .and ++ conjunction (next :: fields)) =
            field.reverse.reverse :: Convention.namesAfter [] (conjunction (next :: fields)) :=
        rfl
      rw [cut, List.reverse_reverse, ih (List.cons_ne_nil next fields) later]

/-- A lookup lists the fields of a conjunction. -/
theorem listedFields_conjunction
    (fields_ne : fields ≠ [])
    (plain : ∀ field ∈ fields, IsPlainField field) :
    Convention.listedFields (conjunction fields) = fields.map String.ofList := by
  have kept : fields.filter (!·.isEmpty) = fields := by
    rw [List.filter_eq_self]
    intro field member
    simp [(plain field member).ne]
  rw [Convention.listedFields, namesAfter_conjunction fields_ne plain, kept]

/-! ## What queries compare -/

/-- The pieces of a conjunction. -/
def conjuncts : List (List Char) → List Piece
  | [] => []
  | [field] => [{ text := field, connector := none }]
  | field :: fields => { text := field, connector := some .and } :: conjuncts fields

/-- Each field of a conjunction has a piece, and the connector after it reads as AND. -/
theorem exists_conjuncts_cons (field : List Char) (fields : List (List Char)) :
    ∃ connector, conjuncts (field :: fields) = { text := field, connector } :: conjuncts fields ∧
      connector.getD .and = .and := by
  cases fields with
  | nil => exact ⟨none, rfl, rfl⟩
  | cons next fields => exact ⟨some .and, rfl, rfl⟩

/-- A conjunction is put together from its fields. -/
theorem exists_connected_conjuncts (fields_ne : fields ≠ []) :
    ∃ texts last, conjuncts fields = connected texts last ∧
      conjunction fields = (connected texts last).flatMap Piece.spelling := by
  induction fields with
  | nil => exact absurd rfl fields_ne
  | cons field fields ih =>
    cases fields with
    | nil => exact ⟨[], field, rfl, by simp [conjunction, connected, Piece.spelling]⟩
    | cons next fields =>
      obtain ⟨texts, last, conjuncts_eq, conjunction_eq⟩ := ih (List.cons_ne_nil next fields)
      refine ⟨(field, .and) :: texts, last, ?_, ?_⟩
      · rw [conjuncts, conjuncts_eq]
        · rfl
        · exact List.cons_ne_nil next fields
      · rw [conjunction_cons_cons, conjunction_eq, ← List.append_assoc]
        rfl

theorem mem_of_mem_conjuncts
    {piece : Piece}
    (member : piece ∈ conjuncts fields) :
    piece.text ∈ fields := by
  induction fields with
  | nil => cases member
  | cons field fields ih =>
    obtain ⟨connector, conjuncts_eq, -⟩ := exists_conjuncts_cons field fields
    rw [conjuncts_eq, List.mem_cons] at member
    rcases member with rfl | later
    · exact List.mem_cons_self
    · exact List.mem_cons_of_mem field (ih later)

theorem pieces_conjunction (plain : ∀ field ∈ fields, IsPlainField field) :
    pieces (conjunction fields) = conjuncts fields := by
  by_cases fields_eq : fields = []
  · rw [fields_eq]
    rfl
  obtain ⟨texts, last, conjuncts_eq, conjunction_eq⟩ := exists_connected_conjuncts fields_eq
  rw [conjunction_eq, conjuncts_eq]
  apply pieces_connected
  rw [← conjuncts_eq]
  intro piece member
  have piece_plain := plain piece.text (mem_of_mem_conjuncts member)
  exact ⟨piece_plain.ne, piece_plain.no_connector⟩

/-- A plain field is compared with the value at the position. -/
theorem numbered_cons
    (plain : IsPlainField field)
    (position : Nat)
    (connector : Option Connector)
    (rest : List Piece) :
    numbered position ({ text := field, connector } :: rest) =
      { field := String.ofList field
        column := Text.snakeCase (String.ofList field)
        operator := .eq
        position := some position
        connector } :: numbered (position + 1) rest := by
  rw [numbered, plain.unsplit]
  rfl

theorem allEqual_cons (column : String) (columns : List String) (position : Nat) :
    Condition.allEqual (column :: columns) position =
      Condition.equals { column, position } :: Condition.allEqual columns (position + 1) := by
  simp only [Condition.allEqual, Sql.slots, List.zipIdx_cons, List.map_cons]

/-- The conditions of a conjunction are those of a lookup by its fields, up to connectors that read
the same. -/
theorem map_connected_numbered_conjuncts
    (plain : ∀ field ∈ fields, IsPlainField field)
    (position : Nat) :
    ((numbered position (conjuncts fields)).map (·.toCondition)).map Condition.connected =
      (Condition.allEqual ((fields.map String.ofList).map Text.snakeCase) position).map
        Condition.connected := by
  induction fields generalizing position with
  | nil => rfl
  | cons field fields ih =>
    obtain ⟨here, later⟩ := List.forall_mem_cons.mp plain
    obtain ⟨connector, conjuncts_eq, reads_and⟩ := exists_conjuncts_cons field fields
    rw [conjuncts_eq, numbered_cons here, List.map_cons, List.map_cons, List.map_cons,
      List.map_cons, allEqual_cons, List.map_cons, ih later (position + 1)]
    simp [Condition.connected, Condition.equals, reads_and]

/-- The conditions of a conjunction filter like those of a lookup by its fields. -/
theorem filter_numbered_conjuncts (plain : ∀ field ∈ fields, IsPlainField field) :
    Statement.filter ((numbered 1 (conjuncts fields)).map (·.toCondition)) =
      Statement.filter (Condition.allEqual ((fields.map String.ofList).map Text.snakeCase) 1) := by
  rw [← Condition.filter_map_connected, map_connected_numbered_conjuncts plain,
    Condition.filter_map_connected]

/-- Each field of a conjunction is compared with a value. -/
theorem countP_numbered_conjuncts
    (plain : ∀ field ∈ fields, IsPlainField field)
    (position : Nat) :
    (numbered position (conjuncts fields)).countP (·.position.isSome) = fields.length := by
  induction fields generalizing position with
  | nil => rfl
  | cons field fields ih =>
    obtain ⟨here, later⟩ := List.forall_mem_cons.mp plain
    obtain ⟨connector, conjuncts_eq, -⟩ := exists_conjuncts_cons field fields
    rw [conjuncts_eq, numbered_cons here, List.countP_cons_of_pos rfl, ih later (position + 1),
      List.length_cons]

/-! ## Finding by a conjunction -/

/-- A subject that no word of the convention begins or ends in. -/
structure IsPlainSubject (subject : List Char) : Prop where
  /-- There is something in it. -/
  ne : subject ≠ []
  /-- The conditions do not begin in it. -/
  no_by : ¬ byWord <:+: subject
  /-- No order begins in it, unless it is all of it. -/
  no_order : subject = "Order".toList ∨ ¬ "Order".toList <:+ subject

/-- The query for the rows in which the fields of a conjunction have given values. -/
def ofConjunction
    (name : String)
    (fields : List (List Char)) : Query :=
  { method := name
    shape := .many
    conditions := numbered 1 (conjuncts fields)
    order := none
    limit := none }

/-- A name that finds a plain subject by a conjunction describes the query of the conjunction. -/
theorem ofName?_conjunction
    {name : String}
    {subject : List Char}
    (subject_plain : IsPlainSubject subject)
    (fields_ne : fields ≠ [])
    (plain : ∀ field ∈ fields, IsPlainField field)
    (name_eq : name.toList = nameOf .find subject (conjunction fields)) :
    ofName? name = some (ofConjunction name fields) := by
  have regular : Verb.find.IsRegular := trivial
  have no_order := not_infix_orderWord_conjunction plain
  have parts : name.toList =
      Verb.find.spelling ++ (subject ++ (byWord ++ conjunction fields)) := by
    rw [name_eq, nameOf, List.append_assoc]
  have verb_read : verb? name.toList =
      some (.many, subject ++ (byWord ++ conjunction fields)) := by
    rw [parts]
    exact Verb.verb?_append regular trivial
  have limit_read : limitOf name.toList = none := by
    rw [parts]
    exact Verb.limitOf_append regular trivial
  have order_read : orderOf name.toList = none := by
    rw [name_eq, orderOf,
      orderIndex?_nameOf_none regular subject_plain.no_by subject_plain.no_order no_order]
    rfl
  have conditions_read : conditionsOf pieces name.toList = numbered 1 (conjuncts fields) := by
    rw [name_eq, conditionsOf,
      conditionText?_nameOf_none regular subject_plain.no_by subject_plain.no_order no_order]
    exact congrArg (numbered 1) (pieces_conjunction plain)
  have described : isDescribed .many (subject ++ (byWord ++ conjunction fields)) :=
    hasInnerBy_iff.mpr ⟨subject, _, subject_plain.ne, conjunction_ne fields_ne plain, rfl⟩
  rw [ofName?, ofNameWith?, verb_read, Option.bind_some]
  simp only [described, if_true, conditions_read, order_read, limit_read]
  rfl

end Query
end Tablewright
