import Tablewright.Constraint
import Tablewright.Proofs.Tag.Swallowed

/-!
# Normalized tags

The tokens of a constraint are tokens of the tag that it was read from, in a fixed order, and state
the constraint again.  So a normalized tag means what the tag meant exactly if all of its tokens are
read back, which no value left open before others allows.
-/

namespace Tablewright.Constraint

open Tag (Token Closed)

variable {column : String} {constraint : Constraint} {token : Token}

/-! ## Tokens of a constraint -/

/-- What a constraint says of the statement that a token makes. -/
def Has (constraint : Constraint) : Token → Prop
  | .primaryKey => constraint.isPrimary
  | .unique => constraint.uniqueGroup = none ∧ constraint.isUnique
  | .ignore => constraint.isIgnored
  | .index isUnique name =>
    constraint.indexName.isSome ∧ isUnique = constraint.indexIsUnique ∧
      name = constraint.indexGroup
  | .uniqueGroup name => some name = constraint.uniqueGroup
  | .check expression => constraint.check = some expression
  | .default expression => constraint.default = some expression
  | .values allowed => constraint.allowed ≠ [] ∧ allowed = constraint.allowed
  | .foreignKey key =>
    ∃ reference, constraint.reference = some reference ∧
      ⟨constraint.foreignKeyGroup, reference.table, reference.column, constraint.onDelete,
        constraint.onUpdate⟩ = key
  | .table name => constraint.tableName = some name
  | .unrecognized _ => False

theorem mem_tokens_iff : token ∈ constraint.tokens ↔ constraint.Has token := by
  simp only [tokens, List.mem_append, Option.mem_toList, Option.map_eq_some_iff]
  cases group_eq : constraint.uniqueGroup <;> cases token <;> simp [Has, group_eq]

/-- A token that applies is all that it adds to a constraint. -/
theorem has_of_has_apply
    {other : Token}
    (has : (apply column constraint token).Has other) :
    constraint.Has other ∨ other = token := by
  cases token with
  | foreignKey key =>
    cases other with
    | foreignKey other =>
      obtain ⟨reference, found, rfl⟩ := has
      cases found
      exact .inr rfl
    | _ => exact .inl has
  | _ => cases other <;> simp_all [apply, Has]

/-- The tokens of a constraint are among those that it was made of. -/
theorem tokens_ofTokens_subset
    (column : String)
    (tokens : List Token) :
    (ofTokens column tokens).tokens ⊆ tokens := by
  have fold (constraint : Constraint) :
      (tokens.foldl (apply column) constraint).tokens ⊆ constraint.tokens ++ tokens := by
    induction tokens generalizing constraint with
    | nil => exact List.subset_append_left _ _
    | cons token tokens ih =>
      intro other member
      rcases List.mem_append.mp (ih (apply column constraint token) member) with applied | later
      · rcases has_of_has_apply (mem_tokens_iff.mp applied) with has | rfl
        · exact List.mem_append_left _ (mem_tokens_iff.mpr has)
        · simp
      · exact List.mem_append_right _ (List.mem_cons_of_mem token later)
  exact fold {}

theorem isRecognized_of_mem_tokens (member : token ∈ constraint.tokens) : token.IsRecognized := by
  cases token with
  | unrecognized text => exact mem_tokens_iff.mp member
  | _ => trivial

/-- The tokens of a constraint stand in normalized order. -/
theorem tokens_ordered (constraint : Constraint) :
    constraint.tokens.Pairwise fun token other => token.rank < other.rank := by
  have flag (isSet : Bool) (token : Token) :
      ((if isSet then [token] else []).map Token.rank).Sublist [token.rank] := by
    cases isSet <;> simp
  have text (value : Option String) (make : String → Token) {rank : Nat}
      (same : ∀ text, (make text).rank = rank) :
      ((value.map make).toList.map Token.rank).Sublist [rank] := by
    cases value <;> simp [same]
  have ranks : (constraint.tokens.map Token.rank).Sublist
      ([0] ++ [1] ++ [2] ++ [3] ++ [4] ++ [5] ++ [6] ++ [7] ++ [8]) := by
    simp only [tokens, List.map_append]
    refine ((((((((flag _ .primaryKey).append ?_).append (flag _ .ignore)).append ?_).append
      (text _ .table fun _ => rfl)).append (text _ .check fun _ => rfl)).append
      (text _ .default fun _ => rfl)).append ?_).append ?_
    · cases constraint.uniqueGroup with
      | none => exact flag _ .unique
      | some group => exact List.Sublist.refl [1]
    · exact flag _ (.index constraint.indexIsUnique constraint.indexGroup)
    · cases constraint.allowed <;> simp [Token.rank]
    · cases constraint.reference <;> simp [Token.rank]
  have increasing : [0, 1, 2, 3, 4, 5, 6, 7, 8].Pairwise (· < ·) := by
    decide
  exact List.pairwise_map.mp (increasing.sublist ranks)

/-! ## Constraints of tags -/

/-- A constraint as tokens leave it. -/
structure IsNormal
    (column : String)
    (constraint : Constraint) : Prop where
  /-- A field in a unique group is unique. -/
  isUnique : constraint.uniqueGroup.isSome → constraint.isUnique
  /-- An index is named as the tag says or after the column. -/
  indexName : constraint.indexName.isSome →
    constraint.indexName = some (constraint.indexGroup.getD (defaultIndexName column))
  /-- Without an index there is no group, and none is unique. -/
  noIndex : constraint.indexName = none →
    constraint.indexGroup = none ∧ constraint.indexIsUnique = false
  /-- Only a reference has a group and actions. -/
  noReference : constraint.reference = none →
    constraint.foreignKeyGroup = none ∧ constraint.onDelete = none ∧ constraint.onUpdate = none

theorem IsNormal.apply
    (normal : IsNormal column constraint)
    (token : Token) :
    IsNormal column (apply column constraint token) := by
  obtain ⟨isUnique, indexName, noIndex, noReference⟩ := normal
  cases token <;> constructor <;> simp_all [Constraint.apply]

theorem isNormal_ofTokens
    (column : String)
    (tokens : List Token) :
    IsNormal column (ofTokens column tokens) := by
  have fold (constraint : Constraint) (normal : IsNormal column constraint) :
      IsNormal column (tokens.foldl (Constraint.apply column) constraint) := by
    induction tokens generalizing constraint with
    | nil => exact normal
    | cons token tokens ih => exact ih _ (normal.apply token)
  exact fold {} ⟨nofun, nofun, fun _ => ⟨rfl, rfl⟩, fun _ => ⟨rfl, rfl, rfl⟩⟩

section Folding

variable (isSet : Bool) (value : Option String) (rest : Constraint)

theorem foldl_primaryKey :
    (if isSet then [Token.primaryKey] else []).foldl (Constraint.apply column) rest =
      { rest with isPrimary := isSet || rest.isPrimary } := by
  cases isSet <;> rfl

theorem foldl_unique :
    (if isSet then [Token.unique] else []).foldl (Constraint.apply column) rest =
      { rest with isUnique := isSet || rest.isUnique } := by
  cases isSet <;> rfl

theorem foldl_ignore :
    (if isSet then [Token.ignore] else []).foldl (Constraint.apply column) rest =
      { rest with isIgnored := isSet || rest.isIgnored } := by
  cases isSet <;> rfl

theorem foldl_table :
    (value.map Token.table).toList.foldl (Constraint.apply column) rest =
      { rest with tableName := value.or rest.tableName } := by
  cases value <;> rfl

theorem foldl_check :
    (value.map Token.check).toList.foldl (Constraint.apply column) rest =
      { rest with check := value.or rest.check } := by
  cases value <;> rfl

theorem foldl_default :
    (value.map Token.default).toList.foldl (Constraint.apply column) rest =
      { rest with default := value.or rest.default } := by
  cases value <;> rfl

theorem foldl_values (allowed : List String) :
    (if allowed.isEmpty then [] else [Token.values allowed]).foldl (Constraint.apply column) rest =
      { rest with allowed := if allowed.isEmpty then rest.allowed else allowed } := by
  cases allowed <;> rfl

end Folding

/-- The tokens of such a constraint state it. -/
theorem IsNormal.ofTokens_tokens (normal : IsNormal column constraint) :
    ofTokens column constraint.tokens = constraint := by
  obtain ⟨unique, named, noIndex, noReference⟩ := normal
  obtain ⟨isPrimary, isUnique, isIgnored, uniqueGroup, indexGroup, foreignKeyGroup, indexName,
    indexIsUnique, check, default, allowed, reference, onDelete, onUpdate, tableName⟩ := constraint
  simp only [ofTokens, tokens, List.foldl_append, foldl_primaryKey, foldl_ignore, foldl_table,
    foldl_check, foldl_default, foldl_values]
  -- The other sections read several fields at once.
  cases uniqueGroup <;> cases indexName <;> cases reference <;>
    simp_all [Constraint.apply, foldl_unique]

/-! ## Meaning of normalized tags -/

/-- The tokens of a constraint of a tag can be stated by a tag, and at most the last piece of each
stays open. -/
theorem tokens_ofTag
    (tag column : String) :
    (∀ token ∈ (ofTag tag column).tokens, token.IsWritten) ∧
      ∀ token ∈ (ofTag tag column).tokens, token.IsOpenAtEnd := by
  have runs := Tag.runs_readChars tag.toList
  have cut := Tag.isCut_segments (Text.trim tag.toList)
  have among : (ofTag tag column).tokens ⊆ Tag.read tag := tokens_ofTokens_subset column _
  exact ⟨fun token member =>
      runs.isWritten cut token (among member) (isRecognized_of_mem_tokens member),
    fun token member =>
      runs.isOpenAtEnd cut token (among member) (isRecognized_of_mem_tokens member)⟩

/-- The tokens of a constraint of a tag state the constraint again. -/
theorem ofTokens_tokens_ofTag
    (tag column : String) :
    ofTokens column (ofTag tag column).tokens = ofTag tag column :=
  (isNormal_ofTokens column (Tag.read tag)).ofTokens_tokens

/-- A normalized tag means what the tag meant if no piece of it but the last is left open. -/
theorem ofTag_tag_of_closed_pieces
    {tag column : String}
    (closed : ∀ piece ∈ ((ofTag tag column).tokens.flatMap Token.pieces).dropLast, Closed piece) :
    ofTag (ofTag tag column).tag column = ofTag tag column := by
  have read : Tag.read (ofTag tag column).tag = (ofTag tag column).tokens :=
    Tag.read_spelled_of_closed (tokens_ofTag tag column).1 closed
  conv_lhs => rw [ofTag, read]
  exact ofTokens_tokens_ofTag tag column

/-- A normalized tag means what the tag meant exactly if no piece of it but the last is left
open. -/
theorem ofTag_tag_iff
    (tag column : String) :
    ofTag (ofTag tag column).tag column = ofTag tag column ↔
      ∀ piece ∈ ((ofTag tag column).tokens.flatMap Token.pieces).dropLast, Closed piece := by
  refine ⟨?_, ofTag_tag_of_closed_pieces⟩
  intro same
  obtain ⟨written, openAtEnd⟩ := tokens_ofTag tag column
  have among := tokens_ofTokens_subset column (Tag.read (ofTag tag column).tag)
  rw [← ofTag, same] at among
  exact Tag.closed_of_subset_read written openAtEnd (tokens_ordered _) among

/-- A list of values whose last one is left open is put before a foreign key and takes it in. -/
theorem ofTag_tag_openValues :
    (ofTag "fk:answers,id,enum:do,don't" "answer").tag = "enum:do,don't,fk:answers,id" ∧
      (ofTag (ofTag "fk:answers,id,enum:do,don't" "answer").tag "answer").reference = none ∧
      ofTag (ofTag "fk:answers,id,enum:do,don't" "answer").tag "answer" ≠
        ofTag "fk:answers,id,enum:do,don't" "answer" := by
  decide +kernel

/-- A tag whose quotes and brackets are all closed is normalized without loss. -/
theorem ofTag_tag_of_closed
    {tag : String}
    (closed : Closed tag.toList)
    (column : String) :
    ofTag (ofTag tag column).tag column = ofTag tag column := by
  have runs := Tag.runs_readChars tag.toList
  have cut := Tag.isCut_segments (Text.trim tag.toList)
  have among : (ofTag tag column).tokens ⊆ Tag.read tag := tokens_ofTokens_subset column _
  have segments_closed := (Tag.closed_trim_iff.mpr closed).segments
  apply ofTag_tag_of_closed_pieces
  intro piece member
  obtain ⟨token, found, piece_found⟩ := List.mem_flatMap.mp (List.dropLast_subset _ member)
  exact runs.closed_pieces cut segments_closed token (among found)
    (isRecognized_of_mem_tokens found) piece piece_found

end Tablewright.Constraint
