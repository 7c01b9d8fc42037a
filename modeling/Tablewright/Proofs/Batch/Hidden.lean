import Tablewright.Proofs.Batch.Names
import Tablewright.Proofs.Batch.Outline

/-!
# Hidden fields

A field is hidden if its tag leaves it out or it has no type.  Nothing that is said of a hidden
field reaches the output, but for the name of a table: its own name, keys, groups, indexes, checks
and references can be exchanged at will.
-/

namespace Tablewright

/-- The field is left out by its tag, or it has no type. -/
def FieldDecl.IsHidden (decl : FieldDecl) : Prop :=
  .ignore ∈ Tag.read decl.tag ∨ Text.isBlankText decl.type

instance (decl : FieldDecl) : Decidable decl.IsHidden :=
  inferInstanceAs (Decidable (_ ∨ _))

/-- A field is left out exactly if one of the tokens says so. -/
theorem Constraint.isIgnored_ofTokens_iff
    (column : String)
    (tokens : List Tag.Token) :
    (ofTokens column tokens).isIgnored ↔ .ignore ∈ tokens := by
  have fold (constraint : Constraint) :
      (tokens.foldl (apply column) constraint).isIgnored ↔
        constraint.isIgnored ∨ .ignore ∈ tokens := by
    induction tokens generalizing constraint with
    | nil => simp
    | cons token tokens ih =>
      rw [List.foldl_cons, ih]
      cases token <;> simp [apply]
  rw [ofTokens, fold]
  simp

/-- Hidden fields are those that are not stored. -/
theorem FieldDecl.isHidden_iff {decl : FieldDecl} :
    decl.IsHidden ↔ (Field.ofDecl decl).isStored = false := by
  have ignored : (Field.ofDecl decl).constraint.isIgnored ↔ .ignore ∈ Tag.read decl.tag :=
    Constraint.isIgnored_ofTokens_iff _ _
  rw [IsHidden, ← ignored, Field.isStored, Bool.and_eq_false_iff, Bool.not_eq_false',
    Bool.not_eq_false']
  exact Iff.rfl

namespace RecordDecl

/-- The record with other fields. -/
def withFields
    (decl : RecordDecl)
    (fields : List FieldDecl) : RecordDecl :=
  { decl with fields }

variable {decl : RecordDecl} {left right : List FieldDecl} {field other : FieldDecl}

theorem outline_eq_of_isHidden
    (hidden : field.IsHidden)
    (other_hidden : other.IsHidden)
    (table :
      (Field.ofDecl field).constraint.tableName = (Field.ofDecl other).constraint.tableName)
    {first second : Entity}
    (accepted : Entity.ofDecl (decl.withFields (left ++ field :: right)) = .ok first)
    (other_accepted : Entity.ofDecl (decl.withFields (left ++ other :: right)) = .ok second) :
    first.outline = second.outline := by
  rw [FieldDecl.isHidden_iff] at hidden other_hidden
  rw [Entity.eq_of_ofDecl accepted, Entity.eq_of_ofDecl other_accepted]
  apply Entity.outline_eq_outline
  case name => rfl
  case table =>
    simp only [Entity.ofFields, withFields, List.map_append, List.map_cons, List.findSome?_append,
      List.findSome?_cons, table]
  case stored =>
    have not_stored : ¬ (Field.ofDecl field).isStored := Bool.eq_false_iff.mp hidden
    have other_not_stored : ¬ (Field.ofDecl other).isStored := Bool.eq_false_iff.mp other_hidden
    simp only [Entity.stored, Entity.ofFields, withFields, List.map_append, List.map_cons,
      List.filter_append, List.filter_cons_of_neg not_stored,
      List.filter_cons_of_neg other_not_stored]
  case length =>
    simp only [Entity.ofFields, withFields, List.map_append, List.map_cons, List.length_append,
      List.length_cons]

end RecordDecl

namespace Generator

/-- Batches that differ in a hidden field of an accepted record have the same output, if the field
names the same table in both. -/
theorem run_eq_run_of_isHidden
    (generator : Generator)
    (before after : List RecordDecl)
    (contracts : List ContractDecl)
    (decl : RecordDecl)
    (left right : List FieldDecl)
    {field other : FieldDecl}
    (hidden : field.IsHidden)
    (other_hidden : other.IsHidden)
    (table :
      (Field.ofDecl field).constraint.tableName = (Field.ofDecl other).constraint.tableName)
    {first second : Entity}
    (accepted : Entity.ofDecl (decl.withFields (left ++ field :: right)) = .ok first)
    (other_accepted : Entity.ofDecl (decl.withFields (left ++ other :: right)) = .ok second) :
    generator.run
        { records := before ++ decl.withFields (left ++ field :: right) :: after, contracts } =
      generator.run
        { records := before ++ decl.withFields (left ++ other :: right) :: after, contracts } := by
  apply run_eq_run_of_outlines
  case contracts => rfl
  case rejected =>
    have no_failure : Failure.ofRecord? (decl.withFields (left ++ field :: right)) = none := by
      rw [Failure.ofRecord?, accepted]
      rfl
    have no_other_failure :
        Failure.ofRecord? (decl.withFields (left ++ other :: right)) = none := by
      rw [Failure.ofRecord?, other_accepted]
      rfl
    rw [List.filterMap_append, List.filterMap_append, List.filterMap_cons_none no_failure,
      List.filterMap_cons_none no_other_failure]
  case outlines =>
    have outline :=
      RecordDecl.outline_eq_of_isHidden hidden other_hidden table accepted other_accepted
    simp only [Batch.entities, List.filterMap_append, List.filterMap_cons, accepted, other_accepted,
      Except.toOption, List.map_append, List.map_cons, outline]

/-- A user, whom posts reference. -/
def author : RecordDecl :=
  { name := "User", fields := [⟨"ID", "i64", "pk"⟩, ⟨"Email", "String", "unique"⟩] }

/-- A post whose fields are still to come. -/
def post : RecordDecl :=
  { name := "Post" }

/-- A repository that creates posts. -/
def postRepository : ContractDecl :=
  { name := "PostRepository"
    entity := "Post"
    methods := [{ name := "Create", params := [⟨"post", "&Post"⟩] }] }

/-- Users, and posts with a field between their key and their author. -/
def postsWith (field : FieldDecl) : Batch :=
  { records :=
      [author] ++
        post.withFields
          ([⟨"ID", "i64", "pk"⟩] ++ field :: [⟨"AuthorID", "i64", "fk:user,id"⟩]) :: []
    contracts := [postRepository] }

/-- A field that its tag leaves out, whatever else the tag says. -/
def ignoredDraft : FieldDecl :=
  ⟨"Draft", "i64", "-,pk,unique:once,index,check:draft > 0,fk:user,id,table:posts"⟩

/-- A field without a type. -/
def untypedNote : FieldDecl :=
  ⟨"Note", " ", "default:0,table:posts"⟩

/-- Posts have the same schema, repository and join queries with either of two hidden fields. -/
theorem run_eq_run_of_isHidden_posts :
    ignoredDraft.IsHidden ∧ untypedNote.IsHidden ∧
      ∃ generator, ofConfig {} = .ok generator ∧
        ∃ output, generator.run (postsWith ignoredDraft) = .ok output ∧
          generator.run (postsWith untypedNote) = .ok output ∧
          output.repositories.length = 1 ∧ output.relations.length = 1 ∧ output.failures = [] := by
  have hidden : ignoredDraft.IsHidden := by decide +kernel
  have other_hidden : untypedNote.IsHidden := by decide +kernel
  have table : (Field.ofDecl ignoredDraft).constraint.tableName =
      (Field.ofDecl untypedNote).constraint.tableName := by
    decide +kernel
  have entity (field : FieldDecl) (valid : field = ignoredDraft ∨ field = untypedNote) :
      ∃ entity, Entity.ofDecl (post.withFields
        ([⟨"ID", "i64", "pk"⟩] ++ field :: [⟨"AuthorID", "i64", "fk:user,id"⟩])) = .ok entity := by
    have accepted : (Entity.ofDecl (post.withFields
        ([⟨"ID", "i64", "pk"⟩] ++ field ::
          [⟨"AuthorID", "i64", "fk:user,id"⟩]))).toOption.isSome := by
      rcases valid with rfl | rfl
      · decide +kernel
      · decide +kernel
    obtain ⟨entity, made⟩ := Option.isSome_iff_exists.mp accepted
    exact ⟨entity, toOption_eq_some_iff.mp made⟩
  obtain ⟨first, accepted⟩ := entity ignoredDraft (.inl rfl)
  obtain ⟨second, other_accepted⟩ := entity untypedNote (.inr rfl)
  have computed : (ofConfig {}).toOption.any fun generator =>
      (generator.run (postsWith ignoredDraft)).toOption.any fun output =>
        output.repositories.length = 1 && output.relations.length = 1 &&
          output.failures = [] := by
    decide +kernel
  obtain ⟨generator, configured, computed⟩ := (Option.any_eq_true _ _).mp computed
  obtain ⟨output, done, shown⟩ := (Option.any_eq_true _ _).mp computed
  have output_ok := toOption_eq_some_iff.mp done
  have same := run_eq_run_of_isHidden generator [author] [] [postRepository] post
    [⟨"ID", "i64", "pk"⟩] [⟨"AuthorID", "i64", "fk:user,id"⟩] hidden other_hidden table accepted
    other_accepted
  simp only [Bool.and_eq_true, decide_eq_true_eq] at shown
  exact ⟨hidden, other_hidden, generator, toOption_eq_some_iff.mp configured, output, output_ok,
    same.symm.trans output_ok, shown.1.1, shown.1.2, shown.2⟩

end Generator

end Tablewright
