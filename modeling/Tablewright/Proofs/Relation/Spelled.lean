import Tablewright.Proofs.Relation.ForeignKey
import Tablewright.Proofs.Repository.Spelled
import Tablewright.Relation.Code

/-!
# Names in join queries

The names that the code of relations holds are those checked when the relations are made, and the
name of the entity with a word behind it.  Where all of these can be spelled, there is code.
-/

namespace Tablewright.Relations

open Code (Identifier isSpelling)

/-! ## Queries -/

theorem firstJoins_subset (joins : List Join) : firstJoins joins ⊆ joins := by
  have fold (chosen : List Join) :
      joins.foldl (fun chosen join =>
        if chosen.any fun other => other.related.bareTable = join.related.bareTable then chosen
        else chosen ++ [join]) chosen ⊆ chosen ++ joins := by
    induction joins generalizing chosen with
    | nil => exact List.subset_append_left chosen []
    | cons join joins ih =>
      rw [List.foldl_cons]
      refine List.Subset.trans (ih _) ?_
      split
      · exact List.append_subset.mpr ⟨List.subset_append_left _ _,
          List.subset_append_of_subset_right _ (List.subset_cons_self _ _)⟩
      · rw [List.append_assoc, List.singleton_append]
        exact List.Subset.refl _
  exact fold []

/-- A query is along joins of the relations. -/
theorem joins_subset_of_mem_queries
    {relations : Relations}
    {query : JoinQuery}
    (member : query ∈ relations.queries) :
    query.joins ⊆ relations.joins := by
  rcases List.mem_append.mp member with single | combined
  · obtain ⟨join, found, rfl⟩ := List.mem_map.mp single
    exact List.cons_subset.mpr ⟨found, List.nil_subset _⟩
  · split at combined
    · rw [List.mem_singleton.mp combined]
      exact firstJoins_subset relations.joins
    · cases combined

/-! ## Names in code -/

/-- Names in a rebuilt value. -/
def RowLiteral.names (literal : RowLiteral) : List String :=
  literal.entity.text :: literal.fields.map (·.field.text)

/-- Names in the function of a join query and its result, types left out. -/
def JoinFunction.names (function : JoinFunction) : List String :=
  function.result.text :: function.name.text ::
    (function.parts.flatMap fun (role, literal) => role.text :: literal.names) ++
    function.params.map (·.1.text) ++ function.bindings.flatMap Repository.Binding.names

/-- Names in the code of relations. -/
def JoinCode.names (code : JoinCode) : List String :=
  code.name.text :: code.functions.flatMap JoinFunction.names

/-! ## Allowed names -/

section

variable {Allowed : String → Prop} (spelled : ∀ name, Allowed name → isSpelling name.toList)
include spelled

theorem yields_ofTable
    {table : JoinedTable}
    (entity_allowed : Allowed table.entity.name)
    (fields_allowed : ∀ field ∈ table.entity.stored, Allowed field.name) :
    Yields (RowLiteral.ofTable table) fun literal => ∀ name ∈ literal.names, Allowed name := by
  refine (Repository.yields_ofName spelled entity_allowed).bind fun entity entity_held => ?_
  have fields_read : Yields (table.entity.stored.mapM fun field => do
      let name ← Identifier.ofName field.name
      return { field := name, column := columnAlias table.position field.column : FieldRead })
      fun reads => ∀ read ∈ reads, Allowed read.field.text := by
    apply Yields.mapM
    intro field member
    exact (Repository.yields_ofName spelled (fields_allowed field member)).bind
      fun name held => .of_ok held
  refine fields_read.bind fun fields fields_held => .of_ok ?_
  refine List.forall_mem_cons.mpr ⟨entity_held, ?_⟩
  rw [List.forall_mem_map]
  exact fields_held

variable {relations : Relations} (allowed : ∀ name ∈ relations.names, Allowed name)
include allowed

/-- The tables of a query have the names of the relations. -/
theorem yields_parts
    {query : JoinQuery}
    (member : query ∈ relations.queries) :
    Yields ((tables relations query).mapM fun table => do
      let role ← Identifier.ofName table.role
      let literal ← RowLiteral.ofTable table
      return (role, literal))
      fun parts => ∀ part ∈ parts, Allowed part.1.text ∧ ∀ name ∈ part.2.names, Allowed name := by
  have table_allowed : ∀ table ∈ tables relations query, Allowed table.role ∧
      Allowed table.entity.name ∧ ∀ field ∈ table.entity.stored, Allowed field.name := by
    intro table found
    rcases List.mem_cons.mp found with rfl | joined
    · refine ⟨allowed _ ?_, allowed _ ?_, fun field stored => allowed _ ?_⟩
      · simp [names]
      · simp [names]
      · simp only [names, List.mem_append, List.mem_map]
        exact .inl (.inl (.inr ⟨field, stored, rfl⟩))
    · obtain ⟨⟨join, position⟩, zipped, rfl⟩ := List.mem_map.mp joined
      have join_found : join ∈ relations.joins :=
        joins_subset_of_mem_queries member (List.fst_mem_of_mem_zipIdx zipped)
      have of_join (name : String)
          (inner : name ∈ join.role :: join.related.name :: join.related.stored.map (·.name)) :
          Allowed name := by
        refine allowed name ?_
        simp only [names, List.mem_append]
        exact .inl (.inr (List.mem_flatMap.mpr ⟨join, join_found, inner⟩))
      refine ⟨of_join _ List.mem_cons_self, of_join _ ?_, fun field stored => of_join _ ?_⟩
      · exact List.mem_cons_of_mem _ List.mem_cons_self
      · exact List.mem_cons_of_mem _ (List.mem_cons_of_mem _ (List.mem_map_of_mem stored))
  apply Yields.mapM
  intro table found
  obtain ⟨role_allowed, entity_allowed, fields_allowed⟩ := table_allowed table found
  refine (Repository.yields_ofName spelled role_allowed).bind fun role role_held => ?_
  exact (yields_ofTable spelled entity_allowed fields_allowed).bind
    fun literal held => .of_ok ⟨role_held, held⟩

theorem yields_joinFunction
    {query : JoinQuery}
    (member : query ∈ relations.queries) :
    Yields (joinFunction relations query) fun function =>
      ∀ name ∈ function.names, Allowed name := by
  have query_allowed : ∀ name ∈ [query.functionName, query.name], Allowed name := by
    intro name inner
    refine allowed name ?_
    simp only [names, List.mem_append]
    exact .inr (List.mem_flatMap.mpr ⟨query, member, inner⟩)
  have keys_allowed : ∀ key ∈ relations.keys, Allowed key.name := by
    intro key found
    refine allowed key.name ?_
    simp only [names, List.mem_append, List.mem_map]
    exact .inl (.inl (.inl (.inr ⟨key, found, rfl⟩)))
  refine (Repository.yields_ofName spelled (query_allowed _ (by simp))).bind
    fun result result_held => ?_
  refine (Repository.yields_ofName spelled (query_allowed _ (by simp))).bind
    fun name name_held => ?_
  refine (yields_parts spelled allowed member).bind fun parts parts_held => ?_
  refine (Repository.yields_signatureParams spelled keys_allowed).bind
    fun params params_held => ?_
  refine (Repository.yields_paramBindings spelled keys_allowed).bind
    fun bindings bindings_held => .of_ok ?_
  intro inner found
  simp only [JoinFunction.names, List.cons_append, List.mem_cons, List.mem_append, List.mem_map,
    List.mem_flatMap] at found
  rcases found with rfl | rfl | (⟨part, part_found, rfl | literal⟩ | ⟨pair, pair_found, rfl⟩) |
    ⟨binding, binding_found, bound⟩
  · exact result_held
  · exact name_held
  · exact (parts_held part part_found).1
  · exact (parts_held part part_found).2 inner literal
  · exact params_held pair pair_found
  · exact bindings_held binding binding_found inner bound

/-- Relations have code if their names are allowed. -/
theorem yields_ofRelations
    (own_allowed : Allowed (relations.entity.name ++ "Relations")) :
    Yields (JoinCode.ofRelations relations) fun code => ∀ name ∈ code.names, Allowed name := by
  have entity_allowed : Allowed relations.entity.name := allowed _ (by simp [names])
  refine (Repository.yields_ofName spelled entity_allowed).bind fun _ _ => ?_
  refine (Repository.yields_ofName spelled own_allowed).bind fun name name_held => ?_
  refine (Yields.mapM fun query member => yields_joinFunction spelled allowed member).bind
    fun functions functions_held => .of_ok ?_
  refine List.forall_mem_cons.mpr ⟨name_held, ?_⟩
  intro inner member
  obtain ⟨function, found, inner_found⟩ := List.mem_flatMap.mp member
  exact functions_held function found inner inner_found

end

end Tablewright.Relations
