import Tablewright.Proofs.Relation.Coverage
import Tablewright.Proofs.Relation.Key

/-!
# Roles in results

The result of a join query has a field for the entity and one for each joined entity, named by their
roles.  Where a role is taken, the position of the join is appended.  Whether the role with its
number is taken as well is not looked up, so two fields have one name where it is.
-/

namespace Tablewright

/-- Names of the fields of the result of a query. -/
def JoinQuery.roles
    (relations : Relations)
    (query : JoinQuery) : List String :=
  relations.role :: query.joins.map (·.role)

namespace Relations

open Sql (numerals)

/-! ## Numbered roles -/

/-- A role with a position appended. -/
def numberedRole
    (role : String)
    (position : Nat) : String :=
  role ++ "_" ++ toString position

theorem reverse_toList_numberedRole
    (role : String)
    (position : Nat) :
    (numberedRole role position).toList.reverse =
      (numerals position).reverse ++ '_' :: role.toList.reverse := by
  simp [numberedRole, numerals]

/-- The position can be read off at the end of a numbered role. -/
theorem position_eq_of_numberedRole
    {role other : String}
    {position otherPosition : Nat}
    (same : numberedRole role position = numberedRole other otherPosition) :
    position = otherPosition := by
  have digits (role : String) (position : Nat) :
      (numberedRole role position).toList.reverse.takeWhile Char.isDigit =
        (numerals position).reverse := by
    have underscore : ∀ c ∈ ('_' :: role.toList.reverse).head?, ¬ c.isDigit := by
      rintro c ⟨⟩
      decide
    rw [reverse_toList_numberedRole, Sql.takeWhile_append_of_apart _ underscore,
      List.takeWhile_eq_self_iff]
    exact fun c member => Sql.isDigit_of_mem_numerals (List.mem_reverse.mp member)
  have reversed := digits role position
  rw [same, digits] at reversed
  exact Sql.numerals_injective (List.reverse_injective reversed).symm

/-! ## Joins one after another -/

/-- The join of a link behind earlier joins of an entity with a role. -/
def joinBehind
    (entity : Entity)
    (all : List ResolvedLink)
    (role : String)
    (earlier : List Join)
    (link : ResolvedLink) : Join :=
  { name := resultName entity all link
    role := freeRole (role :: earlier.map (·.role)) (earlier.length + 1) (roleOf link.1.label)
    related := link.2
    pairs := link.1.pairs }

theorem length_joinsFrom
    (entity : Entity)
    (all : List ResolvedLink)
    (taken : List String)
    (position : Nat)
    (links : List ResolvedLink) :
    (joinsFrom entity all taken position links).length = links.length := by
  induction links generalizing taken position with
  | nil => rfl
  | cons link links ih => rw [joinsFrom, List.length_cons, List.length_cons, ih]

/-- Joins up to a position are those of the links up to it. -/
theorem take_joinsFrom
    (entity : Entity)
    (all : List ResolvedLink)
    (taken : List String)
    (position count : Nat)
    (links : List ResolvedLink) :
    (joinsFrom entity all taken position links).take count =
      joinsFrom entity all taken position (links.take count) := by
  induction links generalizing taken position count with
  | nil => rw [joinsFrom, List.take_nil, List.take_nil, joinsFrom]
  | cons link links ih =>
    cases count with
    | zero => rfl
    | succ count =>
      rw [joinsFrom, List.take_succ_cons, List.take_succ_cons, joinsFrom, ih]

/-- One more link adds one join behind the others. -/
theorem joinsFrom_concat
    (entity : Entity)
    (all : List ResolvedLink)
    (role : String)
    (links : List ResolvedLink)
    (link : ResolvedLink) :
    joinsFrom entity all [role] 1 (links ++ [link]) =
      joinsFrom entity all [role] 1 links ++
        [joinBehind entity all role (joinsFrom entity all [role] 1 links) link] := by
  -- Taken roles and position move on from join to join, so the equation is first shown for all of
  -- them.
  have behind (taken : List String) (position : Nat) :
      joinsFrom entity all taken position (links ++ [link]) =
        joinsFrom entity all taken position links ++
          [{ name := resultName entity all link
             role := freeRole (taken ++ (joinsFrom entity all taken position links).map (·.role))
               (position + links.length) (roleOf link.1.label)
             related := link.2
             pairs := link.1.pairs }] := by
    induction links generalizing taken position with
    | nil =>
      rw [List.nil_append, joinsFrom, joinsFrom, joinsFrom, List.map_nil, List.append_nil]
      rfl
    | cons first links ih =>
      rw [List.cons_append, joinsFrom, joinsFrom, ih, List.map_cons, List.append_assoc,
        List.singleton_append, List.length_cons, Nat.add_assoc, Nat.add_comm 1]
      rfl
  rw [behind, joinBehind, length_joinsFrom, Nat.add_comm]
  rfl

/-! ## Distinct roles -/

/-- Joins have roles apart: none has the role of the entity, and no two first joins have one
role. -/
structure AreApart
    (role : String)
    (joins : List Join) : Prop where
  /-- The role of the entity is its own. -/
  own : role ∉ joins.map (·.role)
  /-- The roles of first joins are distinct. -/
  first : ((firstJoins joins).map (·.role)).Nodup

/-- The roles of all queries are distinct exactly if the joins have roles apart. -/
theorem nodup_roles_iff_areApart (relations : Relations) :
    (∀ query ∈ relations.queries, (query.roles relations).Nodup) ↔
      AreApart relations.role relations.joins := by
  rw [queries_eq, combined?]
  constructor
  · intro distinct
    refine ⟨fun member => ?_, ?_⟩
    · obtain ⟨join, found, role_eq⟩ := List.mem_map.mp member
      have single := distinct { name := join.name, joins := [join] }
        (List.mem_append_left _ (List.mem_map_of_mem found))
      rw [JoinQuery.roles, ← role_eq] at single
      exact (List.nodup_cons.mp single).1 List.mem_cons_self
    · split_ifs at distinct with several
      · have combined := distinct
          { name := relations.entity.name ++ "WithRelations", joins := firstJoins relations.joins }
          (List.mem_append_right _ (List.mem_singleton_self _))
        exact (List.nodup_cons.mp combined).2
      · rcases joins_eq : firstJoins relations.joins with _ | ⟨join, _ | ⟨other, rest⟩⟩
        · exact List.nodup_nil
        · exact List.nodup_singleton _
        · rw [joins_eq] at several
          simp at several
  · rintro ⟨own, first⟩ query member
    rcases List.mem_append.mp member with single | combined
    · obtain ⟨join, found, rfl⟩ := List.mem_map.mp single
      refine List.nodup_cons.mpr ⟨fun same => own ?_, List.nodup_singleton _⟩
      rw [List.mem_singleton.mp same]
      exact List.mem_map_of_mem found
    · split_ifs at combined
      · rw [Option.toList_some, List.mem_singleton] at combined
        rw [combined]
        exact List.nodup_cons.mpr
          ⟨fun member => own (List.map_subset _ (firstJoins_subset _) member), first⟩
      · cases combined

/-- One more join stays apart if it has neither the role of the entity nor, where it is a first
join, that of an earlier one. -/
theorem areApart_concat_iff
    (role : String)
    (joins : List Join)
    (join : Join) :
    AreApart role (joins ++ [join]) ↔
      AreApart role joins ∧ join.role ≠ role ∧
        (join.related.bareTable ∉ joins.map (·.related.bareTable) →
          join.role ∉ (firstJoins joins).map (·.role)) := by
  have own_iff : role ∉ (joins ++ [join]).map (·.role) ↔
      role ∉ joins.map (·.role) ∧ join.role ≠ role := by
    rw [List.map_append, List.map_singleton, List.mem_append, List.mem_singleton, not_or, ne_comm]
  have known : AreFirst (·.related.bareTable) joins (firstJoins joins) :=
    areFirst_firstJoins fun _ _ _ _ => Iff.rfl
  have first_iff : ((firstJoins (joins ++ [join])).map (·.role)).Nodup ↔
      ((firstJoins joins).map (·.role)).Nodup ∧
        (join.related.bareTable ∉ joins.map (·.related.bareTable) →
          join.role ∉ (firstJoins joins).map (·.role)) := by
    rw [firstJoins_concat, ← known.mem_map_iff]
    split_ifs with present
    · exact (and_iff_left fun absent => absurd present absent).symm
    · rw [List.map_append, List.map_singleton, List.nodup_append_comm, List.singleton_append,
        List.nodup_cons, and_comm]
      exact and_congr_right fun _ => (imp_iff_right present).symm
  constructor
  · rintro ⟨own, first⟩
    obtain ⟨own_before, apart⟩ := own_iff.mp own
    obtain ⟨first_before, free⟩ := first_iff.mp first
    exact ⟨⟨own_before, first_before⟩, apart, free⟩
  · rintro ⟨⟨own_before, first_before⟩, apart, free⟩
    exact ⟨own_iff.mpr ⟨own_before, apart⟩, first_iff.mpr ⟨first_before, free⟩⟩

/-! ## Collisions -/

/-- The role of a link collides with one before it: it is taken, and with its number it is taken
again, by the entity or, where the link is the first to its table, by the first join to another
table. -/
structure Collides
    (role : String)
    (earlier : List Join)
    (link : ResolvedLink) : Prop where
  /-- The role is taken. -/
  taken : roleOf link.1.label ∈ role :: earlier.map (·.role)
  /-- So is the role with its number. -/
  again : numberedRole (roleOf link.1.label) (earlier.length + 1) = role ∨
    link.2.bareTable ∉ earlier.map (·.related.bareTable) ∧
      numberedRole (roleOf link.1.label) (earlier.length + 1) ∈ (firstJoins earlier).map (·.role)

/-- A join behind others stays apart from them exactly if its link does not collide. -/
theorem not_collides_iff
    (entity : Entity)
    (all : List ResolvedLink)
    (role : String)
    (earlier : List Join)
    (link : ResolvedLink) :
    ¬ Collides role earlier link ↔
      (joinBehind entity all role earlier link).role ≠ role ∧
        (link.2.bareTable ∉ earlier.map (·.related.bareTable) →
          (joinBehind entity all role earlier link).role ∉ (firstJoins earlier).map (·.role)) := by
  have role_eq : (joinBehind entity all role earlier link).role =
      if roleOf link.1.label ∈ role :: earlier.map (·.role) then
        numberedRole (roleOf link.1.label) (earlier.length + 1)
      else roleOf link.1.label := by
    simp only [joinBehind, freeRole, List.contains_iff_mem]
    rfl
  rw [role_eq]
  split_ifs with taken
  · constructor
    · intro apart
      refine ⟨fun same => apart ⟨taken, .inl same⟩, fun absent member => ?_⟩
      exact apart ⟨taken, .inr ⟨absent, member⟩⟩
    · rintro ⟨own, free⟩ ⟨-, same | ⟨absent, member⟩⟩
      · exact own same
      · exact free absent member
  · rw [List.mem_cons, not_or] at taken
    refine iff_of_true (fun collides => ?_) ⟨taken.1, fun _ member => taken.2 ?_⟩
    · exact not_or.mpr taken (List.mem_cons.mp collides.taken)
    · exact List.map_subset _ (firstJoins_subset earlier) member

/-- What holds at each position of a list and at its end holds at each position of the list with one
more element. -/
theorem forall_getElem?_concat_iff
    {α : Type}
    {holds : Nat → α → Prop}
    {values : List α}
    {last : α} :
    (∀ position value, (values ++ [last])[position]? = some value → holds position value) ↔
      (∀ position value, values[position]? = some value → holds position value) ∧
        holds values.length last := by
  constructor
  · intro each
    refine ⟨fun position value found => each position value ?_, each values.length last ?_⟩
    · rw [List.getElem?_append_left (List.getElem?_eq_some_iff.mp found).1, found]
    · exact List.getElem?_concat_length
  · rintro ⟨before, at_end⟩ position value found
    rcases Nat.lt_or_ge position values.length with inside | behind
    · rw [List.getElem?_append_left inside] at found
      exact before position value found
    · rw [List.getElem?_append_right behind, List.getElem?_singleton] at found
      split_ifs at found with at_last
      obtain rfl := Option.some.inj found
      rwa [Nat.le_antisymm (Nat.sub_eq_zero_iff_le.mp at_last) behind]

/-- The joins of links have roles apart exactly if no link collides with those before it. -/
theorem areApart_joinsFrom_iff
    (entity : Entity)
    (all : List ResolvedLink)
    (role : String)
    (links : List ResolvedLink) :
    AreApart role (joinsFrom entity all [role] 1 links) ↔
      ∀ position link, links[position]? = some link →
        ¬ Collides role ((joinsFrom entity all [role] 1 links).take position) link := by
  -- From the end: the last link adds one join, and only that one can collide anew.
  induction links using List.reverseRecOn with
  | nil => exact iff_of_true ⟨List.not_mem_nil, List.nodup_nil⟩ nofun
  | append_singleton links link ih =>
    have length_eq := length_joinsFrom entity all [role] 1 links
    rw [joinsFrom_concat, areApart_concat_iff, ih, forall_getElem?_concat_iff,
      List.take_left' length_eq, not_collides_iff entity all]
    refine and_congr_left fun _ => forall₃_congr fun position other found => ?_
    have inside : position < links.length := (List.getElem?_eq_some_iff.mp found).1
    rw [List.take_append_of_le_length (by omega)]

/-- Roles of joins come from labels of links, some of them with the positions of the links. -/
theorem role_of_mem_joinsFrom
    {entity : Entity}
    {all links : List ResolvedLink}
    {taken : List String}
    {position : Nat}
    {join : Join}
    (member : join ∈ joinsFrom entity all taken position links) :
    ∃ link ∈ links, join.role = roleOf link.1.label ∨
      ∃ number < position + links.length,
        join.role = numberedRole (roleOf link.1.label) number := by
  induction links generalizing taken position with
  | nil => cases member
  | cons link links ih =>
    rw [joinsFrom] at member
    rcases List.mem_cons.mp member with rfl | later
    · refine ⟨link, List.mem_cons_self, ?_⟩
      dsimp only [freeRole]
      split_ifs
      · exact .inr ⟨position, by simp, rfl⟩
      · exact .inl rfl
    · obtain ⟨other, found, plain | ⟨number, below, numbered⟩⟩ := ih later
      · exact ⟨other, List.mem_cons_of_mem _ found, .inl plain⟩
      · refine ⟨other, List.mem_cons_of_mem _ found, .inr ⟨number, ?_, numbered⟩⟩
        rw [List.length_cons]
        omega

/-- A link collides only if the entity or an earlier link is named like the role with its number. -/
theorem Collides.exists_named
    {entity : Entity}
    {all links : List ResolvedLink}
    {role : String}
    {link : ResolvedLink}
    (collides : Collides role (joinsFrom entity all [role] 1 links) link) :
    numberedRole (roleOf link.1.label) (links.length + 1) = role ∨
      ∃ other ∈ links,
        roleOf other.1.label = numberedRole (roleOf link.1.label) (links.length + 1) := by
  have again := collides.again
  rw [length_joinsFrom] at again
  rcases again with same | ⟨-, member⟩
  · exact .inl same
  · obtain ⟨join, found, role_eq⟩ := List.mem_map.mp member
    obtain ⟨other, other_found, plain | ⟨number, below, numbered⟩⟩ :=
      role_of_mem_joinsFrom (firstJoins_subset _ found)
    · exact .inr ⟨other, other_found, by rw [← plain, role_eq]⟩
    · rw [role_eq] at numbered
      have := position_eq_of_numberedRole numbered
      omega

/-! ## Results of queries -/

theorem map_role_tables
    (relations : Relations)
    (query : JoinQuery) :
    (tables relations query).map (·.role) = query.roles relations := by
  rw [tables, List.map_cons, List.map_map, JoinQuery.roles]
  have joined := congrArg (List.map Join.role) (List.zipIdx_map_fst 1 query.joins)
  rw [List.map_map] at joined
  exact congrArg (_ :: ·) joined

/-- The fields of the result of a function are named by the roles of its query. -/
theorem map_fst_parts
    {relations : Relations}
    {query : JoinQuery}
    {function : JoinFunction}
    (isFor : function.IsFor relations query) :
    function.parts.map (·.1.text) = query.roles relations := by
  rw [← map_role_tables]
  exact (map_eq_map_of_forall₂ (fun table part part_eq => part_eq.1.symm) isFor.parts).symm

/-- The results of all join queries have distinct fields exactly if no link collides with those
before it.  A link collides only if the name of the entity or the label of an earlier link comes to
the role of the link with its position. -/
theorem nodup_roles_iff_of_ofEntity
    {entity : Entity}
    {entities : List Entity}
    {relations : Relations}
    (made : ofEntity entity entities = .ok (some relations)) :
    (∀ query function, joinFunction relations query = .ok function →
        function.parts.map (·.1.text) = query.roles relations) ∧
      ((∀ query ∈ relations.queries, (query.roles relations).Nodup) ↔
        ∀ position link, (resolved entity entities)[position]? = some link →
          ¬ Collides relations.role (relations.joins.take position) link) ∧
      ∀ position link, (resolved entity entities)[position]? = some link →
        Collides relations.role (relations.joins.take position) link →
          numberedRole (roleOf link.1.label) (position + 1) = Text.snakeCase entity.name ∨
            ∃ other ∈ (resolved entity entities).take position,
              roleOf other.1.label = numberedRole (roleOf link.1.label) (position + 1) := by
  obtain ⟨keys, -, -, rfl⟩ := of_ofEntity made
  refine ⟨fun query function function_ok => map_fst_parts (isFor_of_joinFunction function_ok),
    ?_, ?_⟩
  · rw [nodup_roles_iff_areApart]
    exact areApart_joinsFrom_iff entity _ _ _
  · intro position link found collides
    have inside : position < (resolved entity entities).length :=
      (List.getElem?_eq_some_iff.mp found).1
    have length_eq : ((resolved entity entities).take position).length = position := by
      rw [List.length_take]
      omega
    rw [take_joinsFrom] at collides
    have named := collides.exists_named
    rwa [length_eq] at named

/-- Employees may have another employee over them, whose number is in a column named like the
table. -/
def employee : Entity :=
  .ofFields "Employee" [.ofTag "ID" "i64" "pk", .ofTag "EmployeeID" "i64" "fk:employee,id"] ""

/-- The result of the query of employees holds an employee and the first employee that it
references. -/
theorem nodup_roles_iff_of_ofEntity_employee :
    ∃ relations, ofEntity employee [employee] = .ok (some relations) ∧
      relations.queries.map (·.roles relations) = [["employee", "employee_1"]] ∧
      ∀ query ∈ relations.queries, (query.roles relations).Nodup := by
  obtain ⟨relations, made, roles_eq⟩ :
      ∃ relations, ofEntity employee [employee] = .ok (some relations) ∧
        relations.queries.map (·.roles relations) = [["employee", "employee_1"]] :=
    exists_ofEntity_of_map_eq_some (by decide +kernel)
  obtain ⟨-, nodup_iff, named⟩ := nodup_roles_iff_of_ofEntity made
  have labels :
      (resolved employee [employee]).map (fun link => roleOf link.1.label) = ["employee"] := by
    decide +kernel
  refine ⟨relations, made, roles_eq, nodup_iff.mpr fun position link found collides => ?_⟩
  have label : ((resolved employee [employee]).map fun link => roleOf link.1.label)[position]? =
      ["employee"][position]? := by rw [labels]
  rw [List.getElem?_map, found, Option.map_some, List.getElem?_singleton] at label
  split_ifs at label with first
  · obtain rfl := first
    rcases named 0 link found collides with same | ⟨other, member, -⟩
    · rw [Option.some.inj label] at same
      revert same
      decide +kernel
    · cases member

/-- A book has three people to it, of three tables. -/
def book : Entity :=
  .ofFields "Book"
    [.ofTag "ID" "i64" "pk", .ofTag "Owner3" "i64" "fk:writer,id",
      .ofTag "Owner" "i64" "fk:editor,id", .ofTag "OwnerID" "i64" "fk:critic,id"] ""

/-- The people, and the books. -/
def library : List Entity :=
  (["Writer", "Editor", "Critic"].map fun name => .ofFields name [.ofTag "ID" "i64" "pk"] "") ++
    [book]

/-- The third person to a book gets the role of the first one. -/
theorem not_nodup_roles_book :
    (∀ entity ∈ library, entity.defect? = none) ∧
      ∃ relations, ofEntity book library = .ok (some relations) ∧
        ∃ query ∈ relations.queries, query.name = "BookWithRelations" ∧
          query.roles relations = ["book", "owner_3", "owner", "owner_3"] ∧
          ¬ (query.roles relations).Nodup := by
  have valid : ∀ entity ∈ library, entity.defect? = none := by decide +kernel
  obtain ⟨relations, made, shown⟩ :
      ∃ relations, ofEntity book library = .ok (some relations) ∧
        (relations.queries.any fun query => query.name = "BookWithRelations" ∧
          query.roles relations = ["book", "owner_3", "owner", "owner_3"]) = true :=
    exists_ofEntity_of_map_eq_some (by decide +kernel)
  obtain ⟨query, member, shown⟩ := List.any_eq_true.mp shown
  obtain ⟨name_eq, roles_eq⟩ := of_decide_eq_true shown
  refine ⟨valid, relations, made, query, member, name_eq, roles_eq, ?_⟩
  rw [roles_eq]
  decide

end Relations
end Tablewright
