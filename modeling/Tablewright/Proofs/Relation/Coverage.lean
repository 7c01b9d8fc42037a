import Tablewright.Proofs.Relation.Spelled

/-!
# Queries along joins

Every join has a query of its own.  Where the joins lead to several entities, one more query goes
along the first join to each of them.
-/

namespace Tablewright

/-- The position in a batch of the entity that a join references. -/
def Join.position
    (entities : List Entity)
    (join : Join) : Nat :=
  entities.findIdx (·.bareTable = join.related.bareTable)

namespace Relations

/-! ## Referenced entities -/

theorem target?_of_mem_resolved
    {entity : Entity}
    {entities : List Entity}
    {link : ResolvedLink}
    (member : link ∈ resolved entity entities) :
    target? entities link.1 = some link.2 := by
  obtain ⟨begun, -, resolved_eq⟩ := List.mem_filterMap.mp member
  obtain ⟨related, related_eq, rfl⟩ := Option.map_eq_some_iff.mp resolved_eq
  exact related_eq

/-- A link leads to an entity of the batch that has its table. -/
theorem table_of_mem_resolved
    {entity : Entity}
    {entities : List Entity}
    {link : ResolvedLink}
    (member : link ∈ resolved entity entities) :
    link.2 ∈ entities ∧ link.2.bareTable = link.1.table := by
  have found := target?_of_mem_resolved member
  exact ⟨List.mem_of_find?_eq_some found, by simpa using List.find?_some found⟩

section

variable {entity : Entity} {entities : List Entity} {relations : Relations}
  (made : ofEntity entity entities = .ok (some relations))
include made

theorem entity_of_ofEntity : relations.entity = entity := by
  obtain ⟨keys, -, -, rfl⟩ := of_ofEntity made
  rfl

theorem exists_link_of_mem_joins
    {join : Join}
    (member : join ∈ relations.joins) :
    ∃ link ∈ resolved entity entities, link.2 = join.related ∧ link.1.pairs = join.pairs := by
  have shown : (join.related, join.pairs) ∈
      relations.joins.map fun join => (join.related, join.pairs) :=
    List.mem_map_of_mem member
  rw [joins_of_ofEntity made, map_joinsFrom] at shown
  obtain ⟨link, found, same⟩ := List.mem_map.mp shown
  obtain ⟨related_eq, pairs_eq⟩ := Prod.mk.inj same
  exact ⟨link, found, related_eq, pairs_eq⟩

/-- A join references the first entity of the batch that has the table of that entity. -/
theorem find?_bareTable_of_mem_joins
    {join : Join}
    (member : join ∈ relations.joins) :
    entities.find? (·.bareTable = join.related.bareTable) = some join.related := by
  obtain ⟨link, found, related_eq, -⟩ := exists_link_of_mem_joins made member
  rw [← related_eq, (table_of_mem_resolved found).2]
  exact target?_of_mem_resolved found

theorem getElem?_position
    {join : Join}
    (member : join ∈ relations.joins) :
    entities[join.position entities]? = some join.related := by
  rw [Join.position, ← List.find?_eq_getElem?_findIdx]
  exact find?_bareTable_of_mem_joins made member

/-- Joins reference one entity of the batch exactly if they lead to one table. -/
theorem position_eq_iff
    {join other : Join}
    (member : join ∈ relations.joins)
    (other_member : other ∈ relations.joins) :
    join.position entities = other.position entities ↔
      join.related.bareTable = other.related.bareTable := by
  constructor
  · intro same
    have related_eq := getElem?_position made member
    rw [same, getElem?_position made other_member] at related_eq
    rw [Option.some.inj related_eq]
  · intro same
    rw [Join.position, same, Join.position]

end

/-- Relations are there if they show something. -/
theorem exists_ofEntity_of_map_eq_some
    {β : Type}
    {entity : Entity}
    {entities : List Entity}
    {display : Relations → β}
    {shown : β}
    (found : (ofEntity entity entities).toOption.join.map display = some shown) :
    ∃ relations, ofEntity entity entities = .ok (some relations) ∧ display relations = shown := by
  obtain ⟨relations, joined, shows⟩ := Option.map_eq_some_iff.mp found
  exact ⟨relations, toOption_eq_some_iff.mp (Option.join_eq_some_iff.mp joined), shows⟩

/-! ## First joins -/

theorem firstJoins_concat
    (joins : List Join)
    (join : Join) :
    firstJoins (joins ++ [join]) =
      if join.related.bareTable ∈ (firstJoins joins).map (·.related.bareTable) then firstJoins joins
      else firstJoins joins ++ [join] := by
  rw [firstJoins, List.foldl_append, ← firstJoins, List.foldl_cons, List.foldl_nil]
  simp only [List.any_eq_true, decide_eq_true_iff, List.mem_map]

/-- Of joins that a key tells apart, the chosen ones are the first with each key. -/
structure AreFirst
    {β : Type}
    [DecidableEq β]
    (key : Join → β)
    (joins chosen : List Join) : Prop where
  /-- They come in the order in which the keys first appear. -/
  order : chosen.map key = (joins.map key).eraseDups
  /-- No key is chosen twice. -/
  once : (chosen.map key).Nodup
  /-- Each is the first join with its key. -/
  first : ∀ join ∈ chosen, joins.find? (key · = key join) = some join

namespace AreFirst

variable {β : Type} [DecidableEq β] {key : Join → β} {joins chosen : List Join} {join : Join}

theorem mem_map_iff
    (areFirst : AreFirst key joins chosen)
    (value : β) :
    value ∈ chosen.map key ↔ value ∈ joins.map key := by
  rw [areFirst.order, List.mem_eraseDups]

/-- A join whose key is there already changes nothing. -/
theorem concat_of_mem
    (areFirst : AreFirst key joins chosen)
    (present : key join ∈ chosen.map key) :
    AreFirst key (joins ++ [join]) chosen where
  order := by
    rw [List.map_append, List.map_singleton, eraseDups_concat,
      if_pos ((areFirst.mem_map_iff _).mp present), areFirst.order]
  once := areFirst.once
  first other member := by
    rw [List.find?_append, areFirst.first other member, Option.some_or]

/-- A join with a new key is chosen last. -/
theorem concat_of_notMem
    (areFirst : AreFirst key joins chosen)
    (absent : key join ∉ chosen.map key) :
    AreFirst key (joins ++ [join]) (chosen ++ [join]) where
  order := by
    rw [List.map_append, List.map_append, List.map_singleton, eraseDups_concat,
      if_neg ((areFirst.mem_map_iff _).not.mp absent), areFirst.order]
  once := by
    rw [List.map_append, List.map_singleton]
    exact List.nodup_append_comm.mp (List.nodup_cons.mpr ⟨absent, areFirst.once⟩)
  first other member := by
    rw [List.find?_append]
    rcases List.mem_append.mp member with before | last
    · rw [areFirst.first other before, Option.some_or]
    · obtain rfl := List.mem_singleton.mp last
      have none_before : joins.find? (key · = key other) = none := by
        refine List.find?_eq_none.mpr fun earlier found same => absent ?_
        rw [areFirst.mem_map_iff, ← of_decide_eq_true same]
        exact List.mem_map_of_mem found
      rw [none_before, Option.none_or, List.find?_singleton, if_pos (decide_eq_true rfl)]

end AreFirst

/-- The first joins are those that a key tells apart as the tables do. -/
theorem areFirst_firstJoins
    {β : Type}
    [DecidableEq β]
    {key : Join → β}
    {joins : List Join}
    (agrees : ∀ join ∈ joins, ∀ other ∈ joins,
      key join = key other ↔ join.related.bareTable = other.related.bareTable) :
    AreFirst key joins (firstJoins joins) := by
  -- From the end, as the joins are chosen: the last one is left out or added behind the others.
  induction joins using List.reverseRecOn with
  | nil => exact ⟨rfl, List.nodup_nil, nofun⟩
  | append_singleton joins join ih =>
    have earlier : AreFirst key joins (firstJoins joins) :=
      ih fun first member other other_member => agrees first (List.mem_append_left _ member) other
        (List.mem_append_left _ other_member)
    have known : (join.related.bareTable ∈ (firstJoins joins).map (·.related.bareTable)) ↔
        key join ∈ (firstJoins joins).map key := by
      have of_first {other : Join} (member : other ∈ firstJoins joins) :
          key other = key join ↔ other.related.bareTable = join.related.bareTable :=
        agrees other (List.mem_append_left _ (firstJoins_subset joins member)) join
          (List.mem_append_right _ (List.mem_singleton_self join))
      rw [List.mem_map, List.mem_map]
      exact exists_congr fun other => and_congr_right fun member => (of_first member).symm
    rw [firstJoins_concat]
    split
    · next present => exact earlier.concat_of_mem (known.mp present)
    · next absent => exact earlier.concat_of_notMem (known.not.mp absent)

/-! ## Queries -/

/-- A list without repetition has two elements exactly if some two of its elements differ. -/
theorem one_lt_length_iff
    {β : Type}
    {values : List β}
    (distinct : values.Nodup) :
    1 < values.length ↔ ∃ value ∈ values, ∃ other ∈ values, value ≠ other := by
  cases values with
  | nil => simp
  | cons value values =>
    cases values with
    | nil => simp
    | cons other values =>
      have apart : value ≠ other := by
        rintro rfl
        exact (List.nodup_cons.mp distinct).1 List.mem_cons_self
      exact iff_of_true (by simp) ⟨value, by simp, other, by simp, apart⟩

/-- The query along the first joins to all referenced entities, if these are two or more. -/
def combined? (relations : Relations) : Option JoinQuery :=
  if 1 < (firstJoins relations.joins).length then
    some { name := relations.entity.name ++ "WithRelations", joins := firstJoins relations.joins }
  else none

theorem queries_eq (relations : Relations) :
    relations.queries =
      (relations.joins.map fun join => { name := join.name, joins := [join] }) ++
        relations.combined?.toList := by
  rw [queries, combined?]
  split <;> rfl

/-- There is a combined query exactly if two joins differ in what tells entities apart. -/
theorem isSome_combined?_iff
    {β : Type}
    [DecidableEq β]
    {key : Join → β}
    {relations : Relations}
    (areFirst : AreFirst key relations.joins (firstJoins relations.joins)) :
    relations.combined?.isSome ↔
      ∃ join ∈ relations.joins, ∃ other ∈ relations.joins, key join ≠ key other := by
  have several : relations.combined?.isSome ↔ 1 < (firstJoins relations.joins).length := by
    unfold combined?
    split <;> simp [*]
  rw [several, ← List.length_map key, one_lt_length_iff areFirst.once]
  simp only [areFirst.mem_map_iff, List.mem_map, exists_exists_and_eq_and]

/-- Each join references the entity at its position in the batch.  The queries are one along each
join, in the order of the joins, and at most one more behind them.  There is one more exactly if two
joins reference different entities, and it goes along the first join to each referenced entity, in
the order in which these are first referenced. -/
theorem queries_cover_joins
    {entity : Entity}
    {entities : List Entity}
    {relations : Relations}
    (made : ofEntity entity entities = .ok (some relations)) :
    (∀ join ∈ relations.joins, entities[join.position entities]? = some join.related) ∧
      ∃ combined : Option JoinQuery,
        relations.queries =
          (relations.joins.map fun join => { name := join.name, joins := [join] }) ++
            combined.toList ∧
        (combined.isSome ↔ ∃ join ∈ relations.joins, ∃ other ∈ relations.joins,
          join.position entities ≠ other.position entities) ∧
        ∀ query ∈ combined, query.name = entity.name ++ "WithRelations" ∧
          AreFirst (·.position entities) relations.joins query.joins ∧
          ∀ join ∈ relations.joins,
            join.position entities ∈ query.joins.map (·.position entities) := by
  have areFirst : AreFirst (·.position entities) relations.joins (firstJoins relations.joins) :=
    areFirst_firstJoins fun join member other other_member =>
      position_eq_iff made member other_member
  refine ⟨fun join member => getElem?_position made member, relations.combined?,
    queries_eq relations, isSome_combined?_iff areFirst, fun query found => ?_⟩
  unfold combined? at found
  split at found
  · obtain rfl := Option.some.inj found
    refine ⟨by rw [entity_of_ofEntity made], areFirst, fun join member => ?_⟩
    rw [areFirst.mem_map_iff]
    exact List.mem_map_of_mem member
  · cases found

/-- A ticket is opened by a user, may belong to another ticket, and is closed by a user. -/
def ticket : Entity :=
  .ofFields "Ticket"
    [.ofTag "ID" "i64" "pk", .ofTag "OpenedBy" "i64" "fk:users,id",
      .ofTag "ParentID" "i64" "fk:ticket,id", .ofTag "ClosedBy" "i64" "fk:users,id"] ""

/-- The entities that tickets reference: users, and tickets themselves. -/
def helpDesk : List Entity :=
  [.ofFields "User" [.ofTag "ID" "i64" "pk,table:users"] "", ticket]

/-- Tickets have a query for each of three joins, and one along the first two: the join to the user
who closed the ticket leads to users again. -/
theorem queries_cover_joins_ticket :
    ∃ relations, ofEntity ticket helpDesk = .ok (some relations) ∧
      relations.joins.map (·.position helpDesk) = [0, 1, 0] ∧
      ∃ combined : JoinQuery,
        relations.queries =
          (relations.joins.map fun join => { name := join.name, joins := [join] }) ++ [combined] ∧
        combined.name = "TicketWithRelations" ∧
        combined.joins.map (·.position helpDesk) = [0, 1] := by
  obtain ⟨relations, made, positions⟩ :
      ∃ relations, ofEntity ticket helpDesk = .ok (some relations) ∧
        relations.joins.map (·.position helpDesk) = [0, 1, 0] :=
    exists_ofEntity_of_map_eq_some (by decide +kernel)
  obtain ⟨-, combined, queries_eq, several, along⟩ := queries_cover_joins made
  have reached (position : Nat) (member : position ∈ [0, 1, 0]) :
      ∃ join ∈ relations.joins, join.position helpDesk = position := by
    rwa [← positions, List.mem_map] at member
  obtain ⟨join, join_found, join_position⟩ := reached 0 (by decide)
  obtain ⟨other, other_found, other_position⟩ := reached 1 (by decide)
  have two : combined.isSome :=
    several.mpr
      ⟨join, join_found, other, other_found, by rw [join_position, other_position]; decide⟩
  obtain ⟨query, rfl⟩ := Option.isSome_iff_exists.mp two
  obtain ⟨name_eq, areFirst, -⟩ := along query rfl
  refine ⟨relations, made, positions, query, queries_eq, name_eq, ?_⟩
  rw [areFirst.order, positions]
  decide +kernel

end Relations

end Tablewright
