import Tablewright.Proofs.Contract.Names
import Tablewright.Proofs.Relation.ForeignKey

/-!
# Names of relations

Roles, parameters and result types are named after entities, fields and labels of composite keys.
Where these are made of letters, digits and underscores, so are all names of relations.
-/

namespace Tablewright

open Text (Alnum)

/-- Name, fields and labels of composite keys are made of letters, digits and underscores. -/
structure Entity.IsAlnum (entity : Entity) : Prop where
  /-- The name. -/
  name : Alnum entity.name.toList
  /-- The names of stored fields. -/
  fields : ∀ field ∈ entity.stored, Alnum field.name.toList
  /-- The labels. -/
  labels : ∀ field ∈ entity.stored, ∀ label ∈ field.constraint.foreignKeyGroup, Alnum label.toList

namespace Entity

/-- A link is named after the field at which it begins, or after the group of that field. -/
theorem label_of_beginning?
    {groups : List FieldGroup}
    {earlier : List Field}
    {field : Field}
    {link : Link}
    (found : Link.beginning? groups earlier field = some link) :
    link.label = field.name ∨ field.constraint.foreignKeyGroup = some link.label := by
  rw [Link.beginning?, Option.bind_eq_some_iff] at found
  obtain ⟨reference, -, found⟩ := found
  split at found
  · cases found
    exact .inl rfl
  · next name group_eq =>
    split at found
    · split at found
      · cases found
        exact .inr group_eq
      · cases found
    · cases found

theorem mem_of_mem_withEarlier
    {earlier fields : List Field}
    {pair : List Field × Field}
    (member : pair ∈ withEarlier earlier fields) :
    pair.2 ∈ fields := by
  induction fields generalizing earlier with
  | nil => cases member
  | cons field fields ih =>
    rcases List.mem_cons.mp member with rfl | later
    · exact List.mem_cons_self
    · exact List.mem_cons_of_mem field (ih later)

theorem IsAlnum.label
    {entity : Entity}
    (alnum : entity.IsAlnum)
    {link : Link}
    (member : link ∈ entity.links) :
    Alnum link.label.toList := by
  obtain ⟨pair, found, begins⟩ := List.mem_filterMap.mp member
  have stored := mem_of_mem_withEarlier found
  rcases label_of_beginning? begins with same | grouped
  · rw [same]
    exact alnum.fields pair.2 stored
  · exact alnum.labels pair.2 stored link.label grouped

end Entity

namespace Relations

/-- The role of a label is cut from the label in snake case. -/
theorem alnum_roleOf
    {label : String}
    (alnum : Alnum label.toList) :
    Alnum (roleOf label).toList := by
  unfold roleOf
  dsimp only
  split
  · next role found =>
    have snake_eq := (Text.beforeSuffix?_eq_some_iff.mp found).2
    rw [String.toList_ofList]
    refine alnum.snakeCase.of_subset ?_
    rw [snake_eq]
    exact List.subset_append_left role _
  · exact alnum.snakeCase

theorem alnum_freeRole
    {role : String}
    (alnum : Alnum role.toList)
    (taken : List String)
    (position : Nat) :
    Alnum (freeRole taken position role).toList := by
  unfold freeRole
  split
  · exact (alnum.append_string (by decide)).append_string (.digits position)
  · exact alnum

theorem alnum_resultName
    {entity : Entity}
    {all : List ResolvedLink}
    {link : ResolvedLink}
    (entity_alnum : Alnum entity.name.toList)
    (related_alnum : Alnum link.2.name.toList)
    (label_alnum : Alnum link.1.label.toList) :
    Alnum (resultName entity all link).toList := by
  have start : Alnum (entity.name ++ "With" ++ link.2.name).toList :=
    (entity_alnum.append_string (by decide)).append_string related_alnum
  unfold resultName
  split
  · have via : Alnum "Via".toList := by decide
    exact start.append_string (via.append_string label_alnum.pascalCase)
  · exact start.append_string nofun

/-- A join is named and has its role after a link that it follows. -/
theorem alnum_of_mem_joinsFrom
    {entity : Entity}
    {all links : List ResolvedLink}
    {taken : List String}
    {position : Nat}
    (entity_alnum : Alnum entity.name.toList)
    (links_alnum : ∀ link ∈ links, Alnum link.1.label.toList ∧ link.2.IsAlnum)
    {join : Join}
    (member : join ∈ joinsFrom entity all taken position links) :
    Alnum join.name.toList ∧ Alnum join.role.toList ∧ join.related.IsAlnum := by
  induction links generalizing taken position with
  | nil => cases member
  | cons link links ih =>
    obtain ⟨here, later⟩ := List.forall_mem_cons.mp links_alnum
    obtain ⟨label_alnum, related_alnum⟩ := here
    rw [joinsFrom] at member
    rcases List.mem_cons.mp member with rfl | rest
    · exact ⟨alnum_resultName entity_alnum related_alnum.name label_alnum,
        alnum_freeRole (alnum_roleOf label_alnum) taken position, related_alnum⟩
    · exact ih later rest

theorem alnum_of_mem_resolved
    {entity : Entity}
    {entities : List Entity}
    (entity_alnum : entity.IsAlnum)
    (entities_alnum : ∀ other ∈ entities, other.IsAlnum) :
    ∀ link ∈ resolved entity entities, Alnum link.1.label.toList ∧ link.2.IsAlnum := by
  intro link member
  obtain ⟨begun, found, resolved_eq⟩ := List.mem_filterMap.mp member
  obtain ⟨related, related_eq, rfl⟩ := Option.map_eq_some_iff.mp resolved_eq
  exact ⟨entity_alnum.label found, entities_alnum related (List.mem_of_find?_eq_some related_eq)⟩

theorem name_of_keyParam
    {field : Field}
    {param : Param}
    (made : keyParam field = .ok param) :
    param.name = Text.snakeCase field.name := by
  unfold keyParam at made
  obtain ⟨type, -, made⟩ := bind_eq_ok_iff.mp made
  cases made
  rfl

theorem mem_stored_of_mem_keyFields
    {entity : Entity}
    {field : Field}
    (member : field ∈ keyFields entity) :
    field ∈ entity.stored := by
  obtain ⟨column, -, found⟩ := List.mem_filterMap.mp member
  exact List.mem_of_find?_eq_some found

/-- Queries are named after joins, or after the entity. -/
theorem alnum_of_mem_queries
    {relations : Relations}
    (entity_alnum : Alnum relations.entity.name.toList)
    (joins_alnum : ∀ join ∈ relations.joins, Alnum join.name.toList)
    {query : JoinQuery}
    (member : query ∈ relations.queries) :
    Alnum query.name.toList := by
  rcases List.mem_append.mp member with single | combined
  · obtain ⟨join, found, rfl⟩ := List.mem_map.mp single
    exact joins_alnum join found
  · split at combined
    · rw [List.mem_singleton.mp combined]
      exact entity_alnum.append_string (by decide)
    · cases combined

/-- Relations among entities named with letters, digits and underscores need no other names. -/
theorem alnum_of_mem_names
    {entity : Entity}
    {entities : List Entity}
    {relations : Relations}
    (made : ofEntity entity entities = .ok (some relations))
    (entity_alnum : entity.IsAlnum)
    (entities_alnum : ∀ other ∈ entities, other.IsAlnum) :
    ∀ name ∈ relations.names, Alnum name.toList := by
  obtain ⟨keys, keys_ok, -, relations_eq⟩ := of_ofEntity made
  have entity_eq : relations.entity = entity := by rw [relations_eq]
  have role_eq : relations.role = Text.snakeCase entity.name := by rw [relations_eq]
  have joins_alnum : ∀ join ∈ relations.joins,
      Alnum join.name.toList ∧ Alnum join.role.toList ∧ join.related.IsAlnum := by
    intro join found
    rw [joins_of_ofEntity made] at found
    exact alnum_of_mem_joinsFrom entity_alnum.name
      (alnum_of_mem_resolved entity_alnum entities_alnum) found
  intro name member
  simp only [names, List.mem_append, List.mem_cons, List.not_mem_nil, or_false, List.mem_map,
    List.mem_flatMap] at member
  rcases member with ((((rfl | rfl) | ⟨key, found, rfl⟩) | ⟨field, found, rfl⟩) |
    ⟨join, found, inner⟩) | ⟨query, found, inner⟩
  · rw [entity_eq]
    exact entity_alnum.name
  · rw [role_eq]
    exact entity_alnum.name.snakeCase
  · have key_found : key ∈ keys := by rwa [relations_eq] at found
    obtain ⟨field, field_found, key_ok⟩ := exists_of_mem_of_mapM_eq_ok keys_ok key_found
    rw [name_of_keyParam key_ok]
    exact (entity_alnum.fields field (mem_stored_of_mem_keyFields field_found)).snakeCase
  · rw [entity_eq] at found
    exact entity_alnum.fields field found
  · obtain ⟨-, role_alnum, related_alnum⟩ := joins_alnum join found
    rcases inner with rfl | rfl | ⟨field, stored, rfl⟩
    · exact role_alnum
    · exact related_alnum.name
    · exact related_alnum.fields field stored
  · have query_alnum : Alnum query.name.toList :=
      alnum_of_mem_queries (entity_eq ▸ entity_alnum.name)
        (fun join member => (joins_alnum join member).1) found
    rcases inner with rfl | rfl
    · have get : Alnum "get_".toList := by decide
      exact get.append_string query_alnum.snakeCase
    · exact query_alnum

end Relations

end Tablewright
