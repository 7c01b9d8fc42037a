import Mathlib.Data.List.Induction
import Mathlib.Data.List.Nodup
import Tablewright.Entity.Group

/-!
# Groups as a partition

Groups grow with the fields, one field after the other.  At every moment they part the fields that
are named so far: one group for each name, in the order in which the names first appear, with the
fields of that name in their order.
-/

namespace Tablewright.FieldGroup

variable {key : Field → Option String} {fields : List Field} {groups : List FieldGroup}
  {name : String} {field : Field}

/-! ## One more member -/

/-- A member joins the group of its name if there is one, and begins a last group if there is
none. -/
theorem addMember_cases
    (name : String)
    (field : Field)
    (groups : List FieldGroup) :
    (name ∉ groups.map (·.name) ∧
        addMember name field groups = groups ++ [{ name, members := [field] }]) ∨
      ∃ before group after, groups = before ++ group :: after ∧ group.name = name ∧
        addMember name field groups =
          before ++ { group with members := group.members ++ [field] } :: after := by
  induction groups with
  | nil => exact .inl ⟨List.not_mem_nil, rfl⟩
  | cons head groups ih =>
    rw [addMember]
    split
    · next same => exact .inr ⟨[], head, groups, rfl, same, rfl⟩
    · next other =>
      rcases ih with ⟨absent, grown⟩ | ⟨before, group, after, rfl, named, grown⟩
      · refine .inl ⟨?_, by rw [grown, List.cons_append]⟩
        rw [List.map_cons, List.mem_cons, not_or]
        exact ⟨fun same => other same.symm, absent⟩
      · exact .inr ⟨head :: before, group, after, rfl, named, by rw [grown, List.cons_append]⟩

theorem map_name_addMember
    (name : String)
    (field : Field)
    (groups : List FieldGroup) :
    (addMember name field groups).map (·.name) =
      if name ∈ groups.map (·.name) then groups.map (·.name)
      else groups.map (·.name) ++ [name] := by
  rcases addMember_cases name field groups with
    ⟨absent, grown⟩ | ⟨before, group, after, rfl, rfl, grown⟩
  · rw [grown, if_neg absent, List.map_append]
    rfl
  · have present : group.name ∈ (before ++ group :: after).map (·.name) :=
      List.mem_map_of_mem (List.mem_append_right before List.mem_cons_self)
    rw [grown, if_pos present, List.map_append, List.map_append]
    rfl

/-- The groups gain the member and lose none. -/
theorem flatMap_members_addMember_perm
    (name : String)
    (field : Field)
    (groups : List FieldGroup) :
    ((addMember name field groups).flatMap (·.members)).Perm
      (groups.flatMap (·.members) ++ [field]) := by
  rcases addMember_cases name field groups with
    ⟨-, grown⟩ | ⟨before, group, after, rfl, -, grown⟩
  · rw [grown, List.flatMap_append]
    exact List.Perm.refl _
  · rw [grown, List.flatMap_append, List.flatMap_append, List.flatMap_cons, List.flatMap_cons,
      List.append_assoc, List.append_assoc, List.append_assoc]
    exact (List.perm_append_comm.append_left group.members).append_left _

/-! ## One more field -/

theorem addField_of_none
    (unnamed : (key field).filter (· ≠ "") = none)
    (groups : List FieldGroup) :
    addField key groups field = groups := by
  rw [addField, unnamed]

theorem addField_of_some
    (named : (key field).filter (· ≠ "") = some name)
    (groups : List FieldGroup) :
    addField key groups field = addMember name field groups := by
  rw [addField, named]

theorem collect_concat
    (key : Field → Option String)
    (fields : List Field)
    (field : Field) :
    collect key (fields ++ [field]) = addField key (collect key fields) field := by
  rw [collect, List.foldl_append]
  rfl

/-! ## Partitions -/

/-- Where a name first appears among fields. -/
def firstPosition
    (key : Field → Option String)
    (fields : List Field)
    (name : String) : Nat :=
  fields.findIdx fun field => key field = some name

/-- The groups part the named ones among the fields. -/
structure IsPartition
    (key : Field → Option String)
    (fields : List Field)
    (groups : List FieldGroup) : Prop where
  /-- There is a group for each name that is not empty, and for no other. -/
  mem_names_iff : ∀ name, name ∈ groups.map (·.name) ↔
    name ≠ "" ∧ ∃ field ∈ fields, key field = some name
  /-- The groups come in the order in which their names first appear. -/
  ordered : (groups.map (·.name)).Pairwise fun one other =>
    firstPosition key fields one < firstPosition key fields other
  /-- Members of a group are the fields of its name, in their order. -/
  members_eq : ∀ group ∈ groups,
    group.members = fields.filter fun field => key field = some group.name
  /-- No named field is lost, and none is taken twice. -/
  perm : (groups.flatMap (·.members)).Perm
    (fields.filter fun field => ((key field).filter (· ≠ "")).isSome)

theorem firstPosition_concat_of_mem
    (occurs : ∃ other ∈ fields, key other = some name)
    (field : Field) :
    firstPosition key (fields ++ [field]) name = firstPosition key fields name := by
  have found : (fields.findIdx fun other => key other = some name) < fields.length := by
    rw [List.findIdx_lt_length]
    simpa using occurs
  rw [firstPosition, List.findIdx_append, if_pos found, firstPosition]

theorem firstPosition_lt_concat
    {new : String}
    (occurs : ∃ other ∈ fields, key other = some name)
    (missing : ¬ ∃ other ∈ fields, key other = some new)
    (field : Field) :
    firstPosition key (fields ++ [field]) name < firstPosition key (fields ++ [field]) new := by
  have found : (fields.findIdx fun other => key other = some name) < fields.length := by
    rw [List.findIdx_lt_length]
    simpa using occurs
  have not_found : ¬ (fields.findIdx fun other => key other = some new) < fields.length := by
    rw [List.findIdx_lt_length]
    simpa using missing
  rw [firstPosition_concat_of_mem occurs, firstPosition, firstPosition, List.findIdx_append,
    if_neg not_found]
  exact Nat.lt_of_lt_of_le found (Nat.le_add_left _ _)

namespace IsPartition

theorem nodup_names (partition : IsPartition key fields groups) :
    (groups.map (·.name)).Nodup :=
  partition.ordered.imp fun earlier same => absurd (same ▸ earlier) (Nat.lt_irrefl _)

theorem nil (key : Field → Option String) : IsPartition key [] [] where
  mem_names_iff _ := by simp
  ordered := List.Pairwise.nil
  members_eq _ member := absurd member List.not_mem_nil
  perm := List.Perm.refl _

/-- Names keep their order when a field is added behind. -/
theorem ordered_concat
    (partition : IsPartition key fields groups)
    (field : Field) :
    (groups.map (·.name)).Pairwise fun one other =>
      firstPosition key (fields ++ [field]) one < firstPosition key (fields ++ [field]) other := by
  refine partition.ordered.imp_of_mem fun one_member other_member earlier => ?_
  rw [firstPosition_concat_of_mem ((partition.mem_names_iff _).mp one_member).2,
    firstPosition_concat_of_mem ((partition.mem_names_iff _).mp other_member).2]
  exact earlier

theorem ordered_addMember
    (partition : IsPartition key fields groups)
    (name_ne : name ≠ "")
    (field : Field) :
    ((addMember name field groups).map (·.name)).Pairwise fun one other =>
      firstPosition key (fields ++ [field]) one < firstPosition key (fields ++ [field]) other := by
  rw [map_name_addMember]
  split
  · exact partition.ordered_concat field
  · next absent =>
    rw [partition.mem_names_iff, not_and] at absent
    refine List.pairwise_append.mpr
      ⟨partition.ordered_concat field, List.pairwise_singleton _ _, fun old old_member => ?_⟩
    rw [List.forall_mem_singleton]
    exact firstPosition_lt_concat ((partition.mem_names_iff old).mp old_member).2
      (absent name_ne) field

/-- A field without a name leaves the groups as they are. -/
theorem pass
    (partition : IsPartition key fields groups)
    (unnamed : (key field).filter (· ≠ "") = none) :
    IsPartition key (fields ++ [field]) groups := by
  have other_name (name : String) (name_ne : name ≠ "") : key field ≠ some name := by
    intro named
    simp [named, name_ne] at unnamed
  have not_taken : [field].filter (fun field => ((key field).filter (· ≠ "")).isSome) = [] := by
    rw [List.filter_singleton, unnamed]
    rfl
  refine ⟨fun name => ?_, partition.ordered_concat field, fun group member => ?_, ?_⟩
  · rw [partition.mem_names_iff]
    refine and_congr_right fun name_ne => ?_
    simp [other_name name name_ne]
  · have name_ne := ((partition.mem_names_iff _).mp (List.mem_map_of_mem member)).1
    rw [partition.members_eq group member, List.filter_append]
    simp [other_name group.name name_ne]
  · rw [List.filter_append, not_taken, List.append_nil]
    exact partition.perm

section

variable (partition : IsPartition key fields groups) (named : key field = some name)

include partition named

theorem members_eq_concat
    {group : FieldGroup}
    (member : group ∈ groups)
    (other : name ≠ group.name) :
    group.members = (fields ++ [field]).filter fun field => key field = some group.name := by
  rw [partition.members_eq group member, List.filter_append]
  simp [named, other]

/-- The new member stands behind the others of its group, and no other group changes. -/
theorem members_eq_of_mem_addMember
    (name_ne : name ≠ "")
    {group : FieldGroup}
    (member : group ∈ addMember name field groups) :
    group.members = (fields ++ [field]).filter fun field => key field = some group.name := by
  rcases addMember_cases name field groups with
    ⟨absent, grown⟩ | ⟨before, found, after, groups_eq, found_name, grown⟩
  · rw [grown, List.mem_append, List.mem_singleton] at member
    rcases member with old | rfl
    · exact partition.members_eq_concat named old fun same =>
        absent (same ▸ List.mem_map_of_mem old)
    · have none_before : fields.filter (fun field => key field = some name) = [] := by
        rw [partition.mem_names_iff, not_and] at absent
        simpa using absent name_ne
      simp [List.filter_append, none_before, named]
  · -- The names differ, so the groups around the one of the name keep what they have.
    have distinct := partition.nodup_names
    rw [groups_eq, List.map_append, List.map_cons, List.nodup_middle, List.nodup_cons,
      ← List.map_append, found_name] at distinct
    have kept (old : group ∈ before ++ after) :
        group.members = (fields ++ [field]).filter fun field => key field = some group.name := by
      have old_member : group ∈ groups := by
        rw [groups_eq]
        exact (List.sublist_cons_self found after).append_left before |>.mem old
      exact partition.members_eq_concat named old_member fun same =>
        distinct.1 (same ▸ List.mem_map_of_mem old)
    rw [grown, List.mem_append, List.mem_cons] at member
    rcases member with old | rfl | old
    · exact kept (List.mem_append_left after old)
    · have found_member : found ∈ groups := by
        rw [groups_eq]
        exact List.mem_append_right before List.mem_cons_self
      simp [List.filter_append, partition.members_eq found found_member, found_name, named]
    · exact kept (List.mem_append_right before old)

/-- A field with a name is taken into the group of that name. -/
theorem join (name_ne : name ≠ "") :
    IsPartition key (fields ++ [field]) (addMember name field groups) where
  mem_names_iff wanted := by
    have before := partition.mem_names_iff wanted
    rw [map_name_addMember]
    split
    · grind
    · simp only [List.mem_append, List.mem_singleton, before]
      grind
  ordered := partition.ordered_addMember name_ne field
  members_eq _ member := partition.members_eq_of_mem_addMember named name_ne member
  perm := by
    have taken : [field].filter (fun field => ((key field).filter (· ≠ "")).isSome) = [field] := by
      simp [named, name_ne]
    rw [List.filter_append, taken]
    exact (flatMap_members_addMember_perm name field groups).trans (partition.perm.append_right _)

end

theorem addField
    (partition : IsPartition key fields groups)
    (field : Field) :
    IsPartition key (fields ++ [field]) (addField key groups field) := by
  cases named : (key field).filter (· ≠ "") with
  | none =>
    rw [addField_of_none named]
    exact partition.pass named
  | some name =>
    rw [addField_of_some named]
    obtain ⟨named, name_ne⟩ := Option.filter_eq_some_iff.mp named
    exact partition.join named (of_decide_eq_true name_ne)

end IsPartition

/-! ## Stable partitions -/

/-- A partition seen from its fields: each named one belongs to the group of its name alone. -/
structure IsStablePartition
    (key : Field → Option String)
    (fields : List Field)
    (groups : List FieldGroup) : Prop extends IsPartition key fields groups where
  /-- No two groups share a name. -/
  nodup_names : (groups.map (·.name)).Nodup
  /-- A named field is a member of the group of its name and of no other. -/
  belongs : ∀ field ∈ fields, ∀ name, key field = some name → name ≠ "" →
    ∃ group ∈ groups, group.name = name ∧ ∀ other ∈ groups, field ∈ other.members ↔ other = group
  /-- No other field is a member of a group. -/
  named : ∀ group ∈ groups, ∀ field ∈ group.members, field ∈ fields ∧ key field = some group.name

theorem IsPartition.mem_members_iff
    (partition : IsPartition key fields groups)
    {group : FieldGroup}
    (found : group ∈ groups) :
    field ∈ group.members ↔ field ∈ fields ∧ key field = some group.name := by
  rw [partition.members_eq group found, List.mem_filter, decide_eq_true_iff]

theorem IsPartition.isStablePartition (partition : IsPartition key fields groups) :
    IsStablePartition key fields groups where
  toIsPartition := partition
  nodup_names := partition.nodup_names
  belongs field member name field_named name_ne := by
    obtain ⟨group, found, rfl⟩ :=
      List.mem_map.mp ((partition.mem_names_iff name).mpr ⟨name_ne, field, member, field_named⟩)
    refine ⟨group, found, rfl, fun other other_found => ?_⟩
    rw [partition.mem_members_iff other_found, field_named, and_iff_right member, Option.some.injEq]
    constructor
    · intro same
      exact List.inj_on_of_nodup_map partition.nodup_names other_found found same.symm
    · rintro rfl
      rfl
  named _ found _ := (partition.mem_members_iff found).mp

/-! ## Runs over fields -/

/-- However many fields there are, their groups part the named ones. -/
theorem isPartition_collect
    (key : Field → Option String)
    (fields : List Field) :
    IsPartition key fields (collect key fields) := by
  induction fields using List.reverseRecOn with
  | nil => exact IsPartition.nil key
  | append_singleton fields field ih =>
    rw [collect_concat]
    exact ih.addField field

end Tablewright.FieldGroup
