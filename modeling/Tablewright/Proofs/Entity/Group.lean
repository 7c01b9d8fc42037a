import Tablewright.Proofs.Entity.Partition

/-!
# Groups of fields

A group has its name from its members, and names are not shared.  The field at which a group begins
is the first of its members.
-/

namespace Tablewright

/-! ## Searches -/

theorem eraseDups_concat
    {α : Type}
    [DecidableEq α]
    (values : List α)
    (value : α) :
    (values ++ [value]).eraseDups =
      if value ∈ values then values.eraseDups else values.eraseDups ++ [value] := by
  have alone : [value].eraseDups = [value] := by
    rw [List.eraseDups_cons, List.filter_nil, List.eraseDups_nil]
  rw [List.eraseDups_append, List.removeAll, List.filter_singleton]
  by_cases member : value ∈ values <;> simp [member, alone]

/-- With distinct values of a function, an element is found by its value. -/
theorem find?_eq_some_iff_of_nodup
    {α β : Type}
    [DecidableEq β]
    {value : α → β}
    {elements : List α}
    (distinct : (elements.map value).Nodup)
    {element : α}
    {wanted : β} :
    elements.find? (value · = wanted) = some element ↔
      element ∈ elements ∧ value element = wanted := by
  constructor
  · intro found
    exact ⟨List.mem_of_find?_eq_some found, by simpa using List.find?_some found⟩
  · rintro ⟨member, rfl⟩
    cases search : elements.find? (value · = value element) with
    | none =>
      have missing := List.find?_eq_none.mp search element member
      simp at missing
    | some other =>
      have same : value other = value element := by
        simpa using List.find?_some search
      rw [List.inj_on_of_nodup_map distinct (List.mem_of_find?_eq_some search) member same]

/-- What is made of elements that it shows comes in their order. -/
theorem map_filterMap_sublist
    {α β : Type}
    {step : α → Option β}
    {origin : β → α}
    (shows : ∀ element result, step element = some result → origin result = element)
    (elements : List α) :
    ((elements.filterMap step).map origin).Sublist elements := by
  induction elements with
  | nil => exact List.Sublist.refl []
  | cons element elements ih =>
    cases made : step element with
    | none =>
      rw [List.filterMap_cons_none made]
      exact ih.cons element
    | some result =>
      rw [List.filterMap_cons_some made, List.map_cons, shows element result made]
      exact ih.cons_cons element

namespace FieldGroup

variable {key : Field → Option String} {fields : List Field} {group : FieldGroup}

/-- What the groups of fields are. -/
theorem mem_collect_iff :
    group ∈ collect key fields ↔
      group.name ≠ "" ∧ (∃ field ∈ fields, key field = some group.name) ∧
        group.members = fields.filter fun field => key field = some group.name := by
  have partition := isPartition_collect key fields
  constructor
  · intro found
    obtain ⟨name_ne, named⟩ := (partition.mem_names_iff _).mp (List.mem_map_of_mem found)
    exact ⟨name_ne, named, partition.members_eq group found⟩
  · rintro ⟨name_ne, named, members_eq⟩
    obtain ⟨other, found, same⟩ :=
      List.mem_map.mp ((partition.mem_names_iff group.name).mpr ⟨name_ne, named⟩)
    have same_members : other.members = group.members := by
      rw [partition.members_eq other found, members_eq, same]
    obtain rfl : other = group := by
      cases other
      cases group
      exact FieldGroup.mk.injEq .. ▸ ⟨same, same_members⟩
    exact found

/-- The names of the groups are those of the fields, without repetition. -/
theorem map_name_collect
    (key : Field → Option String)
    (fields : List Field) :
    (collect key fields).map (·.name) =
      ((fields.filterMap key).filter (· ≠ "")).eraseDups := by
  rw [List.filter_filterMap]
  induction fields using List.reverseRecOn with
  | nil => rfl
  | append_singleton fields field ih =>
    rw [collect_concat, List.filterMap_append, List.filterMap_cons, List.filterMap_nil]
    cases named : (key field).filter (· ≠ "") with
    | none =>
      rw [addField_of_none named, ih]
      exact congrArg List.eraseDups (List.append_nil _).symm
    | some name =>
      rw [addField_of_some named, map_name_addMember, ih]
      simp only [List.mem_eraseDups]
      exact (eraseDups_concat _ name).symm

/-- No two groups share a name. -/
theorem nodup_names_collect
    (key : Field → Option String)
    (fields : List Field) :
    ((collect key fields).map (·.name)).Nodup :=
  (isPartition_collect key fields).nodup_names

/-- Members are fields with the name of the group. -/
theorem mem_members_iff
    (found : group ∈ collect key fields)
    {field : Field} :
    field ∈ group.members ↔ field ∈ fields ∧ key field = some group.name :=
  (isPartition_collect key fields).mem_members_iff found

theorem members_ne (found : group ∈ collect key fields) : group.members ≠ [] := by
  obtain ⟨-, ⟨field, member, named⟩, -⟩ := mem_collect_iff.mp found
  exact List.ne_nil_of_mem ((mem_members_iff found).mpr ⟨member, named⟩)

end FieldGroup

namespace Entity

/-! ## Fields with those before them -/

/-- What is said of a field and those before it by the field alone can be said of the fields. -/
theorem filterMap_withEarlier
    {α : Type}
    {fields : List Field}
    {ofPair : List Field × Field → Option α}
    {ofField : Field → Option α}
    (same : ∀ earlier field rest, fields = earlier ++ field :: rest →
      ofPair (earlier, field) = ofField field) :
    (withEarlier [] fields).filterMap ofPair = fields.filterMap ofField := by
  have from_here (earlier rest : List Field) (equal : fields = earlier ++ rest) :
      (withEarlier earlier rest).filterMap ofPair = rest.filterMap ofField := by
    induction rest generalizing earlier with
    | nil => rfl
    | cons field rest ih =>
      have later := ih (earlier ++ [field]) (by rw [equal]; simp)
      rw [withEarlier, List.filterMap_cons, List.filterMap_cons, same earlier field rest equal,
        later]
  exact from_here [] fields rfl

/-- A field is the first with its name exactly if it is the first member of its group. -/
theorem isFirst_iff_head?
    {key : Field → Option String}
    {earlier rest : List Field}
    {field : Field}
    {name : String}
    (distinct : (earlier ++ field :: rest).Nodup)
    (named : key field = some name) :
    isFirst key earlier name ↔
      ((earlier ++ field :: rest).filter fun other => key other = some name).head? =
        some field := by
  rw [List.filter_append, List.filter_cons_of_pos (by simpa using named), isFirst, List.all_eq_true]
  cases early : earlier.filter fun other => key other = some name with
  | nil =>
    have none_early := List.filter_eq_nil_iff.mp early
    simp only [List.nil_append, List.head?_cons, iff_true]
    intro other member
    simpa using none_early other member
  | cons other others =>
    have found : other ∈ earlier.filter fun other => key other = some name := by
      rw [early]
      exact List.mem_cons_self
    obtain ⟨member, other_named⟩ := List.mem_filter.mp found
    rw [decide_eq_true_iff] at other_named
    constructor
    · intro none_early
      have apart := none_early other member
      rw [decide_eq_true_iff] at apart
      exact absurd other_named apart
    · intro head
      rw [List.cons_append, List.head?_cons, Option.some.injEq] at head
      rw [head] at member
      have apart := (List.nodup_append.mp distinct).2.2 field member field List.mem_cons_self
      exact absurd rfl apart

/-! ## Groups in the order of fields -/

theorem rendered?_eq_some_iff
    {key : Field → Option String}
    {fields : List Field}
    {group : FieldGroup}
    {name : String} :
    rendered? (FieldGroup.collect key fields) name = some group ↔
      group ∈ FieldGroup.collect key fields ∧ group.name = name ∧ group.isRendered := by
  rw [rendered?, Option.filter_eq_some_iff,
    find?_eq_some_iff_of_nodup (FieldGroup.nodup_names_collect key fields), and_assoc]

theorem isFirst_append_singleton
    (key : Field → Option String)
    (earlier : List Field)
    (field : Field)
    (name : String) :
    isFirst key (earlier ++ [field]) name =
      (isFirst key earlier name && decide (key field ≠ some name)) := by
  simp only [isFirst, List.all_append, List.all_cons, List.all_nil, Bool.and_true]

/-- What is made of names at the first fields that have them is made of the names in order. -/
theorem filterMap_withEarlier_isFirst
    {α : Type}
    {key : Field → Option String}
    {test : String → Bool}
    {ofName : String → Option α}
    (untested : ∀ name, test name = false → ofName name = none)
    (earlier fields : List Field) :
    ((withEarlier earlier fields).filterMap fun (before, field) =>
        (key field).bind fun name => if isFirst key before name then ofName name else none) =
      ((fields.filterMap key).filter fun name =>
        test name && isFirst key earlier name).eraseDups.filterMap ofName := by
  induction fields generalizing earlier with
  | nil => rfl
  | cons field rest ih =>
    rw [withEarlier, List.filterMap_cons, ih]
    cases named : key field with
    | none =>
      simp only [List.filterMap_cons_none named, isFirst_append_singleton, named, Option.bind_none,
        ne_eq, reduceCtorEq, not_false_eq_true, decide_true, Bool.and_true]
    | some name =>
      simp only [List.filterMap_cons_some named, isFirst_append_singleton, named,
        Option.bind_some]
      by_cases first : test name && isFirst key earlier name
      · rw [List.filter_cons, if_pos first, List.eraseDups_cons, List.filter_filter,
          List.filterMap_cons, if_pos (Bool.and_eq_true_iff.mp first).2]
        have others : (fun other => test other &&
            (isFirst key earlier other && decide (some name ≠ some other))) =
              fun other => !other == name && (test other && isFirst key earlier other) := by
          funext other
          grind
        rw [others]
      · -- The name is met before, or nothing is made of it.
        have nothing : (if isFirst key earlier name then ofName name else none) = none := by
          grind
        have others : (fun other => test other &&
            (isFirst key earlier other && decide (some name ≠ some other))) =
              fun other => test other && isFirst key earlier other := by
          funext other
          grind
        rw [List.filter_cons, if_neg first, nothing, others]

/-- Taken at the first of their members, the groups that are rendered come in their order. -/
theorem filterMap_rendered?_withEarlier
    (key : Field → Option String)
    (fields : List Field) :
    ((withEarlier [] fields).filterMap fun (before, field) =>
        (key field).bind fun name =>
          if isFirst key before name then rendered? (FieldGroup.collect key fields) name
          else none) =
      (FieldGroup.collect key fields).filter (·.isRendered) := by
  have distinct := FieldGroup.nodup_names_collect key fields
  have unnamed (name : String) (empty : decide (name ≠ "") = false) :
      rendered? (FieldGroup.collect key fields) name = none := by
    rw [Option.eq_none_iff_forall_ne_some]
    intro group found
    obtain ⟨member, rfl, -⟩ := rendered?_eq_some_iff.mp found
    exact of_decide_eq_false empty (FieldGroup.mem_collect_iff.mp member).1
  have names : ((fields.filterMap key).filter fun name =>
      decide (name ≠ "") && isFirst key [] name) = (fields.filterMap key).filter (· ≠ "") :=
    List.filter_congr fun name _ => Bool.and_true _
  rw [filterMap_withEarlier_isFirst unnamed, names, ← FieldGroup.map_name_collect,
    List.filterMap_map, ← List.filterMap_eq_filter]
  refine List.filterMap_congr fun group member => ?_
  rw [Function.comp_apply, rendered?,
    (find?_eq_some_iff_of_nodup distinct).mpr ⟨member, rfl⟩]
  rfl

end Entity

end Tablewright
