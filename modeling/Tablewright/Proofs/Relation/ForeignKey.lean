import Tablewright.Proofs.Contract.Acceptance
import Tablewright.Proofs.Entity.Group
import Tablewright.Proofs.Entity.Valid
import Tablewright.Proofs.Schema.Clause
import Tablewright.Relation.Basic

/-!
# Foreign keys of tables and joins

A table declares foreign keys with its columns and behind them; the links of an entity are found on
a walk over its fields.  Both are the same keys, and the joins of a batch are those that lead to one
of its entities.
-/

namespace Tablewright

/-- A foreign key as a table declares it. -/
structure DeclaredKey where
  /-- Referenced table. -/
  table : String
  /-- Columns in order. -/
  columns : List String
  /-- The columns that they reference. -/
  targets : List String
  deriving DecidableEq, Repr

namespace Schema

/-- The foreign key that stands with a column. -/
def Column.foreignKey? (column : Column) : Option DeclaredKey :=
  column.reference.map fun reference =>
    ⟨reference.target.table, [column.name], [reference.target.column]⟩

/-- The foreign key that a constraint over several columns is. -/
def TableConstraint.foreignKey? : TableConstraint → Option DeclaredKey
  | .foreignKey _ columns table targets _ => some ⟨table, columns, targets⟩
  | .primaryKey _ | .unique _ _ => none

/-- Foreign keys that a table declares, in the order of its definition. -/
def Table.foreignKeys (table : Table) : List DeclaredKey :=
  table.columns.filterMap Column.foreignKey? ++
    table.constraints.filterMap TableConstraint.foreignKey?

end Schema

/-- The foreign key of a field with a reference of its own. -/
def Field.ownKey? (field : Field) : Option DeclaredKey :=
  if field.constraint.foreignKeyGroup.isNone then
    field.constraint.reference.map fun reference =>
      ⟨reference.table, [field.column], [reference.column]⟩
  else none

/-- The foreign key of a group: its first member names the table. -/
def FieldGroup.key (group : FieldGroup) : DeclaredKey :=
  let references := group.members.filterMap (·.constraint.reference)
  ⟨(references.head?.map (·.table)).getD "", group.columns, references.map (·.column)⟩

/-- The foreign key that a link follows. -/
def Link.key (link : Link) : DeclaredKey :=
  ⟨link.table, link.pairs.map (·.1), link.pairs.map (·.2)⟩

namespace Entity

/-- Foreign keys with the fields at which they begin: those of single fields, then those of rendered
groups. -/
def declaredKeys (entity : Entity) : List (Field × DeclaredKey) :=
  (entity.stored.filterMap fun field => field.ownKey?.map fun key => (field, key)) ++
    (entity.foreignKeyGroups.filter (·.isRendered)).filterMap fun group =>
      group.members.head?.map fun first => (first, group.key)

/-- The same keys in the order in which they first appear among the fields. -/
def orderedKeys (entity : Entity) : List (Field × DeclaredKey) :=
  entity.stored.filterMap fun field => entity.declaredKeys.find? (·.1 = field)

variable {entity : Entity}

/-! ## Keys of tables -/

theorem foreignKey?_ofField
    (length : Option Nat)
    (entity : Entity)
    (field : Field) :
    (Schema.Column.ofField length entity field).foreignKey? = field.ownKey? := by
  unfold Schema.Column.foreignKey? Schema.Column.ofField Schema.Column.ofFieldBy Field.ownKey?
  dsimp only
  split
  · rw [Option.map_map]
    rfl
  · rfl

/-- Columns declare the keys of single fields. -/
theorem filterMap_foreignKey?_columns
    (length : Option Nat)
    (entity : Entity) :
    (Schema.Table.ofEntity length entity).columns.filterMap Schema.Column.foreignKey? =
      entity.stored.filterMap Field.ownKey? := by
  rw [Schema.Table.ofEntity, List.filterMap_map]
  exact List.filterMap_congr fun field _ => foreignKey?_ofField length entity field

/-- Behind the columns stand the keys of rendered groups. -/
theorem filterMap_foreignKey?_constraints
    (length : Option Nat)
    (entity : Entity) :
    (Schema.Table.ofEntity length entity).constraints.filterMap
        Schema.TableConstraint.foreignKey? =
      (entity.foreignKeyGroups.filter (·.isRendered)).map FieldGroup.key := by
  rw [Schema.Table.ofEntity, Schema.TableConstraint.filterMap_ofEntity]
  simp only [Schema.TableConstraint.foreignKey?, Schema.TableConstraint.ofForeignKeyGroup,
    Option.toList_none, ite_self, List.filterMap_none, List.nil_append]
  exact List.filterMap_eq_map_iff_forall_eq_some.mpr fun _ _ => rfl

/-- A table declares the keys of its entity. -/
theorem foreignKeys_ofEntity
    (length : Option Nat)
    (entity : Entity) :
    (Schema.Table.ofEntity length entity).foreignKeys = entity.declaredKeys.map (·.2) := by
  have own : (entity.stored.filterMap fun field => field.ownKey?.map fun key => (field, key)).map
      (·.2) = entity.stored.filterMap Field.ownKey? := by
    rw [List.map_filterMap]
    apply List.filterMap_congr
    intro field _
    cases field.ownKey? <;> rfl
  have grouped : ((entity.foreignKeyGroups.filter (·.isRendered)).filterMap fun group =>
      group.members.head?.map fun first => (first, group.key)).map (·.2) =
        (entity.foreignKeyGroups.filter (·.isRendered)).map FieldGroup.key := by
    rw [List.map_filterMap]
    refine List.filterMap_eq_map_iff_forall_eq_some.mpr fun group found => ?_
    have members_ne := FieldGroup.members_ne (List.mem_filter.mp found).1
    obtain ⟨first, rest, members_eq⟩ := List.exists_cons_of_ne_nil members_ne
    rw [members_eq]
    rfl
  rw [Schema.Table.foreignKeys, filterMap_foreignKey?_columns, filterMap_foreignKey?_constraints,
    declaredKeys, List.map_append, own, grouped]

/-! ## Where keys begin -/

theorem mem_foreignKeyGroups_members_iff
    {group : FieldGroup}
    (found : group ∈ entity.foreignKeyGroups)
    {field : Field} :
    field ∈ group.members ↔ field ∈ entity.stored ∧ field.foreignKeyGroup? = some group.name :=
  FieldGroup.mem_members_iff found

theorem foreignKeyGroup?_eq_some_iff
    {field : Field}
    {name : String} :
    field.foreignKeyGroup? = some name ↔
      field.constraint.reference.isSome ∧ field.constraint.foreignKeyGroup = some name := by
  rw [Field.foreignKeyGroup?, Constraint.hasForeignKey]
  split <;> simp_all

theorem mem_declaredKeys_iff
    {field : Field}
    {key : DeclaredKey} :
    (field, key) ∈ entity.declaredKeys ↔
      (field ∈ entity.stored ∧ field.ownKey? = some key) ∨
        ∃ group ∈ entity.foreignKeyGroups, group.isRendered ∧ group.members.head? = some field ∧
          group.key = key := by
  simp only [declaredKeys, List.mem_append, List.mem_filterMap, Option.map_eq_some_iff,
    List.mem_filter, Prod.mk.injEq]
  constructor
  · rintro (⟨_, stored, _, own, rfl, rfl⟩ | ⟨group, ⟨found, rendered⟩, _, first, rfl, rfl⟩)
    · exact .inl ⟨stored, own⟩
    · exact .inr ⟨group, found, rendered, first, rfl⟩
  · rintro (⟨stored, own⟩ | ⟨group, found, rendered, first, rfl⟩)
    · exact .inl ⟨field, stored, key, own, rfl, rfl⟩
    · exact .inr ⟨group, ⟨found, rendered⟩, field, first, rfl, rfl⟩

/-- The first member of a group has its name and a reference. -/
theorem stated_of_head?
    {group : FieldGroup}
    (found : group ∈ entity.foreignKeyGroups)
    {field : Field}
    (first : group.members.head? = some field) :
    field ∈ entity.stored ∧ field.constraint.reference.isSome ∧
      field.constraint.foreignKeyGroup = some group.name := by
  obtain ⟨stored, named⟩ :=
    (mem_foreignKeyGroups_members_iff found).mp (List.mem_of_head? first)
  exact ⟨stored, foreignKeyGroup?_eq_some_iff.mp named⟩

theorem ownKey?_eq_none
    {field : Field}
    {name : String}
    (named : field.constraint.foreignKeyGroup = some name) :
    field.ownKey? = none := by
  rw [Field.ownKey?, named]
  rfl

/-- No two foreign keys begin at one field. -/
theorem nodup_declaredKeys (valid : entity.defect? = none) :
    (entity.declaredKeys.map (·.1)).Nodup := by
  rw [declaredKeys, List.map_append, List.nodup_append]
  refine ⟨?_, ?_, ?_⟩
  · apply List.Nodup.sublist (map_filterMap_sublist _ entity.stored) (nodup_stored_of_valid valid)
    intro field result made
    obtain ⟨key, -, rfl⟩ := Option.map_eq_some_iff.mp made
    rfl
  · rw [List.map_filterMap]
    have names := FieldGroup.nodup_names_collect Field.foreignKeyGroup? entity.stored
    have apart := (List.pairwise_map.mp names).sublist
      (List.filter_sublist (p := fun group : FieldGroup => group.isRendered))
    rw [List.Nodup, List.pairwise_filterMap]
    refine apart.imp_of_mem ?_
    intro group other found other_found names_ne field made other_field other_made same
    rw [Option.map_map, Option.map_eq_some_iff] at made other_made
    obtain ⟨_, first, rfl⟩ := made
    obtain ⟨_, other_first, rfl⟩ := other_made
    have named := (stated_of_head? (List.mem_filter.mp found).1 first).2.2
    have other_named := (stated_of_head? (List.mem_filter.mp other_found).1 other_first).2.2
    dsimp only [Function.comp_apply] at same
    rw [same, other_named] at named
    exact names_ne (Option.some.inj named).symm
  · rintro field own other grouped rfl
    obtain ⟨_, made, rfl⟩ := List.mem_map.mp own
    obtain ⟨single, -, made⟩ := List.mem_filterMap.mp made
    obtain ⟨key, own_key, rfl⟩ := Option.map_eq_some_iff.mp made
    obtain ⟨_, made, equal⟩ := List.mem_map.mp grouped
    obtain ⟨group, found, made⟩ := List.mem_filterMap.mp made
    obtain ⟨first, first_eq, rfl⟩ := Option.map_eq_some_iff.mp made
    have named := (stated_of_head? (List.mem_filter.mp found).1 first_eq).2.2
    dsimp only at equal
    rw [equal] at named
    rw [ownKey?_eq_none named] at own_key
    cases own_key

/-- The key that is found at a field is the one that begins there. -/
theorem find?_declaredKeys_eq_some_iff
    (valid : entity.defect? = none)
    {field : Field}
    {key : DeclaredKey} :
    (entity.declaredKeys.find? (·.1 = field)).map (·.2) = some key ↔
      (field, key) ∈ entity.declaredKeys := by
  rw [Option.map_eq_some_iff]
  constructor
  · rintro ⟨⟨first, _⟩, found, rfl⟩
    obtain ⟨member, rfl⟩ := (find?_eq_some_iff_of_nodup (nodup_declaredKeys valid)).mp found
    exact member
  · intro member
    exact ⟨(field, key),
      (find?_eq_some_iff_of_nodup (nodup_declaredKeys valid)).mpr ⟨member, rfl⟩, rfl⟩

/-- The keys in order are the keys. -/
theorem orderedKeys_perm (valid : entity.defect? = none) :
    entity.orderedKeys.Perm entity.declaredKeys := by
  have distinct := nodup_declaredKeys valid
  have ordered : (entity.orderedKeys.map (·.1)).Sublist entity.stored := by
    apply map_filterMap_sublist
    intro field pair found
    simpa using List.find?_some found
  have ordered_distinct := (ordered.nodup (nodup_stored_of_valid valid)).of_map
  refine (List.perm_ext_iff_of_nodup ordered_distinct distinct.of_map).mpr ?_
  rintro ⟨field, key⟩
  rw [orderedKeys, List.mem_filterMap]
  constructor
  · rintro ⟨other, -, found⟩
    exact List.mem_of_find?_eq_some found
  · intro member
    have stored : field ∈ entity.stored := by
      rcases mem_declaredKeys_iff.mp member with ⟨stored, -⟩ | ⟨group, found, -, first, -⟩
      · exact stored
      · exact (stated_of_head? found first).1
    exact ⟨field, stored, (find?_eq_some_iff_of_nodup distinct).mpr ⟨member, rfl⟩⟩

/-! ## Links -/

/-- Members with references contribute their columns and those that they reference. -/
theorem map_filterMap_pair?
    {members : List Field}
    (referencing : ∀ field ∈ members, field.constraint.reference.isSome) :
    (members.filterMap Link.pair?).map (·.1) = members.map (·.column) ∧
      (members.filterMap Link.pair?).map (·.2) =
        (members.filterMap (·.constraint.reference)).map (·.column) := by
  induction members with
  | nil => exact ⟨rfl, rfl⟩
  | cons field members ih =>
    obtain ⟨here, later⟩ := List.forall_mem_cons.mp referencing
    obtain ⟨columns, targets⟩ := ih later
    obtain ⟨reference, reference_eq⟩ := Option.isSome_iff_exists.mp here
    have pair : Link.pair? field = some (field.column, reference.column) := by
      rw [Link.pair?, reference_eq]
      rfl
    simp only [List.filterMap_cons, pair, reference_eq]
    exact ⟨congrArg (field.column :: ·) columns, congrArg (reference.column :: ·) targets⟩

/-- The link of a group follows the key of the group. -/
theorem key_of_group
    {group : FieldGroup}
    (found : group ∈ entity.foreignKeyGroups)
    {field : Field}
    {reference : Reference}
    (first : group.members.head? = some field)
    (reference_eq : field.constraint.reference = some reference)
    (label : String) :
    Link.key ⟨label, reference.table, group.members.filterMap Link.pair?⟩ = group.key := by
  have referencing : ∀ member ∈ group.members, member.constraint.reference.isSome := by
    intro member belongs
    have named := ((mem_foreignKeyGroups_members_iff found).mp belongs).2
    exact (foreignKeyGroup?_eq_some_iff.mp named).1
  obtain ⟨columns, targets⟩ := map_filterMap_pair? referencing
  have table : ((group.members.filterMap (·.constraint.reference)).head?.map (·.table)).getD "" =
      reference.table := by
    obtain ⟨rest, members_eq⟩ := List.head?_eq_some_iff.mp first
    simp only [members_eq, List.filterMap_cons, reference_eq]
    rfl
  rw [Link.key, FieldGroup.key, columns, targets, table]
  rfl

theorem rendered?_foreignKeyGroups_iff
    {group : FieldGroup}
    {name : String} :
    rendered? entity.foreignKeyGroups name = some group ↔
      group ∈ entity.foreignKeyGroups ∧ group.name = name ∧ group.isRendered :=
  rendered?_eq_some_iff

/-- The link that begins at a field in a group follows the key of the group, if the group is
rendered and begins there. -/
theorem beginning?_eq_some_iff
    (valid : entity.defect? = none)
    {earlier rest : List Field}
    {field : Field}
    (split : entity.stored = earlier ++ field :: rest)
    {name : String}
    (group_eq : field.constraint.foreignKeyGroup = some name)
    {key : DeclaredKey} :
    (Link.beginning? entity.foreignKeyGroups earlier field).map Link.key = some key ↔
      ∃ group ∈ entity.foreignKeyGroups, group.isRendered ∧ group.members.head? = some field ∧
        group.key = key := by
  have distinct := nodup_stored_of_valid valid
  rw [Link.beginning?, group_eq]
  cases reference_eq : field.constraint.reference with
  | none =>
    constructor
    · exact nofun
    · rintro ⟨group, found, -, first, -⟩
      have referencing := (stated_of_head? found first).2.1
      rw [reference_eq] at referencing
      cases referencing
  | some reference =>
    have named : field.foreignKeyGroup? = some name :=
      foreignKeyGroup?_eq_some_iff.mpr ⟨by rw [reference_eq]; rfl, group_eq⟩
    -- The group that begins at the field is the one of its name.
    have named_of_first {group : FieldGroup} (found : group ∈ entity.foreignKeyGroups)
        (first : group.members.head? = some field) : group.name = name := by
      have other_named := (stated_of_head? found first).2.2
      rw [group_eq] at other_named
      exact (Option.some.inj other_named).symm
    rw [Option.bind_some]
    dsimp only
    cases rendered_eq : rendered? entity.foreignKeyGroups name with
    | none =>
      constructor
      · exact nofun
      · rintro ⟨group, found, rendered, first, -⟩
        have some_rendered := rendered?_foreignKeyGroups_iff.mpr
          ⟨found, named_of_first found first, rendered⟩
        rw [rendered_eq] at some_rendered
        cases some_rendered
    | some group =>
      obtain ⟨found, rfl, rendered⟩ := rendered?_foreignKeyGroups_iff.mp rendered_eq
      have members := (FieldGroup.mem_collect_iff.mp found).2.2
      have first_iff := isFirst_iff_head? (split ▸ distinct) named
      rw [← split, ← members] at first_iff
      dsimp only
      split_ifs with first
      · rw [first_iff] at first
        rw [Option.map_some, key_of_group found first reference_eq, Option.some.injEq]
        constructor
        · exact fun same => ⟨group, found, rendered, first, same⟩
        · rintro ⟨other, other_found, other_rendered, other_first, rfl⟩
          have same := rendered?_foreignKeyGroups_iff.mpr
            ⟨other_found, named_of_first other_found other_first, other_rendered⟩
          rw [rendered_eq] at same
          rw [Option.some.inj same]
      · rw [first_iff] at first
        constructor
        · exact nofun
        · rintro ⟨other, other_found, other_rendered, other_first, -⟩
          have same := rendered?_foreignKeyGroups_iff.mpr
            ⟨other_found, named_of_first other_found other_first, other_rendered⟩
          rw [rendered_eq] at same
          rw [← Option.some.inj same] at other_first
          exact absurd other_first first

/-- The link that begins at a field follows the foreign key that begins there. -/
theorem key_of_beginning?_eq_some_iff
    (valid : entity.defect? = none)
    {earlier rest : List Field}
    {field : Field}
    (split : entity.stored = earlier ++ field :: rest)
    {key : DeclaredKey} :
    (Link.beginning? entity.foreignKeyGroups earlier field).map Link.key = some key ↔
      (field, key) ∈ entity.declaredKeys := by
  have stored : field ∈ entity.stored := by
    rw [split]
    simp
  rw [mem_declaredKeys_iff]
  cases group_eq : field.constraint.foreignKeyGroup with
  | none =>
    have own : (Link.beginning? entity.foreignKeyGroups earlier field).map Link.key =
        field.ownKey? := by
      rw [Link.beginning?, Field.ownKey?, group_eq]
      cases field.constraint.reference <;> rfl
    rw [own]
    constructor
    · exact fun own_key => .inl ⟨stored, own_key⟩
    · rintro (⟨-, own_key⟩ | ⟨group, found, -, first, -⟩)
      · exact own_key
      · rw [(stated_of_head? found first).2.2] at group_eq
        cases group_eq
  | some name =>
    rw [beginning?_eq_some_iff valid split group_eq, ownKey?_eq_none group_eq]
    simp

/-- Links follow the foreign keys in the order in which they first appear. -/
theorem map_key_links (valid : entity.defect? = none) :
    entity.links.map Link.key = entity.orderedKeys.map (·.2) := by
  rw [links, orderedKeys, List.map_filterMap, List.map_filterMap]
  apply filterMap_withEarlier
  intro earlier field rest split
  apply Option.ext
  intro key
  rw [find?_declaredKeys_eq_some_iff valid]
  exact key_of_beginning?_eq_some_iff valid split

/-- The member of a group of one has no foreign key, neither of its own nor with others. -/
theorem no_key_of_single
    {group : FieldGroup}
    (found : group ∈ entity.foreignKeyGroups)
    (single : group.members.length = 1)
    {field : Field}
    (member : field ∈ group.members) :
    field.ownKey? = none ∧ (∀ key, (field, key) ∉ entity.declaredKeys) ∧
      ∀ other ∈ entity.foreignKeyGroups, other.isRendered → field ∉ other.members := by
  obtain ⟨-, named⟩ := (mem_foreignKeyGroups_members_iff found).mp member
  have own : field.ownKey? = none := ownKey?_eq_none (foreignKeyGroup?_eq_some_iff.mp named).2
  have apart : ∀ other ∈ entity.foreignKeyGroups, other.isRendered → field ∉ other.members := by
    intro other other_found rendered other_member
    obtain ⟨-, other_named⟩ := (mem_foreignKeyGroups_members_iff other_found).mp other_member
    have same_name : other.name = group.name := by
      rw [named] at other_named
      exact (Option.some.inj other_named).symm
    have names := FieldGroup.nodup_names_collect Field.foreignKeyGroup? entity.stored
    rw [List.inj_on_of_nodup_map names other_found found same_name, FieldGroup.isRendered, single]
      at rendered
    revert rendered
    decide
  refine ⟨own, ?_, apart⟩
  intro key declared
  rcases mem_declaredKeys_iff.mp declared with
    ⟨-, own_key⟩ | ⟨other, other_found, rendered, first, -⟩
  · rw [own] at own_key
    cases own_key
  · exact apart other other_found rendered (List.mem_of_head? first)

end Entity

/-! ## Joins -/

namespace Relations

theorem map_joinsFrom
    (entity : Entity)
    (all : List ResolvedLink)
    (taken : List String)
    (position : Nat)
    (links : List ResolvedLink) :
    (joinsFrom entity all taken position links).map (fun join => (join.related, join.pairs)) =
      links.map fun link => (link.2, link.1.pairs) := by
  induction links generalizing taken position with
  | nil => rfl
  | cons link links ih =>
    rw [joinsFrom, List.map_cons, List.map_cons, ih]

/-- What relations are made of: the resolved links give the joins, and all names are checked. -/
theorem of_ofEntity
    {entity : Entity}
    {entities : List Entity}
    {relations : Relations}
    (made : ofEntity entity entities = .ok (some relations)) :
    ∃ keys, (keyFields entity).mapM keyParam = .ok keys ∧
      checkNames relations.names = .ok () ∧
      relations =
        { entity
          role := Text.snakeCase entity.name
          keys
          joins := joinsFrom entity (resolved entity entities) [Text.snakeCase entity.name] 1
            (resolved entity entities) } := by
  rw [ofEntity] at made
  dsimp only at made
  split at made
  · cases Except.ok.inj made
  · obtain ⟨keys, keys_ok, made⟩ := bind_eq_ok_iff.mp made
    obtain ⟨⟨⟩, checked, made⟩ := bind_eq_ok_iff.mp made
    obtain rfl := Option.some.inj (Except.ok.inj made)
    exact ⟨keys, keys_ok, checked, rfl⟩

theorem joins_of_ofEntity
    {entity : Entity}
    {entities : List Entity}
    {relations : Relations}
    (made : ofEntity entity entities = .ok (some relations)) :
    relations.joins =
      joinsFrom entity (resolved entity entities) [Text.snakeCase entity.name] 1
        (resolved entity entities) := by
  obtain ⟨keys, -, -, rfl⟩ := of_ofEntity made
  rfl

/-- A key with the first entity that has the referenced table. -/
def resolvedKey?
    (entities : List Entity)
    (key : DeclaredKey) : Option (Entity × List (String × String)) :=
  (entities.find? (·.bareTable = key.table)).map fun related =>
    (related, key.columns.zip key.targets)

theorem resolvedKey?_key
    (entities : List Entity)
    (link : Link) :
    resolvedKey? entities link.key =
      (target? entities link).map fun related => (related, link.pairs) := by
  have pairs : (link.pairs.map (·.1)).zip (link.pairs.map (·.2)) = link.pairs := by
    rw [List.zip_map']
    exact List.map_id _
  rw [resolvedKey?, target?, Link.key, pairs]

/-- The foreign keys of the table of an entity are the links that joins follow, and the joins of a
batch are the keys that lead to one of its entities, in the order in which the keys first appear. -/
theorem joins_eq_orderedKeys
    {entity : Entity}
    (valid : entity.defect? = none)
    (length : Option Nat)
    (entities : List Entity) :
    (Schema.Table.ofEntity length entity).columns.filterMap Schema.Column.foreignKey? =
        entity.stored.filterMap Field.ownKey? ∧
      (Schema.Table.ofEntity length entity).constraints.filterMap
          Schema.TableConstraint.foreignKey? =
        (entity.foreignKeyGroups.filter (·.isRendered)).map FieldGroup.key ∧
      (Schema.Table.ofEntity length entity).foreignKeys = entity.declaredKeys.map (·.2) ∧
      entity.orderedKeys.Perm entity.declaredKeys ∧
      entity.links.map Link.key = entity.orderedKeys.map (·.2) ∧
      (∀ group ∈ entity.foreignKeyGroups, group.members.length = 1 → ∀ field ∈ group.members,
        field.ownKey? = none ∧ (∀ key, (field, key) ∉ entity.declaredKeys) ∧
          ∀ other ∈ entity.foreignKeyGroups, other.isRendered → field ∉ other.members) ∧
      ∀ relations, ofEntity entity entities = .ok (some relations) →
        relations.joins.map (fun join => (join.related, join.pairs)) =
          (entity.orderedKeys.map (·.2)).filterMap (resolvedKey? entities) := by
  refine ⟨Entity.filterMap_foreignKey?_columns length entity,
    Entity.filterMap_foreignKey?_constraints length entity,
    Entity.foreignKeys_ofEntity length entity, Entity.orderedKeys_perm valid,
    Entity.map_key_links valid, fun group found single field member =>
      Entity.no_key_of_single found single member, ?_⟩
  intro relations made
  rw [joins_of_ofEntity made, map_joinsFrom, ← Entity.map_key_links valid, List.filterMap_map,
    resolved, List.map_filterMap]
  apply List.filterMap_congr
  intro link _
  rw [Function.comp_apply, resolvedKey?_key, Option.map_map]
  rfl

/-- Orders reference a user by one column and an item by two, between which the column of a group of
one stands. -/
def order : Entity :=
  .ofFields "Order"
    [.ofTag "ID" "i64" "pk", .ofTag "Tenant" "i64" "fk:item,items,tenant",
      .ofTag "UserID" "i64" "fk:users,id", .ofTag "Alone" "i64" "fk:alone,users,id",
      .ofTag "ItemID" "i64" "fk:item,items,id"] ""

/-- The entities that orders reference, and the orders. -/
def shop : List Entity :=
  [.ofFields "User" [.ofTag "ID" "i64" "pk,table:users"] "",
    .ofFields "Item" [.ofTag "ID" "i64" "pk,table:items", .ofTag "Tenant" "i64" "pk"] "",
    order]

/-- Orders are joined with items first, since the group of two begins before the user. -/
theorem joins_eq_orderedKeys_order :
    ∃ relations, ofEntity order shop = .ok (some relations) ∧
      relations.joins.map (fun join => (join.related.name, join.pairs)) =
        [("Item", [("tenant", "tenant"), ("item_id", "id")]), ("User", [("user_id", "id")])] := by
  have valid : order.defect? = none := by decide +kernel
  have some_relations : ((ofEntity order shop).toOption.join).isSome := by decide +kernel
  obtain ⟨relations, made⟩ : ∃ relations, ofEntity order shop = .ok (some relations) := by
    cases result : ofEntity order shop with
    | error defect =>
      rw [result] at some_relations
      cases some_relations
    | ok result' =>
      rw [result] at some_relations
      obtain ⟨relations, rfl⟩ := Option.isSome_iff_exists.mp some_relations
      exact ⟨relations, rfl⟩
  have joins := (joins_eq_orderedKeys valid none shop).2.2.2.2.2.2 relations made
  have names := congrArg (List.map fun pair => (pair.1.name, pair.2)) joins
  rw [List.map_map] at names
  refine ⟨relations, made, names.trans ?_⟩
  decide +kernel

end Relations

end Tablewright
