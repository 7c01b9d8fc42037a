import Mathlib.Data.List.Perm.Basic
import Mathlib.Order.Bounds.Defs
import Tablewright.Proofs.Entity.Valid

/-!
# Defects of entities

An entity is valid if it has a name, if it has fields, and if the fields have names of their own.
Any other entity shows one defect, the first that it has in this order.  A repeated name is that of
the first field whose name an earlier one has, and a missing one is that of the first field without
a name.  It makes no difference by which changes an entity came about.
-/

namespace Tablewright.Entity

/-! ## The first name that is repeated -/

/-- The name at the position is one of those before it or of those that are seen already. -/
def RepeatsAt
    (seen names : List String)
    (position : Nat) : Prop :=
  ∃ name, names[position]? = some name ∧ (name ∈ names.take position ∨ name ∈ seen)

variable {seen names : List String} {name : String} {position : Nat}

theorem repeatsAt_zero_iff : RepeatsAt seen (name :: names) 0 ↔ name ∈ seen := by
  simp [RepeatsAt]

/-- Behind the first name, that name is seen already. -/
theorem repeatsAt_succ_iff :
    RepeatsAt seen (name :: names) (position + 1) ↔ RepeatsAt (name :: seen) names position := by
  simp only [RepeatsAt, List.getElem?_cons_succ, List.take_succ_cons, List.mem_cons]
  exact exists_congr fun _ => and_congr_right fun _ => by rw [or_assoc, or_left_comm]

/-- The least number with a property, if zero does not have it. -/
theorem isLeast_succ_iff
    {holds : Nat → Prop}
    (not_zero : ¬ holds 0) :
    IsLeast {number | holds number} (position + 1) ↔
      IsLeast {number | holds (number + 1)} position := by
  refine and_congr_right fun _ => ⟨fun below number later => ?_, fun below number later => ?_⟩
  · exact Nat.le_of_succ_le_succ (below later)
  · cases number with
    | zero => exact absurd later not_zero
    | succ number => exact Nat.succ_le_succ (below later)

/-- What is found is the name at the least position whose name is repeated. -/
theorem firstRepeated?_eq_some_iff :
    firstRepeated? seen names = some name ↔
      ∃ position, names[position]? = some name ∧
        IsLeast {position | RepeatsAt seen names position} position := by
  induction names generalizing seen with
  | nil => simp [firstRepeated?]
  | cons head names ih =>
    rw [firstRepeated?]
    split
    · next repeated =>
      rw [List.contains_iff_mem] at repeated
      have here : RepeatsAt seen (head :: names) 0 := repeatsAt_zero_iff.mpr repeated
      constructor
      · rintro ⟨⟩
        exact ⟨0, rfl, here, fun _ _ => Nat.zero_le _⟩
      · rintro ⟨position, found, -, below⟩
        obtain rfl := Nat.le_zero.mp (below here)
        exact found
    · next fresh =>
      rw [List.contains_iff_mem] at fresh
      have not_here : ¬ RepeatsAt seen (head :: names) 0 := mt repeatsAt_zero_iff.mp fresh
      rw [ih]
      constructor
      · rintro ⟨position, found, least⟩
        refine ⟨position + 1, found, (isLeast_succ_iff not_here).mpr ?_⟩
        simpa only [repeatsAt_succ_iff] using least
      · rintro ⟨position, found, least⟩
        cases position with
        | zero => exact absurd least.1 not_here
        | succ position =>
          have later := (isLeast_succ_iff not_here).mp least
          simp only [repeatsAt_succ_iff] at later
          exact ⟨position, found, later⟩

/-- What is found by a test is the least position of an item that passes it. -/
theorem findIdx?_eq_some_iff_isLeast
    {test : Field → Bool}
    {fields : List Field} :
    fields.findIdx? test = some position ↔
      IsLeast {position | ∃ field, fields[position]? = some field ∧ test field} position := by
  rw [List.findIdx?_eq_some_iff_getElem]
  constructor
  · rintro ⟨inside, passes, not_before⟩
    refine ⟨⟨fields[position], List.getElem?_eq_getElem inside, passes⟩, ?_⟩
    rintro other ⟨field, found, field_passes⟩
    obtain ⟨_, rfl⟩ := List.getElem?_eq_some_iff.mp found
    by_contra before
    exact not_before other (Nat.lt_of_not_le before) field_passes
  · rintro ⟨⟨field, found, passes⟩, below⟩
    obtain ⟨inside, rfl⟩ := List.getElem?_eq_some_iff.mp found
    refine ⟨inside, passes, fun other before other_passes => ?_⟩
    have at_most := below ⟨_, List.getElem?_eq_getElem (Nat.lt_trans before inside), other_passes⟩
    exact Nat.not_le_of_lt before at_most

/-! ## Valid entities and the defects of others -/

/-- An entity with a name, and with fields that have names of their own. -/
structure IsValid (entity : Entity) : Prop where
  /-- The entity has a name. -/
  named : ¬ Text.isBlankText entity.name
  /-- There are fields. -/
  fields_ne : entity.fields ≠ []
  /-- No two fields share a name. -/
  distinct : (entity.fields.map (·.name)).Nodup
  /-- Each field has a name. -/
  fields_named : ∀ field ∈ entity.fields, ¬ Text.isBlankText field.name

/-- The field at the position has the name of an earlier one. -/
def RepeatsName
    (entity : Entity)
    (position : Nat) : Prop :=
  ∃ field, entity.fields[position]? = some field ∧
    ∃ earlier ∈ entity.fields.take position, earlier.name = field.name

/-- The field at the position has no name. -/
def IsUnnamed
    (entity : Entity)
    (position : Nat) : Prop :=
  ∃ field, entity.fields[position]? = some field ∧ Text.isBlankText field.name

/-- The first defect of an entity, which has none of those before it. -/
inductive Shows (entity : Entity) : Defect → Prop
  | emptyName :
      Text.isBlankText entity.name → Shows entity .emptyName
  | noFields :
      ¬ Text.isBlankText entity.name → entity.fields = [] →
      Shows entity (.noFields entity.name)
  | duplicateField {position : Nat} {field : Field} :
      ¬ Text.isBlankText entity.name → entity.fields ≠ [] →
      IsLeast {position | entity.RepeatsName position} position →
      entity.fields[position]? = some field →
      Shows entity (.duplicateField entity.name field.name)
  | unnamedField {position : Nat} :
      ¬ Text.isBlankText entity.name → entity.fields ≠ [] →
      (entity.fields.map (·.name)).Nodup →
      IsLeast {position | entity.IsUnnamed position} position →
      Shows entity (.unnamedField entity.name position)

variable {entity after : Entity} {defect : Defect}

theorem repeatsAt_names_iff :
    RepeatsAt [] (entity.fields.map (·.name)) position ↔ entity.RepeatsName position := by
  simp [RepeatsAt, RepeatsName, ← List.map_take]

theorem firstRepeated?_names_eq_some_iff :
    firstRepeated? [] (entity.fields.map (·.name)) = some name ↔
      ∃ position field, IsLeast {position | entity.RepeatsName position} position ∧
        entity.fields[position]? = some field ∧ field.name = name := by
  simp only [firstRepeated?_eq_some_iff, repeatsAt_names_iff, List.getElem?_map,
    Option.map_eq_some_iff]
  exact ⟨fun ⟨position, ⟨field, found, named⟩, least⟩ => ⟨position, field, least, found, named⟩,
    fun ⟨position, field, least, found, named⟩ => ⟨position, ⟨field, found, named⟩, least⟩⟩

theorem firstRepeated?_names_eq_none_iff :
    firstRepeated? [] (entity.fields.map (·.name)) = none ↔
      (entity.fields.map (·.name)).Nodup := by
  rw [firstRepeated?_eq_none_iff]
  simp

theorem findIdx?_names_eq_some_iff :
    (entity.fields.map (·.name)).findIdx? Text.isBlankText = some position ↔
      IsLeast {position | entity.IsUnnamed position} position := by
  rw [List.findIdx?_map]
  exact findIdx?_eq_some_iff_isLeast

/-- An entity without a defect is a valid one. -/
theorem defect?_eq_none_iff : entity.defect? = none ↔ entity.IsValid := by
  constructor
  · intro valid
    have distinct := nodup_names_of_valid valid
    rw [defect?, firstRepeated?_names_eq_none_iff.mpr distinct] at valid
    split_ifs at valid with blank empty
    rw [Option.map_eq_none_iff, List.findIdx?_map, List.findIdx?_eq_none_iff] at valid
    refine ⟨blank, mt List.isEmpty_iff.mpr empty, distinct, fun field member => ?_⟩
    exact Bool.not_eq_true _ ▸ valid field member
  · intro valid
    have none_repeated := firstRepeated?_names_eq_none_iff.mpr valid.distinct
    have none_unnamed : (entity.fields.map (·.name)).findIdx? Text.isBlankText = none := by
      rw [List.findIdx?_map, List.findIdx?_eq_none_iff]
      intro field member
      exact Bool.not_eq_true _ ▸ valid.fields_named field member
    simp [defect?, valid.named, valid.fields_ne, none_repeated, none_unnamed]

theorem defect?_eq_some_iff : entity.defect? = some defect ↔ entity.Shows defect := by
  constructor
  · intro found
    unfold defect? at found
    dsimp only at found
    split at found
    · next blank =>
      obtain rfl := Option.some.inj found
      exact .emptyName blank
    · next named =>
      split at found
      · next empty =>
        obtain rfl := Option.some.inj found
        exact .noFields named (List.isEmpty_iff.mp empty)
      · next some_field =>
        have fields_ne : entity.fields ≠ [] := mt List.isEmpty_iff.mpr some_field
        split at found
        · next name repeated =>
          obtain ⟨position, field, least, at_position, rfl⟩ :=
            firstRepeated?_names_eq_some_iff.mp repeated
          obtain rfl := Option.some.inj found
          exact .duplicateField named fields_ne least at_position
        · next none_repeated =>
          obtain ⟨position, unnamed, rfl⟩ := Option.map_eq_some_iff.mp found
          exact .unnamedField named fields_ne (firstRepeated?_names_eq_none_iff.mp none_repeated)
            (findIdx?_names_eq_some_iff.mp unnamed)
  · intro shows
    cases shows with
    | emptyName blank => simp [defect?, blank]
    | noFields named empty => simp [defect?, named, empty]
    | duplicateField named fields_ne least found =>
      have repeated := firstRepeated?_names_eq_some_iff.mpr ⟨_, _, least, found, rfl⟩
      simp [defect?, named, fields_ne, repeated]
    | unnamedField named fields_ne distinct least =>
      have none_repeated := firstRepeated?_names_eq_none_iff.mpr distinct
      have unnamed := findIdx?_names_eq_some_iff.mpr least
      simp [defect?, named, fields_ne, none_repeated, unnamed]

/-! ## Changes -/

/-- A change of an entity or of its fields. -/
inductive Edit where
  | rename (name : String)
  | insertField (position : Nat) (field : Field)
  | removeField (position : Nat)
  | swapFields (one other : Nat)
  | renameField (position : Nat) (name : String)

/-- The entity after a change; none if it is made at a position that is not there. -/
def edited? (entity : Entity) : Edit → Option Entity
  | .rename name => some { entity with name }
  | .insertField position field =>
    if position ≤ entity.fields.length then
      some { entity with fields := entity.fields.insertIdx position field }
    else none
  | .removeField position =>
    if position < entity.fields.length then
      some { entity with fields := entity.fields.eraseIdx position }
    else none
  | .swapFields one other => do
    let first ← entity.fields[one]?
    let second ← entity.fields[other]?
    some { entity with fields := (entity.fields.set one second).set other first }
  | .renameField position name => do
    let field ← entity.fields[position]?
    some { entity with fields := entity.fields.set position { field with name } }

/-- A change that leaves a valid entity valid. -/
def Edit.IsSafe (entity : Entity) : Edit → Prop
  | .rename name => ¬ Text.isBlankText name
  | .insertField _ field =>
    ¬ Text.isBlankText field.name ∧ field.name ∉ entity.fields.map (·.name)
  | .removeField _ => entity.fields.length ≠ 1
  | .swapFields _ _ => True
  | .renameField position name =>
    ¬ Text.isBlankText name ∧ name ∉ (entity.fields.eraseIdx position).map (·.name)

/-- Changes that are safe one after the other. -/
def Edit.AreSafe (entity : Entity) : List Edit → Prop
  | [] => True
  | edit :: edits =>
    edit.IsSafe entity ∧ ∀ next, entity.edited? edit = some next → AreSafe next edits

namespace IsValid

/-- The order of the fields does not count. -/
theorem of_perm
    {other : Entity}
    (valid : entity.IsValid)
    (same_name : entity.name = other.name)
    (same_fields : entity.fields.Perm other.fields) :
    other.IsValid where
  named := same_name ▸ valid.named
  fields_ne none := valid.fields_ne (List.perm_nil.mp (none ▸ same_fields))
  distinct := (same_fields.map _).nodup_iff.mp valid.distinct
  fields_named field member := valid.fields_named field (same_fields.mem_iff.mpr member)

/-- Some of the fields and another one make a valid entity if the other one has a name of its
own. -/
theorem cons_iff
    {field : Field}
    {rest : List Field}
    (valid : entity.IsValid)
    (among : rest.Sublist entity.fields) :
    { entity with fields := field :: rest }.IsValid ↔
      ¬ Text.isBlankText field.name ∧ field.name ∉ rest.map (·.name) := by
  constructor
  · intro extended
    have fresh := extended.distinct
    rw [List.map_cons, List.nodup_cons] at fresh
    exact ⟨extended.fields_named field List.mem_cons_self, fresh.1⟩
  · rintro ⟨named, fresh⟩
    refine ⟨valid.named, List.cons_ne_nil field rest, ?_, ?_⟩
    · exact List.nodup_cons.mpr ⟨fresh, (among.map _).nodup valid.distinct⟩
    · exact List.forall_mem_cons.mpr
        ⟨named, fun other member => valid.fields_named other (among.subset member)⟩

/-- A valid entity stays valid exactly if a change is safe. -/
theorem edited_iff
    {edit : Edit}
    (valid : entity.IsValid)
    (edited : entity.edited? edit = some after) :
    after.IsValid ↔ edit.IsSafe entity := by
  cases edit with
  | rename name =>
    obtain rfl := Option.some.inj edited
    exact ⟨fun renamed => renamed.named,
      fun named => ⟨named, valid.fields_ne, valid.distinct, valid.fields_named⟩⟩
  | insertField position field =>
    obtain ⟨inside, after_eq⟩ := Option.ite_none_right_eq_some.mp edited
    obtain rfl := Option.some.inj after_eq
    have moved := List.perm_insertIdx field entity.fields inside
    rw [Edit.IsSafe, ← valid.cons_iff (List.Sublist.refl _)]
    exact ⟨fun inserted => inserted.of_perm rfl moved,
      fun extended => extended.of_perm rfl moved.symm⟩
  | removeField position =>
    obtain ⟨inside, after_eq⟩ := Option.ite_none_right_eq_some.mp edited
    obtain rfl := Option.some.inj after_eq
    have among := List.eraseIdx_sublist entity.fields position
    have remaining : entity.fields.eraseIdx position ≠ [] ↔ entity.fields.length ≠ 1 := by
      rw [← List.length_pos_iff, List.length_eraseIdx_of_lt inside]
      omega
    rw [Edit.IsSafe, ← remaining]
    exact ⟨fun removed => removed.fields_ne,
      fun fields_ne => ⟨valid.named, fields_ne, (among.map _).nodup valid.distinct,
        fun field member => valid.fields_named field (among.subset member)⟩⟩
  | swapFields one other =>
    obtain ⟨first, first_eq, rest⟩ := Option.bind_eq_some_iff.mp edited
    obtain ⟨second, second_eq, after_eq⟩ := Option.bind_eq_some_iff.mp rest
    obtain rfl := Option.some.inj after_eq
    obtain ⟨one_inside, rfl⟩ := List.getElem?_eq_some_iff.mp first_eq
    obtain ⟨other_inside, rfl⟩ := List.getElem?_eq_some_iff.mp second_eq
    exact iff_of_true
      (valid.of_perm rfl (List.set_set_perm one_inside other_inside).symm) trivial
  | renameField position name =>
    obtain ⟨field, field_eq, after_eq⟩ := Option.bind_eq_some_iff.mp edited
    obtain rfl := Option.some.inj after_eq
    obtain ⟨inside, rfl⟩ := List.getElem?_eq_some_iff.mp field_eq
    let renamed : Field := { entity.fields[position] with name }
    have moved := List.set_perm_cons_eraseIdx inside renamed
    have safe_iff : { entity with fields := renamed :: entity.fields.eraseIdx position }.IsValid ↔
        Edit.IsSafe entity (.renameField position name) :=
      valid.cons_iff (List.eraseIdx_sublist entity.fields position)
    exact ⟨fun changed => safe_iff.mp (changed.of_perm rfl moved),
      fun safe => (safe_iff.mpr safe).of_perm rfl moved.symm⟩

/-- A valid entity stays valid in a run of safe changes. -/
theorem foldlM_edited?
    {edits : List Edit}
    (valid : entity.IsValid)
    (safe : Edit.AreSafe entity edits)
    (edited : edits.foldlM edited? entity = some after) :
    after.IsValid := by
  induction edits generalizing entity with
  | nil =>
    obtain rfl := Option.some.inj edited
    exact valid
  | cons edit edits ih =>
    obtain ⟨next, next_eq, rest⟩ := Option.bind_eq_some_iff.mp edited
    obtain ⟨here, later⟩ := safe
    exact ih ((valid.edited_iff next_eq).mpr here) (later next next_eq) rest

end IsValid

/-- An entity has no defect exactly if it is valid, and otherwise it has the first defect that it
shows.  After any changes an entity without a defect is valid again, and safe changes of a valid
entity leave it without one. -/
theorem defect?_decides (entity : Entity) :
    (entity.defect? = none ↔ entity.IsValid) ∧
      (∀ defect, entity.defect? = some defect ↔ entity.Shows defect) ∧
      ∀ (edits : List Edit) (after : Entity), edits.foldlM edited? entity = some after →
        (after.defect? = none → after.IsValid) ∧
        (entity.IsValid → Edit.AreSafe entity edits → after.defect? = none) := by
  refine ⟨defect?_eq_none_iff, fun defect => defect?_eq_some_iff, fun edits after edited => ?_⟩
  refine ⟨defect?_eq_none_iff.mp, fun valid safe => ?_⟩
  exact defect?_eq_none_iff.mpr (valid.foldlM_edited? safe edited)

/-- A record of members. -/
def members : Entity :=
  { name := "Member"
    fields := [⟨"ID", "i64", {}⟩, ⟨"Email", "String", {}⟩]
    tableOverride := none
    package := "" }

/-- The name of a member. -/
def nameField : Field := ⟨"Name", "String", {}⟩

/-- Changes that repeat a name and then remove the field that had it first. -/
def repeatingEdits : List Edit :=
  [.renameField 0 "Email", .removeField 1, .insertField 0 nameField]

/-- Changes are judged by what they come to: an entity may show a defect between two of them. -/
theorem defect?_decides_members :
    (repeatingEdits.take 1).foldlM edited? members =
        some { members with fields := [⟨"Email", "i64", {}⟩, ⟨"Email", "String", {}⟩] } ∧
      repeatingEdits.foldlM edited? members =
        some { members with fields := [nameField, ⟨"Email", "i64", {}⟩] } ∧
      { members with fields := [nameField, ⟨"Email", "i64", {}⟩] }.IsValid ∧
      [.insertField 2 nameField, .swapFields 0 2].foldlM edited? members =
        some { members with fields := [nameField, ⟨"Email", "String", {}⟩, ⟨"ID", "i64", {}⟩] } ∧
      { members with fields := [nameField, ⟨"Email", "String", {}⟩, ⟨"ID", "i64", {}⟩] }.defect? =
        none := by
  obtain ⟨valid_iff, -, after_edits⟩ := defect?_decides members
  have valid : members.IsValid := valid_iff.mp (by decide)
  have fresh : ¬ Text.isBlankText nameField.name ∧
      nameField.name ∉ members.fields.map (·.name) := by
    decide
  have safe : Edit.AreSafe members [.insertField 2 nameField, .swapFields 0 2] :=
    ⟨fresh, fun next _ => ⟨trivial, fun _ _ => trivial⟩⟩
  exact ⟨by decide, by decide, (after_edits repeatingEdits _ (by decide)).1 (by decide), by decide,
    (after_edits _ _ (by decide)).2 valid safe⟩

end Tablewright.Entity
