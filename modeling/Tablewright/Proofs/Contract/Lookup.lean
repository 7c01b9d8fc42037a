import Mathlib.Tactic.SplitIfs
import Mathlib.Tactic.Tauto
import Tablewright.Contract.Convention

/-!
# Lookups without fields

A name that begins with `FindBy` lists fields with `And` between them.  It lists none exactly if
nothing but `And` follows, and then it is still a lookup.
-/

namespace Tablewright

open Text (snakeCase)

namespace Convention

/-- A text of the word `And`, repeated. -/
def conjunctions (count : Nat) : List Char :=
  (List.replicate count "And".toList).flatten

theorem conjunctions_succ (count : Nat) :
    conjunctions (count + 1) = 'A' :: 'n' :: 'd' :: conjunctions count := by
  rw [conjunctions, List.replicate_succ, List.flatten_cons]
  rfl

/-- A text has no names if none is open before it and it is made of `And`. -/
theorem filter_namesAfter_eq_nil_iff (back cs : List Char) :
    (namesAfter back cs).filter (!·.isEmpty) = [] ↔
      back = [] ∧ ∃ count, cs = conjunctions count := by
  fun_induction namesAfter back cs with
  | case1 back rest ih =>
    have cut : (∃ count, 'A' :: 'n' :: 'd' :: rest = conjunctions count) ↔
        ∃ count, rest = conjunctions count := by
      constructor
      · rintro ⟨_ | count, equal⟩
        · cases equal
        · rw [conjunctions_succ] at equal
          exact ⟨count, by simpa using equal⟩
      · rintro ⟨count, rfl⟩
        exact ⟨count + 1, (conjunctions_succ count).symm⟩
    rw [cut, List.filter_cons]
    cases back with
    | nil => simpa using ih
    | cons c back => simp
  | case2 back c rest not_and ih =>
    rw [ih]
    constructor
    · rintro ⟨open_eq, -⟩
      cases open_eq
    · -- A text that begins with `And` would not have gone into the open name.
      rintro ⟨-, _ | count, equal⟩
      · cases equal
      · rw [conjunctions_succ] at equal
        obtain ⟨rfl, rfl⟩ := List.cons.inj equal
        exact absurd rfl (not_and _ rfl)
  | case3 back =>
    rw [List.filter_cons]
    cases back with
    | nil => simpa using ⟨0, rfl⟩
    | cons c back => simp

/-- A text lists no field exactly if it is made of `And`. -/
theorem listedFields_eq_nil_iff (cs : List Char) :
    listedFields cs = [] ↔ ∃ count, cs = conjunctions count := by
  rw [listedFields, List.map_eq_nil_iff, filter_namesAfter_eq_nil_iff]
  simp

theorem subset_of_mem_namesAfter
    {back cs part : List Char}
    (member : part ∈ namesAfter back cs) :
    part ⊆ back ++ cs := by
  fun_induction namesAfter back cs with
  | case1 back rest ih =>
    intro c occurs
    rcases List.mem_cons.mp member with rfl | later
    · exact List.mem_append_left _ (List.mem_reverse.mp occurs)
    · have found := ih later occurs
      simp only [List.nil_append, List.mem_append, List.mem_cons] at found ⊢
      tauto
  | case2 back c rest _ ih =>
    intro d occurs
    have found := ih member occurs
    simp only [List.cons_append, List.mem_cons, List.mem_append] at found ⊢
    tauto
  | case3 back =>
    rw [List.mem_singleton.mp member, List.append_nil]
    exact List.reverse_subset.mpr (List.Subset.refl back)

/-- The fields that a text lists are parts of it. -/
theorem subset_of_mem_listedFields
    {cs : List Char}
    {field : String}
    (member : field ∈ listedFields cs) :
    field.toList ⊆ cs := by
  unfold listedFields at member
  obtain ⟨part, found, rfl⟩ := List.mem_map.mp member
  rw [String.toList_ofList]
  exact subset_of_mem_namesAfter (List.mem_filter.mp found).1

/-- Known columns are the whole text or the fields that it lists, and there are some. -/
theorem fields_of_knownFields?
    {entity : Entity}
    {cs : List Char}
    {fields : List String}
    (known : knownFields? entity cs = some fields) :
    fields ≠ [] ∧ (fields = [String.ofList cs] ∨ fields = listedFields cs) := by
  unfold knownFields? at known
  dsimp only at known
  split at known
  · cases known
    exact ⟨List.cons_ne_nil _ _, Or.inl rfl⟩
  · split at known
    · next listed =>
      cases known
      refine ⟨?_, Or.inr rfl⟩
      intro none_listed
      simp [none_listed] at listed
    · cases known

/-- Nothing but `And` can still be a column as a whole. -/
theorem knownFields?_conjunctions
    (entity : Entity)
    (count : Nat) :
    knownFields? entity (conjunctions count) = none ↔
      snakeCase (String.ofList (conjunctions count)) ∉ entity.columns := by
  have none_listed : listedFields (conjunctions count) = [] :=
    (listedFields_eq_nil_iff _).mpr ⟨count, rfl⟩
  unfold knownFields?
  simp [none_listed]

/-- The text after `FindBy` is what a name goes on with. -/
theorem lookup?_eq_some_iff
    {name : String}
    {cs : List Char} :
    lookup? name = some cs ↔ name.toList = "FindBy".toList ++ cs := by
  unfold lookup?
  constructor
  · intro found
    by_cases begins : "FindBy".toList.isPrefixOf name.toList
    · rw [if_pos begins] at found
      obtain ⟨rest, rest_eq⟩ := List.isPrefixOf_iff_prefix.mp begins
      rw [← rest_eq] at found ⊢
      rw [← Option.some.inj found]
      rfl
    · rw [if_neg begins] at found
      cases found
  · intro name_eq
    rw [name_eq, if_pos (List.isPrefixOf_iff_prefix.mpr ⟨cs, rfl⟩)]
    rfl

/-- Names that always ask for the same. -/
def fixedNames : List String :=
  ["Create", "GetByID", "GetById", "Get", "Update", "Delete", "List", "ListAll"]

theorem fixed?_eq_none
    {name : String}
    (other : name ∉ fixedNames) :
    fixed? name = none := by
  simp only [fixedNames, List.mem_cons, List.not_mem_nil, or_false, not_or] at other
  simp [fixed?, other]

/-- No fixed name begins as `Find` does. -/
theorem fixed?_eq_none_of_head
    {name : String}
    {rest : List Char}
    (name_eq : name.toList = 'F' :: rest) :
    fixed? name = none := by
  apply fixed?_eq_none
  intro fixed
  have others : ∀ word ∈ fixedNames, word.toList.head? ≠ some 'F' := by decide
  exact others name fixed (by rw [name_eq, List.head?_cons])

/-- No fixed name asks for a lookup. -/
theorem fixed?_ne_findBy (name : String) (fields : List String) :
    fixed? name ≠ some (.findBy fields) := by
  unfold fixed?
  split_ifs <;> simp

/-- A lookup is by known columns, or by whatever its name lists. -/
theorem lookup_of_ofName?
    {entity : Entity}
    {name : String}
    {fields : List String}
    (named : ofName? entity name = some (.findBy fields)) :
    ∃ cs, name.toList = "FindBy".toList ++ cs ∧
      (knownFields? entity cs = some fields ∨
        knownFields? entity cs = none ∧ fields = listedFields cs) := by
  unfold ofName? at named
  split at named
  · next convention fixed =>
    cases named
    exact absurd fixed (fixed?_ne_findBy name fields)
  · split at named
    · next found known =>
      cases named
      obtain ⟨cs, looked, known⟩ := Option.bind_eq_some_iff.mp known
      exact ⟨cs, lookup?_eq_some_iff.mp looked, Or.inl known⟩
    · next unknown =>
      split at named
      · cases named
      · obtain ⟨cs, looked, fields_eq⟩ := Option.map_eq_some_iff.mp named
        have looked := (Option.filter_eq_some_iff.mp looked).1
        rw [looked, Option.bind_some] at unknown
        cases fields_eq
        exact ⟨cs, lookup?_eq_some_iff.mp looked, Or.inr ⟨unknown, rfl⟩⟩

/-- The fields of a lookup are parts of its name. -/
theorem subset_of_mem_fields
    {entity : Entity}
    {name field : String}
    {fields : List String}
    (named : ofName? entity name = some (.findBy fields))
    (member : field ∈ fields) :
    field.toList ⊆ name.toList := by
  obtain ⟨cs, name_eq, kind⟩ := lookup_of_ofName? named
  have within : field.toList ⊆ cs := by
    rcases kind with known | ⟨-, rfl⟩
    · rcases (fields_of_knownFields? known).2 with rfl | rfl
      · rw [List.mem_singleton.mp member, String.toList_ofList]
        exact List.Subset.refl cs
      · exact subset_of_mem_listedFields member
    · exact subset_of_mem_listedFields member
  rw [name_eq]
  exact List.Subset.trans within (List.subset_append_right _ _)

/-- A name between occurrences of `And` that is as long as the text is all of it. -/
theorem eq_of_mem_namesAfter
    {back cs part : List Char}
    (member : part ∈ namesAfter back cs)
    (long : back.length + cs.length ≤ part.length) :
    part = back.reverse ++ cs := by
  fun_induction namesAfter back cs with
  | case1 back rest ih =>
    simp only [List.length_cons] at long
    rcases List.mem_cons.mp member with rfl | later
    · rw [List.length_reverse] at long
      omega
    · have part_eq := ih later (by rw [List.length_nil]; omega)
      rw [part_eq, List.reverse_nil, List.nil_append] at long
      omega
  | case2 back c rest _ ih =>
    rw [List.length_cons] at long
    rw [ih member (by rw [List.length_cons]; omega), List.reverse_cons, List.append_assoc]
    rfl
  | case3 back => rw [List.mem_singleton.mp member, List.append_nil]

/-- A field of a lookup that is as long as the text after `FindBy` is all of it. -/
theorem eq_of_mem_fields
    {entity : Entity}
    {name field : String}
    {fields : List String}
    {cs : List Char}
    (named : ofName? entity name = some (.findBy fields))
    (name_eq : name.toList = "FindBy".toList ++ cs)
    (member : field ∈ fields)
    (long : cs.length ≤ field.toList.length) :
    field = String.ofList cs := by
  obtain ⟨looked, looked_eq, kind⟩ := lookup_of_ofName? named
  obtain rfl : looked = cs := List.append_cancel_left (looked_eq.symm.trans name_eq)
  have listed (found : field ∈ listedFields looked) : field = String.ofList looked := by
    obtain ⟨part, part_found, rfl⟩ := List.mem_map.mp found
    have part_member : part ∈ namesAfter [] looked := (List.mem_filter.mp part_found).1
    rw [String.toList_ofList] at long
    rw [eq_of_mem_namesAfter part_member (by rwa [List.length_nil, Nat.zero_add]),
      List.reverse_nil, List.nil_append]
  rcases kind with known | ⟨-, rfl⟩
  · rcases (fields_of_knownFields? known).2 with rfl | rfl
    · exact List.mem_singleton.mp member
    · exact listed member
  · exact listed member

/-- A name that begins with `FindBy` and goes on with nothing but `And`, which is no column. -/
def IsBareLookup
    (entity : Entity)
    (name : List Char) : Prop :=
  ∃ count, name = "FindBy".toList ++ conjunctions count ∧
    snakeCase (String.ofList (conjunctions count)) ∉ entity.columns

/-- A lookup has no fields exactly if its name is that of a bare one. -/
theorem fields_eq_nil_iff_isBareLookup
    {entity : Entity}
    {name : String}
    {fields : List String}
    (named : ofName? entity name = some (.findBy fields)) :
    fields = [] ↔ IsBareLookup entity name.toList := by
  obtain ⟨cs, name_eq, known | ⟨unknown, rfl⟩⟩ := lookup_of_ofName? named
  · constructor
    · intro fields_eq
      exact absurd fields_eq (fields_of_knownFields? known).1
    · rintro ⟨count, same, no_column⟩
      have cs_eq : cs = conjunctions count := List.append_cancel_left (name_eq.symm.trans same)
      rw [cs_eq, (knownFields?_conjunctions entity count).mpr no_column] at known
      cases known
  · rw [listedFields_eq_nil_iff]
    constructor
    · rintro ⟨count, rfl⟩
      exact ⟨count, name_eq, (knownFields?_conjunctions entity count).mp unknown⟩
    · rintro ⟨count, same, -⟩
      exact ⟨count, List.append_cancel_left (name_eq.symm.trans same)⟩

end Convention
end Tablewright
