import Mathlib.Data.List.Nodup
import Tablewright.Entity.View

/-!
# Valid entities

The fields of an entity without a defect have names of their own, so no field stands twice among
them.
-/

namespace Tablewright.Entity

/-- No name is repeated if none is found. -/
theorem firstRepeated?_eq_none_iff {seen names : List String} :
    firstRepeated? seen names = none ↔ names.Nodup ∧ ∀ name ∈ names, name ∉ seen := by
  induction names generalizing seen with
  | nil => simp [firstRepeated?]
  | cons name names ih =>
    rw [firstRepeated?]
    split
    · next repeated =>
      rw [List.contains_iff_mem] at repeated
      simp [repeated]
    · next fresh =>
      rw [List.contains_iff_mem] at fresh
      rw [ih, List.nodup_cons, List.forall_mem_cons]
      constructor
      · rintro ⟨distinct, apart⟩
        have not_later : name ∉ names := fun member => apart name member List.mem_cons_self
        exact ⟨⟨not_later, distinct⟩, fresh,
          fun other member seen_other => apart other member (List.mem_cons_of_mem _ seen_other)⟩
      · rintro ⟨⟨not_later, distinct⟩, -, apart⟩
        refine ⟨distinct, fun other member => ?_⟩
        rw [List.mem_cons, not_or]
        refine ⟨?_, apart other member⟩
        rintro rfl
        exact not_later member

variable {entity : Entity}

theorem eq_of_ofDecl
    {decl : RecordDecl}
    (accepted : ofDecl decl = .ok entity) :
    entity = ofFields decl.name (decl.fields.map Field.ofDecl) decl.package := by
  unfold ofDecl at accepted
  dsimp only at accepted
  split at accepted
  · cases accepted
  · exact (Except.ok.inj accepted).symm

/-- An accepted record is a valid entity. -/
theorem valid_of_ofDecl
    {decl : RecordDecl}
    (accepted : ofDecl decl = .ok entity) :
    entity.defect? = none := by
  rw [eq_of_ofDecl accepted]
  unfold ofDecl at accepted
  dsimp only at accepted
  split at accepted
  · cases accepted
  · assumption

/-- Fields of a valid entity have names of their own. -/
theorem nodup_names_of_valid (valid : entity.defect? = none) :
    (entity.fields.map (·.name)).Nodup := by
  rw [defect?] at valid
  split_ifs at valid
  split at valid
  · cases valid
  · next none_repeated => exact (firstRepeated?_eq_none_iff.mp none_repeated).1

theorem nodup_stored_names_of_valid (valid : entity.defect? = none) :
    (entity.stored.map (·.name)).Nodup :=
  (List.filter_sublist.map _).nodup (nodup_names_of_valid valid)

/-- No field of a valid entity is stored twice. -/
theorem nodup_stored_of_valid (valid : entity.defect? = none) : entity.stored.Nodup :=
  (nodup_stored_names_of_valid valid).of_map _

end Tablewright.Entity
