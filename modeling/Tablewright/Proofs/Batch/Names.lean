import Tablewright.Batch.Generator
import Tablewright.Proofs.Entity.Valid
import Tablewright.Proofs.Relation.Names
import Tablewright.Proofs.Tag.Normal

/-!
# Names of batches

What a batch declares is named with letters, digits and underscores if its records, fields,
contracts, methods and parameters are, and the labels of composite keys in its tags.  Nothing that
is accepted from such a batch has any other names.
-/

namespace Tablewright

open Text (Alnum)

/-! ## Labels -/

/-- The label of the composite key that a token states, if it states one. -/
def Tag.Token.label? : Tag.Token → Option String
  | .foreignKey key => key.group
  | _ => none

/-- Labels of the composite keys that a tag states. -/
def Tag.labels (tag : String) : List String :=
  (Tag.read tag).filterMap Tag.Token.label?

/-- A group is the label of a key among the tokens of its constraint. -/
theorem Constraint.exists_key_of_grouped
    {column label : String}
    {constraint : Constraint}
    (normal : IsNormal column constraint)
    (grouped : constraint.foreignKeyGroup = some label) :
    ∃ key, .foreignKey key ∈ constraint.tokens ∧ key.group = some label := by
  cases reference_eq : constraint.reference with
  | none =>
    rw [(normal.noReference reference_eq).1] at grouped
    cases grouped
  | some reference =>
    let key : ForeignKey := ⟨constraint.foreignKeyGroup, reference.table, reference.column,
      constraint.onDelete, constraint.onUpdate⟩
    have has : constraint.Has (.foreignKey key) := ⟨reference, reference_eq, rfl⟩
    exact ⟨key, mem_tokens_iff.mpr has, grouped⟩

/-- The group of a field is one of the labels in its tag. -/
theorem Constraint.mem_labels_of_ofTag
    {tag column label : String}
    (grouped : (ofTag tag column).foreignKeyGroup = some label) :
    label ∈ Tag.labels tag := by
  obtain ⟨key, member, labeled⟩ :=
    exists_key_of_grouped (isNormal_ofTokens column (Tag.read tag)) grouped
  have read := tokens_ofTokens_subset column (Tag.read tag) member
  exact List.mem_filterMap.mpr ⟨.foreignKey key, read, labeled⟩

/-! ## Declarations -/

/-- The names of a record, its fields and the labels in their tags are made of letters, digits and
underscores. -/
structure RecordDecl.IsAlnum (decl : RecordDecl) : Prop where
  /-- The name of the record. -/
  name : Alnum decl.name.toList
  /-- The names of the fields. -/
  fields : ∀ field ∈ decl.fields, Alnum field.name.toList
  /-- The labels. -/
  labels : ∀ field ∈ decl.fields, ∀ label ∈ Tag.labels field.tag, Alnum label.toList

/-- The names of a contract, its methods and their parameters are made of letters, digits and
underscores. -/
structure ContractDecl.IsAlnum (decl : ContractDecl) : Prop where
  /-- The name of the contract. -/
  name : Alnum decl.name.toList
  /-- The names of the methods. -/
  methods : ∀ method ∈ decl.methods, Alnum method.name.toList
  /-- The names of the parameters. -/
  params : ∀ method ∈ decl.methods, ∀ param ∈ method.params, Alnum param.name.toList

/-- All records and contracts of a batch have names of letters, digits and underscores. -/
structure Batch.IsAlnum (batch : Batch) : Prop where
  /-- The records. -/
  records : ∀ decl ∈ batch.records, decl.IsAlnum
  /-- The contracts. -/
  contracts : ∀ decl ∈ batch.contracts, decl.IsAlnum

instance (decl : RecordDecl) : Decidable decl.IsAlnum :=
  decidable_of_iff
    (Alnum decl.name.toList ∧ (∀ field ∈ decl.fields, Alnum field.name.toList) ∧
      ∀ field ∈ decl.fields, ∀ label ∈ Tag.labels field.tag, Alnum label.toList)
    ⟨fun ⟨name, fields, labels⟩ => ⟨name, fields, labels⟩,
      fun alnum => ⟨alnum.name, alnum.fields, alnum.labels⟩⟩

instance (decl : ContractDecl) : Decidable decl.IsAlnum :=
  decidable_of_iff
    (Alnum decl.name.toList ∧ (∀ method ∈ decl.methods, Alnum method.name.toList) ∧
      ∀ method ∈ decl.methods, ∀ param ∈ method.params, Alnum param.name.toList)
    ⟨fun ⟨name, methods, params⟩ => ⟨name, methods, params⟩,
      fun alnum => ⟨alnum.name, alnum.methods, alnum.params⟩⟩

instance (batch : Batch) : Decidable batch.IsAlnum :=
  decidable_of_iff
    ((∀ decl ∈ batch.records, decl.IsAlnum) ∧ ∀ decl ∈ batch.contracts, decl.IsAlnum)
    ⟨fun ⟨records, contracts⟩ => ⟨records, contracts⟩,
      fun alnum => ⟨alnum.records, alnum.contracts⟩⟩

theorem RecordDecl.IsAlnum.entity
    {decl : RecordDecl}
    {entity : Entity}
    (alnum : decl.IsAlnum)
    (accepted : Entity.ofDecl decl = .ok entity) :
    entity.IsAlnum := by
  have stored_declared : ∀ field ∈ entity.stored, ∃ declared ∈ decl.fields,
      Field.ofDecl declared = field := by
    intro field stored
    rw [Entity.eq_of_ofDecl accepted] at stored
    exact List.mem_map.mp (List.mem_of_mem_filter stored)
  refine ⟨?_, ?_, ?_⟩
  · rw [Entity.eq_of_ofDecl accepted]
    exact alnum.name
  · intro field stored
    obtain ⟨declared, found, rfl⟩ := stored_declared field stored
    exact alnum.fields declared found
  · intro field stored label grouped
    obtain ⟨declared, found, rfl⟩ := stored_declared field stored
    have read : (Constraint.ofTag declared.tag (Text.snakeCase declared.name)).foreignKeyGroup =
      some label := grouped
    exact alnum.labels declared found label (Constraint.mem_labels_of_ofTag read)

theorem Entity.IsAlnum.names
    {entity : Entity}
    (alnum : entity.IsAlnum) :
    ∀ name ∈ entity.name :: entity.stored.map (·.name), Alnum name.toList :=
  List.forall_mem_cons.mpr ⟨alnum.name, List.forall_mem_map.mpr alnum.fields⟩

/-! ## What is accepted -/

namespace Batch

variable {batch : Batch}

theorem exists_of_mem_entities
    {entity : Entity}
    (member : entity ∈ batch.entities) :
    ∃ decl ∈ batch.records, Entity.ofDecl decl = .ok entity := by
  obtain ⟨decl, found, accepted⟩ := List.mem_filterMap.mp member
  exact ⟨decl, found, toOption_eq_some_iff.mp accepted⟩

theorem exists_of_mem_resolved
    {entity : Entity}
    {contract : Contract}
    (member : (entity, contract) ∈ batch.resolved) :
    entity ∈ batch.entities ∧
      ∃ decl ∈ batch.contracts, Contract.ofDecl entity decl = .ok contract := by
  obtain ⟨decl, found, resolved⟩ := List.mem_filterMap.mp member
  have accepted := toOption_eq_some_iff.mp resolved
  unfold Contract.resolve at accepted
  split at accepted
  · cases accepted
  · next served served_eq =>
    obtain ⟨_, contract_ok, same⟩ := map_eq_ok_iff.mp accepted
    obtain ⟨rfl, rfl⟩ := Prod.mk.inj same
    exact ⟨List.mem_of_find?_eq_some served_eq, decl, found, contract_ok⟩

theorem exists_of_mem_relations
    {relations : Relations}
    (member : relations ∈ batch.relations) :
    ∃ entity ∈ batch.entities,
      Relations.ofEntity entity batch.entities = .ok (some relations) := by
  obtain ⟨entity, found, joined⟩ := List.mem_filterMap.mp member
  obtain ⟨_, made, rfl⟩ := Option.bind_eq_some_iff.mp joined
  exact ⟨entity, found, toOption_eq_some_iff.mp made⟩

namespace IsAlnum

variable (alnum : batch.IsAlnum)
include alnum

theorem entity
    {entity : Entity}
    (member : entity ∈ batch.entities) :
    entity.IsAlnum := by
  obtain ⟨decl, found, accepted⟩ := exists_of_mem_entities member
  exact (alnum.records decl found).entity accepted

/-- The names checked for a contract of the batch. -/
theorem checkedNames
    {entity : Entity}
    {contract : Contract}
    (member : (entity, contract) ∈ batch.resolved) :
    ∀ name ∈ contract.checkedNames entity, Alnum name.toList := by
  obtain ⟨entity_found, decl, found, accepted⟩ := exists_of_mem_resolved member
  have declared := alnum.contracts decl found
  exact Contract.alnum_of_mem_checkedNames accepted (alnum.entity entity_found).names declared.name
    fun method method_found => ⟨declared.methods method method_found,
      declared.params method method_found⟩

/-- The names checked for relations of the batch. -/
theorem relationNames
    {relations : Relations}
    (member : relations ∈ batch.relations) :
    ∀ name ∈ relations.names, Alnum name.toList := by
  obtain ⟨entity, found, made⟩ := exists_of_mem_relations member
  exact Relations.alnum_of_mem_names made (alnum.entity found) fun other member =>
    alnum.entity member

end IsAlnum

end Batch

end Tablewright
