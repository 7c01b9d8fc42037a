import Mathlib.Tactic.Choose
import Tablewright.Proofs.Batch.Account
import Tablewright.Proofs.Entity.Group

/-!
# The order of records

Contracts and foreign keys are resolved by searching the entities of a batch in order.  Where no two
entities share a name or a table, the searches find the same in any order, so each record and each
contract comes to the same wherever the records stand.
-/

namespace Tablewright

/-! ## Searches -/

/-- With distinct values of a function, an element is found by its value in any order. -/
theorem find?_eq_of_perm
    {α β : Type}
    [DecidableEq β]
    {value : α → β}
    {elements others : List α}
    (distinct : (elements.map value).Nodup)
    (perm : elements.Perm others)
    (wanted : β) :
    elements.find? (value · = wanted) = others.find? (value · = wanted) := by
  have others_distinct : (others.map value).Nodup := (perm.map value).nodup_iff.mp distinct
  apply Option.ext
  intro element
  rw [find?_eq_some_iff_of_nodup distinct, find?_eq_some_iff_of_nodup others_distinct,
    perm.mem_iff]

section

variable {entities others : List Entity} (perm : entities.Perm others)
include perm

/-- A contract is resolved in the same way. -/
theorem Contract.resolve_eq_of_perm
    (names : (entities.map (·.name)).Nodup)
    (decl : ContractDecl) :
    resolve entities decl = resolve others decl := by
  rw [resolve, resolve, find?_eq_of_perm names perm]

namespace Relations

variable (tables : (entities.map (·.bareTable)).Nodup)
include tables

/-- A link leads to the same entity. -/
theorem target?_eq_of_perm (link : Link) : target? entities link = target? others link :=
  find?_eq_of_perm tables perm link.table

theorem resolved_eq_of_perm (entity : Entity) :
    resolved entity entities = resolved entity others := by
  rw [resolved, resolved]
  apply List.filterMap_congr
  intro link _
  rw [target?_eq_of_perm perm tables]

/-- An entity has the same relations. -/
theorem ofEntity_eq_of_perm (entity : Entity) :
    ofEntity entity entities = ofEntity entity others := by
  rw [ofEntity, ofEntity, resolved_eq_of_perm perm tables]

end Relations

/-! ## Results -/

namespace Generator

variable {generator : Generator}

theorem JoinsTo.of_perm
    (tables : (entities.map (·.bareTable)).Nodup)
    {entity : Entity}
    {joins : JoinResult}
    (joined : generator.JoinsTo entities entity joins) :
    generator.JoinsTo others entity joins := by
  have same := Relations.ofEntity_eq_of_perm perm tables entity
  cases joined with
  | absent nothing => exact .absent (same.symm.trans nothing)
  | generated joined generated => exact .generated (same.symm.trans joined) generated
  | rejected refused => exact .rejected (same.symm.trans refused)

/-- A record comes to the same. -/
theorem RecordComesTo.of_perm
    (tables : (entities.map (·.bareTable)).Nodup)
    {decl : RecordDecl}
    {result : RecordResult}
    (comes : generator.RecordComesTo entities decl result) :
    generator.RecordComesTo others decl result := by
  cases comes with
  | accepted accepted joined => exact .accepted accepted (joined.of_perm perm tables)
  | rejected refused => exact .rejected refused

/-- A contract comes to the same. -/
theorem ContractComesTo.of_perm
    (names : (entities.map (·.name)).Nodup)
    {decl : ContractDecl}
    {result : ContractResult}
    (comes : generator.ContractComesTo entities decl result) :
    generator.ContractComesTo others decl result := by
  have same := Contract.resolve_eq_of_perm perm names decl
  cases comes with
  | generated resolved generated => exact .generated (same.symm.trans resolved) generated
  | rejected refused => exact .rejected (same.symm.trans refused)

end Generator

end

/-! ## Runs -/

namespace Generator

variable {generator : Generator} {batch : Batch}

/-- Accounts stay right when records are permuted together with their results. -/
theorem accounts_of_perm
    (names : (batch.entities.map (·.name)).Nodup)
    (tables : (batch.entities.map (·.bareTable)).Nodup)
    {share : RecordDecl → RecordResult}
    {contracts : List ContractResult}
    (shared : ∀ decl ∈ batch.records, generator.RecordComesTo batch.entities decl (share decl))
    (contracts_held :
      List.Forall₂ (generator.ContractComesTo batch.entities) batch.contracts contracts)
    {records : List RecordDecl}
    (perm : records.Perm batch.records) :
    generator.Accounts { batch with records } ⟨records.map share, contracts⟩ := by
  have entities_perm : batch.entities.Perm (Batch.entities { batch with records }) :=
    perm.symm.filterMap _
  constructor
  · rw [List.forall₂_map_right_iff, List.forall₂_same]
    intro decl member
    exact (shared decl (perm.mem_iff.mp member)).of_perm entities_perm tables
  · exact contracts_held.imp fun _ _ comes => comes.of_perm entities_perm names

/-- Where no two entities share a name or a table, each record has its share of the output wherever
it stands among the records, and contracts come to the same in any case. -/
theorem run_eq_of_perm
    {output : Output}
    (done : generator.run batch = .ok output)
    (names : (batch.entities.map (·.name)).Nodup)
    (tables : (batch.entities.map (·.bareTable)).Nodup) :
    ∃ (share : RecordDecl → RecordResult) (contracts : List ContractResult),
      (∀ decl ∈ batch.records, generator.RecordComesTo batch.entities decl (share decl)) ∧
      List.Forall₂ (generator.ContractComesTo batch.entities) batch.contracts contracts ∧
      output = Account.output ⟨batch.records.map share, contracts⟩ ∧
      ∀ records, records.Perm batch.records →
        generator.run { batch with records } =
          .ok (Account.output ⟨records.map share, contracts⟩) := by
  obtain ⟨⟨results, contracts⟩, ⟨records_held, contracts_held⟩, -⟩ := run_eq_ok_iff.mp done
  have each : ∀ decl ∈ batch.records, ∃ result,
      generator.RecordComesTo batch.entities decl result := by
    intro decl member
    obtain ⟨before, after, split⟩ := List.append_of_mem member
    rw [split] at records_held
    obtain ⟨_, result, _, _, _, comes, _⟩ := forall₂_append_cons records_held
    exact ⟨result, comes⟩
  choose! share shared using each
  have permuted (records : List RecordDecl) (perm : records.Perm batch.records) :
      generator.run { batch with records } = .ok (Account.output ⟨records.map share, contracts⟩) :=
    run_eq_ok_iff.mpr ⟨_, accounts_of_perm names tables shared contracts_held perm, rfl⟩
  have unmoved := permuted batch.records (List.Perm.refl _)
  exact ⟨share, contracts, shared, contracts_held, Except.ok.inj (done.symm.trans unmoved),
    permuted⟩

/-- Visits in reverse have the same blocks and join queries, in reverse. -/
theorem run_eq_of_perm_visits :
    (visits.entities.map (·.name)).Nodup ∧ (visits.entities.map (·.bareTable)).Nodup ∧
      ∃ generator, ofConfig {} = .ok generator ∧
        ∃ (share : RecordDecl → RecordResult) (contracts : List ContractResult),
          (∀ decl ∈ visits.records, generator.RecordComesTo visits.entities decl (share decl)) ∧
          List.Forall₂ (generator.ContractComesTo visits.entities) visits.contracts contracts ∧
          generator.run visits = .ok (Account.output ⟨visits.records.map share, contracts⟩) ∧
          generator.run { visits with records := visits.records.reverse } =
            .ok (Account.output ⟨visits.records.reverse.map share, contracts⟩) := by
  have names : (visits.entities.map (·.name)).Nodup := by decide +kernel
  have tables : (visits.entities.map (·.bareTable)).Nodup := by decide +kernel
  obtain ⟨generator, configured, output, done, -⟩ := exists_run_visits
  obtain ⟨share, contracts, shared, contracts_held, rfl, permuted⟩ :=
    run_eq_of_perm done names tables
  exact ⟨names, tables, generator, configured, share, contracts, shared, contracts_held, done,
    permuted _ (List.reverse_perm _)⟩

end Generator

end Tablewright
