import Tablewright.Proofs.Entity.Outline
import Tablewright.Repository.Implementation

/-!
# Repositories of outlines

A contract is accepted for an entity as it is for its outline, and its implementation is the same.
-/

namespace Tablewright

open Entity (columns_outline table_outline keyColumns_outline updatable_outline)

/-! ## Contracts -/

namespace Convention

theorem ofName?_outline (entity : Entity) :
    ofName? entity.outline = ofName? entity := by
  have known : knownFields? entity.outline = knownFields? entity := by
    funext cs
    rw [knownFields?, knownFields?, columns_outline]
  funext name
  rw [ofName?, ofName?, known]

theorem derivedSql?_outline
    (convention : Convention)
    (entity : Entity) :
    convention.derivedSql? entity.outline = convention.derivedSql? entity := by
  cases convention with
  | query found => rw [derivedSql?, derivedSql?, table_outline, columns_outline]
  | _ => rfl

theorem expectedParams_outline
    (convention : Convention)
    (entity : Entity) :
    convention.expectedParams entity.outline = convention.expectedParams entity := by
  cases convention with
  | getById => rw [expectedParams, expectedParams, keyColumns_outline]
  | delete => rw [expectedParams, expectedParams, keyColumns_outline]
  | _ => rfl

theorem accepts_outline
    (convention : Convention)
    (entity : Entity)
    (count : Nat) :
    convention.accepts entity.outline count = convention.accepts entity count := by
  rw [accepts, accepts, expectedParams_outline]

end Convention

theorem Method.ofDecl_outline (entity : Entity) : ofDecl entity.outline = ofDecl entity := by
  have checked : ofChecked entity.outline = ofChecked entity := by
    funext decl name params scalarReturn
    simp only [ofChecked, Convention.ofName?_outline, Convention.derivedSql?_outline,
      Convention.expectedParams_outline, Convention.accepts_outline, updatable_outline,
      Entity.name_outline]
  funext decl
  rw [ofDecl, ofDecl, checked]

/-- A contract for an entity is the contract for its outline. -/
theorem Contract.ofDecl_outline (entity : Entity) : ofDecl entity.outline = ofDecl entity := by
  funext decl
  rw [ofDecl, ofDecl, Method.ofDecl_outline, Entity.name_outline, Entity.stored_outline]

/-! ## Implementations -/

namespace Repository

open Code (Identifier)

theorem implementation?_outline (entity : Entity) :
    implementation? entity.outline = implementation? entity := by
  funext name method
  simp only [implementation?, insertion, change, lookup, removal, listing, search, insertedFields,
    returning, columns_outline, table_outline, keyColumns_outline, updatable_outline,
    Entity.stored_outline, Entity.identity?_outline, Entity.keyFields_outline]

/-- A contract has the same source for an entity and for its outline. -/
theorem source_outline
    (settings : RepositorySettings)
    (entity : Entity) :
    source settings entity.outline = source settings entity := by
  funext contract
  rw [source, source, Implementation.ofContract, Implementation.ofContract,
    implementation?_outline, Entity.name_outline]

end Repository

end Tablewright
