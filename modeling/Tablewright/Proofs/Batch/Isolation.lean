import Tablewright.Proofs.Batch.Account

/-!
# Failures are isolated

A rejected record or contract has no part in what becomes of the rest of its batch.  Without it, the
output lacks its failure and nothing else.
-/

namespace Tablewright

/-- An output lacks one failure of another, which stands after some earlier ones, and nothing
else. -/
structure Output.Lacks
    (rest output : Output)
    (earlier : List Failure)
    (failure : Failure) : Prop where
  /-- The tables are the same. -/
  schema : rest.schema = output.schema
  /-- The implementations of contracts are the same. -/
  repositories : rest.repositories = output.repositories
  /-- The join queries are the same. -/
  relations : rest.relations = output.relations
  /-- All other failures are the same, in the same order. -/
  failures : ∃ later,
    output.failures = earlier ++ failure :: later ∧ rest.failures = earlier ++ later

/-- A batch is the rest of another without one record or contract that is rejected with a failure,
after some earlier ones. -/
inductive Batch.Rejects
    (batch : Batch) : Batch → List Failure → Failure → Prop where
  | record
      {before after : List RecordDecl}
      {decl : RecordDecl}
      {defect : Entity.Defect}
      (stands : batch.records = before ++ decl :: after)
      (refused : Entity.ofDecl decl = .error defect) :
      Rejects batch { batch with records := before ++ after }
        (before.filterMap Failure.ofRecord?)
        { subject := .record decl.name, cause := .entity defect }
  | contract
      {before after : List ContractDecl}
      {decl : ContractDecl}
      {defect : Contract.Defect}
      (stands : batch.contracts = before ++ decl :: after)
      (refused : Contract.resolve batch.entities decl = .error defect) :
      Rejects batch { batch with contracts := before ++ after }
        (batch.records.filterMap Failure.ofRecord? ++
          before.filterMap (Failure.ofContract? batch.entities))
        { subject := .contract decl.name, cause := .contract defect }

/-- A result has a defect exactly if it is an error. -/
theorem Failure.defect?_eq_some_iff
    {ε α : Type}
    {result : Except ε α}
    {defect : ε} :
    defect? result = some defect ↔ result = .error defect := by
  cases result <;> simp [defect?]

namespace Generator

variable {generator : Generator} {entities : List Entity} {batch : Batch}

/-! ## Rejected items -/

theorem RecordComesTo.eq_rejected
    {decl : RecordDecl}
    {result : RecordResult}
    {defect : Entity.Defect}
    (comes : generator.RecordComesTo entities decl result)
    (refused : Entity.ofDecl decl = .error defect) :
    result = .rejected { subject := .record decl.name, cause := .entity defect } := by
  cases comes with
  | accepted accepted _ =>
    rw [refused] at accepted
    cases accepted
  | rejected refused' =>
    cases refused.symm.trans refused'
    rfl

theorem ContractComesTo.eq_rejected
    {decl : ContractDecl}
    {result : ContractResult}
    {defect : Contract.Defect}
    (comes : generator.ContractComesTo entities decl result)
    (refused : Contract.resolve entities decl = .error defect) :
    result = .rejected { subject := .contract decl.name, cause := .contract defect } := by
  cases comes with
  | generated resolved _ =>
    rw [refused] at resolved
    cases resolved
  | rejected refused' =>
    cases refused.symm.trans refused'
    rfl

/-- A record that is rejected is no entity, so the entities of a batch do not need it. -/
theorem entities_eq_of_refused
    {before after : List RecordDecl}
    {decl : RecordDecl}
    {defect : Entity.Defect}
    (stands : batch.records = before ++ decl :: after)
    (refused : Entity.ofDecl decl = .error defect) :
    Batch.entities { batch with records := before ++ after } = batch.entities := by
  have none_accepted : (Entity.ofDecl decl).toOption = none := by
    rw [refused]
    rfl
  rw [Batch.entities, Batch.entities, stands, List.filterMap_append, List.filterMap_append,
    List.filterMap_cons, none_accepted]

/-! ## Outputs -/

theorem lacks_of_record
    (first last : List RecordResult)
    (contracts : List ContractResult)
    (failure : Failure) :
    (Account.output ⟨first ++ last, contracts⟩).Lacks
      (Account.output ⟨first ++ .rejected failure :: last, contracts⟩)
      (first.filterMap (·.failure?)) failure where
  schema := by
    simp only [Account.output, List.filterMap_append, List.filterMap_cons, RecordResult.block?]
  repositories := rfl
  relations := by
    simp only [Account.output, List.filterMap_append, List.filterMap_cons, RecordResult.joinCode?]
  failures := by
    refine ⟨last.filterMap (·.failure?) ++ contracts.filterMap (·.failure?) ++
      (first ++ last).filterMap (·.joinFailure?), ?_, ?_⟩
    · simp only [Account.output, List.filterMap_append, List.filterMap_cons, RecordResult.failure?,
        RecordResult.joinFailure?, List.append_assoc, List.cons_append]
    · simp only [Account.output, List.filterMap_append, List.append_assoc]

theorem lacks_of_contract
    (records : List RecordResult)
    (first last : List ContractResult)
    (failure : Failure) :
    (Account.output ⟨records, first ++ last⟩).Lacks
      (Account.output ⟨records, first ++ .rejected failure :: last⟩)
      (records.filterMap (·.failure?) ++ first.filterMap (·.failure?)) failure where
  schema := rfl
  repositories := by
    simp only [Account.output, List.filterMap_append, List.filterMap_cons, ContractResult.code?]
  relations := rfl
  failures := by
    refine ⟨last.filterMap (·.failure?) ++ records.filterMap (·.joinFailure?), ?_, ?_⟩
    · simp only [Account.output, List.filterMap_append, List.filterMap_cons,
        ContractResult.failure?, List.append_assoc, List.cons_append]
    · simp only [Account.output, List.filterMap_append, List.append_assoc]

/-- Without a record or a contract that is rejected, a batch still has an output, and the output
lacks the failure of the rejected item and nothing else. -/
theorem lacks_of_rejects
    {rest : Batch}
    {earlier : List Failure}
    {failure : Failure}
    {output : Output}
    (done : generator.run batch = .ok output)
    (rejects : batch.Rejects rest earlier failure) :
    ∃ other, generator.run rest = .ok other ∧ other.Lacks output earlier failure := by
  obtain ⟨⟨records, contracts⟩, ⟨records_held, contracts_held⟩, rfl⟩ := run_eq_ok_iff.mp done
  cases rejects with
  | record stands refused =>
    have same := entities_eq_of_refused stands refused
    rw [stands] at records_held
    obtain ⟨first, result, last, rfl, first_held, comes, last_held⟩ :=
      forall₂_append_cons records_held
    obtain rfl := comes.eq_rejected refused
    have shown := filterMap_eq_of_forall₂ (fun _ _ comes => comes.failure?) first_held
    rw [shown]
    refine ⟨_, run_eq_ok_iff.mpr ⟨⟨first ++ last, contracts⟩, ⟨?_, ?_⟩, rfl⟩,
      lacks_of_record first last contracts _⟩
    · rw [same]
      exact List.rel_append first_held last_held
    · rw [same]
      exact contracts_held
  | contract stands refused =>
    rw [stands] at contracts_held
    obtain ⟨first, result, last, rfl, first_held, comes, last_held⟩ :=
      forall₂_append_cons contracts_held
    obtain rfl := comes.eq_rejected refused
    have shown := filterMap_eq_of_forall₂ (fun _ _ comes => comes.failure?) first_held
    have records_shown := filterMap_eq_of_forall₂ (fun _ _ comes => comes.failure?) records_held
    rw [shown, records_shown]
    refine ⟨_, run_eq_ok_iff.mpr ⟨⟨records, first ++ last⟩, ⟨records_held, ?_⟩, rfl⟩,
      lacks_of_contract records first last _⟩
    exact List.rel_append first_held last_held

/-- The record of ghosts and a contract of tags are rejected; either can go. -/
theorem lacks_of_rejects_visits :
    ∃ generator, ofConfig {} = .ok generator ∧
      ∃ output, generator.run visits = .ok output ∧
        (∃ other,
          generator.run { visits with records := [tagRecord, visitRecord, stayRecord] } =
            .ok other ∧
          other.Lacks output [] ⟨.record "Ghost", .entity (.noFields "Ghost")⟩) ∧
        ∃ other,
          generator.run { visits with contracts := [ghostRepository, tagStore] } = .ok other ∧
          other.Lacks output
            [⟨.record "Ghost", .entity (.noFields "Ghost")⟩,
              ⟨.contract "GhostRepository", .contract (.unknownEntity "GhostRepository" "Ghost")⟩]
            ⟨.contract "TagRepository", .contract (.unresolvedMethod "Frobnicate")⟩ := by
  obtain ⟨generator, configured, output, done, -⟩ := exists_run_visits
  have ghost_stands :
      visits.records = [tagRecord] ++ ghostRecord :: [visitRecord, stayRecord] := rfl
  have ghost_refused : Entity.ofDecl ghostRecord = .error (.noFields "Ghost") :=
    Failure.defect?_eq_some_iff.mp (by decide +kernel)
  have tags_stand : visits.contracts = [ghostRepository] ++ tagRepository :: [tagStore] := rfl
  have tags_refused :
      Contract.resolve visits.entities tagRepository = .error (.unresolvedMethod "Frobnicate") :=
    Failure.defect?_eq_some_iff.mp (by decide +kernel)
  have earlier : visits.records.filterMap Failure.ofRecord? ++
      [ghostRepository].filterMap (Failure.ofContract? visits.entities) =
        [⟨.record "Ghost", .entity (.noFields "Ghost")⟩,
          ⟨.contract "GhostRepository", .contract (.unknownEntity "GhostRepository" "Ghost")⟩] := by
    decide +kernel
  have without_ghost := lacks_of_rejects done (.record ghost_stands ghost_refused)
  have without_tags := lacks_of_rejects done (.contract tags_stand tags_refused)
  rw [earlier] at without_tags
  exact ⟨generator, configured, output, done, without_ghost, without_tags⟩

end Generator

end Tablewright
