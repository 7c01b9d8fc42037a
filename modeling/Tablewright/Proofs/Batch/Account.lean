import Tablewright.Batch.Generator
import Tablewright.Proofs.Contract.Acceptance

/-!
# Accounts of runs

An account says of every record and of every contract of a batch what comes of it.  A run has an
output exactly if there is an account, and the output is the one that the account adds up to.
-/

namespace Tablewright

/-! ## Results of a batch -/

/-- What comes of the links of an accepted record. -/
inductive JoinResult where
  /-- There is nothing to join. -/
  | absent
  /-- Join queries. -/
  | generated (code : RelationCode)
  /-- Join queries that are rejected. -/
  | rejected (failure : Failure)
  deriving DecidableEq, Repr, Inhabited

/-- What comes of a record. -/
inductive RecordResult where
  /-- Definitions of its table, and what comes of its links. -/
  | accepted (block : String) (joins : JoinResult)
  /-- The record is rejected. -/
  | rejected (failure : Failure)
  deriving DecidableEq, Repr, Inhabited

/-- What comes of a contract. -/
inductive ContractResult where
  /-- An implementation. -/
  | generated (code : RepositoryCode)
  /-- The contract is rejected. -/
  | rejected (failure : Failure)
  deriving DecidableEq, Repr

/-- Join queries, if there are any. -/
def JoinResult.code? : JoinResult → Option RelationCode
  | generated code => some code
  | absent | rejected _ => none

/-- The failure of join queries, if they are rejected. -/
def JoinResult.failure? : JoinResult → Option Failure
  | rejected failure => some failure
  | absent | generated _ => none

namespace RecordResult

/-- Definitions of the table, if the record is accepted. -/
def block? : RecordResult → Option String
  | accepted block _ => some block
  | rejected _ => none

/-- The failure of the record, if it is rejected. -/
def failure? : RecordResult → Option Failure
  | accepted _ _ => none
  | rejected failure => some failure

/-- Join queries, if the record is accepted and has some. -/
def joinCode? : RecordResult → Option RelationCode
  | accepted _ joins => joins.code?
  | rejected _ => none

/-- The failure of join queries, if the record is accepted and they are rejected. -/
def joinFailure? : RecordResult → Option Failure
  | accepted _ joins => joins.failure?
  | rejected _ => none

end RecordResult

/-- The implementation of a contract, if it is accepted. -/
def ContractResult.code? : ContractResult → Option RepositoryCode
  | generated code => some code
  | rejected _ => none

/-- The failure of a contract, if it is rejected. -/
def ContractResult.failure? : ContractResult → Option Failure
  | generated _ => none
  | rejected failure => some failure

/-- What comes of each record and each contract of a batch, in order. -/
structure Account where
  /-- What comes of the records. -/
  records : List RecordResult
  /-- What comes of the contracts. -/
  contracts : List ContractResult
  deriving DecidableEq, Repr

/-- The output that an account adds up to.  Each part keeps the order of the batch; failures of
records come first, those of contracts next, and those of join queries last. -/
def Account.output (account : Account) : Output :=
  { schema := String.join (account.records.filterMap (·.block?))
    repositories := account.contracts.filterMap (·.code?)
    relations := account.records.filterMap (·.joinCode?)
    failures := account.records.filterMap (·.failure?) ++
      account.contracts.filterMap (·.failure?) ++ account.records.filterMap (·.joinFailure?) }

/-! ## What items come to -/

namespace Generator

section

variable (generator : Generator) (entities : List Entity)

/-- What comes of the links of an entity within a batch. -/
inductive JoinsTo (entity : Entity) : JoinResult → Prop where
  | absent
      (nothing : Relations.ofEntity entity entities = .ok none) :
      JoinsTo entity .absent
  | generated
      {relations : Relations}
      {code : RelationCode}
      (joined : Relations.ofEntity entity entities = .ok (some relations))
      (generated : generator.relationCode relations = .ok code) :
      JoinsTo entity (.generated code)
  | rejected
      {defect : Contract.Defect}
      (refused : Relations.ofEntity entity entities = .error defect) :
      JoinsTo entity (.rejected { subject := .relations entity.name, cause := .contract defect })

/-- What comes of a record within a batch. -/
inductive RecordComesTo (decl : RecordDecl) : RecordResult → Prop where
  | accepted
      {entity : Entity}
      {joins : JoinResult}
      (accepted : Entity.ofDecl decl = .ok entity)
      (joined : JoinsTo generator entities entity joins) :
      RecordComesTo decl (.accepted (Schema.block generator.schema entity) joins)
  | rejected
      {defect : Entity.Defect}
      (refused : Entity.ofDecl decl = .error defect) :
      RecordComesTo decl (.rejected { subject := .record decl.name, cause := .entity defect })

/-- What comes of a contract within a batch. -/
inductive ContractComesTo (decl : ContractDecl) : ContractResult → Prop where
  | generated
      {entity : Entity}
      {contract : Contract}
      {code : RepositoryCode}
      (resolved : Contract.resolve entities decl = .ok (entity, contract))
      (generated : generator.repositoryCode entity contract = .ok code) :
      ContractComesTo decl (.generated code)
  | rejected
      {defect : Contract.Defect}
      (refused : Contract.resolve entities decl = .error defect) :
      ContractComesTo decl (.rejected { subject := .contract decl.name, cause := .contract defect })

end

/-- An account of a batch: every item comes to what the account says. -/
structure Accounts
    (generator : Generator)
    (batch : Batch)
    (account : Account) : Prop where
  /-- The account is right about the records. -/
  records : List.Forall₂ (generator.RecordComesTo batch.entities) batch.records account.records
  /-- The account is right about the contracts. -/
  contracts :
    List.Forall₂ (generator.ContractComesTo batch.entities) batch.contracts account.contracts

end Generator

/-! ## Traversals -/

section

variable {ε α β γ ρ : Type} {comesTo : α → ρ → Prop}

/-- What values show is what they come to shows. -/
theorem filterMap_eq_of_forall₂
    {shown : α → Option γ}
    {seen : ρ → Option γ}
    (same : ∀ value result, comesTo value result → shown value = seen result)
    {values : List α}
    {results : List ρ}
    (each : List.Forall₂ comesTo values results) :
    values.filterMap shown = results.filterMap seen := by
  induction each with
  | nil => rfl
  | cons first _ ih => rw [List.filterMap_cons, List.filterMap_cons, same _ _ first, ih]

/-- One of the values comes to one of the results, those before it to those before, and those after
it to those after. -/
theorem forall₂_append_cons
    {before after : List α}
    {value : α}
    {results : List ρ}
    (each : List.Forall₂ comesTo (before ++ value :: after) results) :
    ∃ first result last, results = first ++ result :: last ∧ List.Forall₂ comesTo before first ∧
      comesTo value result ∧ List.Forall₂ comesTo after last := by
  induction before generalizing results with
  | nil =>
    cases each with
    | cons single later => exact ⟨[], _, _, rfl, .nil, single, later⟩
  | cons other before ih =>
    cases each with
    | @cons _ shown _ results head tail =>
      obtain ⟨first, result, last, rfl, earlier, single, later⟩ := ih tail
      exact ⟨shown :: first, result, last, rfl, .cons head earlier, single, later⟩

/-- A traversal of picked values succeeds exactly if all values come to something. -/
theorem mapM_filterMap_eq_ok_iff
    {pick : α → Option β}
    {step : β → Except ε γ}
    {seen : ρ → Option γ}
    (single : ∀ value found,
      (pick value).mapM step = .ok found ↔ ∃ result, comesTo value result ∧ seen result = found)
    {values : List α}
    {founds : List γ} :
    (values.filterMap pick).mapM step = .ok founds ↔
      ∃ results, List.Forall₂ comesTo values results ∧ results.filterMap seen = founds := by
  induction values generalizing founds with
  | nil =>
    rw [List.filterMap_nil, List.mapM_nil]
    constructor
    · intro done
      exact ⟨[], .nil, Except.ok.inj done⟩
    · rintro ⟨_, each, rfl⟩
      cases each
      rfl
  | cons value values ih =>
    have split : ((value :: values).filterMap pick).mapM step = (do
        let found ← (pick value).mapM step
        let founds ← (values.filterMap pick).mapM step
        return found.toList ++ founds) := by
      cases picked : pick value <;> simp [picked]
    rw [split, bind_eq_ok_iff]
    constructor
    · rintro ⟨found, found_ok, later⟩
      obtain ⟨others, others_ok, done⟩ := bind_eq_ok_iff.mp later
      obtain ⟨result, first, rfl⟩ := (single value found).mp found_ok
      obtain ⟨results, rest, rfl⟩ := ih.mp others_ok
      cases done
      refine ⟨result :: results, .cons first rest, ?_⟩
      rw [List.filterMap_cons]
      cases seen result <;> rfl
    · rintro ⟨_, each, rfl⟩
      cases each with
      | @cons _ result _ results first rest =>
        have first_ok := (single value (seen result)).mpr ⟨result, first, rfl⟩
        have rest_ok := ih.mpr ⟨results, rest, rfl⟩
        refine ⟨seen result, first_ok, bind_eq_ok_iff.mpr ⟨_, rest_ok, ?_⟩⟩
        rw [List.filterMap_cons]
        cases seen result <;> rfl

end

/-! ## Outputs -/

namespace Generator

variable {generator : Generator} {entities : List Entity}

theorem mapM_relationCode_eq_ok_iff
    {entity : Entity}
    {found : Option RelationCode} :
    ((Relations.ofEntity entity entities).toOption.bind id).mapM generator.relationCode =
        .ok found ↔
      ∃ joins, generator.JoinsTo entities entity joins ∧ joins.code? = found := by
  constructor
  · intro done
    cases joined : Relations.ofEntity entity entities with
    | error defect =>
      rw [joined] at done
      exact ⟨_, .rejected joined, Except.ok.inj done⟩
    | ok result =>
      rw [joined] at done
      cases result with
      | none => exact ⟨_, .absent joined, Except.ok.inj done⟩
      | some relations =>
        obtain ⟨code, generated, rfl⟩ := map_eq_ok_iff.mp done
        exact ⟨_, .generated joined generated, rfl⟩
  · rintro ⟨_, comes, rfl⟩
    cases comes with
    | absent nothing =>
      rw [nothing]
      rfl
    | generated joined generated =>
      rw [joined]
      exact map_eq_ok_iff.mpr ⟨_, generated, rfl⟩
    | rejected refused =>
      rw [refused]
      rfl

/-- The join queries of a record, if it is accepted and has some. -/
theorem mapM_joinCode_eq_ok_iff
    (decl : RecordDecl)
    (found : Option RelationCode) :
    ((Entity.ofDecl decl).toOption.bind fun entity =>
        (Relations.ofEntity entity entities).toOption.bind id).mapM generator.relationCode =
          .ok found ↔
      ∃ result, generator.RecordComesTo entities decl result ∧ result.joinCode? = found := by
  constructor
  · intro done
    cases accepted : Entity.ofDecl decl with
    | error defect =>
      rw [accepted] at done
      exact ⟨_, .rejected accepted, Except.ok.inj done⟩
    | ok entity =>
      rw [accepted] at done
      obtain ⟨joins, joined, rfl⟩ := mapM_relationCode_eq_ok_iff.mp done
      exact ⟨_, .accepted accepted joined, rfl⟩
  · rintro ⟨_, comes, rfl⟩
    cases comes with
    | accepted accepted joined =>
      rw [accepted]
      exact mapM_relationCode_eq_ok_iff.mpr ⟨_, joined, rfl⟩
    | rejected refused =>
      rw [refused]
      rfl

/-- The implementation of a contract, if it is accepted. -/
theorem mapM_repositoryCode_eq_ok_iff
    (decl : ContractDecl)
    (found : Option RepositoryCode) :
    (Contract.resolve entities decl).toOption.mapM
        (fun (entity, contract) => generator.repositoryCode entity contract) = .ok found ↔
      ∃ result, generator.ContractComesTo entities decl result ∧ result.code? = found := by
  constructor
  · intro done
    cases resolved : Contract.resolve entities decl with
    | error defect =>
      rw [resolved] at done
      exact ⟨_, .rejected resolved, Except.ok.inj done⟩
    | ok pair =>
      rw [resolved] at done
      obtain ⟨code, generated, rfl⟩ := map_eq_ok_iff.mp done
      exact ⟨_, .generated resolved generated, rfl⟩
  · rintro ⟨_, comes, rfl⟩
    cases comes with
    | generated resolved generated =>
      rw [resolved]
      exact map_eq_ok_iff.mpr ⟨_, generated, rfl⟩
    | rejected refused =>
      rw [refused]
      rfl

/-! ### What results show -/

variable {decl : RecordDecl} {result : RecordResult}

theorem RecordComesTo.block? (comes : generator.RecordComesTo entities decl result) :
    (Entity.ofDecl decl).toOption.map (Schema.block generator.schema) = result.block? := by
  cases comes with
  | accepted accepted _ =>
    rw [accepted]
    rfl
  | rejected refused =>
    rw [refused]
    rfl

theorem RecordComesTo.failure? (comes : generator.RecordComesTo entities decl result) :
    Failure.ofRecord? decl = result.failure? := by
  cases comes with
  | accepted accepted _ =>
    rw [Failure.ofRecord?, accepted]
    rfl
  | rejected refused =>
    rw [Failure.ofRecord?, refused]
    rfl

theorem JoinsTo.failure?
    {entity : Entity}
    {joins : JoinResult}
    (joined : generator.JoinsTo entities entity joins) :
    Failure.ofRelations? entities entity = joins.failure? := by
  cases joined with
  | absent nothing =>
    rw [Failure.ofRelations?, nothing]
    rfl
  | generated joined _ =>
    rw [Failure.ofRelations?, joined]
    rfl
  | rejected refused =>
    rw [Failure.ofRelations?, refused]
    rfl

theorem RecordComesTo.joinFailure? (comes : generator.RecordComesTo entities decl result) :
    (Entity.ofDecl decl).toOption.bind (Failure.ofRelations? entities) = result.joinFailure? := by
  cases comes with
  | accepted accepted joined =>
    rw [accepted]
    exact joined.failure?
  | rejected refused =>
    rw [refused]
    rfl

theorem ContractComesTo.failure?
    {decl : ContractDecl}
    {result : ContractResult}
    (comes : generator.ContractComesTo entities decl result) :
    Failure.ofContract? entities decl = result.failure? := by
  cases comes with
  | generated resolved _ =>
    rw [Failure.ofContract?, resolved]
    rfl
  | rejected refused =>
    rw [Failure.ofContract?, refused]
    rfl

/-! ### Runs -/

variable {batch : Batch} {account : Account} {output : Output}

/-- The definitions of all tables are those of the accepted records. -/
theorem Accounts.schema (accounts : generator.Accounts batch account) :
    Schema.text generator.schema batch.entities = account.output.schema := by
  have blocks := filterMap_eq_of_forall₂ (fun _ _ comes => comes.block?) accounts.records
  rw [Schema.text, Batch.entities, List.map_filterMap, blocks]
  rfl

theorem Accounts.failures (accounts : generator.Accounts batch account) :
    batch.failures = account.output.failures := by
  have records := filterMap_eq_of_forall₂ (fun _ _ comes => comes.failure?) accounts.records
  have contracts := filterMap_eq_of_forall₂ (fun _ _ comes => comes.failure?) accounts.contracts
  have joins := filterMap_eq_of_forall₂ (fun _ _ comes => comes.joinFailure?) accounts.records
  rw [Account.output, ← records, ← contracts, ← joins, ← List.filterMap_filterMap]
  rfl

/-- Contracts have implementations exactly if all contracts of the batch come to something. -/
theorem mapM_resolved_eq_ok_iff
    (generator : Generator)
    (batch : Batch)
    (codes : List RepositoryCode) :
    batch.resolved.mapM (fun (entity, contract) => generator.repositoryCode entity contract) =
        .ok codes ↔
      ∃ contracts,
        List.Forall₂ (generator.ContractComesTo batch.entities) batch.contracts contracts ∧
          contracts.filterMap (·.code?) = codes :=
  mapM_filterMap_eq_ok_iff mapM_repositoryCode_eq_ok_iff

/-- Relations have code exactly if all records of the batch come to something. -/
theorem mapM_relations_eq_ok_iff
    (generator : Generator)
    (batch : Batch)
    (codes : List RelationCode) :
    batch.relations.mapM generator.relationCode = .ok codes ↔
      ∃ records, List.Forall₂ (generator.RecordComesTo batch.entities) batch.records records ∧
        records.filterMap (·.joinCode?) = codes := by
  rw [Batch.relations, Batch.entities, List.filterMap_filterMap]
  exact mapM_filterMap_eq_ok_iff mapM_joinCode_eq_ok_iff

/-- A run has an output exactly if there is an account of the batch, which adds up to the output. -/
theorem run_eq_ok_iff :
    generator.run batch = .ok output ↔
      ∃ account, generator.Accounts batch account ∧ account.output = output := by
  constructor
  · intro done
    obtain ⟨codes, codes_ok, done⟩ := bind_eq_ok_iff.mp done
    obtain ⟨joins, joins_ok, done⟩ := bind_eq_ok_iff.mp done
    obtain ⟨contracts, contracts_held, rfl⟩ := (mapM_resolved_eq_ok_iff _ _ _).mp codes_ok
    obtain ⟨records, records_held, rfl⟩ := (mapM_relations_eq_ok_iff _ _ _).mp joins_ok
    have accounts : generator.Accounts batch ⟨records, contracts⟩ := ⟨records_held, contracts_held⟩
    refine ⟨⟨records, contracts⟩, accounts, ?_⟩
    rw [← Except.ok.inj done, accounts.schema, accounts.failures]
    rfl
  · rintro ⟨account, accounts, rfl⟩
    have codes_ok := (mapM_resolved_eq_ok_iff _ _ _).mpr ⟨_, accounts.contracts, rfl⟩
    have joins_ok := (mapM_relations_eq_ok_iff _ _ _).mpr ⟨_, accounts.records, rfl⟩
    refine bind_eq_ok_iff.mpr ⟨_, codes_ok, bind_eq_ok_iff.mpr ⟨_, joins_ok, ?_⟩⟩
    rw [accounts.schema, accounts.failures]
    rfl

/-! ### A batch that is accepted in parts -/

/-- A record of tags. -/
def tagRecord : RecordDecl :=
  { name := "Tag", fields := [⟨"Slug", "String", "pk"⟩] }

/-- A record without fields. -/
def ghostRecord : RecordDecl :=
  { name := "Ghost" }

/-- Visits, which reference tags and ghosts. -/
def visitRecord : RecordDecl :=
  { name := "Visit"
    fields := [⟨"ID", "i64", "pk"⟩, ⟨"GhostID", "i64", "fk:ghost,id"⟩,
      ⟨"TagSlug", "String", "fk:tag,slug"⟩] }

/-- Stays, which reference tags and have a key of no type. -/
def stayRecord : RecordDecl :=
  { name := "Stay", fields := [⟨"ID", "?", "pk"⟩, ⟨"TagSlug", "String", "fk:tag,slug"⟩] }

/-- A repository of ghosts. -/
def ghostRepository : ContractDecl :=
  { name := "GhostRepository", entity := "Ghost" }

/-- A repository of tags with a method whose name describes nothing. -/
def tagRepository : ContractDecl :=
  { name := "TagRepository", entity := "Tag", methods := [{ name := "Frobnicate" }] }

/-- A repository that lists tags. -/
def tagStore : ContractDecl :=
  { name := "TagStore", entity := "Tag", methods := [{ name := "List" }] }

/-- A batch of which one record, two contracts and the joins of one entity are rejected. -/
def visits : Batch :=
  { records := [tagRecord, ghostRecord, visitRecord, stayRecord]
    contracts := [ghostRepository, tagRepository, tagStore] }

theorem exists_run_visits :
    ∃ generator, ofConfig {} = .ok generator ∧
      ∃ output, generator.run visits = .ok output ∧ output.repositories.length = 1 ∧
        output.relations.length = 1 ∧
        output.failures.map (·.subject) =
          [.record "Ghost", .contract "GhostRepository", .contract "TagRepository",
            .relations "Stay"] := by
  have computed : (ofConfig {}).toOption.any fun generator =>
      (generator.run visits).toOption.any fun output =>
        output.repositories.length = 1 && output.relations.length = 1 &&
          output.failures.map (·.subject) = [.record "Ghost", .contract "GhostRepository",
            .contract "TagRepository", .relations "Stay"] := by
    decide +kernel
  obtain ⟨generator, configured, computed⟩ := (Option.any_eq_true _ _).mp computed
  obtain ⟨output, output_ok, shown⟩ := (Option.any_eq_true _ _).mp computed
  simp only [Bool.and_eq_true, decide_eq_true_eq] at shown
  exact ⟨generator, toOption_eq_some_iff.mp configured, output, toOption_eq_some_iff.mp output_ok,
    shown.1.1, shown.1.2, shown.2⟩

end Generator

end Tablewright
