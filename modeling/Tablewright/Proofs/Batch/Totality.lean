import Tablewright.Proofs.Batch.Names
import Tablewright.Proofs.Query.Slicing
import Tablewright.Proofs.Relation.Spelled
import Tablewright.Proofs.Tag.Slicing

/-!
# Generation always succeeds

A batch whose names are made of letters, digits and underscores is turned into an output by every
generator whose names end in such characters.  No identifier is made of a name that was not checked
before, or does not go on from one that was; the name of the key is the only exception, where no
field is declared as one.  And what is read out of names and tags is always there to be cut out.
-/

namespace Tablewright

open Code (IsVouched)
open Text (Alnum)

/-! ## Settings -/

/-- A generator ends its names as it is configured to. -/
theorem Generator.suffix_of_ofConfig
    {config : Config}
    {generator : Generator}
    (accepted : ofConfig config = .ok generator) :
    generator.repository.suffix = config.repository.suffix := by
  obtain ⟨repository, repository_ok, made⟩ := bind_eq_ok_iff.mp accepted
  cases made
  unfold RepositorySettings.ofConfig at repository_ok
  dsimp only at repository_ok
  split at repository_ok
  · cases repository_ok
  obtain ⟨poolType, -, repository_ok⟩ := bind_eq_ok_iff.mp repository_ok
  obtain ⟨errorType, -, repository_ok⟩ := bind_eq_ok_iff.mp repository_ok
  cases repository_ok
  rfl

/-- The names that the implementation of a contract may hold: those that are vouched for, and the
name of the key where no field is declared as one. -/
def Contract.MayHold
    (entity : Entity)
    (contract : Contract)
    (name : String) : Prop :=
  IsVouched (contract.checkedNames entity) name ∨
    entity.primaryKey = [] ∧ name = Entity.fallbackKey

namespace Batch

variable {batch : Batch} {settings : RepositorySettings}

/-! ## Contracts and relations of a batch -/

theorem yields_ofContract
    (alnum : batch.IsAlnum)
    (suffix_alnum : Alnum settings.suffix.toList)
    {entity : Entity}
    {contract : Contract}
    (member : (entity, contract) ∈ batch.resolved) :
    Yields (Repository.Implementation.ofContract settings entity contract) fun implementation =>
      ∀ name ∈ entity.name :: implementation.names, contract.MayHold entity name := by
  obtain ⟨-, decl, -, accepted⟩ := exists_of_mem_resolved member
  have named := Contract.isName_of_mem_checkedNames accepted
  have spelled : ∀ name, contract.MayHold entity name → Code.isSpelling name.toList := by
    rintro name (vouched | ⟨-, rfl⟩)
    · exact vouched.isSpelling (alnum.checkedNames member)
    · decide
  have own_name : contract.name ∈ contract.checkedNames entity := by
    simp [Contract.checkedNames]
  have entity_name : entity.name ∈ contract.checkedNames entity := by
    simp [Contract.checkedNames]
  refine (Repository.yields_ofContract spelled ?_ ?_ ?_).mono fun implementation held => ?_
  · exact fun name checked => .inl (.of_mem named checked)
  · exact .inl ⟨contract.name, own_name, named _ own_name, .append _ suffix_alnum⟩
  · exact fun undeclared => .inr ⟨undeclared, rfl⟩
  · exact List.forall_mem_cons.mpr ⟨.inl (.of_mem named entity_name), held⟩

theorem yields_ofRelations
    (alnum : batch.IsAlnum)
    {relations : Relations}
    (member : relations ∈ batch.relations) :
    Yields (Relations.JoinCode.ofRelations relations) fun code =>
      ∀ name ∈ relations.entity.name :: code.names, IsVouched relations.names name := by
  obtain ⟨entity, -, made⟩ := exists_of_mem_relations member
  obtain ⟨-, -, checked, -⟩ := Relations.of_ofEntity made
  have named := checkNames_eq_ok_iff.mp checked
  have spelled : ∀ name, IsVouched relations.names name → Code.isSpelling name.toList :=
    fun name vouched => vouched.isSpelling (alnum.relationNames member)
  have entity_name : relations.entity.name ∈ relations.names := by
    simp [Relations.names]
  have word : Alnum "Relations".toList := by decide
  refine (Relations.yields_ofRelations spelled ?_ ?_).mono fun code held => ?_
  · exact fun name checked => .of_mem named checked
  · exact ⟨relations.entity.name, entity_name, named _ entity_name, .append _ word⟩
  · exact List.forall_mem_cons.mpr ⟨.of_mem named entity_name, held⟩

end Batch

namespace Generator

variable {generator : Generator} {batch : Batch}

/-- There is an output where contracts have implementations and relations have code. -/
theorem exists_run
    {implemented : Entity × Contract → Repository.Implementation → Prop}
    {joined : Relations → Relations.JoinCode → Prop}
    (contracts : ∀ pair ∈ batch.resolved,
      Yields (Repository.Implementation.ofContract generator.repository pair.1 pair.2)
        (implemented pair))
    (relations : ∀ relations ∈ batch.relations,
      Yields (Relations.JoinCode.ofRelations relations) (joined relations)) :
    ∃ output, generator.run batch = .ok output := by
  have repositories : Yields (batch.resolved.mapM fun pair =>
      generator.repositoryCode pair.1 pair.2) fun codes => ∀ code ∈ codes, True := by
    apply Yields.mapM
    intro pair member
    have source : Yields (Repository.source generator.repository pair.1 pair.2) fun _ => True :=
      (contracts pair member).bind fun _ _ => .of_ok trivial
    exact source.bind fun _ _ => .of_ok trivial
  have joins : Yields (batch.relations.mapM generator.relationCode)
      fun codes => ∀ code ∈ codes, True := by
    apply Yields.mapM
    intro made member
    have source : Yields (made.source generator.repository) fun _ => True :=
      (relations made member).bind fun _ _ => .of_ok trivial
    exact source.bind fun _ _ => .of_ok trivial
  have output : Yields (generator.run batch) fun _ => True :=
    repositories.bind fun _ _ => joins.bind fun _ _ => .of_ok trivial
  obtain ⟨output, output_ok, -⟩ := output
  exact ⟨output, output_ok⟩

/-- Nothing stops a generator on a batch. -/
structure Completes
    (generator : Generator)
    (batch : Batch) : Prop where
  /-- There is an output. -/
  output : ∃ output, generator.run batch = .ok output
  /-- Each accepted contract has an implementation with names that it may hold. -/
  contracts : ∀ entity contract, (entity, contract) ∈ batch.resolved →
    ∃ implementation,
      Repository.Implementation.ofContract generator.repository entity contract =
        .ok implementation ∧
      ∀ name ∈ entity.name :: implementation.names, contract.MayHold entity name
  /-- The relations of an entity have code, with names that are vouched for. -/
  relations : ∀ relations ∈ batch.relations,
    ∃ code, Relations.JoinCode.ofRelations relations = .ok code ∧
      ∀ name ∈ relations.entity.name :: code.names, IsVouched relations.names name
  /-- All parts of a query are cut out of the name of its method. -/
  queries : ∀ name, Query.slicedOfName? name = .ok (Query.ofName? name)
  /-- So are the fields of a lookup. -/
  lookups : ∀ name, Convention.slicedLookup? name = .ok (Convention.lookup? name)
  /-- All segments of a tag are cut out of it. -/
  tags : ∀ tag, Tag.slicedRead tag = .ok (Tag.read tag)

/-- Nothing stops a generator whose names end in letters, digits and underscores on a batch that has
all of its names made of them. -/
theorem completes_of_isAlnum
    {config : Config}
    (accepted : ofConfig config = .ok generator)
    (suffix_alnum : Alnum config.repository.suffix.toList)
    (batch_alnum : batch.IsAlnum) :
    generator.Completes batch := by
  have settings_alnum : Alnum generator.repository.suffix.toList := by
    rw [suffix_of_ofConfig accepted]
    exact suffix_alnum
  have contracts (pair : Entity × Contract) (member : pair ∈ batch.resolved) :=
    Batch.yields_ofContract batch_alnum settings_alnum member
  have relations (relations : Relations) (member : relations ∈ batch.relations) :=
    Batch.yields_ofRelations batch_alnum member
  exact {
    output := exists_run contracts relations
    contracts := fun entity contract member => contracts (entity, contract) member
    relations
    queries := Query.slicedOfName?_eq
    lookups := Convention.slicedLookup?_eq
    tags := Tag.slicedRead_eq }

/-- Posts and their authors, with a repository of posts. -/
def authoredPosts : Batch :=
  { records :=
      [{ name := "User", fields := [⟨"ID", "i64", "pk"⟩, ⟨"Email", "String", "unique"⟩] },
        { name := "Post"
          fields := [⟨"ID", "i64", "pk"⟩, ⟨"author_id", "i64", "fk:user,id"⟩] }]
    contracts :=
      [{ name := "PostRepository"
         entity := "Post"
         methods := [{ name := "FindByAuthorID", params := [⟨"author_id", "i64"⟩] }] }] }

/-- A contract of posts is accepted, and so are their relations; both are turned into code. -/
theorem completes_of_isAlnum_authoredPosts :
    authoredPosts.resolved.length = 1 ∧ authoredPosts.relations.length = 1 ∧
      ∃ generator, ofConfig {} = .ok generator ∧ generator.Completes authoredPosts := by
  have settled : (ofConfig {}).toOption.isSome := by decide +kernel
  obtain ⟨generator, made⟩ := Option.isSome_iff_exists.mp settled
  have accepted := toOption_eq_some_iff.mp made
  refine ⟨by decide +kernel, by decide +kernel, generator, accepted, ?_⟩
  exact completes_of_isAlnum accepted (by decide) (by decide +kernel)

/-- Names that acceptance of settings, contracts and relations checks. -/
def checkedNames
    (generator : Generator)
    (batch : Batch) : List String :=
  ("Repository" ++ generator.repository.suffix) ::
    (batch.resolved.flatMap fun (entity, contract) => contract.checkedNames entity) ++
      batch.relations.flatMap Relations.names

/-- A repository of logs, none of whose fields is the key. -/
def keylessLogs : Batch :=
  { records := [{ name := "Log", fields := [⟨"Code", "i64", ""⟩, ⟨"Text", "String", ""⟩] }]
    contracts :=
      [{ name := "LogRepository"
         entity := "Log"
         methods := [{ name := "Update", params := [⟨"item", "&Log"⟩] }] }] }

/-- The name of the key is used in code without having been checked. -/
theorem not_isVouched_keylessLogs :
    keylessLogs.IsAlnum ∧ Alnum ({} : Config).repository.suffix.toList ∧
      ∃ generator, ofConfig {} = .ok generator ∧
        ∃ entity contract, (entity, contract) ∈ keylessLogs.resolved ∧
          ∃ implementation,
            Repository.Implementation.ofContract generator.repository entity contract =
              .ok implementation ∧
            ∃ name ∈ implementation.names,
              ¬ IsVouched (generator.checkedNames keylessLogs) name := by
  refine ⟨by decide +kernel, by decide, ?_⟩
  have computed : (ofConfig {}).toOption.any fun generator =>
      (generator.checkedNames keylessLogs).all
        (fun start => !start.toList.isPrefixOf Entity.fallbackKey.toList) &&
      keylessLogs.resolved.any fun (entity, contract) =>
        (Repository.Implementation.ofContract generator.repository entity contract).toOption.any
          fun implementation => implementation.names.contains Entity.fallbackKey := by
    decide +kernel
  obtain ⟨generator, made, computed⟩ := (Option.any_eq_true _ _).mp computed
  obtain ⟨apart, held⟩ := Bool.and_eq_true_iff.mp computed
  obtain ⟨⟨entity, contract⟩, member, held⟩ := List.any_eq_true.mp held
  obtain ⟨implementation, implemented, held⟩ := (Option.any_eq_true _ _).mp held
  refine ⟨generator, toOption_eq_some_iff.mp made, entity, contract, member, implementation,
    toOption_eq_some_iff.mp implemented, Entity.fallbackKey, List.contains_iff_mem.mp held, ?_⟩
  apply Code.not_isVouched
  intro start checked begins
  have not_begun := List.all_eq_true.mp apart start checked
  rw [List.isPrefixOf_iff_prefix.mpr begins] at not_begun
  cases not_begun

end Generator

end Tablewright
