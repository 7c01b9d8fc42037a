import Tablewright.Batch.Log
import Tablewright.Proofs.Batch.Account

/-!
# What logs tell

Apart from what is noted for debugging, the log of a run consists of its failures in order, and of
the summary at the end.
-/

namespace Tablewright

namespace Event

/-- Events that are not only for debugging. -/
def heard (events : List Event) : List Event :=
  events.filter (·.level ≠ .debug)

theorem heard_append (events others : List Event) :
    heard (events ++ others) = heard events ++ heard others :=
  List.filter_append ..

theorem heard_eq_nil
    {events : List Event}
    (debug : ∀ event ∈ events, event.level = .debug) :
    heard events = [] := by
  rw [heard, List.filter_eq_nil_iff]
  intro event member
  simp [debug event member]

/-- Events of any other level are all heard. -/
theorem filter_level_heard
    (events : List Event)
    {level : Level}
    (other : level ≠ .debug) :
    (heard events).filter (·.level = level) = events.filter (·.level = level) := by
  rw [heard, List.filter_filter]
  apply List.filter_congr
  intro event _
  by_cases same : event.level = level
  · simp [same, other]
  · simp [same]

/-- Where nothing but its failure is heard of each item, the failures of all items are heard in
order. -/
theorem heard_flatMap
    {α : Type}
    {events : α → List Event}
    {failure? : α → Option Failure}
    (each : ∀ item, heard (events item) = ((failure? item).map rejected).toList)
    (items : List α) :
    heard (items.flatMap events) = (items.filterMap failure?).map rejected := by
  induction items with
  | nil => rfl
  | cons item items ih =>
    rw [List.flatMap_cons, heard_append, each, ih, List.filterMap_cons]
    cases failure? item <;> rfl

/-- A failure that follows notes for debugging is all that is heard. -/
theorem heard_append_toList
    {notes : List Event}
    (debug : ∀ note ∈ notes, note.level = .debug)
    (failure? : Option Failure) :
    heard (notes ++ (failure?.map rejected).toList) = (failure?.map rejected).toList := by
  rw [heard_append, heard_eq_nil debug, List.nil_append]
  cases failure? <;> rfl

theorem level_of_mem_ofField
    {decl : FieldDecl}
    {event : Event}
    (member : event ∈ ofField decl) :
    event.level = .debug := by
  obtain ⟨token, -, made⟩ := List.mem_filterMap.mp member
  split at made
  · cases made
    rfl
  · cases made

theorem level_of_mem_ofSchema
    {entity : Entity}
    {event : Event}
    (member : event ∈ ofSchema entity) :
    event.level = .debug := by
  rcases List.mem_append.mp member with lonely | lonely
  · obtain ⟨_, -, rfl⟩ := List.mem_map.mp lonely
    rfl
  · obtain ⟨_, -, rfl⟩ := List.mem_map.mp lonely
    rfl

theorem level_of_mem_ofLinks
    {entities : List Entity}
    {entity : Entity}
    {event : Event}
    (member : event ∈ ofLinks entities entity) :
    event.level = .debug := by
  unfold ofLinks at member
  split at member
  · obtain rfl := List.mem_singleton.mp member
    rfl
  · obtain ⟨_, -, rfl⟩ := List.mem_map.mp member
    rfl

/-! ## Items -/

theorem heard_ofRecord (decl : RecordDecl) :
    heard (ofRecord decl) = ((Failure.ofRecord? decl).map rejected).toList := by
  apply heard_append_toList
  intro note member
  obtain ⟨field, -, noted⟩ := List.mem_flatMap.mp member
  exact level_of_mem_ofField noted

theorem heard_ofContract
    (entities : List Entity)
    (decl : ContractDecl) :
    heard (ofContract entities decl) =
      ((Failure.ofContract? entities decl).map rejected).toList := by
  rw [ofContract]
  split
  · next accepted =>
    rw [accepted]
    rfl
  · next failure refused =>
    rw [refused]
    split
    · rfl
    · rfl

theorem heard_ofRelations
    (entities : List Entity)
    (entity : Entity) :
    heard (ofRelations entities entity) =
      ((Failure.ofRelations? entities entity).map rejected).toList := by
  apply heard_append_toList
  intro note member
  split at member
  · exact level_of_mem_ofLinks member
  · cases member

end Event

/-! ## Runs -/

/-- Failures are heard in order, and then the summary. -/
theorem Batch.heard_log
    (batch : Batch)
    (output : Output) :
    Event.heard (batch.log output) = batch.failures.map .rejected ++ [batch.summary output] := by
  have schema : Event.heard (batch.entities.flatMap Event.ofSchema) = [] := by
    apply Event.heard_eq_nil
    intro event member
    obtain ⟨entity, -, noted⟩ := List.mem_flatMap.mp member
    exact Event.level_of_mem_ofSchema noted
  have records := Event.heard_flatMap Event.heard_ofRecord batch.records
  have contracts := Event.heard_flatMap (Event.heard_ofContract batch.entities) batch.contracts
  have relations := Event.heard_flatMap (Event.heard_ofRelations batch.entities) batch.entities
  have summary : Event.heard [batch.summary output] = [batch.summary output] := rfl
  simp only [Batch.log, Event.heard_append, records, schema, contracts, relations, summary,
    Batch.failures, List.map_append, List.append_nil]

/-- The name of what was rejected, which is that of the entity for join queries. -/
def Subject.name : Subject → String
  | record name | contract name | relations name => name

/-- Events tell of a run what comes of it: each failure in a warning with its subject and its cause,
and the numbers of results at the end. -/
structure Batch.Tells
    (batch : Batch)
    (output : Output)
    (events : List Event) : Prop where
  /-- The warnings are the failures, in order. -/
  warnings : events.filter (·.level = .warn) = output.failures.map .rejected
  /-- Each warning names the subject of its failure and gives the cause in words. -/
  details : (events.filter (·.level = .warn)).map (·.fields.map (·.2)) =
    output.failures.map fun failure => [failure.subject.name, failure.cause.message]
  /-- A single event sums up the run. -/
  summary : events.filter (·.level = .info) =
    [.finished batch.entities.length output.repositories.length output.relations.length
      output.failures.length]
  /-- It is the last one. -/
  last : events.getLast? = some (.finished batch.entities.length output.repositories.length
    output.relations.length output.failures.length)

theorem Batch.tells_log
    {batch : Batch}
    {output : Output}
    (failures : batch.failures = output.failures) :
    batch.Tells output (batch.log output) := by
  have heard : Event.heard (batch.log output) =
      output.failures.map .rejected ++ [batch.summary output] := by
    rw [batch.heard_log, failures]
  have warnings : (batch.log output).filter (·.level = .warn) = output.failures.map .rejected := by
    rw [← Event.filter_level_heard _ (by decide), heard, List.filter_append]
    have all_warn : (output.failures.map Event.rejected).filter (·.level = .warn) =
        output.failures.map .rejected := by
      rw [List.filter_eq_self]
      intro event member
      obtain ⟨failure, -, rfl⟩ := List.mem_map.mp member
      rfl
    rw [all_warn]
    exact List.append_nil _
  constructor
  case warnings => exact warnings
  case details =>
    rw [warnings, List.map_map]
    apply List.map_congr_left
    rintro ⟨subject, cause⟩ _
    cases subject with
    | record name => rfl
    | contract name => rfl
    | relations entity => rfl
  case summary =>
    rw [← Event.filter_level_heard _ (by decide), heard, List.filter_append]
    have no_info : (output.failures.map Event.rejected).filter (·.level = .info) = [] := by
      rw [List.filter_eq_nil_iff]
      intro event member
      obtain ⟨failure, -, rfl⟩ := List.mem_map.mp member
      simp [Event.level]
    rw [no_info]
    rfl
  case last => exact List.getLast?_concat

namespace Generator

variable {generator : Generator} {batch : Batch}

/-- The entities are as many as the blocks. -/
theorem Accounts.length_entities
    {account : Account}
    (accounts : generator.Accounts batch account) :
    batch.entities.length = (account.records.filterMap (·.block?)).length := by
  have blocks := filterMap_eq_of_forall₂ (fun _ _ comes => comes.block?) accounts.records
  rw [← blocks, ← List.map_filterMap, List.length_map]
  rfl

/-- Every record comes to a block or to a failure, every contract to an implementation or to a
failure, and every entity to join queries, to a failure, or to nothing; the output holds all of it
in order, and the log tells of it. -/
theorem accounts_of_run
    {output : Output}
    (done : generator.run batch = .ok output) :
    ∃ account events, generator.Accounts batch account ∧ account.output = output ∧
      batch.entities.length = (account.records.filterMap (·.block?)).length ∧
      generator.log batch = .ok events ∧ batch.Tells output events := by
  obtain ⟨account, accounts, rfl⟩ := run_eq_ok_iff.mp done
  refine ⟨account, batch.log account.output, accounts, rfl, accounts.length_entities, ?_,
    Batch.tells_log accounts.failures⟩
  rw [log, done]
  rfl

/-- What is rejected of visits is told in four warnings, and the end sums them up. -/
theorem accounts_of_run_visits :
    ∃ generator, ofConfig {} = .ok generator ∧
      ∃ account events, generator.Accounts visits account ∧
        account.output.failures.map (·.subject) =
          [.record "Ghost", .contract "GhostRepository", .contract "TagRepository",
            .relations "Stay"] ∧
        generator.log visits = .ok events ∧ visits.Tells account.output events ∧
        events.getLast? = some (.finished 3 1 1 4) := by
  obtain ⟨generator, configured, output, done, repositories, relations, subjects⟩ :=
    exists_run_visits
  have entities : visits.entities.length = 3 := by decide +kernel
  obtain ⟨account, events, accounts, rfl, -, logged, tells⟩ := accounts_of_run done
  have failures : account.output.failures.length = 4 := by
    rw [← List.length_map (·.subject), subjects]
    rfl
  have last := tells.last
  rw [entities, repositories, relations, failures] at last
  exact ⟨generator, configured, account, events, accounts, subjects, logged, tells, last⟩

end Generator

end Tablewright
