import Tablewright.Proofs.Relation.Coverage
import Tablewright.Proofs.Relation.Key
import Tablewright.Proofs.Text.Word

/-!
# Names of results

The result of a join query is named after the entity and the joined one, and after the label of the
link where several links lead to that entity.  Labels are put into Pascal case, and names are glued
with fixed words, so that two links may come to one name.
-/

namespace Tablewright

namespace Relations

/-! ## Glued names -/

/-- What the name of a result says about the label of its link. -/
def viaText
    (links : List ResolvedLink)
    (link : ResolvedLink) : String :=
  if isShared links link.1.table then "Via" ++ Text.pascalCase link.1.label else ""

theorem resultName_eq
    (entity : Entity)
    (links : List ResolvedLink)
    (link : ResolvedLink) :
    resultName entity links link =
      entity.name ++ "With" ++ (link.2.name ++ viaText links link) := by
  rw [resultName, viaText, String.append_assoc]

/-- The name of one entity goes on from that of another with the word for labels, and the label of
the other link goes on as the name does. -/
def IsGlued
    (links : List ResolvedLink)
    (link other : ResolvedLink) : Prop :=
  isShared links other.1.table ∧ ∃ rest, link.2.name = other.2.name ++ "Via" ++ rest ∧
    Text.pascalCase other.1.label = rest ++ viaText links link

/-- Two links come to one name: they lead to one entity by labels that are the same in Pascal case,
or the name of the entity of one goes on from that of the other. -/
inductive Clash
    (links : List ResolvedLink)
    (link other : ResolvedLink) : Prop where
  /-- The labels are the same. -/
  | label (entity_eq : link.2 = other.2)
      (label_eq : Text.pascalCase link.1.label = Text.pascalCase other.1.label)
  /-- The name of the first goes on from that of the other. -/
  | longer (glued : IsGlued links link other)
  /-- The name of the other goes on from that of the first. -/
  | shorter (glued : IsGlued links other link)

theorem toList_viaText
    (links : List ResolvedLink)
    (link : ResolvedLink) :
    (viaText links link).toList =
      if isShared links link.1.table then
        'V' :: 'i' :: 'a' :: (Text.pascalCase link.1.label).toList
      else [] := by
  unfold viaText
  split
  · rw [String.toList_append]
    rfl
  · rfl

/-- What is said about a label begins with one letter only. -/
theorem viaText_ne_cons
    {links : List ResolvedLink}
    {link : ResolvedLink}
    {c : Char}
    (other : c ≠ 'V')
    (rest : List Char) :
    (viaText links link).toList ≠ c :: rest := by
  rw [toList_viaText]
  split
  · exact fun same => other (List.cons.inj same).1.symm
  · exact nofun

/-- What stands before the label of one name in the label of another is empty, or begins with the
word for labels. -/
theorem cases_of_viaText_eq
    {links : List ResolvedLink}
    {link other : ResolvedLink}
    {between : List Char}
    (same : (viaText links other).toList = between ++ (viaText links link).toList) :
    between = [] ∨
      isShared links other.1.table ∧ ∃ rest, between = 'V' :: 'i' :: 'a' :: rest ∧
        (Text.pascalCase other.1.label).toList = rest ++ (viaText links link).toList := by
  rw [toList_viaText links other] at same
  cases between with
  | nil => exact .inl rfl
  | cons c between =>
    split at same
    · next shared =>
      refine .inr ⟨shared, ?_⟩
      -- The word is gone through letter by letter: the other label cannot begin inside it.
      rw [List.cons_append, List.cons.injEq] at same
      obtain ⟨rfl, same⟩ := same
      cases between with
      | nil => exact absurd same.symm (viaText_ne_cons (by decide) _)
      | cons d between =>
        rw [List.cons_append, List.cons.injEq] at same
        obtain ⟨rfl, same⟩ := same
        cases between with
        | nil => exact absurd same.symm (viaText_ne_cons (by decide) _)
        | cons e between =>
          rw [List.cons_append, List.cons.injEq] at same
          obtain ⟨rfl, same⟩ := same
          exact ⟨between, rfl, same⟩
    · cases same

/-- One name goes on from the other. -/
theorem isGlued_of_append
    {links : List ResolvedLink}
    {link other : ResolvedLink}
    {between : List Char}
    (name_eq : link.2.name.toList = other.2.name.toList ++ between)
    (via_eq : (viaText links other).toList = between ++ (viaText links link).toList) :
    link.2.name = other.2.name ∧ viaText links link = viaText links other ∨
      IsGlued links link other := by
  rcases cases_of_viaText_eq via_eq with rfl | ⟨shared, rest, rfl, label_eq⟩
  · rw [List.append_nil] at name_eq
    exact .inl ⟨String.toList_inj.mp name_eq, (String.toList_inj.mp via_eq).symm⟩
  · refine .inr ⟨shared, String.ofList rest, ?_, ?_⟩
    · rw [← String.toList_inj, name_eq]
      simp
    · rw [← String.toList_inj, label_eq]
      simp

/-- Names of results are the same if the joined entities are called the same and labels are, or one
goes on from the other. -/
theorem name_append_viaText_eq_iff
    {links : List ResolvedLink}
    {link other : ResolvedLink} :
    link.2.name ++ viaText links link = other.2.name ++ viaText links other ↔
      (link.2.name = other.2.name ∧ viaText links link = viaText links other) ∨
        IsGlued links link other ∨ IsGlued links other link := by
  constructor
  · intro same
    rw [← String.toList_inj, String.toList_append, String.toList_append,
      List.append_eq_append_iff] at same
    rcases same with ⟨between, name_eq, via_eq⟩ | ⟨between, name_eq, via_eq⟩
    · rcases isGlued_of_append name_eq via_eq with ⟨names, labels⟩ | glued
      · exact .inl ⟨names.symm, labels.symm⟩
      · exact .inr (.inr glued)
    · rcases isGlued_of_append name_eq via_eq with equal | glued
      · exact .inl equal
      · exact .inr (.inl glued)
  · have of_glued {first second : ResolvedLink} (glued : IsGlued links first second) :
        first.2.name ++ viaText links first = second.2.name ++ viaText links second := by
      obtain ⟨shared, rest, name_eq, label_eq⟩ := glued
      rw [name_eq, viaText, viaText.eq_def links second, if_pos shared, label_eq, viaText]
      simp only [String.append_assoc]
    rintro (⟨name_eq, via_eq⟩ | glued | glued)
    · rw [name_eq, via_eq]
    · exact of_glued glued
    · exact (of_glued glued).symm

/-! ## Clashes -/

/-- Two links to one table share it. -/
theorem isShared_of_sublist
    {links : List ResolvedLink}
    {link other : ResolvedLink}
    (both : [link, other].Sublist links)
    (same : link.1.table = other.1.table) :
    isShared links link.1.table := by
  let leads (candidate : ResolvedLink) : Bool := candidate.1.table = link.1.table
  have two : [link, other].countP leads = 2 := by
    simp [leads, same]
  have counted := both.countP_le (p := leads)
  rw [two] at counted
  exact decide_eq_true counted

section

variable {entity : Entity} {entities : List Entity}

/-- Two links of an entity come to one name exactly if they clash. -/
theorem resultName_eq_iff
    (distinct : (entities.map (·.name)).Nodup)
    {link other : ResolvedLink}
    (both : [link, other].Sublist (resolved entity entities)) :
    resultName entity (resolved entity entities) link =
        resultName entity (resolved entity entities) other ↔
      Clash (resolved entity entities) link other := by
  obtain ⟨link_found, link_table⟩ := table_of_mem_resolved (both.subset List.mem_cons_self)
  obtain ⟨other_found, other_table⟩ :=
    table_of_mem_resolved (both.subset (List.mem_cons_of_mem _ List.mem_cons_self))
  have via_eq_iff (entity_eq : link.2 = other.2) :
      viaText (resolved entity entities) link = viaText (resolved entity entities) other ↔
        Text.pascalCase link.1.label = Text.pascalCase other.1.label := by
    have table_eq : link.1.table = other.1.table := by
      rw [← link_table, ← other_table, entity_eq]
    have shared := isShared_of_sublist both table_eq
    rw [viaText, viaText, ← table_eq, if_pos shared, if_pos shared]
    exact String.append_right_inj _
  rw [resultName_eq, resultName_eq, String.append_right_inj, name_append_viaText_eq_iff]
  constructor
  · rintro (⟨name_eq, via_eq⟩ | glued | glued)
    · have entity_eq := List.inj_on_of_nodup_map distinct link_found other_found name_eq
      exact .label entity_eq ((via_eq_iff entity_eq).mp via_eq)
    · exact .longer glued
    · exact .shorter glued
  · rintro (⟨entity_eq, label_eq⟩ | glued | glued)
    · exact .inl ⟨by rw [entity_eq], (via_eq_iff entity_eq).mpr label_eq⟩
    · exact .inr (.inl glued)
    · exact .inr (.inr glued)

/-- The names of single joins are distinct exactly if no two links clash. -/
theorem nodup_map_resultName_iff (distinct : (entities.map (·.name)).Nodup) :
    ((resolved entity entities).map (resultName entity (resolved entity entities))).Nodup ↔
      (resolved entity entities).Pairwise fun link other =>
        ¬ Clash (resolved entity entities) link other := by
  rw [List.Nodup, List.pairwise_map, List.pairwise_iff_forall_sublist,
    List.pairwise_iff_forall_sublist]
  exact forall₂_congr fun link other =>
    forall_congr' fun both => (resultName_eq_iff distinct both).not

end

/-- A single join has the name of the combined query exactly if its entity is called like the end of
that name, and no label is added. -/
theorem resultName_eq_withRelations_iff
    {entity : Entity}
    {links : List ResolvedLink}
    {link : ResolvedLink} :
    resultName entity links link = entity.name ++ "WithRelations" ↔
      link.2.name = "Relations" ∧ ¬ isShared links link.1.table := by
  have word : "WithRelations" = "With" ++ "Relations" := by decide
  rw [word, ← String.append_assoc, resultName_eq, String.append_right_inj, viaText]
  split_ifs with shared
  · refine iff_of_false (fun same => ?_) fun both => both.2 shared
    have letter : 'V' ∈ (link.2.name ++ ("Via" ++ Text.pascalCase link.1.label)).toList := by simp
    rw [same] at letter
    revert letter
    decide
  · rw [String.append_empty]
    exact (and_iff_left shared).symm

/-! ## Names of queries -/

theorem map_name_joinsFrom
    (entity : Entity)
    (all : List ResolvedLink)
    (taken : List String)
    (position : Nat)
    (links : List ResolvedLink) :
    (joinsFrom entity all taken position links).map (·.name) =
      links.map (resultName entity all) := by
  induction links generalizing taken position with
  | nil => rfl
  | cons link links ih =>
    rw [joinsFrom, List.map_cons, List.map_cons, ih]

section

variable {entity : Entity} {entities : List Entity} {relations : Relations}
  (made : ofEntity entity entities = .ok (some relations))
include made

/-- Single joins are named after their links, and one more query after the entity. -/
theorem map_name_queries :
    relations.queries.map (·.name) =
      (resolved entity entities).map (resultName entity (resolved entity entities)) ++
        relations.combined?.toList.map fun _ => entity.name ++ "WithRelations" := by
  have single : relations.joins.map (·.name) =
      (resolved entity entities).map (resultName entity (resolved entity entities)) := by
    rw [joins_of_ofEntity made, map_name_joinsFrom]
  have combined : relations.combined?.toList.map (·.name) =
      relations.combined?.toList.map fun _ => entity.name ++ "WithRelations" := by
    rw [combined?, entity_of_ofEntity made]
    split <;> rfl
  rw [queries_eq, List.map_append, List.map_map, combined, ← single]
  rfl

/-- There is a combined query exactly if two links lead to different tables. -/
theorem isSome_combined?_iff_resolved :
    relations.combined?.isSome ↔ ∃ link ∈ resolved entity entities,
      ∃ other ∈ resolved entity entities, link.2.bareTable ≠ other.2.bareTable := by
  have known : AreFirst (·.related.bareTable) relations.joins (firstJoins relations.joins) :=
    areFirst_firstJoins fun _ _ _ _ => Iff.rfl
  have tables_eq : relations.joins.map (·.related.bareTable) =
      (resolved entity entities).map (·.2.bareTable) := by
    have pairs := congrArg (List.map fun pair => pair.1.bareTable)
      (map_joinsFrom entity (resolved entity entities) [Text.snakeCase entity.name] 1
        (resolved entity entities))
    rwa [List.map_map, List.map_map, ← joins_of_ofEntity made] at pairs
  have of_tables {α : Type} {table : α → String} {values : List α} :
      (∃ value ∈ values, ∃ other ∈ values, table value ≠ table other) ↔
        ∃ first ∈ values.map table, ∃ second ∈ values.map table, first ≠ second := by
    simp only [List.mem_map, exists_exists_and_eq_and]
  rw [isSome_combined?_iff known, of_tables, tables_eq, ← of_tables]

/-- No query is named like the structure that the functions belong to. -/
theorem name_ne_of_mem_queries
    {query : JoinQuery}
    (member : query ∈ relations.queries) :
    query.name ≠ entity.name ++ "Relations" := by
  have apart (rest : String) : entity.name ++ ("With" ++ rest) ≠ entity.name ++ "Relations" := by
    intro same
    rw [String.append_right_inj, ← String.toList_inj, String.toList_append] at same
    exact absurd (List.cons.inj same).1 (by decide)
  have named : query.name ∈ relations.queries.map (·.name) := List.mem_map_of_mem member
  rw [map_name_queries made] at named
  rcases List.mem_append.mp named with single | combined
  · obtain ⟨link, -, name_eq⟩ := List.mem_map.mp single
    rw [← name_eq, resultName_eq, String.append_assoc]
    exact apart _
  · obtain ⟨_, -, name_eq⟩ := List.mem_map.mp combined
    rw [← name_eq]
    exact apart "Relations"

theorem nodup_map_name_queries_iff
    (distinct : (entities.map (·.name)).Nodup) :
    (relations.queries.map (·.name)).Nodup ↔
      ((resolved entity entities).Pairwise fun link other =>
        ¬ Clash (resolved entity entities) link other) ∧
      ((∃ link ∈ resolved entity entities, ∃ other ∈ resolved entity entities,
          link.2.bareTable ≠ other.2.bareTable) →
        ∀ link ∈ resolved entity entities, link.2.name = "Relations" →
          isShared (resolved entity entities) link.1.table) := by
  rw [map_name_queries made, ← nodup_map_resultName_iff distinct,
    ← isSome_combined?_iff_resolved made]
  have absent_iff : entity.name ++ "WithRelations" ∉
      (resolved entity entities).map (resultName entity (resolved entity entities)) ↔
        ∀ link ∈ resolved entity entities, link.2.name = "Relations" →
          isShared (resolved entity entities) link.1.table := by
    simp only [List.mem_map, resultName_eq_withRelations_iff, not_exists, not_and, not_not]
  cases relations.combined? with
  | none => simp
  | some combined =>
    rw [Option.toList_some, List.map_singleton, List.nodup_append_comm, List.singleton_append,
      List.nodup_cons, absent_iff, and_comm]
    simp

end

/-- The functions of queries have distinct names exactly if the names of the queries differ in more
than case. -/
theorem nodup_map_functionName_iff (queries : List JoinQuery) :
    (queries.map (·.functionName)).Nodup ↔
      ((queries.map (·.name)).map fun name => Text.lowerWords name.toList).Nodup := by
  rw [List.map_map, List.Nodup, List.Nodup, List.pairwise_map, List.pairwise_map]
  refine List.Pairwise.iff fun query other => not_congr ?_
  rw [JoinQuery.functionName, JoinQuery.functionName, String.append_right_inj,
    Text.snakeCase_eq_iff]
  rfl

/-- Code has the names of the queries. -/
theorem names_of_ofRelations
    {relations : Relations}
    {code : JoinCode}
    (made : JoinCode.ofRelations relations = .ok code) :
    code.name.text = relations.entity.name ++ "Relations" ∧
      code.functions.map (·.result.text) = relations.queries.map (·.name) ∧
      code.functions.map (·.name.text) = relations.queries.map (·.functionName) := by
  unfold JoinCode.ofRelations at made
  obtain ⟨subject, -, made⟩ := bind_eq_ok_iff.mp made
  obtain ⟨name, name_ok, made⟩ := bind_eq_ok_iff.mp made
  obtain ⟨functions, functions_ok, made⟩ := bind_eq_ok_iff.mp made
  cases made
  refine ⟨Repository.text_of_ofName name_ok, ?_, ?_⟩
  · exact map_eq_map_of_mapM_eq_ok
      (fun query function made => (isFor_of_joinFunction made).result) functions_ok
  · exact map_eq_map_of_mapM_eq_ok
      (fun query function made => (isFor_of_joinFunction made).name) functions_ok

/-- Among entities with names of their own, the results of join queries have distinct names exactly
if no two links clash, and no entity that a single link leads to is called like the end of the name
of the combined query.  Their functions have distinct names exactly if the names differ in more than
case.  None of the results is named like the structure with the functions. -/
theorem nodup_names_iff_of_ofEntity
    {entity : Entity}
    {entities : List Entity}
    {relations : Relations}
    (made : ofEntity entity entities = .ok (some relations))
    (distinct : (entities.map (·.name)).Nodup) :
    (∀ query ∈ relations.queries, query.name ≠ entity.name ++ "Relations") ∧
      ((relations.queries.map (·.name)).Nodup ↔
        ((resolved entity entities).Pairwise fun link other =>
          ¬ Clash (resolved entity entities) link other) ∧
        ((∃ link ∈ resolved entity entities, ∃ other ∈ resolved entity entities,
            link.2.bareTable ≠ other.2.bareTable) →
          ∀ link ∈ resolved entity entities, link.2.name = "Relations" →
            isShared (resolved entity entities) link.1.table)) ∧
      ((relations.queries.map (·.functionName)).Nodup ↔
        ((relations.queries.map (·.name)).map fun name => Text.lowerWords name.toList).Nodup) ∧
      ∀ code, JoinCode.ofRelations relations = .ok code →
        code.name.text = entity.name ++ "Relations" ∧
          code.functions.map (·.result.text) = relations.queries.map (·.name) ∧
          code.functions.map (·.name.text) = relations.queries.map (·.functionName) := by
  refine ⟨fun query member => name_ne_of_mem_queries made member,
    nodup_map_name_queries_iff made distinct, nodup_map_functionName_iff relations.queries,
    fun code code_ok => ?_⟩
  have named := names_of_ofRelations code_ok
  rwa [entity_of_ofEntity made] at named

/-- The three links of tickets do not clash, so that the functions of their queries have different
names. -/
theorem nodup_names_iff_of_ofEntity_ticket :
    (helpDesk.map (·.name)).Nodup ∧
      ∃ relations, ofEntity ticket helpDesk = .ok (some relations) ∧
        relations.queries.map (·.name) =
          ["TicketWithUserViaOpenedBy", "TicketWithTicket", "TicketWithUserViaClosedBy",
            "TicketWithRelations"] ∧
        ((resolved ticket helpDesk).Pairwise fun link other =>
          ¬ Clash (resolved ticket helpDesk) link other) ∧
        (relations.queries.map (·.functionName)).Nodup := by
  have distinct : (helpDesk.map (·.name)).Nodup := by decide +kernel
  obtain ⟨relations, made, names_eq⟩ :
      ∃ relations, ofEntity ticket helpDesk = .ok (some relations) ∧
        relations.queries.map (·.name) =
          ["TicketWithUserViaOpenedBy", "TicketWithTicket", "TicketWithUserViaClosedBy",
            "TicketWithRelations"] :=
    exists_ofEntity_of_map_eq_some (by decide +kernel)
  obtain ⟨-, names_iff, functions_iff, -⟩ := nodup_names_iff_of_ofEntity made distinct
  rw [names_eq] at names_iff functions_iff
  exact ⟨distinct, relations, made, names_eq, (names_iff.mp (by decide +kernel)).1,
    functions_iff.mpr (by decide +kernel)⟩

/-- A transfer is paid from an account that is given by its number and, with its bank, once more. -/
def transfer : Entity :=
  .ofFields "Transfer"
    [.ofTag "ID" "i64" "pk", .ofTag "Payer" "i64" "fk:account,id",
      .ofTag "PayerBank" "i64" "fk:payer,account,bank",
      .ofTag "PayerNumber" "i64" "fk:payer,account,number"] ""

/-- Accounts, and transfers between them. -/
def bank : List Entity :=
  [.ofFields "Account"
      [.ofTag "ID" "i64" "pk", .ofTag "Bank" "i64" "", .ofTag "Number" "i64" ""] "",
    transfer]

/-- The account of a field and that of a group of the same name in Pascal case have one result and
one function. -/
theorem not_nodup_names_transfer :
    (∀ entity ∈ bank, entity.defect? = none ∧ entity.columns.Nodup) ∧
      (bank.map (·.name)).Nodup ∧ (bank.map (·.bareTable)).Nodup ∧
      ∃ relations, ofEntity transfer bank = .ok (some relations) ∧
        relations.queries.map (·.name) =
          ["TransferWithAccountViaPayer", "TransferWithAccountViaPayer"] ∧
        ¬ (relations.queries.map (·.name)).Nodup ∧
        relations.queries.map (·.functionName) =
          ["get_transfer_with_account_via_payer", "get_transfer_with_account_via_payer"] ∧
        ¬ (relations.queries.map (·.functionName)).Nodup := by
  have valid : ∀ entity ∈ bank, entity.defect? = none ∧ entity.columns.Nodup := by decide +kernel
  have names : (bank.map (·.name)).Nodup := by decide +kernel
  have tables : (bank.map (·.bareTable)).Nodup := by decide +kernel
  obtain ⟨relations, made, shown⟩ :
      ∃ relations, ofEntity transfer bank = .ok (some relations) ∧
        (relations.queries.map (·.name), relations.queries.map (·.functionName)) =
          (["TransferWithAccountViaPayer", "TransferWithAccountViaPayer"],
            ["get_transfer_with_account_via_payer", "get_transfer_with_account_via_payer"]) :=
    exists_ofEntity_of_map_eq_some (by decide +kernel)
  obtain ⟨names_eq, functions_eq⟩ := Prod.mk.inj shown
  refine ⟨valid, names, tables, relations, made, names_eq, ?_, functions_eq, ?_⟩
  · rw [names_eq]
    decide
  · rw [functions_eq]
    decide

end Relations
end Tablewright
