import Tablewright.Proofs.Query.PhraseReading

/-!
# Names without conditions

A name that begins with `Delete` and describes a query may still name no condition.  It does so
exactly if its first `By` belongs to the order, or if nothing but connectors stands between the
first `By` and the order or the end.
-/

namespace Tablewright.Query

open Sql (Connector)

/-! ## Pieces -/

theorem closed_eq_nil_iff (back : List Char) (connector : Option Connector) :
    closed back connector = [] ↔ back = [] := by
  cases back <;> simp [closed]

/-- A connector before a text does not change whether it is made of connectors. -/
theorem exists_connectors_append_iff
    (connector : Connector)
    (rest : List Char) :
    (∃ connectors : List Connector,
        connectorSpelling connector ++ rest = connectors.flatMap connectorSpelling) ↔
      ∃ connectors : List Connector, rest = connectors.flatMap connectorSpelling := by
  constructor
  · rintro ⟨connectors, equal⟩
    match connectors with
    | [] => cases connector <;> simp [connectorSpelling_and, connectorSpelling_or] at equal
    | first :: connectors =>
      have same : connector = first := by
        cases connector <;> cases first <;>
          simp [connectorSpelling_and, connectorSpelling_or] at equal ⊢
      subst same
      exact ⟨connectors, List.append_cancel_left equal⟩
  · rintro ⟨connectors, rfl⟩
    exact ⟨connector :: connectors, rfl⟩

/-- A text leaves no piece if none is open before it and it is made of connectors. -/
theorem piecesAfter_eq_nil_iff (back cs : List Char) :
    piecesAfter back cs = [] ↔
      back = [] ∧ ∃ connectors : List Connector, cs = connectors.flatMap connectorSpelling := by
  fun_induction piecesAfter back cs with
  | case1 back rest ih =>
    have cut := exists_connectors_append_iff .and rest
    rw [connectorSpelling_and] at cut
    rw [List.append_eq_nil_iff, closed_eq_nil_iff, ih, ← cut]
    simp
  | case2 back rest ih =>
    have cut := exists_connectors_append_iff .or rest
    rw [connectorSpelling_or] at cut
    rw [List.append_eq_nil_iff, closed_eq_nil_iff, ih, ← cut]
    simp
  | case3 back c rest not_and not_or ih =>
    rw [ih]
    constructor
    · rintro ⟨open_eq, -⟩
      exact absurd open_eq (by simp)
    · -- A text that begins with a connector would not have gone into the open piece.
      rintro ⟨-, connectors, equal⟩
      cases connectors with
      | nil => simp at equal
      | cons connector connectors =>
        cases connector with
        | and =>
          rw [List.flatMap_cons, connectorSpelling_and] at equal
          obtain ⟨rfl, rfl⟩ := List.cons.inj equal
          exact absurd rfl (not_and _ rfl)
        | or =>
          rw [List.flatMap_cons, connectorSpelling_or] at equal
          obtain ⟨rfl, rfl⟩ := List.cons.inj equal
          exact absurd rfl (not_or _ rfl)
  | case4 back =>
    rw [closed_eq_nil_iff]
    constructor
    · intro back_eq
      exact ⟨back_eq, [], rfl⟩
    · rintro ⟨back_eq, -⟩
      exact back_eq

/-- A text has no pieces exactly if it is made of connectors. -/
theorem pieces_eq_nil_iff (cs : List Char) :
    pieces cs = [] ↔ ∃ connectors : List Connector, cs = connectors.flatMap connectorSpelling := by
  simp [pieces, piecesAfter_eq_nil_iff]

theorem numbered_eq_nil_iff (position : Nat) (pieces : List Piece) :
    numbered position pieces = [] ↔ pieces = [] := by
  cases pieces with
  | nil => simp [numbered]
  | cons piece rest =>
    simp only [numbered, reduceCtorEq, iff_false]
    split <;> simp

/-- Conditions are missing exactly if their text is missing or made of connectors. -/
theorem conditionsOf_eq_nil_iff (name : List Char) :
    conditionsOf pieces name = [] ↔
      conditionText? name = none ∨
        ∃ connectors : List Connector,
          conditionText? name = some (connectors.flatMap connectorSpelling) := by
  cases text_eq : conditionText? name with
  | none => simp [conditionsOf, text_eq]
  | some cs => simp [conditionsOf, text_eq, numbered_eq_nil_iff, pieces_eq_nil_iff]

/-! ## Deletions -/

/-- Subjects and rests of names between which no condition is named. -/
inductive NoCondition : List Char → List Char → Prop
  /-- The first `By` is that of the order. -/
  | order {before rest : List Char} :
      before ≠ [] → ¬ orderWord <:+: rest → NoCondition (before ++ "Order".toList) rest
  /-- Nothing but connectors follows. -/
  | connectors {subject : List Char} (connectors : List Connector) :
      NoCondition subject (connectors.flatMap connectorSpelling)
  /-- Nothing but connectors is before the order. -/
  | connectorsOrder {subject field : List Char} (connectors : List Connector) :
      ¬ orderWord <:+: field →
      NoCondition subject (connectors.flatMap connectorSpelling ++ (orderWord ++ field))

/-- A name that begins with `Delete` and names no condition. -/
def IsBareDeletion (name : List Char) : Prop :=
  ∃ subject rest, name = nameOf .deletion subject rest ∧ ¬ byWord <:+: subject ∧
    NoCondition subject rest

/-- Connectors do not hold the word `OrderBy`. -/
theorem not_infix_connectors (connectors : List Connector) :
    ¬ orderWord <:+: connectors.flatMap connectorSpelling := by
  intro occurs
  have capital : 'B' ∈ orderWord := by decide
  obtain ⟨connector, -, member⟩ := List.mem_flatMap.mp (occurs.mem capital)
  revert member
  cases connector <;> decide

/-- A verb with a subject is not bare. -/
theorem isBareVerb_deletion_append
    {subject : List Char}
    (subject_ne : subject ≠ []) :
    isBareVerb (Verb.deletion.spelling ++ subject) = false := by
  simp [isBareVerb, verbs, Verb.spelling, Verb.word, Verb.digits, subject_ne]

/-- A subject is `Order` alone, ends in `Order` behind something, or does not end so. -/
theorem order_cases (subject : List Char) :
    (subject = "Order".toList ∨ ¬ "Order".toList <:+ subject) ∨
      ∃ before, before ≠ [] ∧ subject = before ++ "Order".toList := by
  by_cases ends : "Order".toList <:+ subject
  · obtain ⟨before, rfl⟩ := ends
    by_cases before_eq : before = []
    · exact Or.inl (Or.inl (by rw [before_eq, List.nil_append]))
    · exact Or.inr ⟨before, before_eq, rfl⟩
  · exact Or.inl (Or.inr ends)

/-- The last order in a rest leaves none behind it. -/
theorem exists_last_order
    {rest : List Char}
    (occurs : orderWord <:+: rest) :
    ∃ conditions field, rest = conditions ++ (orderWord ++ field) ∧ ¬ orderWord <:+: field := by
  have orderWord_ne : orderWord ≠ [] := by simp [orderWord_eq]
  cases last : lastIndex? orderWord rest with
  | none => exact absurd occurs ((lastIndex?_eq_none_iff orderWord_ne).mp last)
  | some index =>
    obtain ⟨conditions, field, rest_eq, -, absent⟩ := exists_of_lastIndex?_eq_some last
    refine ⟨conditions, field, rest_eq, ?_⟩
    intro later
    apply (lastIndex?_eq_none_iff orderWord_ne).mp absent
    exact later.trans ⟨orderWord.tail, [], by simp [orderWord_eq]⟩

/-- A deletion has no conditions exactly if none is named between its subject and its order. -/
theorem conditionsOf_deletion_eq_nil_iff
    {subject rest : List Char}
    (no_by : ¬ byWord <:+: subject) :
    conditionsOf pieces (nameOf .deletion subject rest) = [] ↔ NoCondition subject rest := by
  have regular : Verb.deletion.IsRegular := trivial
  rw [conditionsOf_eq_nil_iff]
  constructor
  · intro missing
    by_cases occurs : orderWord <:+: rest
    · obtain ⟨conditions, field, rfl, no_order⟩ := exists_last_order occurs
      rw [conditionText?_nameOf_rest regular no_by no_order] at missing
      simp only [reduceCtorEq, Option.some.injEq, false_or] at missing
      obtain ⟨connectors, rfl⟩ := missing
      exact .connectorsOrder connectors no_order
    · rcases order_cases subject with kind | ⟨before, before_ne, rfl⟩
      · rw [conditionText?_nameOf_none regular no_by kind occurs] at missing
        simp only [reduceCtorEq, Option.some.injEq, false_or] at missing
        obtain ⟨connectors, rfl⟩ := missing
        exact .connectors connectors
      · exact .order before_ne occurs
  · intro none_named
    cases none_named with
    | order before_ne no_order =>
      exact Or.inl (conditionText?_nameOf_order regular no_by
        (isBareVerb_deletion_append before_ne) no_order)
    | connectors connectors =>
      have no_order := not_infix_connectors connectors
      rcases order_cases subject with kind | ⟨before, before_ne, rfl⟩
      · exact Or.inr ⟨connectors, conditionText?_nameOf_none regular no_by kind no_order⟩
      · exact Or.inl (conditionText?_nameOf_order regular no_by
          (isBareVerb_deletion_append before_ne) no_order)
    | connectorsOrder connectors no_order =>
      exact Or.inr ⟨connectors, conditionText?_nameOf_rest regular no_by no_order⟩

/-- Only names that begin with `Delete` ask for a deletion. -/
theorem verb?_eq_deletion_iff {name rest : List Char} :
    verb? name = some (.deletion, rest) ↔ name = Verb.deletion.spelling ++ rest := by
  constructor
  · intro read
    rcases verb?_cases read with ⟨word, member, rfl⟩ | ⟨single, -⟩
    · obtain rfl : word = "Delete" := by simpa [verbs] using member
      rfl
    · cases single
  · rintro rfl
    exact Verb.verb?_append trivial trivial

/-- What is known of the query that a name describes. -/
theorem described_of_ofName?
    {name : String}
    {query : Query}
    (found : ofName? name = some query) :
    ∃ rest, verb? name.toList = some (query.shape, rest) ∧ isDescribed query.shape rest ∧
      query.conditions = conditionsOf pieces name.toList ∧
      query.order = orderOf name.toList ∧ query.limit = limitOf name.toList := by
  unfold ofName? ofNameWith? at found
  obtain ⟨⟨shape, rest⟩, verb_read, found⟩ := Option.bind_eq_some_iff.mp found
  dsimp only at found
  by_cases described : isDescribed shape rest
  · rw [if_pos described] at found
    cases found
    exact ⟨rest, verb_read, described, rfl, rfl, rfl⟩
  · rw [if_neg described] at found
    cases found

/-- A word after an initial part and before some text occurs first in a name of that form. -/
theorem exists_nameOf_deletion
    {rest : List Char}
    (described : hasInnerBy rest) :
    ∃ subject after, Verb.deletion.spelling ++ rest = nameOf .deletion subject after ∧
      ¬ byWord <:+: subject := by
  have byWord_ne : byWord ≠ [] := by simp [byWord_eq]
  obtain ⟨before, after, -, -, rfl⟩ := hasInnerBy_iff.mp described
  cases first : firstIndex? byWord (before ++ (byWord ++ after)) with
  | none =>
    apply absurd _ (not_infix_of_firstIndex?_eq_none byWord_ne first)
    exact ⟨before, after, by simp⟩
  | some index =>
    obtain ⟨subject, later, rest_eq, -, quiet⟩ := (firstIndex?_eq_some_iff byWord_ne).mp first
    refine ⟨subject, later, ?_, quiet.not_infix byWord_ne⟩
    rw [rest_eq, nameOf, List.append_assoc]

/-- A deletion that a name describes has no conditions exactly if the name is that of a bare
one. -/
theorem conditions_eq_nil_iff_isBareDeletion
    {name : String}
    {query : Query}
    (found : ofName? name = some query)
    (deletion : query.shape = .deletion) :
    query.conditions = [] ↔ IsBareDeletion name.toList := by
  obtain ⟨rest, verb_read, described, conditions_eq, -⟩ := described_of_ofName? found
  rw [deletion] at verb_read described
  rw [conditions_eq, verb?_eq_deletion_iff.mp verb_read]
  obtain ⟨subject, after, name_eq, no_by⟩ := exists_nameOf_deletion described
  rw [name_eq]
  constructor
  · intro missing
    exact ⟨subject, after, rfl, no_by, (conditionsOf_deletion_eq_nil_iff no_by).mp missing⟩
  · rintro ⟨subject', after', same, no_by', none_named⟩
    rw [same]
    exact (conditionsOf_deletion_eq_nil_iff no_by').mpr none_named

end Tablewright.Query
