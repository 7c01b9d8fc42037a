import Tablewright.Proofs.Query.Parts
import Tablewright.Proofs.Query.TermReading

/-!
# Reading phrases

The spelling of a regular phrase is read as its meaning.  Four scans read the name independently of
each other; each of them is shown to stop exactly at the parts that it is meant for.
-/

namespace Tablewright.Query

open Sql (Connector Operator)

/-! ## Verbs -/

namespace Verb

variable {verb : Verb} {rest : List Char}

/-- A limited verb is `Top` and its digits. -/
theorem top_spelling_append (digits rest : List Char) :
    (top digits).spelling ++ rest = "Top".toList ++ (digits ++ rest) :=
  List.append_assoc "Top".toList digits rest

/-- The digits after `Top` end where the subject begins. -/
theorem topDigits?_append
    {digits : List Char}
    (regular : (top digits).IsRegular)
    (precedes : (top digits).Precedes rest) :
    topDigits? ("Top".toList ++ (digits ++ rest)) = some digits := by
  obtain ⟨digits_ne, all_digits⟩ := regular
  have taken : (digits ++ rest).takeWhile Char.isDigit = digits := by
    rw [List.takeWhile_append_of_pos all_digits]
    cases rest with
    | nil => simp
    | cons c rest =>
      have not_digit : ¬ c.isDigit := precedes c rfl
      simp [not_digit]
  simp [topDigits?, taken, digits_ne]

/-- A name that begins with no word of the table has the verb that its digits make. -/
theorem verb?_of_topDigits
    {name digits : List Char}
    (no_word : verbs.find? (fun (word, _) => word.toList.isPrefixOf name) = none)
    (read : topDigits? name = some digits) :
    verb? name = some (.single, name.drop (3 + digits.length)) := by
  rw [verb?, no_word, read]
  rfl

/-- The verb of a name is the one that it begins with. -/
theorem verb?_append
    (regular : verb.IsRegular)
    (precedes : verb.Precedes rest) :
    verb? (verb.spelling ++ rest) = some (verb.shape, rest) := by
  cases verb with
  | top digits =>
    have read := topDigits?_append regular precedes
    have no_word : verbs.find? (fun (word, _) =>
        word.toList.isPrefixOf ("Top".toList ++ (digits ++ rest))) = none := by
      simp [verbs]
    have dropped : ("Top".toList ++ (digits ++ rest)).drop (3 + digits.length) = rest := by
      rw [← List.append_assoc]
      exact List.drop_left' (by simp; omega)
    rw [top_spelling_append, verb?_of_topDigits no_word read, dropped]
    rfl
  | _ => rfl

/-- The limit of a name is the one that its verb gives. -/
theorem limitOf_append
    (regular : verb.IsRegular)
    (precedes : verb.Precedes rest) :
    limitOf (verb.spelling ++ rest) = verb.limit := by
  cases verb with
  | top digits =>
    have read := topDigits?_append regular precedes
    have not_first : ¬ "First".toList.isPrefixOf ("Top".toList ++ (digits ++ rest)) := by
      simp
    rw [top_spelling_append, limitOf, if_neg not_first, read]
    simp [limit, Option.filter]
  | _ => rfl

end Verb

/-- A verb that is read is a word of the table, or is made of `Top` and digits. -/
theorem verb?_cases
    {name rest : List Char}
    {shape : Shape}
    (read : verb? name = some (shape, rest)) :
    (∃ word, (word, shape) ∈ verbs ∧ name = word.toList ++ rest) ∨
      (shape = .single ∧ ∃ digits, topDigits? name = some digits) := by
  unfold verb? at read
  split at read
  · next word found_shape found =>
    obtain ⟨rfl, rest_eq⟩ := Prod.mk.inj (Option.some.inj read)
    have begins := List.find?_some found
    obtain ⟨after, rfl⟩ := List.isPrefixOf_iff_prefix.mp begins
    rw [← String.length_toList, List.drop_left] at rest_eq
    exact .inl ⟨word, List.mem_of_find?_eq_some found, by rw [rest_eq]⟩
  · obtain ⟨digits, found, made⟩ := Option.map_eq_some_iff.mp read
    exact .inr ⟨(congrArg Prod.fst made).symm, digits, found⟩

/-! ## Terms and orders -/

/-- A regular term begins with a capital. -/
theorem Term.IsRegular.exists_capital
    {term : Term}
    (regular : term.IsRegular) :
    ∃ c rest, term.spelling = c :: rest ∧ c.isUpper := by
  obtain ⟨c, rest, field_eq, capital⟩ := regular.capital
  by_cases negated : term.operator = .ne
  · exact ⟨'N', _, by rw [Term.spelling, if_pos negated]; rfl, by decide⟩
  · exact ⟨c, rest ++ operatorEnding term.operator, by simp [Term.spelling, negated, field_eq],
      capital⟩

/-- The word `OrderBy` does not begin in a connector before a capital. -/
theorem quiet_orderWord_connector
    {c : Char}
    (capital : c.isUpper)
    (connector : Connector)
    (rest : List Char) :
    Quiet orderWord (connectorSpelling connector) (c :: rest) := by
  have not_small : 'd' ≠ c := by
    rintro rfl
    exact absurd capital (by decide)
  cases connector with
  | and => exact Quiet.of_notMem_head (by decide)
  | or => simp [connectorSpelling_or, orderWord_eq, Quiet.cons_iff, not_small]

/-- The word `OrderBy` begins in no regular term before a connector, an order or the end. -/
theorem Term.IsRegular.quiet_orderWord
    {term : Term}
    {rest : List Char}
    (regular : term.IsRegular)
    (edge : ∀ c ∈ rest.head?, c = 'A' ∨ c = 'O') :
    Quiet orderWord term.spelling rest := by
  apply Quiet.of_not_infix
  · intro occurs
    have begins : connectorSpelling .or <:+: orderWord := by decide
    exact regular.no_connector .or (begins.trans occurs)
  · intro c first
    rcases edge c first with rfl | rfl <;> decide

/-- Regular terms begin with a capital. -/
theorem exists_capital_termsSpelling
    {terms : List (Term × Connector)}
    {last : Term}
    (regular : ∀ term ∈ connect terms last, term.1.IsRegular) :
    ∃ c rest, termsSpelling (connect terms last) = c :: rest ∧ c.isUpper := by
  cases terms with
  | nil =>
    have last_regular : last.IsRegular := regular (last, none) (by simp [connect])
    simpa using last_regular.exists_capital
  | cons head terms =>
    have head_regular : head.1.IsRegular := regular (head.1, some head.2) (by simp [connect])
    obtain ⟨c, rest, spelling_eq, capital⟩ := head_regular.exists_capital
    rw [termsSpelling_connect_cons, spelling_eq]
    exact ⟨c, _, rfl, capital⟩

/-- The word `OrderBy` begins in no regular terms before an order or the end. -/
theorem quiet_orderWord_termsSpelling
    {terms : List (Term × Connector)}
    {last : Term}
    {rest : List Char}
    (regular : ∀ term ∈ connect terms last, term.1.IsRegular)
    (edge : ∀ c ∈ rest.head?, c = 'O') :
    Quiet orderWord (termsSpelling (connect terms last)) rest := by
  induction terms with
  | nil =>
    have last_regular : last.IsRegular := regular (last, none) (by simp [connect])
    rw [termsSpelling_connect_nil]
    exact last_regular.quiet_orderWord fun c first => Or.inr (edge c first)
  | cons head terms ih =>
    obtain ⟨term, connector⟩ := head
    have term_regular : term.IsRegular := regular (term, some connector) (by simp [connect])
    have regular_terms : ∀ other ∈ connect terms last, other.1.IsRegular :=
      fun other member => regular other (by simpa [connect] using Or.inr member)
    obtain ⟨c, more, spelling_eq, capital⟩ := exists_capital_termsSpelling regular_terms
    rw [termsSpelling_connect_cons, Quiet.append_iff, Quiet.append_iff]
    refine ⟨term_regular.quiet_orderWord ?_, ?_, ih regular_terms⟩
    · cases connector <;> simp [connectorSpelling_and, connectorSpelling_or]
    · rw [spelling_eq]
      exact quiet_orderWord_connector capital connector (more ++ rest)

namespace Order

/-- A direction begins with a capital that is not in the rest of `OrderBy`. -/
theorem quiet_orderWord_field
    {order : Order}
    (regular : order.IsRegular) :
    Quiet orderWord order.field order.direction.spelling := by
  apply Quiet.of_not_infix regular.no_order
  intro c first
  cases direction_eq : order.direction with
  | unsaid =>
    rw [direction_eq] at first
    contradiction
  | ascending | descending =>
    rw [direction_eq] at first
    obtain rfl : _ = c := Option.some.inj first
    decide

/-- No other order begins behind the word `OrderBy` of a regular order. -/
theorem not_infix_orderWord
    {order : Order}
    (regular : order.IsRegular) :
    ¬ orderWord <:+: order.field ++ order.direction.spelling := by
  have no_direction : Quiet orderWord order.direction.spelling [] := by
    rw [orderWord_eq]
    apply Quiet.of_notMem_head
    cases order.direction <;> decide
  have quiet : Quiet orderWord (order.field ++ order.direction.spelling) [] := by
    rw [Quiet.append_iff, List.append_nil]
    exact ⟨quiet_orderWord_field regular, no_direction⟩
  exact quiet.not_infix (by simp [orderWord_eq])

/-- The text of a regular order is its field and its direction. -/
theorem directed_spelling
    {order : Order}
    (regular : order.IsRegular) :
    directed (order.field ++ order.direction.spelling) =
      (order.field, order.direction.keyword) := by
  unfold directed
  cases direction_eq : order.direction with
  | descending =>
    have read : Text.beforeEnd? "Desc".toList (order.field ++ "Desc".toList) = some order.field :=
      Text.beforeEnd?_append order.field "Desc".toList
    simp only [Direction.spelling, Direction.word, Direction.keyword, read]
  | ascending =>
    have not_descending :
        Text.beforeEnd? "Desc".toList (order.field ++ "Asc".toList) = none :=
      Text.beforeEnd?_eq_none (Text.not_suffix_append (by decide) (by decide))
    have read : Text.beforeEnd? "Asc".toList (order.field ++ "Asc".toList) = some order.field :=
      Text.beforeEnd?_append order.field "Asc".toList
    simp only [Direction.spelling, Direction.word, Direction.keyword, not_descending, read]
  | unsaid =>
    obtain ⟨not_asc, not_desc⟩ := regular.no_direction direction_eq
    have bare : order.field ++ Direction.unsaid.spelling = order.field :=
      List.append_nil order.field
    simp only [bare, Text.beforeEnd?_eq_none not_desc, Text.beforeEnd?_eq_none not_asc,
      Direction.keyword]

end Order

/-! ## Phrases -/

namespace Phrase

variable {phrase : Phrase}

/-- The rest of the name of a phrase: its conditions, and its order if there is one. -/
theorem spelling_eq (phrase : Phrase) :
    phrase.spelling = nameOf phrase.verb phrase.subject
      (termsSpelling phrase.connected ++ phrase.orderSpelling) := by
  simp only [spelling, nameOf, List.append_assoc]

theorem spelling_of_order_eq_some
    {order : Order}
    (order_eq : phrase.order = some order) :
    phrase.spelling = nameOf phrase.verb phrase.subject (termsSpelling phrase.connected ++
      (orderWord ++ (order.field ++ order.direction.spelling))) := by
  rw [spelling_eq, orderSpelling, order_eq, Option.map_some, Option.getD_some, Order.spelling,
    List.append_assoc]

theorem spelling_of_order_eq_none (order_eq : phrase.order = none) :
    phrase.spelling =
      nameOf phrase.verb phrase.subject (termsSpelling phrase.connected) := by
  rw [spelling_eq, orderSpelling, order_eq, Option.map_none, Option.getD_none, List.append_nil]

/-- The word `OrderBy` does not occur in the conditions of a regular phrase. -/
theorem IsRegular.not_infix_orderWord (regular : phrase.IsRegular) :
    ¬ orderWord <:+: termsSpelling phrase.connected := by
  have quiet : Quiet orderWord (termsSpelling phrase.connected) [] :=
    quiet_orderWord_termsSpelling regular.terms (by simp)
  exact quiet.not_infix (by simp [orderWord_eq])

/-- The conditions of a regular phrase are read from their own text alone. -/
theorem IsRegular.conditionText?_spelling (regular : phrase.IsRegular) :
    conditionText? phrase.spelling = some (termsSpelling phrase.connected) := by
  cases order_eq : phrase.order with
  | none =>
    rw [spelling_of_order_eq_none order_eq]
    exact conditionText?_nameOf_none regular.verb regular.no_by regular.no_order
      regular.not_infix_orderWord
  | some order =>
    rw [spelling_of_order_eq_some order_eq]
    exact conditionText?_nameOf_rest regular.verb regular.no_by
      (Order.not_infix_orderWord (regular.order order order_eq))

/-- The order of a regular phrase is read as it is meant. -/
theorem IsRegular.orderOf_spelling (regular : phrase.IsRegular) :
    orderOf phrase.spelling = phrase.order.map Order.meaning := by
  cases order_eq : phrase.order with
  | none =>
    rw [spelling_of_order_eq_none order_eq, orderOf, orderIndex?_nameOf_none regular.verb
      regular.no_by regular.no_order regular.not_infix_orderWord]
    rfl
  | some order =>
    have order_regular : order.IsRegular := regular.order order order_eq
    have parts : phrase.spelling =
        (((phrase.verb.spelling ++ phrase.subject) ++
          (byWord ++ termsSpelling phrase.connected)) ++ orderWord) ++
          (order.field ++ order.direction.spelling) := by
      simp [spelling_of_order_eq_some order_eq, nameOf]
    have text : phrase.spelling.drop (((phrase.verb.spelling ++ phrase.subject) ++
        (byWord ++ termsSpelling phrase.connected)).length + orderWord.length) =
          order.field ++ order.direction.spelling := by
      rw [parts]
      exact List.drop_left' List.length_append
    have index : orderIndex? phrase.spelling = some ((phrase.verb.spelling ++ phrase.subject) ++
        (byWord ++ termsSpelling phrase.connected)).length := by
      rw [spelling_of_order_eq_some order_eq]
      exact orderIndex?_nameOf_rest regular.verb regular.no_by
        (Order.not_infix_orderWord order_regular)
    have field_ne : order.field.isEmpty = false := by
      simpa using order_regular.field_ne
    rw [orderOf, index, Option.bind_some, text, Order.directed_spelling order_regular]
    simp only [field_ne, Option.map_some, Order.meaning]
    rfl

/-- A regular phrase describes a query: something is before and behind its first `By`. -/
theorem IsRegular.isDescribed (regular : phrase.IsRegular) :
    Query.isDescribed phrase.verb.shape (phrase.subject ++
      (byWord ++ (termsSpelling phrase.connected ++ phrase.orderSpelling))) := by
  obtain ⟨c, rest, terms_eq, -⟩ := exists_capital_termsSpelling regular.terms
  have terms_ne : termsSpelling phrase.connected ≠ [] := by
    rw [connected, terms_eq]
    exact List.cons_ne_nil c rest
  have inner : hasInnerBy (phrase.subject ++
      (byWord ++ (termsSpelling phrase.connected ++ phrase.orderSpelling))) :=
    hasInnerBy_iff.mpr ⟨phrase.subject, _, regular.subject_ne, by simp [terms_ne], rfl⟩
  cases shape_eq : phrase.verb.shape with
  | count => simp [Query.isDescribed, regular.subject_ne]
  | _ => simpa only [Query.isDescribed] using inner

/-- The subject keeps the digits of a verb apart from what follows. -/
theorem IsRegular.precedes
    (regular : phrase.IsRegular)
    (rest : List Char) :
    phrase.verb.Precedes (phrase.subject ++ rest) := by
  have precedes := regular.verb_precedes
  obtain ⟨c, subject, subject_eq⟩ := List.exists_cons_of_ne_nil regular.subject_ne
  rw [subject_eq] at precedes ⊢
  cases verb_eq : phrase.verb <;> rw [verb_eq] at precedes <;> exact precedes

end Phrase

/-- The name of a regular phrase is read as the query that the phrase means. -/
theorem ofName?_spelling
    {phrase : Phrase}
    (regular : phrase.IsRegular) :
    ofName? (String.ofList phrase.spelling) = some phrase.meaning := by
  have precedes := regular.precedes
    (byWord ++ (termsSpelling phrase.connected ++ phrase.orderSpelling))
  have verb_read : verb? phrase.spelling = some (phrase.verb.shape, phrase.subject ++
      (byWord ++ (termsSpelling phrase.connected ++ phrase.orderSpelling))) :=
    Verb.verb?_append regular.verb precedes
  have limit_read : limitOf phrase.spelling = phrase.verb.limit :=
    Verb.limitOf_append regular.verb precedes
  have conditions_read : conditionsOf pieces phrase.spelling =
      conditionsFrom 1 phrase.connected := by
    simp only [conditionsOf, regular.conditionText?_spelling]
    rw [Phrase.connected, pieces_termsSpelling regular.terms]
    exact numbered_map_spelling regular.terms 1
  rw [ofName?, ofNameWith?, String.toList_ofList, verb_read, Option.bind_some]
  simp only [regular.isDescribed, if_true, conditions_read, regular.orderOf_spelling, limit_read]
  rfl

/-- A phrase with a limit, three kinds of operators, both connectors and an order. -/
def topUsers : Phrase :=
  { verb := .top "10".toList
    subject := "Users".toList
    terms := [(⟨"Role".toList, .isIn⟩, .and), (⟨"Active".toList, .ne⟩, .or)]
    last := ⟨"CreatedAt".toList, .gt⟩
    order := some ⟨"CreatedAt".toList, .descending⟩ }

theorem topUsers_isRegular : topUsers.IsRegular where
  verb := ⟨by decide, List.all_eq_true.mp rfl⟩
  subject_ne := by decide
  verb_precedes := by simp [topUsers, Verb.Precedes]
  no_by := by decide
  no_order := Or.inr (by decide)
  terms := by
    have role : Term.IsRegular ⟨"Role".toList, .isIn⟩ :=
      { capital := ⟨'R', "ole".toList, by decide, by decide⟩
        no_connector := by rintro (_ | _) <;> decide
        no_ending := by rintro (h | h) <;> cases h
        no_negation := by rintro ⟨⟩
        no_exclusion := fun _ => Or.inr (by decide) }
    have active : Term.IsRegular ⟨"Active".toList, .ne⟩ :=
      { capital := ⟨'A', "ctive".toList, by decide, by decide⟩
        no_connector := by rintro (_ | _) <;> decide
        no_ending := fun _ => by rw [← suffixed?_isSome_iff]; decide
        no_negation := by rintro ⟨⟩
        no_exclusion := by rintro ⟨⟩ }
    have createdAt : Term.IsRegular ⟨"CreatedAt".toList, .gt⟩ :=
      { capital := ⟨'C', "reatedAt".toList, by decide, by decide⟩
        no_connector := by rintro (_ | _) <;> decide
        no_ending := by rintro (h | h) <;> cases h
        no_negation := by rintro ⟨⟩
        no_exclusion := by rintro ⟨⟩ }
    exact List.forall_mem_cons.mpr ⟨role, List.forall_mem_cons.mpr ⟨active,
      List.forall_mem_singleton.mpr createdAt⟩⟩
  order := by
    rintro order ⟨⟩
    exact ⟨by decide, by decide, by rintro ⟨⟩⟩

theorem ofName?_topUsers :
    topUsers.IsRegular ∧
      String.ofList topUsers.spelling =
        "Top10UsersByRoleInAndNotActiveOrCreatedAtGreaterThanOrderByCreatedAtDesc" ∧
      ofName? (String.ofList topUsers.spelling) = some topUsers.meaning :=
  ⟨topUsers_isRegular, by decide, ofName?_spelling topUsers_isRegular⟩

end Tablewright.Query
