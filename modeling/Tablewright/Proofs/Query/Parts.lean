import Tablewright.Proofs.Query.Occurrence
import Tablewright.Proofs.Query.Phrase

/-!
# Parts of a name

A name that begins with a verb and holds `By` has a subject before the first `By` and a rest behind
it.  The order begins at the last `OrderBy`, in the rest or at the first `By` itself, and the
conditions are what the order leaves of the rest.
-/

namespace Tablewright.Query

namespace Verb

variable {verb : Verb}

/-- A verb is bare when nothing follows it. -/
theorem isBareVerb_spelling (regular : verb.IsRegular) : isBareVerb verb.spelling := by
  cases verb with
  | top digits =>
    have all_digits : digits.all Char.isDigit := List.all_eq_true.mpr regular.2
    have spelling_eq : (top digits).spelling = 'T' :: 'o' :: 'p' :: digits := by
      simp [spelling, word, Verb.digits]
    simp [spelling_eq, isBareVerb, all_digits]
  | _ => decide

/-- A verb has no capital of the words `By` and `OrderBy`. -/
theorem notMem_spelling
    (regular : verb.IsRegular)
    {c : Char}
    (capital : c = 'B' ∨ c = 'O') :
    c ∉ verb.spelling := by
  cases verb with
  | top digits =>
    have not_top : c ∉ "Top".toList := by
      rcases capital with rfl | rfl <;> decide
    have not_digit : c ∉ digits := by
      intro digit
      rcases capital with rfl | rfl <;> exact absurd (regular.2 _ digit) (by decide)
    exact List.not_mem_append not_top not_digit
  | _ => rcases capital with rfl | rfl <;> decide

end Verb

/-! ## The words of a name -/

/-- The word `OrderBy` begins in no subject that neither holds `By` nor ends in `Order`. -/
theorem quiet_orderWord_subject
    {subject : List Char}
    (no_by : ¬ byWord <:+: subject)
    (no_order : ¬ "Order".toList <:+ subject)
    (rest : List Char) :
    Quiet orderWord subject (byWord ++ rest) := by
  rintro tail tail_ne suffix ⟨more, equal⟩
  have split : "Order".toList ++ (byWord ++ more) = tail ++ (byWord ++ rest) := equal
  rcases List.append_eq_append_iff.mp split with
    ⟨middle, tail_eq, by_eq⟩ | ⟨middle, order_eq, by_eq⟩
  · -- `Order` ends in the subject: `By` follows in the subject or at its end.
    match middle with
    | [] => exact no_order (by simpa [tail_eq] using suffix)
    | [c] => simp [byWord_eq] at by_eq
    | c :: d :: middle =>
      obtain ⟨rfl, rfl, -⟩ : 'B' = c ∧ 'y' = d ∧ more = middle ++ (byWord ++ rest) := by
        simpa [byWord_eq] using by_eq
      apply no_by
      exact List.IsInfix.trans ⟨"Order".toList, middle, by simp [tail_eq, byWord_eq]⟩ suffix.isInfix
  · -- `Order` runs out of the subject, into a word that begins with another letter.
    match middle with
    | [] => exact no_order (by simpa [order_eq] using suffix)
    | c :: middle =>
      have first : c = 'B' := by simpa [byWord_eq] using congrArg List.head? by_eq.symm
      have member : 'B' ∈ "Order".toList := by simp [order_eq, first]
      exact absurd member (by decide)

/-- The word `OrderBy` does not begin in `By`. -/
theorem quiet_orderWord_byWord (rest : List Char) : Quiet orderWord byWord rest := by
  rw [orderWord_eq]
  exact Quiet.of_notMem_head (by decide)

/-- The word `OrderBy` begins in no verb. -/
theorem Verb.quiet_orderWord
    {verb : Verb}
    (regular : verb.IsRegular)
    (rest : List Char) :
    Quiet orderWord verb.spelling rest := by
  rw [orderWord_eq]
  exact Quiet.of_notMem_head (Verb.notMem_spelling regular (Or.inr rfl))

/-- No two occurrences of `OrderBy` overlap. -/
theorem lastIndex?_orderWord_append
    {field : List Char}
    (no_order : ¬ orderWord <:+: field) :
    lastIndex? orderWord (orderWord ++ field) = some 0 := by
  have absent : lastIndex? orderWord field = none :=
    lastIndex?_eq_none_of_quiet (Quiet.of_not_infix_nil no_order)
  rw [orderWord_eq] at absent ⊢
  exact lastIndex?_append_self (Quiet.of_notMem_head (by decide)) absent

/-! ## Verb, subject and rest -/

/-- The name with a verb, a subject, and a rest behind the word `By`. -/
def nameOf
    (verb : Verb)
    (subject rest : List Char) : List Char :=
  (verb.spelling ++ subject) ++ (byWord ++ rest)

section

variable {verb : Verb} {subject conditions rest field : List Char}

/-- The subject of a name ends at the first `By`. -/
theorem firstIndex?_nameOf
    (regular : verb.IsRegular)
    (no_by : ¬ byWord <:+: subject) :
    firstIndex? byWord (nameOf verb subject rest) =
      some (verb.spelling ++ subject).length := by
  have quiet : Quiet byWord (verb.spelling ++ subject) (byWord ++ rest) := by
    rw [Quiet.append_iff]
    constructor
    · rw [byWord_eq]
      exact Quiet.of_notMem_head (Verb.notMem_spelling regular (Or.inl rfl))
    · apply Quiet.of_not_infix no_by
      simp [byWord_eq]
  rw [nameOf, firstIndex?_append_of_quiet quiet, firstIndex?_append_self (by simp [byWord_eq])]
  simp

/-- An order in the rest of a name is its order. -/
theorem orderIndex?_nameOf_rest
    (regular : verb.IsRegular)
    (no_by : ¬ byWord <:+: subject)
    (no_order : ¬ orderWord <:+: field) :
    orderIndex? (nameOf verb subject (conditions ++ (orderWord ++ field))) =
      some ((verb.spelling ++ subject) ++ (byWord ++ conditions)).length := by
  have last : lastIndex? orderWord (nameOf verb subject (conditions ++ (orderWord ++ field))) =
      some ((verb.spelling ++ subject) ++ (byWord ++ conditions)).length := by
    have found := lastIndex?_append_of_eq_some (lastIndex?_orderWord_append no_order)
      ((verb.spelling ++ subject) ++ (byWord ++ conditions))
    simpa only [nameOf, List.append_assoc, Nat.add_zero] using found
  have later : ¬ ((verb.spelling ++ subject) ++ (byWord ++ conditions)).length ≤
      (verb.spelling ++ subject).length := by
    simp [byWord_eq]
  simp only [orderIndex?, last, firstIndex?_nameOf regular no_by, later, decide_false,
    Bool.false_and]
  rfl

/-- A subject that ends in `Order` puts the word `OrderBy` before the rest. -/
theorem nameOf_append_order (verb : Verb) (subject rest : List Char) :
    nameOf verb (subject ++ "Order".toList) rest =
      (verb.spelling ++ subject) ++ (orderWord ++ rest) := by
  simp [nameOf, byWord_eq, orderWord_eq]

theorem lastIndex?_nameOf_order
    (verb : Verb)
    (subject : List Char)
    (no_order : ¬ orderWord <:+: rest) :
    lastIndex? orderWord (nameOf verb (subject ++ "Order".toList) rest) =
      some (verb.spelling ++ subject).length := by
  rw [nameOf_append_order]
  exact lastIndex?_append_of_eq_some (lastIndex?_orderWord_append no_order) _

/-- A name whose first `By` is that of `OrderBy`, not right behind the verb, has its order there. -/
theorem orderIndex?_nameOf_order
    (regular : verb.IsRegular)
    (no_by : ¬ byWord <:+: subject ++ "Order".toList)
    (not_bare : isBareVerb (verb.spelling ++ subject) = false)
    (no_order : ¬ orderWord <:+: rest) :
    orderIndex? (nameOf verb (subject ++ "Order".toList) rest) =
      some (verb.spelling ++ subject).length := by
  have before : (nameOf verb (subject ++ "Order".toList) rest).take
      (verb.spelling ++ subject).length = verb.spelling ++ subject := by
    rw [nameOf_append_order, List.take_left]
  simp only [orderIndex?, lastIndex?_nameOf_order verb subject no_order,
    firstIndex?_nameOf regular no_by, before, not_bare, Bool.and_false]
  rfl

/-- A name has no order if its rest has none and its subject does not end in `Order`, or is no
more than that. -/
theorem orderIndex?_nameOf_none
    (regular : verb.IsRegular)
    (no_by : ¬ byWord <:+: subject)
    (subject_kind : subject = "Order".toList ∨ ¬ "Order".toList <:+ subject)
    (no_order : ¬ orderWord <:+: rest) :
    orderIndex? (nameOf verb subject rest) = none := by
  rcases subject_kind with rfl | not_order
  · -- `OrderBy` right behind the verb is the subject and the word before the conditions.
    have last : lastIndex? orderWord (nameOf verb "Order".toList rest) =
        some verb.spelling.length := by
      simpa using lastIndex?_nameOf_order verb [] no_order
    have before : verb.spelling.length ≤ (verb.spelling ++ "Order".toList).length := by
      simp
    have verb_eq : (nameOf verb "Order".toList rest).take verb.spelling.length =
        verb.spelling := by
      rw [nameOf, List.append_assoc, List.take_left]
    simp only [orderIndex?, last, firstIndex?_nameOf regular no_by, before, verb_eq,
      Verb.isBareVerb_spelling regular, decide_true, Bool.and_self]
    rfl
  · have absent : lastIndex? orderWord rest = none :=
      lastIndex?_eq_none_of_quiet (Quiet.of_not_infix_nil no_order)
    have last : lastIndex? orderWord (nameOf verb subject rest) = none := by
      rw [nameOf, List.append_assoc]
      apply lastIndex?_append_eq_none (Verb.quiet_orderWord regular _)
      apply lastIndex?_append_eq_none (quiet_orderWord_subject no_by not_order _)
      exact lastIndex?_append_eq_none (quiet_orderWord_byWord rest) absent
    simp only [orderIndex?, last]

/-! ## The text of the conditions -/

theorem drop_nameOf (verb : Verb) (subject rest : List Char) :
    (nameOf verb subject rest).drop ((verb.spelling ++ subject).length + byWord.length) =
      rest := by
  rw [nameOf, ← List.append_assoc]
  exact List.drop_left' List.length_append

/-- The conditions are what is before an order in the rest of a name. -/
theorem conditionText?_nameOf_rest
    (regular : verb.IsRegular)
    (no_by : ¬ byWord <:+: subject)
    (no_order : ¬ orderWord <:+: field) :
    conditionText? (nameOf verb subject (conditions ++ (orderWord ++ field))) =
      some conditions := by
  have parts : nameOf verb subject (conditions ++ (orderWord ++ field)) =
      nameOf verb subject conditions ++ (orderWord ++ field) := by
    simp [nameOf]
  have text : ((nameOf verb subject (conditions ++ (orderWord ++ field))).take
      (nameOf verb subject conditions).length).drop
        ((verb.spelling ++ subject).length + byWord.length) = conditions := by
    rw [parts, List.take_left, drop_nameOf]
  have not_own : ¬ (verb.spelling ++ subject).length =
      (nameOf verb subject conditions).length + orderWord.length - byWord.length := by
    simp [nameOf, byWord_eq, orderWord_eq]
    omega
  have before : (verb.spelling ++ subject).length < (nameOf verb subject conditions).length := by
    simp [nameOf, byWord_eq]
  simp only [conditionText?, firstIndex?_nameOf regular no_by,
    orderIndex?_nameOf_rest regular no_by no_order]
  rw [← nameOf, if_neg not_own, if_pos before, text]

/-- There are no conditions if the first `By` is that of the order. -/
theorem conditionText?_nameOf_order
    (regular : verb.IsRegular)
    (no_by : ¬ byWord <:+: subject ++ "Order".toList)
    (not_bare : isBareVerb (verb.spelling ++ subject) = false)
    (no_order : ¬ orderWord <:+: rest) :
    conditionText? (nameOf verb (subject ++ "Order".toList) rest) = none := by
  have own : (verb.spelling ++ (subject ++ "Order".toList)).length =
      (verb.spelling ++ subject).length + orderWord.length - byWord.length := by
    simp [byWord_eq, orderWord_eq]
    omega
  simp only [conditionText?, firstIndex?_nameOf regular no_by,
    orderIndex?_nameOf_order regular no_by not_bare no_order]
  rw [if_pos own]

/-- The conditions of a name without an order are all of its rest. -/
theorem conditionText?_nameOf_none
    (regular : verb.IsRegular)
    (no_by : ¬ byWord <:+: subject)
    (subject_kind : subject = "Order".toList ∨ ¬ "Order".toList <:+ subject)
    (no_order : ¬ orderWord <:+: rest) :
    conditionText? (nameOf verb subject rest) = some rest := by
  simp only [conditionText?, firstIndex?_nameOf regular no_by,
    orderIndex?_nameOf_none regular no_by subject_kind no_order, drop_nameOf]

end

end Tablewright.Query
