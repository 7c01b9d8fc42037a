import Tablewright.Contract.Convention
import Tablewright.Proofs.Query.Conditionless
import Tablewright.Proofs.Text.Slice

/-!
# Names cut at their bytes

What is read out of a method name lies between two bytes of the name.  Each reader is stated again
with the bytes at which it cuts; all of them lie between characters, in every name, and what is cut
is what the reader reads.
-/

namespace Tablewright.Query

open Sql (Connector)
open Text (OutOfBounds size slice byteAt)

/-! ## Verb and limit -/

/-- The digits after `Top`, cut out of what follows it. -/
def slicedDigits? (name : List Char) : Except OutOfBounds (Option (List Char)) :=
  match Text.afterPrefix? "Top".toList name with
  | none => .ok none
  | some rest =>
    let stop := size (rest.takeWhile Char.isDigit)
    if 0 < stop then some <$> slice rest 0 stop else .ok none

/-- The verb of a name and the byte at which it ends. -/
def slicedVerbEnd? (name : List Char) : Except OutOfBounds (Option (Shape × Nat)) :=
  match verbs.find? fun (word, _) => word.toList.isPrefixOf name with
  | some (word, shape) => .ok (some (shape, size word.toList))
  | none => do
    let digits? ← slicedDigits? name
    return digits?.map fun digits => (.single, 3 + size digits)

/-- The verb of a name and the rest, which is cut off behind it. -/
def slicedVerb? (name : List Char) : Except OutOfBounds (Option (Shape × List Char)) := do
  match ← slicedVerbEnd? name with
  | none => return none
  | some (shape, stop) => return some (shape, ← slice name stop (size name))

/-- The limit that a name gives. -/
def slicedLimit? (name : List Char) : Except OutOfBounds (Option Nat) :=
  if "First".toList.isPrefixOf name then .ok (some 1)
  else do
    let digits? ← slicedDigits? name
    return digits?.bind fun digits =>
      let limit := Text.numeralValue 10 digits
      if limit < limitBound then some limit else none

theorem topDigits?_eq (name : List Char) :
    topDigits? name = (Text.afterPrefix? "Top".toList name).bind fun rest =>
      if (rest.takeWhile Char.isDigit).isEmpty then none
      else some (rest.takeWhile Char.isDigit) := by
  unfold topDigits?
  split
  · next rest => rfl
  · next other =>
    cases found : Text.afterPrefix? "Top".toList name with
    | none => rfl
    | some rest => exact absurd (Text.eq_append_of_afterPrefix? found) (other rest)

theorem slicedDigits?_eq (name : List Char) : slicedDigits? name = .ok (topDigits? name) := by
  rw [slicedDigits?, topDigits?_eq]
  cases Text.afterPrefix? "Top".toList name with
  | none => rfl
  | some rest =>
    have cut := Text.slice_start (rest.takeWhile Char.isDigit) (rest.dropWhile Char.isDigit)
    rw [List.takeWhile_append_dropWhile] at cut
    simp only [cut, Text.size_pos_iff, List.isEmpty_iff, ne_eq, ite_not, Option.bind_some]
    split <;> rfl

theorem exists_of_topDigits?_eq_some
    {name digits : List Char}
    (found : topDigits? name = some digits) :
    ∃ rest, name = "Top".toList ++ digits ++ rest := by
  rw [topDigits?_eq, Option.bind_eq_some_iff] at found
  obtain ⟨rest, after, digits_eq⟩ := found
  split at digits_eq
  · cases digits_eq
  · obtain rfl := Option.some.inj digits_eq
    refine ⟨rest.dropWhile Char.isDigit, ?_⟩
    rw [List.append_assoc, List.takeWhile_append_dropWhile]
    exact Text.eq_append_of_afterPrefix? after

theorem slicedVerb?_eq (name : List Char) : slicedVerb? name = .ok (verb? name) := by
  unfold slicedVerb? slicedVerbEnd? verb?
  cases found : verbs.find? fun (word, _) => word.toList.isPrefixOf name with
  | some entry =>
    obtain ⟨word, shape⟩ := entry
    have begins := List.find?_some found
    obtain ⟨rest, rfl⟩ : word.toList <+: name := List.isPrefixOf_iff_prefix.mp begins
    simp only [Text.ok_bind, Text.slice_rest]
    rw [← String.length_toList, List.drop_left]
    rfl
  | none =>
    simp only [slicedDigits?_eq, Text.ok_bind]
    cases digits_eq : topDigits? name with
    | none => rfl
    | some digits =>
      obtain ⟨rest, rfl⟩ := exists_of_topDigits?_eq_some digits_eq
      have stop_eq : 3 + size digits = size ("Top".toList ++ digits) := by
        rw [Text.size_append]
        rfl
      have length_eq : 3 + digits.length = ("Top".toList ++ digits).length := by
        rw [List.length_append]
        rfl
      simp only [Option.map_some, pure_bind, stop_eq, Text.slice_rest, Text.ok_bind]
      rw [length_eq, List.drop_left]
      rfl

theorem slicedLimit?_eq (name : List Char) : slicedLimit? name = .ok (limitOf name) := by
  unfold slicedLimit? limitOf
  rw [slicedDigits?_eq]
  split <;> rfl

/-! ## Order -/

/-- Where the order of a name begins; what is before it is cut off to see whether it is a verb
alone. -/
def slicedOrderIndex? (name : List Char) : Except OutOfBounds (Option Nat) :=
  match lastIndex? orderWord name with
  | none => .ok none
  | some order =>
    match firstIndex? byWord name with
    | none => .ok (some order)
    | some first =>
      if order ≤ first then do
        let before ← slice name 0 (byteAt name order)
        return if isBareVerb before then none else some order
      else .ok (some order)

/-- The order that a name gives, cut off behind `OrderBy`. -/
def slicedOrder? (name : List Char) : Except OutOfBounds (Option String) := do
  match ← slicedOrderIndex? name with
  | none => return none
  | some order =>
    let (field, direction) :=
      directed (← slice name (byteAt name order + size orderWord) (size name))
    return if field.isEmpty then none
      else some (Text.snakeCase (String.ofList field) ++ " " ++ direction)

theorem slicedOrderIndex?_eq (name : List Char) :
    slicedOrderIndex? name = .ok (orderIndex? name) := by
  unfold slicedOrderIndex? orderIndex?
  cases lastIndex? orderWord name with
  | none => rfl
  | some order =>
    cases firstIndex? byWord name with
    | none => rfl
    | some first =>
      simp only [Text.slice_zero_byteAt, Bool.and_eq_true, decide_eq_true_iff]
      by_cases behind : order ≤ first
      · rw [if_pos behind]
        simp only [behind, true_and]
        rfl
      · rw [if_neg behind, if_neg (mt And.left behind)]

theorem lastIndex?_of_orderIndex?_eq_some
    {name : List Char}
    {order : Nat}
    (found : orderIndex? name = some order) :
    lastIndex? orderWord name = some order := by
  unfold orderIndex? at found
  split at found
  · cases found
  · next last =>
    split at found
    · split at found
      · cases found
      · rw [last, found]
    · rw [last, found]

/-- Behind a word that a text has at a position, the rest is cut off whole. -/
theorem slice_behind
    (before word after : List Char) :
    slice (before ++ (word ++ after))
        (byteAt (before ++ (word ++ after)) before.length + size word)
        (size (before ++ (word ++ after))) =
      .ok ((before ++ (word ++ after)).drop (before.length + word.length)) := by
  rw [← Text.byteAt_append, Text.slice_byteAt_size]

theorem slicedOrder?_eq (name : List Char) : slicedOrder? name = .ok (orderOf name) := by
  unfold slicedOrder? orderOf
  rw [slicedOrderIndex?_eq]
  cases found : orderIndex? name with
  | none => rfl
  | some order =>
    obtain ⟨before, after, rfl, rfl, -⟩ :=
      exists_of_lastIndex?_eq_some (lastIndex?_of_orderIndex?_eq_some found)
    simp only [Text.ok_bind, slice_behind]
    rfl

/-! ## Conditions -/

/-- The text of the conditions of a name, cut out between the first `By` and the order. -/
def slicedConditionText? (name : List Char) : Except OutOfBounds (Option (List Char)) :=
  match firstIndex? byWord name with
  | none => .ok none
  | some first => do
    let start := byteAt name first + size byWord
    match ← slicedOrderIndex? name with
    | none => some <$> slice name start (size name)
    | some order =>
      if first = order + orderWord.length - byWord.length then return none
      else if first < order then some <$> slice name start (byteAt name order)
      else some <$> slice name start (size name)

/-- The first `By` of a name ends before an order that begins behind it. -/
theorem add_length_le_of_lt
    {name : List Char}
    {first order : Nat}
    (first_eq : firstIndex? byWord name = some first)
    (order_eq : lastIndex? orderWord name = some order)
    (before : first < order) :
    first + byWord.length ≤ order := by
  obtain ⟨start, rest, name_eq, rfl, -⟩ := (firstIndex?_eq_some_iff (by decide)).mp first_eq
  obtain ⟨until_order, after, name_eq', rfl, -⟩ := exists_of_lastIndex?_eq_some order_eq
  by_contra early
  have next : until_order.length = start.length + 1 := by
    have two : byWord.length = 2 := rfl
    omega
  have letters : name[start.length + 1]? = some 'y' ∧ name[start.length + 1]? = some 'O' := by
    constructor
    · rw [name_eq, List.getElem?_append_right (Nat.le_add_right _ _), Nat.add_sub_cancel_left]
      rfl
    · rw [name_eq', ← next, List.getElem?_append_right (Nat.le_refl _), Nat.sub_self]
      rfl
  rw [letters.1] at letters
  exact absurd letters.2 (by decide)

theorem slicedConditionText?_eq (name : List Char) :
    slicedConditionText? name = .ok (conditionText? name) := by
  unfold slicedConditionText? conditionText?
  cases first_eq : firstIndex? byWord name with
  | none => rfl
  | some first =>
    obtain ⟨before, after, name_eq, rfl, -⟩ := (firstIndex?_eq_some_iff (by decide)).mp first_eq
    have start_eq : byteAt name before.length + size byWord =
        byteAt name (before.length + byWord.length) := by
      rw [name_eq, Text.byteAt_append]
    simp only [slicedOrderIndex?_eq, start_eq, Text.slice_byteAt_size, Text.ok_bind]
    cases order_eq : orderIndex? name with
    | none => rfl
    | some order =>
      simp only
      split
      · rfl
      · split
        · next behind =>
          have ordered :=
            add_length_le_of_lt first_eq (lastIndex?_of_orderIndex?_eq_some order_eq) behind
          rw [Text.slice_byteAt name ordered]
          rfl
        · rfl

/-! ## Pieces -/

/-- The connector that a text begins with. -/
def connector? (cs : List Char) : Option Connector :=
  if (connectorSpelling .and).isPrefixOf cs then some .and
  else if (connectorSpelling .or).isPrefixOf cs then some .or
  else none

theorem size_connectorSpelling_pos (connector : Connector) :
    0 < size (connectorSpelling connector) := by
  cases connector <;> decide

theorem connectorSpelling_append_of_connector?
    {cs : List Char}
    {connector : Connector}
    (found : connector? cs = some connector) :
    ∃ after, cs = connectorSpelling connector ++ after := by
  unfold connector? at found
  split at found
  · next begins =>
    obtain rfl := Option.some.inj found
    obtain ⟨after, same⟩ := List.isPrefixOf_iff_prefix.mp begins
    exact ⟨after, same.symm⟩
  · split at found
    · next begins =>
      obtain rfl := Option.some.inj found
      obtain ⟨after, same⟩ := List.isPrefixOf_iff_prefix.mp begins
      exact ⟨after, same.symm⟩
    · cases found

/-- The piece between two bytes; none if there is nothing between them. -/
def slicedPiece
    (cs : List Char)
    (start stop : Nat)
    (connector : Option Connector) : Except OutOfBounds (List Piece) :=
  if start < stop then (fun text => [{ text, connector }]) <$> slice cs start stop else .ok []

/-- The pieces of a text from a byte on, the open one begun at an earlier byte. -/
def slicedPiecesFrom
    (cs : List Char)
    (start current : Nat) : Except OutOfBounds (List Piece) :=
  if current < size cs then do
    let rest ← slice cs current (size cs)
    match connector? rest with
    | some connector => do
      let piece ← slicedPiece cs start current (some connector)
      let behind := current + size (connectorSpelling connector)
      let later ← slicedPiecesFrom cs behind behind
      return piece ++ later
    | none => slicedPiecesFrom cs start (current + (rest.head?.map Char.utf8Size).getD 1)
  else slicedPiece cs start (size cs) none
termination_by size cs - current
decreasing_by
  · have spelled := size_connectorSpelling_pos connector
    omega
  · have positive : 0 < (rest.head?.map Char.utf8Size).getD 1 := by
      cases rest with
      | nil => decide
      | cons c => exact c.utf8Size_pos
    omega

theorem slicedPiece_eq
    (before back after : List Char)
    (connector : Option Connector) :
    slicedPiece (before ++ (back.reverse ++ after)) (size before) (size before + size back)
        connector =
      .ok (closed back connector) := by
  unfold slicedPiece closed
  rw [← Text.size_reverse back, Text.slice_append, Text.size_reverse]
  cases back with
  | nil =>
    rw [Text.size_nil, Nat.add_zero, if_neg (Nat.lt_irrefl _)]
    rfl
  | cons c back =>
    have positive := Text.size_pos_iff.mpr (List.cons_ne_nil c back)
    rw [if_pos (by omega)]
    rfl

section

variable {before back rest : List Char}

/-- Where the scan stands there is a rest to be cut off. -/
theorem slice_current :
    slice (before ++ (back.reverse ++ rest)) (size before + size back)
        (size (before ++ (back.reverse ++ rest))) =
      .ok rest := by
  have cut := Text.slice_rest (before ++ back.reverse) rest
  rwa [List.append_assoc, Text.size_append before back.reverse, Text.size_reverse] at cut

/-- The scan is at its end when nothing is left. -/
theorem current_lt_size_iff :
    size before + size back < size (before ++ (back.reverse ++ rest)) ↔ rest ≠ [] := by
  rw [← Text.size_pos_iff, Text.size_append, Text.size_append, Text.size_reverse]
  omega

/-- At a connector the open piece ends, and the next one is open behind it. -/
theorem slicedPiecesFrom_connector
    (before back after : List Char)
    {connector : Connector}
    (found : connector? (connectorSpelling connector ++ after) = some connector)
    (later : ∀ before, slicedPiecesFrom (before ++ after) (size before) (size before) =
      .ok (piecesAfter [] after)) :
    slicedPiecesFrom (before ++ (back.reverse ++ (connectorSpelling connector ++ after)))
        (size before) (size before + size back) =
      .ok (closed back (some connector) ++ piecesAfter [] after) := by
  have spelled := size_connectorSpelling_pos connector
  have rest_ne : connectorSpelling connector ++ after ≠ [] :=
    List.append_ne_nil_of_left_ne_nil (Text.size_pos_iff.mp spelled) after
  have behind := later (before ++ (back.reverse ++ connectorSpelling connector))
  simp only [List.append_assoc, Text.size_append, Text.size_reverse] at behind
  rw [slicedPiecesFrom, if_pos (current_lt_size_iff.mpr rest_ne), slice_current, Text.ok_bind,
    found]
  simp only [slicedPiece_eq, Text.ok_bind, Nat.add_assoc, behind]
  rfl

/-- A character that begins no connector goes to the open piece. -/
theorem slicedPiecesFrom_char
    {c : Char}
    (absent : connector? (c :: rest) = none) :
    slicedPiecesFrom (before ++ (back.reverse ++ c :: rest)) (size before)
        (size before + size back) =
      slicedPiecesFrom (before ++ ((c :: back).reverse ++ rest)) (size before)
        (size before + size (c :: back)) := by
  have whole : (c :: back).reverse ++ rest = back.reverse ++ c :: rest := by
    rw [List.reverse_cons, List.append_assoc, List.singleton_append]
  have next : size before + size (c :: back) = size before + size back + c.utf8Size := by
    rw [Text.size_cons, Nat.add_comm c.utf8Size, Nat.add_assoc]
  rw [slicedPiecesFrom, if_pos (current_lt_size_iff.mpr (List.cons_ne_nil c rest)), slice_current,
    Text.ok_bind, absent, whole, next]
  rfl

end

/-- Wherever the scan stands, the pieces from there on are those of the open one and the rest. -/
theorem slicedPiecesFrom_eq
    (before back rest : List Char) :
    slicedPiecesFrom (before ++ (back.reverse ++ rest)) (size before) (size before + size back) =
      .ok (piecesAfter back rest) := by
  fun_induction piecesAfter back rest generalizing before with
  | case1 back rest ih =>
    have found : connector? (connectorSpelling .and ++ rest) = some .and := rfl
    exact slicedPiecesFrom_connector before back rest found ih
  | case2 back rest ih =>
    have found : connector? (connectorSpelling .or ++ rest) = some .or := rfl
    exact slicedPiecesFrom_connector before back rest found ih
  | case3 back c rest no_and no_or ih =>
    have absent : connector? (c :: rest) = none := by
      cases found : connector? (c :: rest) with
      | none => rfl
      | some connector =>
        obtain ⟨after, same⟩ := connectorSpelling_append_of_connector? found
        cases connector with
        | and =>
          rw [connectorSpelling_and] at same
          obtain ⟨rfl, rfl⟩ := List.cons.inj same
          exact absurd rfl (no_and after rfl)
        | or =>
          rw [connectorSpelling_or] at same
          obtain ⟨rfl, rfl⟩ := List.cons.inj same
          exact absurd rfl (no_or after rfl)
    rw [slicedPiecesFrom_char absent, ih]
  | case4 back =>
    have whole := slicedPiece_eq before back [] none
    have at_end : ¬ size before + size back < size (before ++ (back.reverse ++ [])) :=
      mt current_lt_size_iff.mp (not_not_intro rfl)
    have stop_eq : size (before ++ (back.reverse ++ [])) = size before + size back := by
      simp
    rw [slicedPiecesFrom, if_neg at_end, stop_eq, whole]

/-- The conditions that a name gives, cut out of it and then at their connectors. -/
def slicedConditions (name : List Char) : Except OutOfBounds (List NamedCondition) := do
  match ← slicedConditionText? name with
  | none => return []
  | some cs => return numbered 1 (← slicedPiecesFrom cs 0 0)

theorem slicedConditions_eq (name : List Char) :
    slicedConditions name = .ok (conditionsOf pieces name) := by
  unfold slicedConditions conditionsOf
  rw [slicedConditionText?_eq]
  cases conditionText? name with
  | none => rfl
  | some cs =>
    have cut : slicedPiecesFrom cs 0 0 = .ok (pieces cs) := slicedPiecesFrom_eq [] [] cs
    simp only [Text.ok_bind, cut]
    rfl

/-! ## Queries -/

/-- The query that a name describes, each part cut out of the name at its bytes. -/
def slicedOfName? (name : String) : Except OutOfBounds (Option Query) := do
  match ← slicedVerb? name.toList with
  | none => return none
  | some (shape, rest) =>
    if isDescribed shape rest then
      let conditions ← slicedConditions name.toList
      let order ← slicedOrder? name.toList
      let limit ← slicedLimit? name.toList
      return some { method := name, shape, conditions, order, limit }
    else return none

/-- Every part of a name that is read as a query lies between two characters of it. -/
theorem slicedOfName?_eq (name : String) : slicedOfName? name = .ok (ofName? name) := by
  unfold slicedOfName? ofName? ofNameWith?
  rw [slicedVerb?_eq]
  cases verb? name.toList with
  | none => rfl
  | some read =>
    obtain ⟨shape, rest⟩ := read
    simp only [Text.ok_bind, Option.bind_some]
    split
    · simp only [slicedConditions_eq, slicedOrder?_eq, slicedLimit?_eq, Text.ok_bind]
      rfl
    · rfl

end Tablewright.Query

namespace Tablewright.Convention

open Text (OutOfBounds size slice)

/-- The text after `FindBy`, cut off behind it. -/
def slicedLookup? (name : String) : Except OutOfBounds (Option (List Char)) :=
  if "FindBy".toList.isPrefixOf name.toList then
    some <$> slice name.toList (size "FindBy".toList) (size name.toList)
  else .ok none

theorem slicedLookup?_eq (name : String) : slicedLookup? name = .ok (lookup? name) := by
  unfold slicedLookup? lookup?
  split
  · next begins =>
    obtain ⟨rest, name_eq⟩ := List.isPrefixOf_iff_prefix.mp begins
    rw [← name_eq, Text.slice_rest]
    rfl
  · rfl

end Tablewright.Convention
