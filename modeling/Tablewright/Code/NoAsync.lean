import Tablewright.Code.TypeRead

/-!
# Code without asynchronous functions

The word `async` begins an asynchronous function, block or closure.  Code without the word, that
is, outside of brackets and apart from a lifetime of that name, remains so when it is put together,
and readers that take no other code can be combined to readers that take no other code.
-/

namespace Tablewright.Code

/-- Whether no token is the word `async`, apart from names of lifetimes and what stands in
brackets. -/
def hasNoAsync : Code → Bool
  | .mark '\'' true :: .word _ :: rest => hasNoAsync rest
  | .word text :: rest => text ≠ "async" && hasNoAsync rest
  | _ :: rest => hasNoAsync rest
  | [] => true

@[simp] theorem hasNoAsync_nil : hasNoAsync [] = true := by
  rw [hasNoAsync]

@[simp] theorem hasNoAsync_word
    (text : String)
    (code : Code) :
    hasNoAsync (.word text :: code) = (decide (text ≠ "async") && hasNoAsync code) := by
  rw [hasNoAsync]

@[simp] theorem hasNoAsync_literal
    (text : String)
    (code : Code) :
    hasNoAsync (.literal text :: code) = hasNoAsync code := by
  rw [hasNoAsync] <;> simp

@[simp] theorem hasNoAsync_group
    (delimiter : Delimiter)
    (body : List Token)
    (code : Code) :
    hasNoAsync (.group delimiter body :: code) = hasNoAsync code := by
  rw [hasNoAsync] <;> simp

@[simp] theorem hasNoAsync_lifetime
    (name : String)
    (code : Code) :
    hasNoAsync (.mark '\'' true :: .word name :: code) = hasNoAsync code := by
  rw [hasNoAsync]

/-- A mark is not the word; before a word it may begin a lifetime. -/
theorem hasNoAsync_mark
    (c : Char)
    (joint : Bool)
    {code : Code}
    (rest : hasNoAsync code) :
    hasNoAsync (.mark c joint :: code) := by
  unfold hasNoAsync
  split
  · next name after same =>
    obtain ⟨-, rfl⟩ := List.cons.inj same
    exact (Bool.and_eq_true_iff.mp (hasNoAsync_word name after ▸ rest)).2
  · next impossible => cases impossible
  · next same =>
    obtain ⟨-, rfl⟩ := List.cons.inj same
    exact rest
  · rfl

theorem hasNoAsync_append
    {front back : Code}
    (first : hasNoAsync front)
    (second : hasNoAsync back) :
    hasNoAsync (front ++ back) := by
  induction front using hasNoAsync.induct with
  | case1 name rest ih => exact hasNoAsync_lifetime name (rest ++ back) ▸ ih first
  | case2 text rest ih =>
    rw [hasNoAsync_word, Bool.and_eq_true_iff] at first
    rw [List.cons_append, hasNoAsync_word, Bool.and_eq_true_iff]
    exact ⟨first.1, ih first.2⟩
  | case3 token rest no_lifetime no_word ih =>
    have inside : hasNoAsync rest := by
      rw [hasNoAsync] at first
      · exact first
      · exact no_lifetime
      · exact no_word
    rw [List.cons_append]
    cases token with
    | mark c joint => exact hasNoAsync_mark c joint (ih inside)
    | word text => exact absurd rfl (no_word text)
    | literal | group => simpa using ih inside
  | case4 => exact second

theorem hasNoAsync_flatMap
    {α : Type}
    {items : List α}
    {code : α → Code}
    (clean : ∀ item ∈ items, hasNoAsync (code item)) :
    hasNoAsync (items.flatMap code) := by
  induction items with
  | nil => rfl
  | cons item rest ih =>
    obtain ⟨here, later⟩ := List.forall_mem_cons.mp clean
    rw [List.flatMap_cons]
    exact hasNoAsync_append here (ih later)

theorem hasNoAsync_marks (cs : List Char) : hasNoAsync (Token.marks cs) := by
  induction cs using Token.marks.induct with
  | case1 => rfl
  | case2 c => exact hasNoAsync_mark c false rfl
  | case3 c rest _ ih =>
    rw [Token.marks]
    · exact hasNoAsync_mark c true ih
    · assumption

theorem isReserved_async : isReserved "async" := by
  decide

/-! ## Readers -/

/-- Whether no code that a reader takes has the word. -/
def Reader.NoAsync (reader : Reader) : Prop :=
  ∀ ts code rest, reader ts = some (code, rest) → hasNoAsync code

namespace Reader

variable {first second reader : Reader} {readers : List Reader}

theorem noAsync_after
    {code : Code}
    (clean : hasNoAsync code) :
    NoAsync (after code) := by
  rintro ts _ rest ⟨⟩
  exact clean

@[grind ←] theorem noAsync_nothing : NoAsync nothing :=
  noAsync_after hasNoAsync_nil

/-- What is read may hold more than code and rest. -/
theorem noAsync_map
    {α : Type}
    {read : List Token → Option α}
    {code : α → Code}
    {rest : α → List Token}
    (clean : ∀ ts found, read ts = some found → hasNoAsync (code found)) :
    NoAsync fun ts => (read ts).map fun found => (code found, rest found) := by
  intro ts _ _ taken
  obtain ⟨found, found_eq, same⟩ := Option.map_eq_some_iff.mp taken
  cases same
  exact clean ts found found_eq

theorem noAsync_andThen
    (front : NoAsync first)
    (back : NoAsync second) :
    NoAsync (andThen first second) := by
  intro ts code rest taken
  simp only [andThen, Option.bind_eq_bind, Option.bind_eq_some_iff, Prod.exists] at taken
  obtain ⟨a, ts, a_taken, b, ts', b_taken, same⟩ := taken
  cases same
  exact hasNoAsync_append (front _ _ _ a_taken) (back _ _ _ b_taken)

@[grind ←] theorem noAsync_inOrder (all : ∀ reader ∈ readers, NoAsync reader) :
    NoAsync (inOrder readers) := by
  induction readers with
  | nil => exact noAsync_nothing
  | cons first readers ih =>
    obtain ⟨here, later⟩ := List.forall_mem_cons.mp all
    exact noAsync_andThen here (ih later)

@[grind ←] theorem noAsync_either
    {ahead : Peek}
    (yes : NoAsync first)
    (no : NoAsync second) :
    NoAsync (either ahead first second) := by
  intro ts code rest taken
  unfold either at taken
  split at taken
  · exact yes _ _ _ taken
  · exact no _ _ _ taken

@[grind ←] theorem noAsync_given
    {ahead : Peek}
    (clean : NoAsync reader) :
    NoAsync (given ahead reader) :=
  noAsync_either clean noAsync_nothing

/-! ### Leaves -/

@[grind ←] theorem noAsync_takeOp (op : String) : NoAsync (takeOp op) := by
  intro ts code rest taken
  unfold takeOp at taken
  split at taken
  · cases taken
    exact hasNoAsync_marks op.toList
  · cases taken

@[grind ←] theorem noAsync_maybeOp (op : String) : NoAsync (maybeOp op) :=
  noAsync_given (noAsync_takeOp op)

@[grind ←] theorem noAsync_takeWord
    {word : String}
    (other : word ≠ "async") :
    NoAsync (takeWord word) := by
  intro ts code rest taken
  unfold takeWord at taken
  split at taken
  · cases taken
    simpa using other
  · cases taken

@[grind ←] theorem noAsync_maybeWord
    {word : String}
    (other : word ≠ "async") :
    NoAsync (maybeWord word) :=
  noAsync_given (noAsync_takeWord other)

@[grind ←] theorem noAsync_nameOr
    {words : List String}
    (others : "async" ∉ words) :
    NoAsync (nameOr words) := by
  intro ts code rest taken
  unfold nameOr at taken
  split at taken
  · next ahead =>
    cases ts with
    | nil => cases taken
    | cons token ts =>
      cases taken
      cases token with
      | word text =>
        rw [hasNoAsync_word, hasNoAsync_nil, Bool.and_true, decide_eq_true_iff]
        rintro rfl
        simp [peekName, peekWords, peekWord, isReserved_async, others] at ahead
      | _ => simp [peekName, peekWords, peekWord] at ahead
  · cases taken

@[grind ←] theorem noAsync_takeLifetime : NoAsync takeLifetime := by
  intro ts code rest taken
  unfold takeLifetime at taken
  split at taken
  · cases taken
    rw [hasNoAsync_lifetime, hasNoAsync_nil]
  · cases taken

@[grind ←] theorem noAsync_takeLiteral : NoAsync takeLiteral := by
  intro ts code rest taken
  unfold takeLiteral at taken
  split at taken
  · cases taken
    rw [hasNoAsync_literal, hasNoAsync_nil]
  · split at taken
    · cases taken
      exact hasNoAsync_mark '-' false (by rw [hasNoAsync_literal, hasNoAsync_nil])
    · cases taken
  · next text _ =>
    split at taken
    · next truth =>
      cases taken
      rw [hasNoAsync_word, hasNoAsync_nil, Bool.and_true, decide_eq_true_iff]
      rintro rfl
      simp at truth
    · cases taken
  · cases taken

@[grind ←] theorem noAsync_takeGroup
    (delimiter : Delimiter)
    (body : List Token → Option Code) :
    NoAsync (takeGroup delimiter body) := by
  intro ts code rest taken
  unfold takeGroup at taken
  split at taken
  · split at taken
    · obtain ⟨inside, -, same⟩ := Option.map_eq_some_iff.mp taken
      cases same
      rw [hasNoAsync_group, hasNoAsync_nil]
    · cases taken
  · cases taken

@[grind ←] theorem noAsync_group
    (delimiter : Delimiter)
    (body : Reader) :
    NoAsync (group delimiter body) :=
  noAsync_takeGroup delimiter _

@[grind ←] theorem noAsync_anyGroup : NoAsync anyGroup := by
  intro ts code rest taken
  unfold anyGroup at taken
  split at taken
  · next ahead =>
    unfold peekAnyGroup at ahead
    split at ahead
    · cases taken
      rw [hasNoAsync_group, hasNoAsync_nil]
    · cases ahead
  · cases taken

@[grind ←] theorem noAsync_takeConvention : NoAsync takeConvention := by
  intro ts code rest taken
  unfold takeConvention at taken
  split at taken
  · split at taken <;> cases taken <;> simp
  · cases taken
    simp
  · cases taken

@[grind ←] theorem noAsync_leftOut (reader : Reader) : NoAsync (leftOut reader) := by
  intro ts code rest taken
  obtain ⟨_, -, same⟩ := Option.map_eq_some_iff.mp taken
  cases same
  exact hasNoAsync_nil

/-! ### Repetitions -/

theorem noAsync_repeatedWithin
    {ahead : Peek}
    (clean : NoAsync reader)
    (turns : Nat) :
    NoAsync (repeatedWithin ahead reader turns) := by
  induction turns with
  | zero => rintro ts code rest ⟨⟩
  | succ turns ih => exact noAsync_either (noAsync_andThen clean ih) noAsync_nothing

@[grind ←] theorem noAsync_repeated
    {ahead : Peek}
    (clean : NoAsync reader) :
    NoAsync (repeated ahead reader) :=
  fun ts => noAsync_repeatedWithin clean (ts.length + 1) ts

theorem noAsync_punctuatedWithin
    {mark : String}
    {stop : Peek}
    (clean : NoAsync reader)
    (turns : Nat) :
    NoAsync (punctuatedWithin mark stop reader turns) := by
  induction turns with
  | zero => rintro ts code rest ⟨⟩
  | succ turns ih =>
    have further : NoAsync (andThen (takeOp mark) (punctuatedWithin mark stop reader turns)) :=
      noAsync_andThen (noAsync_takeOp mark) ih
    exact noAsync_either noAsync_nothing
      (noAsync_andThen clean (noAsync_either noAsync_nothing further))

@[grind ←] theorem noAsync_punctuated
    {mark : String}
    {stop : Peek}
    (clean : NoAsync reader) :
    NoAsync (punctuated mark stop reader) :=
  fun ts => noAsync_punctuatedWithin clean (ts.length + 1) ts

theorem noAsync_joinedWithin
    {mark : String}
    {stop : Peek}
    (clean : NoAsync reader)
    (turns : Nat) :
    NoAsync (joinedWithin mark stop reader turns) := by
  induction turns with
  | zero => rintro ts code rest ⟨⟩
  | succ turns ih =>
    have further : NoAsync (andThen (takeOp mark) (joinedWithin mark stop reader turns)) :=
      noAsync_andThen (noAsync_takeOp mark) ih
    exact noAsync_either noAsync_nothing (noAsync_andThen clean (noAsync_given further))

@[grind ←] theorem noAsync_joined
    {mark : String}
    {stop : Peek}
    (clean : NoAsync reader) :
    NoAsync (joined mark stop reader) :=
  fun ts => noAsync_joinedWithin clean (ts.length + 1) ts

end Reader

end Tablewright.Code
