import Tablewright.Proofs.Tag.Written
import Tablewright.Tag.Reading

/-!
# Tags are read as they are spelled

Each spelling is cut into a segment that states its token and segments that state none, so the
reader of the whole tag stops every value where the next token begins.
-/

namespace Tablewright.Tag

open Text (Trimmed isBlank trim)

/-! ## Heads -/

theorem afterPrefix?_eq_none
    {start cs : List Char}
    (absent : ¬ start <+: cs) :
    Text.afterPrefix? start cs = none := by
  cases found : Text.afterPrefix? start cs with
  | none => rfl
  | some rest => exact absurd ⟨rest, (Text.eq_append_of_afterPrefix? found).symm⟩ absent

theorem head?_eq_none
    {segment : List Char}
    (states_none : ¬ StatesToken segment) :
    head? segment = none := by
  rw [StatesToken, not_or] at states_none
  obtain ⟨no_word, no_key⟩ := states_none
  have not_word : ∀ word ∈ bareWords, trim segment ≠ word.toList := by
    intro word member same
    exact no_word ⟨word, member, same⟩
  have no_bare : bareToken? (trim segment) = none := by
    unfold bareToken?
    rw [if_neg (not_word "pk" (by decide)), if_neg (not_word "unique" (by decide)),
      if_neg (not_word "-" (by decide)), if_neg (not_word "index" (by decide)),
      if_neg (not_word "unique_index" (by decide))]
  rw [head?, no_bare]
  apply List.findSome?_eq_none_iff.mpr
  intro key _
  rw [afterPrefix?_eq_none fun begins => no_key ⟨key, begins⟩]
  rfl

/-- A key with its value is the head that it spells. -/
theorem head?_keyed
    {key : Key}
    {value : List Char}
    (trimmed : Trimmed (key.spelling.toList ++ value)) :
    head? (key.spelling.toList ++ value) = some (.keyed key value) := by
  rw [head?, trimmed.trim_eq]
  cases key <;> rfl

/-! ## Readings -/

/-- Segments that a token takes for itself wherever nothing behind them is left over. -/
def Reads (parts : List (List Char)) (token : Token) : Prop :=
  ∀ rest tokens, readSegments rest = ([], tokens) →
    readSegments (parts ++ rest) = ([], token :: tokens)

/-- Segments that state no token are left over. -/
theorem readSegments_append_of_none
    {more rest : List (List Char)}
    {tokens : List Token}
    (states_none : ∀ part ∈ more, ¬ StatesToken part)
    (read_rest : readSegments rest = ([], tokens)) :
    readSegments (more ++ rest) = (more, tokens) := by
  induction more with
  | nil => exact read_rest
  | cons part more ih =>
    obtain ⟨here, later⟩ := List.forall_mem_cons.mp states_none
    rw [List.cons_append, readSegments, ih later, head?_eq_none here]

theorem reads_bare
    {segment : List Char}
    {token : Token}
    (head : head? segment = some (.bare token)) :
    Reads [segment] token := by
  intro rest tokens read_rest
  rw [List.singleton_append, readSegments, read_rest, head]
  rfl

/-- A value that takes no further segments. -/
theorem reads_keyed
    {segment value : List Char}
    {key : Key}
    (head : head? segment = some (.keyed key value))
    (single : key.absorbs = false) :
    Reads [segment] (keyedToken key [value]) := by
  intro rest tokens read_rest
  rw [List.singleton_append, readSegments, read_rest, head]
  simp only [single]
  rfl

/-- A value that takes the segments up to the next token. -/
theorem reads_absorbing
    {segment value : List Char}
    {more : List (List Char)}
    {key : Key}
    (head : head? segment = some (.keyed key value))
    (absorbing : key.absorbs)
    (states_none : ∀ part ∈ more, ¬ StatesToken part) :
    Reads (segment :: more) (keyedToken key (value :: dropBlankEnd more)) := by
  intro rest tokens read_rest
  rw [List.cons_append, readSegments, readSegments_append_of_none states_none read_rest, head]
  simp only [absorbing, if_true]

theorem dropBlankEnd_eq
    {parts : List (List Char)}
    (last : ∀ part ∈ parts.getLast?, ¬ part.all isBlank) :
    dropBlankEnd parts = parts := by
  have first : ∀ part ∈ parts.reverse.head?, ¬ part.all isBlank := by
    rw [List.head?_reverse]
    exact last
  rw [dropBlankEnd]
  cases reversed : parts.reverse with
  | nil => rw [List.dropWhile_nil, List.reverse_nil, ← List.reverse_eq_nil_iff.mp reversed]
  | cons part rest =>
    have kept : (part :: rest).dropWhile (fun part => part.all isBlank) = part :: rest :=
      List.dropWhile_cons_of_neg (first part (by rw [reversed]; rfl))
    rw [kept, ← reversed, List.reverse_reverse]

/-! ## Values -/

/-- A name goes to the one segment of its token. -/
theorem reads_name
    {key : Key}
    {value : List Char}
    (name : IsWrittenName value)
    (single : key.absorbs = false) :
    Reads (segments (key.spelling.toList ++ value)) (keyedToken key [value]) := by
  rw [key.segments_append name.commaFree.segments_eq]
  exact reads_keyed (head?_keyed (key.trimmed_append name.trimmed.last)) single

/-- An expression goes to the segments of its token. -/
theorem reads_expression
    {key : Key}
    {value : List Char}
    (expression : IsWrittenExpression value)
    (absorbing : key.absorbs) :
    Reads (segments (key.spelling.toList ++ value)) (keyedToken key (segments value)) := by
  have first_end := expression.first
  have last := expression.last
  have rest := expression.rest
  cases cut : segments value with
  | nil => exact absurd cut (segmentsFrom_ne_nil Scan.top value)
  | cons first more =>
    rw [cut] at first_end
    rw [cut, List.tail_cons] at rest
    have kept : dropBlankEnd more = more := by
      apply dropBlankEnd_eq
      intro part part_eq
      apply last part
      rw [cut, List.getLast?_cons, Option.mem_def.mp part_eq]
      rfl
    have read := reads_absorbing (head?_keyed (key.trimmed_append (first_end first rfl)))
      absorbing rest
    rw [key.segments_append cut]
    rwa [kept] at read

/-- The values of a list are the parts that its token takes. -/
theorem reads_list
    {key : Key}
    {values : List String}
    (list : IsWrittenList values)
    (absorbing : key.absorbs) :
    Reads (key.pieces (values.map String.toList)) (keyedToken key (values.map String.toList)) := by
  obtain ⟨first, more, rfl⟩ := List.exists_cons_of_ne_nil list.values_ne
  obtain ⟨first_name, more_names⟩ := List.forall_mem_cons.mp list.names
  have kept : dropBlankEnd (more.map String.toList) = more.map String.toList := by
    apply dropBlankEnd_eq
    intro part part_eq
    obtain ⟨value, found, rfl⟩ := List.mem_map.mp (List.mem_of_getLast? part_eq)
    exact (more_names value found).trimmed.not_all_isBlank (more_names value found).value_ne
  have states_none : ∀ part ∈ more.map String.toList, ¬ StatesToken part := by
    intro part member
    obtain ⟨value, found, rfl⟩ := List.mem_map.mp member
    exact list.rest value found
  have read := reads_absorbing (head?_keyed (key.trimmed_append first_name.trimmed.last)) absorbing
    states_none
  rw [kept] at read
  exact read

/-- The spelling of a list is a value. -/
theorem IsWrittenList.isWrittenValue
    {values : List String}
    (list : IsWrittenList values) :
    IsWrittenValue (",".intercalate values).toList := by
  have parts : ∀ part ∈ values.map String.toList, IsWrittenName part := by
    intro part member
    obtain ⟨value, found, rfl⟩ := List.mem_map.mp member
    exact list.names value found
  rw [toList_intercalate_comma]
  constructor
  · obtain ⟨value, others, values_eq⟩ := List.exists_cons_of_ne_nil list.values_ne
    have first := parts value.toList (by rw [values_eq]; exact List.mem_cons_self)
    rw [values_eq, List.map_cons]
    exact Text.intercalate_ne_nil [','] first.value_ne _
  · exact Trimmed.intercalate (fun part member => (parts part member).value_ne)
      fun part member => (parts part member).trimmed

/-! ## Tokens of values -/

/-- What a key states with parts that spell a value. -/
theorem keyedToken_of_isWrittenValue
    {key : Key}
    {parts : List (List Char)}
    {value : String}
    (joined : [','].intercalate parts = value.toList)
    (stated : IsWrittenValue value.toList) :
    keyedToken key parts =
      match key with
      | .check => .check value
      | .default => .default value
      | .index => .index false (some value)
      | .uniqueIndex => .index true (some value)
      | .uniqueGroup => .uniqueGroup value
      | .table => .table value
      | .values =>
        if (valuesOf parts).isEmpty then .unrecognized (key.spelling ++ value)
        else .values ((valuesOf parts).map String.ofList)
      | .foreignKey =>
        ((foreignKey? parts).map Token.foreignKey).getD
          (.unrecognized (key.spelling ++ value)) := by
  have value_ne : value.toList.isEmpty = false := by
    rw [List.isEmpty_eq_false_iff]
    exact stated.value_ne
  unfold keyedToken
  simp only [joined, stated.trimmed.trim_eq, String.ofList_toList, value_ne]
  cases key with
  | foreignKey => cases foreignKey? parts <;> rfl
  | _ => rfl

/-- The values of a list are neither trimmed nor dropped. -/
theorem valuesOf_eq
    {values : List String}
    (names : ∀ value ∈ values, IsWrittenName value.toList) :
    valuesOf (values.map String.toList) = values.map String.toList := by
  have trim_each : (values.map String.toList).map trim = values.map String.toList := by
    rw [List.map_map]
    exact List.map_congr_left fun value member => (names value member).trimmed.trim_eq
  rw [valuesOf, trim_each, List.filter_eq_self]
  intro part member
  obtain ⟨value, found, rfl⟩ := List.mem_map.mp member
  simpa using (names value found).value_ne

theorem keyedToken_values
    {values : List String}
    (list : IsWrittenList values) :
    keyedToken .values (values.map String.toList) = .values values := by
  have allowed_ne : (valuesOf (values.map String.toList)).isEmpty = false := by
    rw [valuesOf_eq list.names, List.isEmpty_eq_false_iff, ne_eq, List.map_eq_nil_iff]
    exact list.values_ne
  have same : (values.map String.toList).map String.ofList = values := by
    rw [List.map_map]
    exact (List.map_congr_left fun value _ => String.ofList_toList).trans (List.map_id values)
  rw [keyedToken_of_isWrittenValue (toList_intercalate_comma values).symm list.isWrittenValue]
  simp only [allowed_ne]
  rw [valuesOf_eq list.names, same]
  rfl

/-! ## Foreign keys -/

theorem foreignKeyPart_name
    {name : List Char}
    (no_delete : ¬ "on_delete:".toList <+: name)
    (no_update : ¬ "on_update:".toList <+: name) :
    foreignKeyPart name = .name name := by
  rw [foreignKeyPart, afterPrefix?_eq_none no_delete]
  dsimp only
  rw [afterPrefix?_eq_none no_update]

theorem foreignKeyPart_onDelete (action : ReferentialAction) :
    foreignKeyPart ("on_delete:" ++ action.tagSpelling).toList = .onDelete (some action) := by
  cases action <;> decide

theorem foreignKeyPart_onUpdate (action : ReferentialAction) :
    foreignKeyPart ("on_update:" ++ action.tagSpelling).toList = .onUpdate (some action) := by
  cases action <;> decide

/-- The words before the actions of a foreign key. -/
def actionWords : List String :=
  ["on_delete:", "on_update:"]

/-- An action among the arguments of a foreign key is a name, and states no token. -/
theorem isName_action
    {word : String}
    (known : word ∈ actionWords)
    (action : ReferentialAction) :
    IsName (word ++ action.tagSpelling).toList ∧
      ¬ StatesToken (word ++ action.tagSpelling).toList := by
  have all_words : ∀ word ∈ actionWords, IsName (word ++ action.tagSpelling).toList ∧
      ¬ StatesToken (word ++ action.tagSpelling).toList := by
    cases action <;> decide +kernel
  exact all_words word known

/-- Actions among the arguments of a foreign key. -/
def foreignKeyActions (key : ForeignKey) : List String :=
  (key.onDelete.map fun action => "on_delete:" ++ action.tagSpelling).toList ++
    (key.onUpdate.map fun action => "on_update:" ++ action.tagSpelling).toList

theorem foreignKeyArguments_eq (key : ForeignKey) :
    foreignKeyArguments key = foreignKeyNames key ++ foreignKeyActions key := by
  rw [foreignKeyArguments, foreignKeyNames, foreignKeyActions, List.append_assoc]

theorem exists_of_mem_foreignKeyActions
    {key : ForeignKey}
    {argument : String}
    (member : argument ∈ foreignKeyActions key) :
    ∃ word ∈ actionWords, ∃ action : ReferentialAction, argument = word ++ action.tagSpelling := by
  rcases List.mem_append.mp member with onDelete | onUpdate
  · obtain ⟨action, -, rfl⟩ := Option.map_eq_some_iff.mp (Option.mem_toList.mp onDelete)
    exact ⟨"on_delete:", by decide, action, rfl⟩
  · obtain ⟨action, -, rfl⟩ := Option.map_eq_some_iff.mp (Option.mem_toList.mp onUpdate)
    exact ⟨"on_update:", by decide, action, rfl⟩

/-- The arguments of a foreign key are a list if its names are. -/
theorem isWrittenList_foreignKeyArguments
    {key : ForeignKey}
    (list : IsWrittenList (foreignKeyNames key)) :
    IsWrittenList (foreignKeyArguments key) := by
  rw [foreignKeyArguments_eq]
  refine ⟨List.append_ne_nil_of_left_ne_nil list.values_ne _, ?_, ?_⟩
  · intro argument member
    rcases List.mem_append.mp member with named | acted
    · exact list.names argument named
    · obtain ⟨word, known, action, rfl⟩ := exists_of_mem_foreignKeyActions acted
      exact (isName_action known action).1.isWritten
  · intro argument member
    rw [List.tail_append_of_ne_nil list.values_ne] at member
    rcases List.mem_append.mp member with named | acted
    · exact list.rest argument named
    · obtain ⟨word, known, action, rfl⟩ := exists_of_mem_foreignKeyActions acted
      exact (isName_action known action).2

/-- Names are arguments as they stand. -/
theorem foldlM_add_names
    {names : List (List Char)}
    (each : ∀ name ∈ names, foreignKeyPart name = .name name)
    (arguments : ForeignKeyArguments) :
    names.foldlM ForeignKeyArguments.add arguments =
      some { arguments with names := arguments.names ++ names } := by
  induction names generalizing arguments with
  | nil => simp
  | cons name names ih =>
    obtain ⟨here, later⟩ := List.forall_mem_cons.mp each
    rw [List.foldlM_cons, ForeignKeyArguments.add, here]
    dsimp only
    rw [Option.bind_eq_bind, Option.bind_some, ih later, List.append_assoc, List.singleton_append]

theorem foldlM_add_actions (key : ForeignKey) (names : List (List Char)) :
    ((foreignKeyActions key).map String.toList).foldlM ForeignKeyArguments.add ⟨names, none, none⟩ =
      some ⟨names, key.onDelete, key.onUpdate⟩ := by
  obtain ⟨group, table, column, onDelete, onUpdate⟩ := key
  cases onDelete <;> cases onUpdate <;>
    simp [foreignKeyActions, ForeignKeyArguments.add, foreignKeyPart_onDelete,
      foreignKeyPart_onUpdate, -String.toList_append]

/-- A foreign key is read from its arguments. -/
theorem foreignKey?_foreignKeyArguments
    {key : ForeignKey}
    (list : IsWrittenList (foreignKeyNames key))
    (no_action : ∀ name ∈ foreignKeyNames key,
      ¬ "on_delete:".toList <+: name.toList ∧ ¬ "on_update:".toList <+: name.toList) :
    foreignKey? ((foreignKeyArguments key).map String.toList) = some key := by
  have each : ∀ name ∈ (foreignKeyNames key).map String.toList,
      foreignKeyPart name = .name name := by
    intro part member
    obtain ⟨name, found, rfl⟩ := List.mem_map.mp member
    exact foreignKeyPart_name (no_action name found).1 (no_action name found).2
  unfold foreignKey?
  rw [valuesOf_eq (isWrittenList_foreignKeyArguments list).names, foreignKeyArguments_eq,
    List.map_append, List.foldlM_append, foldlM_add_names each, Option.bind_eq_bind,
    Option.bind_eq_bind, Option.bind_some]
  dsimp only
  rw [List.nil_append, foldlM_add_actions, Option.bind_some]
  obtain ⟨group, table, column, onDelete, onUpdate⟩ := key
  cases group <;> simp [foreignKeyNames]

theorem keyedToken_foreignKey
    {key : ForeignKey}
    (list : IsWrittenList (foreignKeyNames key))
    (no_action : ∀ name ∈ foreignKeyNames key,
      ¬ "on_delete:".toList <+: name.toList ∧ ¬ "on_update:".toList <+: name.toList) :
    keyedToken .foreignKey ((foreignKeyArguments key).map String.toList) = .foreignKey key := by
  have arguments := isWrittenList_foreignKeyArguments list
  rw [keyedToken_of_isWrittenValue (toList_intercalate_comma _).symm arguments.isWrittenValue]
  simp only [foreignKey?_foreignKeyArguments list no_action]
  rfl

/-! ## Tokens -/

/-- A key with a name is read as what they state. -/
theorem reads_key_name
    {key : Key}
    {value : String}
    {token : Token}
    (name : IsWrittenName value.toList)
    (single : key.absorbs = false)
    (states : keyedToken key [value.toList] = token) :
    Reads (segments (key.spelling ++ value).toList) token := by
  rw [toList_key_append, ← states]
  exact reads_name name single

/-- A key with an expression is read as what they state. -/
theorem reads_key_expression
    {key : Key}
    {value : String}
    {token : Token}
    (expression : IsWrittenExpression value.toList)
    (absorbing : key.absorbs)
    (states : keyedToken key (segments value.toList) = token) :
    Reads (segments (key.spelling ++ value).toList) token := by
  rw [toList_key_append, ← states]
  exact reads_expression expression absorbing

/-- A written token is read from the pieces of its spelling. -/
theorem Token.IsWritten.reads
    {token : Token}
    (written : token.IsWritten) :
    Reads token.pieces token := by
  have alone (value : String) : [','].intercalate [value.toList] = value.toList :=
    List.intercalate_singleton
  cases token with
  | primaryKey => exact reads_bare rfl
  | unique => exact reads_bare rfl
  | ignore => exact reads_bare rfl
  | index isUnique name =>
    cases name with
    | none => cases isUnique <;> exact reads_bare rfl
    | some name =>
      have named : IsWrittenName name.toList := written name rfl
      have value := named.toIsWrittenValue
      cases isUnique with
      | false => exact reads_key_name named rfl (keyedToken_of_isWrittenValue (alone name) value)
      | true => exact reads_key_name named rfl (keyedToken_of_isWrittenValue (alone name) value)
  | uniqueGroup name =>
    have named : IsWrittenName name.toList := written
    exact reads_key_name named rfl
      (keyedToken_of_isWrittenValue (alone name) named.toIsWrittenValue)
  | table name =>
    have named : IsWrittenName name.toList := written
    exact reads_key_name named rfl
      (keyedToken_of_isWrittenValue (alone name) named.toIsWrittenValue)
  | check expression =>
    have stated : IsWrittenExpression expression.toList := written
    exact reads_key_expression stated rfl
      (keyedToken_of_isWrittenValue (intercalate_segments _) stated.toIsWrittenValue)
  | default expression =>
    have stated : IsWrittenExpression expression.toList := written
    exact reads_key_expression stated rfl
      (keyedToken_of_isWrittenValue (intercalate_segments _) stated.toIsWrittenValue)
  | values allowed =>
    have list : IsWrittenList allowed := written
    have absorbing : Key.values.absorbs := rfl
    have read := reads_list list absorbing
    rwa [keyedToken_values list] at read
  | foreignKey key =>
    obtain ⟨list, no_action⟩ := written
    have absorbing : Key.foreignKey.absorbs := rfl
    have read := reads_list (isWrittenList_foreignKeyArguments list) absorbing
    rwa [keyedToken_foreignKey list no_action] at read
  | unrecognized text => exact written.elim

/-- The spelling of a written token is a value in its own right. -/
theorem Token.IsWritten.isWrittenValue
    {token : Token}
    (written : token.IsWritten) :
    IsWrittenValue token.spelling.toList := by
  have keyed (key : Key) {value : String} (stated : IsWrittenValue value.toList) :
      IsWrittenValue (key.spelling ++ value).toList := by
    rw [toList_key_append]
    exact ⟨List.append_ne_nil_of_left_ne_nil key.spelling_ne _,
      key.trimmed_append stated.trimmed.last⟩
  have bare : ∀ word ∈ bareWords, IsValue word.toList := by
    decide
  cases token with
  | primaryKey => exact (bare "pk" (by decide)).isWritten
  | unique => exact (bare "unique" (by decide)).isWritten
  | ignore => exact (bare "-" (by decide)).isWritten
  | index isUnique name =>
    cases name with
    | none =>
      cases isUnique with
      | false => exact (bare "index" (by decide)).isWritten
      | true => exact (bare "unique_index" (by decide)).isWritten
    | some name =>
      have named : IsWrittenName name.toList := written name rfl
      cases isUnique with
      | false => exact keyed .index named.toIsWrittenValue
      | true => exact keyed .uniqueIndex named.toIsWrittenValue
  | uniqueGroup name => exact keyed .uniqueGroup (IsWrittenName.toIsWrittenValue written)
  | table name => exact keyed .table (IsWrittenName.toIsWrittenValue written)
  | check expression => exact keyed .check (IsWrittenExpression.toIsWrittenValue written)
  | default expression => exact keyed .default (IsWrittenExpression.toIsWrittenValue written)
  | values allowed => exact keyed .values (IsWrittenList.isWrittenValue written)
  | foreignKey key =>
    exact keyed .foreignKey (isWrittenList_foreignKeyArguments written.1).isWrittenValue
  | unrecognized text => exact written.elim

/-- No piece of a written token has a comma outside quotes and brackets. -/
theorem Token.IsWritten.commaFree_pieces
    {token : Token}
    (written : token.IsWritten) :
    ∀ piece ∈ token.pieces, CommaFree piece := by
  have list (key : Key) {values : List String} (list : IsWrittenList values) :
      ∀ piece ∈ key.pieces (values.map String.toList), CommaFree piece := by
    obtain ⟨first, more, rfl⟩ := List.exists_cons_of_ne_nil list.values_ne
    obtain ⟨first_name, more_names⟩ := List.forall_mem_cons.mp list.names
    rw [List.map_cons, Key.pieces]
    refine List.forall_mem_cons.mpr ⟨key.commaFree_append first_name.commaFree, ?_⟩
    intro piece member
    obtain ⟨value, found, rfl⟩ := List.mem_map.mp member
    exact (more_names value found).commaFree
  cases token with
  | values allowed => exact list .values written
  | foreignKey key => exact list .foreignKey (isWrittenList_foreignKeyArguments written.1)
  | _ => exact (isCut_segments _).free

/-! ## Regular tokens -/

/-- Every piece of a regular token is closed. -/
theorem Token.IsRegular.closed_pieces
    {token : Token}
    (regular : token.IsRegular) :
    ∀ piece ∈ token.pieces, Closed piece := by
  have text (key : Key) {value : String} (closed : Closed value.toList) :
      ∀ piece ∈ segments (key.spelling ++ value).toList, Closed piece := by
    rw [toList_key_append]
    exact (key.closed_append_iff.mpr closed).segments
  have list (key : Key) {values : List String} (closed : ∀ value ∈ values, Closed value.toList) :
      ∀ piece ∈ key.pieces (values.map String.toList), Closed piece := by
    apply key.closed_pieces
    intro part member
    obtain ⟨value, found, rfl⟩ := List.mem_map.mp member
    exact closed value found
  have bare : ∀ word ∈ bareWords, ∀ piece ∈ segments word.toList, Closed piece := by
    decide
  cases token with
  | primaryKey => exact bare "pk" (by decide)
  | unique => exact bare "unique" (by decide)
  | ignore => exact bare "-" (by decide)
  | index isUnique name =>
    cases name with
    | none =>
      cases isUnique with
      | false => exact bare "index" (by decide)
      | true => exact bare "unique_index" (by decide)
    | some name =>
      have named : IsName name.toList := regular name rfl
      cases isUnique with
      | false => exact text .index named.closed
      | true => exact text .uniqueIndex named.closed
  | uniqueGroup name => exact text .uniqueGroup (IsName.toIsValue regular).closed
  | table name => exact text .table (IsName.toIsValue regular).closed
  | check expression => exact text .check (IsExpression.toIsValue regular).closed
  | default expression => exact text .default (IsExpression.toIsValue regular).closed
  | values allowed =>
    exact list .values fun value member => (IsList.names regular value member).closed
  | foreignKey key =>
    apply list .foreignKey
    intro argument member
    rw [foreignKeyArguments_eq] at member
    rcases List.mem_append.mp member with named | acted
    · exact (regular.1.names argument named).closed
    · obtain ⟨word, known, action, rfl⟩ := exists_of_mem_foreignKeyActions acted
      exact (isName_action known action).1.closed
  | unrecognized text => exact regular.elim

/-- The pieces of a regular token are the segments of its spelling. -/
theorem Token.IsRegular.segments_spelling
    {token : Token}
    (regular : token.IsRegular) :
    segments token.spelling.toList = token.pieces := by
  rw [← token.intercalate_pieces]
  refine IsCut.segments_intercalate ⟨regular.isWritten.commaFree_pieces, ?_⟩ token.pieces_ne
  intro piece member
  exact regular.closed_pieces piece (List.dropLast_subset _ member)

/-- A regular token is read from the segments of its spelling. -/
theorem Token.IsRegular.reads
    {token : Token}
    (regular : token.IsRegular) :
    Reads (segments token.spelling.toList) token := by
  rw [regular.segments_spelling]
  exact regular.isWritten.reads

/-- The spelling of a regular token is a value in its own right. -/
theorem Token.IsRegular.isValue
    {token : Token}
    (regular : token.IsRegular) :
    IsValue token.spelling.toList := by
  have value := regular.isWritten.isWrittenValue
  refine ⟨value.value_ne, ?_, value.trimmed⟩
  rw [← token.intercalate_pieces]
  exact Closed.intercalate regular.closed_pieces

/-! ## Written tags -/

/-- Pieces of written tokens are read token by token, whatever head follows them. -/
theorem readSegments_pieces_append
    {tokens later : List Token}
    {rest : List (List Char)}
    (written : ∀ token ∈ tokens, token.IsWritten)
    (read_rest : readSegments rest = ([], later)) :
    readSegments (tokens.flatMap Token.pieces ++ rest) = ([], tokens ++ later) := by
  induction tokens with
  | nil => exact read_rest
  | cons token tokens ih =>
    obtain ⟨here, rest_written⟩ := List.forall_mem_cons.mp written
    rw [List.flatMap_cons, List.append_assoc]
    exact here.reads _ _ (ih rest_written)

/-- A tag puts commas between the pieces of its tokens. -/
theorem toList_spelled (tokens : List Token) :
    (spelled tokens).toList = [','].intercalate (tokens.flatMap Token.pieces) := by
  have pieces_ne : ∀ pieces ∈ tokens.map Token.pieces, pieces ≠ [] := by
    intro pieces member
    obtain ⟨token, -, rfl⟩ := List.mem_map.mp member
    exact token.pieces_ne
  have spellings : (tokens.map Token.pieces).map ([','].intercalate ·) =
      (tokens.map Token.spelling).map String.toList := by
    rw [List.map_map, List.map_map]
    exact List.map_congr_left fun token _ => token.intercalate_pieces
  rw [spelled, toList_intercalate_comma, ← spellings, intercalate_flatten pieces_ne,
    List.flatMap_def]

theorem trimmed_spelled
    {tokens : List Token}
    (written : ∀ token ∈ tokens, token.IsWritten) :
    Trimmed (spelled tokens).toList := by
  have values : ∀ part ∈ (tokens.map Token.spelling).map String.toList, IsWrittenValue part := by
    intro part member
    obtain ⟨spelling, found, rfl⟩ := List.mem_map.mp member
    obtain ⟨token, token_found, rfl⟩ := List.mem_map.mp found
    exact (written token token_found).isWrittenValue
  rw [spelled, toList_intercalate_comma]
  exact Trimmed.intercalate (fun part member => (values part member).value_ne)
    fun part member => (values part member).trimmed

/-- Written tokens are read from the tag that spells them if nothing stays open before the last
piece. -/
theorem read_spelled_of_closed
    {tokens : List Token}
    (written : ∀ token ∈ tokens, token.IsWritten)
    (closed : ∀ piece ∈ (tokens.flatMap Token.pieces).dropLast, Closed piece) :
    read (spelled tokens) = tokens := by
  have free : ∀ piece ∈ tokens.flatMap Token.pieces, CommaFree piece := by
    intro piece member
    obtain ⟨token, found, piece_found⟩ := List.mem_flatMap.mp member
    exact (written token found).commaFree_pieces piece piece_found
  rw [read, readChars, (trimmed_spelled written).trim_eq, toList_spelled]
  by_cases tokens_eq : tokens = []
  · rw [tokens_eq]
    rfl
  · have pieces_ne : tokens.flatMap Token.pieces ≠ [] := by
      obtain ⟨token, more, rfl⟩ := List.exists_cons_of_ne_nil tokens_eq
      exact List.append_ne_nil_of_left_ne_nil token.pieces_ne _
    have pieces_read :=
      readSegments_pieces_append written (show readSegments [] = ([], []) from rfl)
    rw [List.append_nil, List.append_nil] at pieces_read
    rw [IsCut.segments_intercalate ⟨free, closed⟩ pieces_ne, pieces_read]
    rfl

/-! ## Tags -/

/-- Segments of the spellings of tokens are read token by token. -/
theorem readSegments_flatMap
    {tokens : List Token}
    (regular : ∀ token ∈ tokens, token.IsRegular) :
    readSegments (tokens.flatMap fun token => segments token.spelling.toList) = ([], tokens) := by
  induction tokens with
  | nil => rfl
  | cons token tokens ih =>
    obtain ⟨here, later⟩ := List.forall_mem_cons.mp regular
    rw [List.flatMap_cons]
    exact here.reads _ tokens (ih later)

/-- Regular tokens are read from the tag that spells them, in whatever order they stand. -/
theorem read_spelled
    {tokens : List Token}
    (regular : ∀ token ∈ tokens, token.IsRegular) :
    read (spelled tokens) = tokens := by
  have values : ∀ part ∈ (tokens.map Token.spelling).map String.toList, IsValue part := by
    intro part member
    obtain ⟨spelling, found, rfl⟩ := List.mem_map.mp member
    obtain ⟨token, token_found, rfl⟩ := List.mem_map.mp found
    exact (regular token token_found).isValue
  have trimmed : Trimmed (spelled tokens).toList := by
    rw [spelled, toList_intercalate_comma]
    exact Trimmed.intercalate (fun part member => (values part member).value_ne)
      fun part member => (values part member).trimmed
  rw [read, readChars, trimmed.trim_eq]
  cases tokens with
  | nil => rfl
  | cons token tokens =>
    rw [spelled, toList_intercalate_comma, segments_intercalate (by simp)
      fun part member => (values part member).closed]
    rw [List.flatMap_map, List.flatMap_map, readSegments_flatMap regular]
    rfl

/-- Tokens that put commas, quotes and words of other tokens into their values. -/
def crowded : List Token :=
  [.check "age > 0, kind IN ('pk', 'a,b')",
    .values ["pk", "','", "(x,y)"],
    .foreignKey
      { group := some "team", table := "teams", column := "id", onDelete := some .setNull
        onUpdate := none },
    .default "now(), 'unique'",
    .primaryKey,
    .index true (some "by[a,b]"),
    .unique]

theorem crowded_isRegular : ∀ token ∈ crowded, token.IsRegular := by
  decide +kernel

/-- The crowded tag is read as it was spelled. -/
theorem read_spelled_crowded :
    (∀ token ∈ crowded, token.IsRegular) ∧
      spelled crowded =
        "check:age > 0, kind IN ('pk', 'a,b'),enum:pk,',',(x,y)," ++
          "fk:team,teams,id,on_delete:SET_NULL,default:now(), 'unique',pk," ++
          "unique_index:by[a,b],unique" ∧
      read (spelled crowded) = crowded :=
  ⟨crowded_isRegular, by decide +kernel, read_spelled crowded_isRegular⟩

end Tablewright.Tag
