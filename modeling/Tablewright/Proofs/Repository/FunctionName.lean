import Tablewright.Proofs.Repository.Completeness
import Tablewright.Proofs.Text.RoundTrip

/-!
# Names of functions

A function is to implement the method that the contract declares, so it needs the declared name.  It
gets the snake case of the method's name in Pascal case, which is the declared name unless a word of
that has a digit or two words of one letter stand next to each other.
-/

namespace Tablewright

open Text (Alnum IsSnakeWord RunsOn)

/-! ## Declared names -/

/-- A word of a declared name: a small letter, then small letters and digits. -/
structure IsNameWord (word : List Char) : Prop where
  /-- It begins with a letter. -/
  first : ∃ c ∈ word.head?, c.isLower
  /-- It goes on with letters and digits. -/
  small : ∀ c ∈ word, c.isLower ∨ c.isDigit

/-- Words with single underscores between them spell a name. -/
structure Spells
    (words : List (List Char))
    (name : String) : Prop where
  /-- There is a word. -/
  ne_nil : words ≠ []
  /-- All are words of names. -/
  named : ∀ word ∈ words, IsNameWord word
  /-- The name is made of them. -/
  name_eq : name.toList = ['_'].intercalate words

/-- Words that a function's name keeps apart as they are: they have no digits, and no two of one
letter stand next to each other. -/
structure Kept (words : List (List Char)) : Prop where
  /-- No word has a digit. -/
  letters : ∀ word ∈ words, ∀ c ∈ word, c.isLower
  /-- Words of one letter stand apart. -/
  apart : words.IsChain fun v w => ¬ (v.length = 1 ∧ w.length = 1)

theorem isNameWord_iff {word : List Char} :
    IsNameWord word ↔ word.head?.any Char.isLower ∧ word.all fun c => c.isLower || c.isDigit := by
  rw [Option.any_eq_true, List.all_eq_true]
  simp only [Bool.or_eq_true]
  exact ⟨fun ⟨first, small⟩ => ⟨first, small⟩, fun ⟨first, small⟩ => ⟨first, small⟩⟩

theorem kept_iff {words : List (List Char)} :
    Kept words ↔ words.all (·.all Char.isLower) ∧
      words.IsChain fun v w => ¬ (v.length = 1 ∧ w.length = 1) := by
  simp only [List.all_eq_true]
  exact ⟨fun ⟨letters, apart⟩ => ⟨letters, apart⟩, fun ⟨letters, apart⟩ => ⟨letters, apart⟩⟩

instance (word : List Char) : Decidable (IsNameWord word) :=
  decidable_of_iff _ isNameWord_iff.symm

instance (words : List (List Char)) : Decidable (Kept words) :=
  decidable_of_iff _ kept_iff.symm

variable {words : List (List Char)} {word v w : List Char} {name : String}

theorem IsNameWord.ne_nil (named : IsNameWord word) : word ≠ [] := by
  rintro rfl
  obtain ⟨c, first, -⟩ := named.first
  cases first

theorem Spells.alnum (spells : Spells words name) : Alnum name.toList := by
  rw [spells.name_eq]
  exact Text.alnum_intercalate fun word found => Text.alnum_of_small (spells.named word found).small

/-- A word that begins with a letter does not mix letters and digits if it is all letters. -/
theorem IsNameWord.isSnakeWord_iff (named : IsNameWord word) :
    IsSnakeWord word ↔ ∀ c ∈ word, c.isLower := by
  refine ⟨fun spelled => spelled.uniform.resolve_right fun digits => ?_,
    fun letters => ⟨named.ne_nil, .inl letters⟩⟩
  obtain ⟨c, first, small⟩ := named.first
  have digit := digits c (List.mem_of_mem_head? first)
  rw [(Text.of_isLower small).2.1] at digit
  cases digit

theorem kindOf_of_letters
    (word_ne : word ≠ [])
    (letters : ∀ c ∈ word, c.isLower) :
    Text.kindOf word = if word.length = 1 then .letter else .letters := by
  obtain ⟨c, more, rfl⟩ := List.exists_cons_of_ne_nil word_ne
  have no_number : ¬ (c :: more).all Char.isDigit := by
    rw [List.all_cons, (Text.of_isLower (letters c List.mem_cons_self)).2.1]
    exact Bool.false_ne_true
  rw [Text.kindOf, if_neg no_number]

theorem runsOn_iff
    (v_ne : v ≠ [])
    (w_ne : w ≠ [])
    (v_letters : ∀ c ∈ v, c.isLower)
    (w_letters : ∀ c ∈ w, c.isLower) :
    RunsOn v w ↔ v.length = 1 ∧ w.length = 1 := by
  rw [RunsOn, kindOf_of_letters v_ne v_letters, kindOf_of_letters w_ne w_letters]
  split_ifs with v_single w_single w_single <;> simp [v_single, w_single]

/-- A name comes back from Pascal case as it was exactly if its words are kept. -/
theorem Spells.snakeCase_pascalCase_eq_iff (spells : Spells words name) :
    Text.snakeCase (Text.pascalCase name) = name ↔ Kept words := by
  rw [← String.toList_inj, Text.toList_snakeCase, Text.toList_pascalCase, spells.name_eq,
    Text.snakeChars_pascalChars_eq_iff spells.ne_nil fun word found =>
      ⟨(spells.named word found).ne_nil, (spells.named word found).small⟩]
  have letters_iff : (∀ word ∈ words, IsSnakeWord word) ↔ ∀ word ∈ words, ∀ c ∈ word, c.isLower :=
    forall₂_congr fun word found => (spells.named word found).isSnakeWord_iff
  have apart_iff (letters : ∀ word ∈ words, ∀ c ∈ word, c.isLower) :
      (words.IsChain fun v w => ¬ RunsOn v w) ↔
        words.IsChain fun v w => ¬ (v.length = 1 ∧ w.length = 1) :=
    List.IsChain.iff_of_mem_imp fun v w v_found w_found =>
      not_congr (runsOn_iff (spells.named v v_found).ne_nil (spells.named w w_found).ne_nil
        (letters v v_found) (letters w w_found))
  rw [letters_iff]
  exact ⟨fun ⟨letters, apart⟩ => ⟨letters, (apart_iff letters).mp apart⟩,
    fun ⟨letters, apart⟩ => ⟨letters, (apart_iff letters).mpr apart⟩⟩

/-! ## Functions of accepted contracts -/

namespace Method

variable {entity : Entity} {decl : MethodDecl} {method : Method}

/-- The function of an accepted method has the declared name exactly if that keeps its words. -/
theorem functionName_eq_iff
    (spells : Spells words decl.name)
    (built : ofDecl entity decl = .ok method) :
    method.functionName = decl.name ↔ Kept words := by
  rw [(isDeclared_of_ofDecl built).named, MethodDecl.functionName, spells.alnum.trimmed_eq,
    spells.snakeCase_pascalCase_eq_iff]

end Method

namespace Repository

/-- A declared method whose name is in snake case is implemented under that name exactly if no word
of it has a digit and no two words of one letter stand next to each other; and the functions of an
implementation have the names of the methods. -/
theorem functionName_eq_iff_of_ofDecl
    {entity : Entity}
    {decl : ContractDecl}
    {contract : Contract}
    (built : Contract.ofDecl entity decl = .ok contract) :
    List.Forall₂
        (fun declared method => ∀ words, Spells words declared.name →
          (method.functionName = declared.name ↔ Kept words))
        decl.methods contract.methods ∧
      ∀ settings implementation,
        Implementation.ofContract settings entity contract = .ok implementation →
          implementation.functions.map (·.name.text) = contract.methods.map (·.functionName) := by
  refine ⟨?_, fun settings implementation made => ?_⟩
  · exact (mapM_eq_ok_iff.mp (Contract.of_ofDecl built).2.2).imp fun _ _ method_ok _ spells =>
      Method.functionName_eq_iff spells method_ok
  · exact map_text_name_eq (forall₂_functions_of_ofContract built made)

/-! ## The first users -/

/-- A repository of users that finds users, and the first ten of them. -/
def topRepository : ContractDecl :=
  { name := "UserRepository"
    entity := "User"
    methods :=
      [{ name := "find_users_by_name", params := [{ name := "name", type := "String" }] },
        { name := "top10_users_by_name", params := [{ name := "name", type := "String" }] }] }

/-- The words of the first method. -/
def findUsersWords : List (List Char) :=
  ["find".toList, "users".toList, "by".toList, "name".toList]

/-- The words of the second method. -/
def topUsersWords : List (List Char) :=
  ["top10".toList, "users".toList, "by".toList, "name".toList]

theorem spells_findUsersWords : Spells findUsersWords "find_users_by_name" :=
  ⟨by decide, by decide, by decide⟩

theorem spells_topUsersWords : Spells topUsersWords "top10_users_by_name" :=
  ⟨by decide, by decide, by decide⟩

/-- The method that finds users as it is accepted. -/
def findUsers : Method :=
  { name := "FindUsersByName"
    plan := .derived
    params := [{ name := "name", type := stringType }]
    returnsSingle := false
    returnsEntity := true
    scalarReturn := none
    derivedSql := some "SELECT id, name FROM \"user\" WHERE name = $1" }

/-- The method that finds the first ten users as it is accepted. -/
def topUsers : Method :=
  { findUsers with
    name := "Top10UsersByName"
    derivedSql := some "SELECT id, name FROM \"user\" WHERE name = $1 LIMIT 10" }

/-- The repository as it is accepted. -/
def topContract : Contract :=
  { name := "UserRepository", entity := "User", methods := [findUsers, topUsers] }

theorem ofDecl_topRepository : Contract.ofDecl users topRepository = .ok topContract := by
  rfl

/-- The method that finds users is implemented under its name, the one with a number is not. -/
theorem functionName_eq_iff_of_ofDecl_topRepository :
    findUsers.functionName = "find_users_by_name" ∧
      topUsers.functionName ≠ "top10_users_by_name" := by
  obtain ⟨pairs, -⟩ := functionName_eq_iff_of_ofDecl ofDecl_topRepository
  obtain ⟨find_named, pairs⟩ := List.forall₂_cons.mp pairs
  obtain ⟨top_named, -⟩ := List.forall₂_cons.mp pairs
  have kept : Kept findUsersWords := by decide
  have not_kept : ¬ Kept topUsersWords := by decide
  exact ⟨(find_named _ spells_findUsersWords).mpr kept,
    mt (top_named _ spells_topUsersWords).mp not_kept⟩

/-- The contract is accepted, and its second function has another name than the method that it is to
implement. -/
theorem map_text_name_topRepository :
    Entity.ofDecl { name := "User", fields := [⟨"ID", "i64", "pk"⟩, ⟨"Name", "String", ""⟩] } =
        .ok users ∧
      Contract.ofDecl users topRepository = .ok topContract ∧
      topRepository.methods.map (·.name) = ["find_users_by_name", "top10_users_by_name"] ∧
      Spells topUsersWords "top10_users_by_name" ∧
      topContract.methods.map (·.functionName) = ["find_users_by_name", "top_10_users_by_name"] ∧
      ∃ implementation, Implementation.ofContract plainSettings users topContract =
          .ok implementation ∧
        implementation.functions.map (·.name.text) =
          ["find_users_by_name", "top_10_users_by_name"] :=
  ⟨rfl, ofDecl_topRepository, rfl, spells_topUsersWords, by decide +kernel, _, rfl,
    by decide +kernel⟩

end Repository
end Tablewright
