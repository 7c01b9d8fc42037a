import Tablewright.Proofs.Repository.Key

/-!
# Names of asynchronous functions

The asynchronous functions of a block are told by their tokens.  The code of an emitted function
shows its own name and no other, since neither its result nor the type of errors has the word that
begins such a function; functions one after the other show their names in order.
-/

namespace Tablewright.Repository

open Code (Identifier hasNoAsync)

/-- Names of the asynchronous functions that code has outside of brackets, in order.  What follows
an apostrophe is the name of a lifetime. -/
def asyncNames : Code → List String
  | .mark '\'' true :: .word _ :: rest => asyncNames rest
  | .word "async" :: .word "fn" :: .word name :: .group .parenthesis _ :: rest =>
    name :: asyncNames rest
  | _ :: rest => asyncNames rest
  | [] => []

/-- Code without the word adds no function, unless a lifetime at its end is named by what
follows. -/
theorem asyncNames_append
    {code rest : Code}
    (clean : hasNoAsync code)
    (no_name : ∀ text after, rest ≠ .word text :: after) :
    asyncNames (code ++ rest) = asyncNames rest := by
  induction code using Code.hasNoAsync.induct with
  | case1 name code ih =>
    rw [Code.hasNoAsync_lifetime] at clean
    rw [List.cons_append, List.cons_append, asyncNames, ih clean]
  | case2 text code ih =>
    rw [Code.hasNoAsync_word, Bool.and_eq_true_iff, decide_eq_true_iff] at clean
    rw [List.cons_append, asyncNames, ih clean.2]
    · rintro _ _ ⟨⟩
    · rintro _ _ _ ⟨⟩
      exact absurd rfl clean.1
  | case3 token code no_lifetime no_word ih =>
    have inside : hasNoAsync code := by
      rw [hasNoAsync] at clean
      · exact clean
      · exact no_lifetime
      · exact no_word
    rw [List.cons_append, asyncNames, ih inside]
    · intro text after token_eq same
      cases code with
      | nil => exact no_name text after same
      | cons next code =>
        obtain ⟨rfl, -⟩ := List.cons.inj same
        exact no_lifetime text code token_eq rfl
    · intro _ _ _ token_eq _
      exact no_word _ token_eq
  | case4 => rfl

/-! ## Emitted functions -/

variable {entity : Entity} {name : Identifier} {method : Method} {function : Function}

theorem hasNoAsync_result_rows
    (other : name.text ≠ "async")
    (isSingle : Bool) :
    hasNoAsync (Outcome.rows name isSingle).result := by
  have single : hasNoAsync name.code := by simpa [Identifier.code] using other
  cases isSingle with
  | true => exact single
  | false =>
    have opened : hasNoAsync (Code.words ["Vec", "<"] ++ name.code) :=
      Code.hasNoAsync_append (by decide) single
    exact Code.hasNoAsync_append opened (by decide)

theorem hasNoAsync_result_derived
    (other : name.text ≠ "async")
    (sql : String) :
    hasNoAsync (derivedOutcome name method sql).result := by
  unfold derivedOutcome
  split
  · decide
  · split
    · decide
    · split
      · exact hasNoAsync_result_rows other method.returnsSingle
      · rfl

theorem hasNoAsync_result_custom (other : name.text ≠ "async") :
    hasNoAsync (customOutcome name method).result := by
  unfold customOutcome
  cases method.scalarReturn with
  | some type => exact type.noAsync
  | none =>
    cases method.returnsEntity with
    | true => exact hasNoAsync_result_rows other method.returnsSingle
    | false => rfl

/-- The result of an emitted function is an entity, a collection of entities, a declared type, or a
type of the language. -/
theorem hasNoAsync_result
    (other : name.text ≠ "async")
    (made : implementation? entity name method = .ok (some function)) :
    hasNoAsync function.result := by
  obtain ⟨outcome, sql, bindings, outcome_of, function_ok⟩ :=
    exists_functionOf_of_implementation? made
  rw [(isMadeOf_of_functionOf function_ok).result_eq]
  cases outcome_of with
  | none => rfl
  | rows isSingle => exact hasNoAsync_result_rows other isSingle
  | derived sql => exact hasNoAsync_result_derived other sql
  | custom => exact hasNoAsync_result_custom other

/-- The code of a function shows its name. -/
theorem asyncNames_code_append
    {error : Code}
    (result_clean : hasNoAsync function.result)
    (error_clean : hasNoAsync error)
    (rest : Code) :
    asyncNames (function.code error ++ rest) = function.name.text :: asyncNames rest := by
  have opened : hasNoAsync (Code.words ["->", "Result", "<"] ++ function.result) :=
    Code.hasNoAsync_append (by decide) result_clean
  have closed : hasNoAsync (Code.words [","] ++ error ++ Code.words [">"]) :=
    Code.hasNoAsync_append (Code.hasNoAsync_append (by decide) error_clean) (by decide)
  let signature := Code.words ["->", "Result", "<"] ++ function.result ++
    (Code.words [","] ++ error ++ Code.words [">"])
  have parted : function.code error ++ rest =
      .word "async" :: .word "fn" :: .word function.name.text ::
        (parameters function.params ++
          (signature ++ .group .brace function.body.code :: rest)) := by
    have keywords : Code.words ["async", "fn"] = [.word "async", .word "fn"] := rfl
    have arrow : Code.words ["->", "Result", "<"] =
      Code.words ["->"] ++ Code.words ["Result", "<"] := rfl
    simp [signature, Function.code, fallible, Identifier.code, Code.braces, keywords, arrow]
  rw [parted, parameters, Code.parens, List.singleton_append, asyncNames, asyncNames_append]
  · rw [asyncNames]
    · rintro _ _ ⟨⟩
    · rintro _ _ _ ⟨⟩
  · exact Code.hasNoAsync_append opened closed
  · rintro _ _ ⟨⟩

/-- Functions one after the other show their names in order. -/
theorem asyncNames_flatMap_code
    {error : Code}
    {functions : List Function}
    (results_clean : ∀ function ∈ functions, hasNoAsync function.result)
    (error_clean : hasNoAsync error) :
    asyncNames (functions.flatMap (Function.code error)) = functions.map (·.name.text) := by
  induction functions with
  | nil => rfl
  | cons function functions ih =>
    obtain ⟨here, later⟩ := List.forall_mem_cons.mp results_clean
    rw [List.flatMap_cons, asyncNames_code_append here error_clean, List.map_cons, ih later]

end Tablewright.Repository
