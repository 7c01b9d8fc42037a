import Tablewright.Proofs.Repository.Emission

/-!
# Calls that bind

Where a piece of code calls `bind`, in or outside of brackets, and with what.  The body of a
function does so once for each of its bindings, in their order.
-/

namespace Tablewright.Repository

open Code (Token)

/-- The argument of the call of `bind` that code begins with. -/
def bound? : Code → Option Code
  | .mark c _ :: .word text :: .group .parenthesis body :: _ =>
    if c = '.' ∧ text = "bind" then some body else none
  | _ => none

mutual

/-- Arguments of the calls of `bind` inside a token. -/
def boundInside : Token → List Code
  | .group _ body => boundIn body
  | _ => []

/-- Arguments of the calls of `bind` in code. -/
def boundIn : List Token → List Code
  | [] => []
  | token :: rest => (bound? (token :: rest)).toList ++ (boundInside token ++ boundIn rest)

end

/-- A token with which no call of `bind` begins, and inside of which there is none. -/
def isQuiet : Token → Bool
  | .mark c _ => c ≠ '.'
  | .group _ body => (boundIn body).isEmpty
  | _ => true

theorem boundIn_cons_of_isQuiet
    {token : Token}
    (quiet : isQuiet token)
    (rest : Code) :
    boundIn (token :: rest) = boundIn rest := by
  rw [boundIn]
  cases token with
  | word text => rfl
  | literal text => rfl
  | mark c joint =>
    have no_call : bound? (.mark c joint :: rest) = none := by
      unfold bound?
      split
      · next same =>
        cases same
        exact if_neg fun call => of_decide_eq_true quiet call.1
      · rfl
    rw [no_call]
    rfl
  | group delimiter body =>
    have none_inside : boundIn body = [] := List.isEmpty_iff.mp quiet
    rw [boundInside, none_inside]
    rfl

theorem boundIn_append_of_isQuiet
    {before : Code}
    (quiet : before.all isQuiet)
    (after : Code) :
    boundIn (before ++ after) = boundIn after := by
  induction before with
  | nil => rfl
  | cons token before ih =>
    rw [List.all_cons, Bool.and_eq_true] at quiet
    rw [List.cons_append, boundIn_cons_of_isQuiet quiet.1, ih quiet.2]

/-- What a binding is called with. -/
def Binding.argument : Binding → Code
  | param name => name.code
  | field item name => Code.words ["&"] ++ item.code ++ Code.words ["."] ++ name.code

theorem boundIn_argument (binding : Binding) : boundIn binding.argument = [] := by
  cases binding <;> rfl

theorem boundIn_code_append (binding : Binding) (rest : Code) :
    boundIn (binding.code ++ rest) = binding.argument :: boundIn rest := by
  have call : binding.code ++ rest =
      .mark '.' false :: .word "bind" :: .group .parenthesis binding.argument :: rest := by
    cases binding <;> rfl
  have after : boundIn (.word "bind" :: .group .parenthesis binding.argument :: rest) =
      boundIn rest := by
    have quiet : isQuiet (.group .parenthesis binding.argument) :=
      List.isEmpty_iff.mpr (boundIn_argument binding)
    rw [boundIn_cons_of_isQuiet rfl, boundIn_cons_of_isQuiet quiet]
  rw [call, boundIn, after]
  rfl

theorem boundIn_bindings_append (bindings : List Binding) (rest : Code) :
    boundIn (bindings.flatMap Binding.code ++ rest) =
      bindings.map Binding.argument ++ boundIn rest := by
  induction bindings with
  | nil => rfl
  | cons binding bindings ih =>
    rw [List.flatMap_cons, List.append_assoc, boundIn_code_append, ih]
    rfl

/-! ## Bodies -/

namespace Body

/-- What a body calls the database with, up to its bindings. -/
def opening (body : Body) : Code :=
  (match body.action with
  | .fetchOne entity =>
    Code.words ["let", "item", ":"] ++ entity.code ++ Code.words ["=", "sqlx", "::", "query_as"]
  | .fetchMany entity =>
    Code.words ["let", "mut", "rows", "=", "sqlx", "::", "query_as", "::", "<", "_", ","] ++
      entity.code ++ Code.words [">"]
  | .fetchScalar type =>
    Code.words ["let", "value", ":"] ++ type ++ Code.words ["=", "sqlx", "::", "query_scalar"]
  | .execute => Code.words ["sqlx", "::", "query"]) ++
    Code.parens [.literal (Code.quoted body.sql)]

/-- What a body does behind its bindings. -/
def closing (body : Body) : Code :=
  match body.action with
  | .fetchOne _ =>
    Code.words [".", "fetch_one"] ++ poolArgument ++ awaited ++ Code.words [";"] ++
      succeeding (Code.words ["item"])
  | .fetchMany _ =>
    Code.words [".", "fetch"] ++ poolArgument ++
      Code.words [";", "let", "mut", "items", "=", "Vec", "::", "new"] ++ Code.parens [] ++
      Code.words [";", "while", "let", "Some"] ++ Code.parens (Code.words ["item"]) ++
      Code.words ["=", "futures", "::", "TryStreamExt", "::", "try_next"] ++
      Code.parens (Code.words ["&", "mut", "rows"]) ++ awaited ++
      Code.braces (Code.words ["items", ".", "push"] ++ Code.parens (Code.words ["item"]) ++
        Code.words [";"]) ++
      succeeding (Code.words ["items"])
  | .fetchScalar _ =>
    Code.words [".", "fetch_one"] ++ poolArgument ++ awaited ++ Code.words [";"] ++
      succeeding (Code.words ["value"])
  | .execute =>
    Code.words [".", "execute"] ++ poolArgument ++ awaited ++ Code.words [";"] ++
      succeeding (Code.parens [])

theorem code_eq (body : Body) :
    body.code = body.opening ++ (body.bindings.flatMap Binding.code ++ body.closing) := by
  obtain ⟨action, sql, bindings⟩ := body
  unfold code opening closing
  cases action <;> simp only [List.append_assoc]

theorem all_isQuiet_opening
    {body : Body}
    (known : FetchesKnown body.action) :
    body.opening.all isQuiet := by
  unfold opening
  cases action_eq : body.action with
  | fetchScalar type => rcases known type action_eq with rfl | rfl <;> rfl
  | _ => rfl

theorem boundIn_closing (body : Body) : boundIn body.closing = [] := by
  unfold closing
  cases body.action <;> rfl

/-- The body of a function calls `bind` once for each of its bindings, in their order. -/
theorem boundIn_code
    {body : Body}
    (known : FetchesKnown body.action) :
    boundIn body.code = body.bindings.map Binding.argument := by
  rw [code_eq, boundIn_append_of_isQuiet (all_isQuiet_opening known), boundIn_bindings_append,
    boundIn_closing, List.append_nil]

end Body
end Tablewright.Repository
