import Tablewright.Code.NoAsync

/-!
# Types without asynchronous functions

Asynchronous blocks and functions stand in a type in brackets only.  Each reader of types is shown
to take code without them if the readers of the grammar that it is given do.
-/

namespace Tablewright.Code

@[grind ←] theorem noAsync_takeCapture : Reader.NoAsync takeCapture := by
  grind [takeCapture]

/-- Whether no argument that a reader reads has the word. -/
def ArgumentReader.NoAsync (reader : ArgumentReader) : Prop :=
  ∀ ts argument rest, reader ts = some (argument, rest) → hasNoAsync argument.code

/-- A grammar none of whose types and arguments has the word. -/
structure Grammar.NoAsync (g : Grammar) : Prop where
  type : ∀ plus ts type, g.type plus ts = some type → hasNoAsync type.code
  argument : ArgumentReader.NoAsync g.argument

namespace Grammar

open Reader

variable {g : Grammar}

@[grind ←] theorem noAsync_macroInput : Reader.NoAsync macroInput := by
  grind [macroInput]

@[grind ←] theorem noAsync_attributes : Reader.NoAsync g.attributes := by
  grind [attributes]

@[grind ←] theorem noAsync_attributedBlock : Reader.NoAsync g.attributedBlock := by
  grind [attributedBlock]

@[grind ←] theorem noAsync_takeBinders : Reader.NoAsync g.takeBinders := by
  grind [takeBinders]

@[grind ←] theorem noAsync_takeConstant : Reader.NoAsync g.takeConstant := by
  grind [takeConstant]

/-! ### Arguments -/

theorem hasNoAsync_comma (present : Bool) :
    hasNoAsync (if present then [.mark ',' false] else []) := by
  cases present <;> rfl

theorem hasNoAsync_argumentCode
    {arguments : List Argument}
    (clean : ∀ argument ∈ arguments, hasNoAsync argument.code)
    (needsComma : Bool) :
    hasNoAsync (argumentCode needsComma arguments) := by
  induction arguments generalizing needsComma with
  | nil => rfl
  | cons argument rest ih =>
    obtain ⟨here, later⟩ := List.forall_mem_cons.mp clean
    have front := hasNoAsync_append (hasNoAsync_comma needsComma) here
    exact hasNoAsync_append (hasNoAsync_append front (hasNoAsync_comma _)) (ih later _)

theorem hasNoAsync_argumentsCode
    {arguments : List Argument}
    (clean : ∀ argument ∈ arguments, hasNoAsync argument.code) :
    hasNoAsync (argumentsCode arguments) := by
  refine hasNoAsync_append (hasNoAsync_flatMap fun argument member => ?_)
    (hasNoAsync_argumentCode (fun argument member => ?_) _)
  · exact hasNoAsync_append (clean argument (List.mem_filter.mp member).1) (hasNoAsync_comma _)
  · exact clean argument (List.mem_filter.mp member).1

theorem hasNoAsync_of_readArgumentsWithin
    {reader : ArgumentReader}
    (clean : reader.NoAsync)
    {turns : Nat}
    {ts rest : List Token}
    {arguments : List Argument}
    (read : readArgumentsWithin reader turns ts = some (arguments, rest)) :
    ∀ argument ∈ arguments, hasNoAsync argument.code := by
  induction turns generalizing ts arguments with
  | zero => cases read
  | succ turns ih =>
    unfold readArgumentsWithin at read
    split at read
    · cases read
      exact List.forall_mem_nil _
    · obtain ⟨⟨argument, ts'⟩, here, read⟩ := Option.bind_eq_some_iff.mp read
      have clean_here := clean _ _ _ here
      dsimp only at read
      split at read
      · cases read
        exact List.forall_mem_singleton.mpr clean_here
      · split at read
        · obtain ⟨⟨more, ts''⟩, later, same⟩ := Option.bind_eq_some_iff.mp read
          cases same
          exact List.forall_mem_cons.mpr ⟨clean_here, ih later⟩
        · cases read

theorem hasNoAsync_of_readAngled
    {reader : ArgumentReader}
    (clean : reader.NoAsync)
    {ts rest : List Token}
    {code : Code}
    {first : Option Shape}
    (read : readAngled reader ts = some (code, first, rest)) :
    hasNoAsync code := by
  simp only [readAngled, Option.bind_eq_bind, Option.bind_eq_some_iff, Prod.exists] at read
  obtain ⟨opening, _, opened, arguments, _, inside, closing, _, closed, same⟩ := read
  cases same
  have front := hasNoAsync_append (Reader.noAsync_takeOp _ _ _ _ opened)
    (hasNoAsync_argumentsCode (hasNoAsync_of_readArgumentsWithin clean inside))
  exact hasNoAsync_append front (Reader.noAsync_takeOp _ _ _ _ closed)

section

variable (clean : g.NoAsync)

include clean

/-! ### Functions -/

theorem noAsync_takeType (plus : Bool) : Reader.NoAsync (g.takeType plus) :=
  noAsync_map (clean.type plus)

theorem noAsync_takeResult (plus : Bool) : Reader.NoAsync (g.takeResult plus) := by
  grind [takeResult, noAsync_takeType]

theorem noAsync_takeFunction : Reader.NoAsync g.takeFunction := by
  grind [takeFunction, noAsync_takeResult]

/-! ### Paths -/

theorem hasNoAsync_of_readName
    {inExpression : Bool}
    {ts : List Token}
    {path : PathRead}
    (read : g.readName inExpression ts = some path) :
    hasNoAsync path.code := by
  unfold readName at read
  split at read
  · next text rest =>
    dsimp only at read
    have applied {colons arguments : Code} {ts rest : List Token} {first : Option Shape}
        (named : text ≠ "async")
        (before : hasNoAsync colons)
        (angled : readAngled g.argument ts = some (arguments, first, rest)) :
        hasNoAsync (.word text :: (colons ++ arguments)) := by
      rw [hasNoAsync_word, Bool.and_eq_true_iff, decide_eq_true_iff]
      exact ⟨named, hasNoAsync_append before (hasNoAsync_of_readAngled clean.argument angled)⟩
    have alone (named : text ≠ "async") : hasNoAsync [.word text] := by
      rw [hasNoAsync_word, hasNoAsync_nil, Bool.and_true, decide_eq_true_iff]
      exact named
    split at read
    · next special =>
      cases read
      refine alone ?_
      rintro rfl
      simp at special
    · split at read
      · cases read
      · next no_special unreserved =>
        have named : text ≠ "async" := by
          rintro rfl
          simp [isReserved_async] at unreserved
        split at read
        · obtain ⟨⟨arguments, first, after⟩, angled, same⟩ := Option.bind_eq_some_iff.mp read
          cases same
          exact applied named (hasNoAsync_marks _) angled
        · split at read
          · obtain ⟨⟨arguments, first, after⟩, angled, same⟩ := Option.bind_eq_some_iff.mp read
            cases same
            exact applied named hasNoAsync_nil angled
          · cases read
            exact alone named
  · cases read

theorem hasNoAsync_of_readNames
    {inExpression : Bool}
    {ts : List Token}
    {path : PathRead}
    (read : g.readNames inExpression ts = some path) :
    hasNoAsync path.code := by
  unfold readNames at read
  generalize ts.length + 1 = turns at read
  induction turns generalizing ts path with
  | zero => cases read
  | succ turns ih =>
    unfold readNamesWithin at read
    obtain ⟨first, here, read⟩ := Option.bind_eq_some_iff.mp read
    have clean_here := hasNoAsync_of_readName clean here
    split at read
    · obtain ⟨more, later, same⟩ := Option.bind_eq_some_iff.mp read
      cases same
      exact hasNoAsync_append clean_here (hasNoAsync_append (hasNoAsync_marks _) (ih later))
    · cases read
      exact clean_here

theorem hasNoAsync_of_readPath
    {inExpression : Bool}
    {ts : List Token}
    {path : PathRead}
    (read : g.readPath inExpression ts = some path) :
    hasNoAsync path.code := by
  unfold readPath at read
  split at read
  · obtain ⟨names, found, same⟩ := Option.bind_eq_some_iff.mp read
    cases same
    exact hasNoAsync_append (hasNoAsync_marks _) (hasNoAsync_of_readNames clean found)
  · exact hasNoAsync_of_readNames clean read

theorem noAsync_takePath (inExpression : Bool) : Reader.NoAsync (g.takePath inExpression) :=
  noAsync_map fun _ _ => hasNoAsync_of_readPath clean

theorem hasNoAsync_of_readQualified
    {inExpression : Bool}
    {ts : List Token}
    {path : PathRead}
    (read : g.readQualified inExpression ts = some path) :
    hasNoAsync path.code := by
  unfold readQualified at read
  split at read
  · simp only [Option.bind_eq_bind, Option.bind_eq_some_iff, Prod.exists] at read
    obtain ⟨owner, rest, owned, names, found, same⟩ := read
    cases same
    refine hasNoAsync_append ?_ (hasNoAsync_of_readNames clean found)
    refine noAsync_inOrder ?_ _ _ _ owned
    have type := noAsync_takeType clean
    have path := noAsync_takePath clean
    grind
  · exact hasNoAsync_of_readPath clean read

/-! ### Bounds -/

theorem noAsync_takeTraitInputs : Reader.NoAsync g.takeTraitInputs := by
  grind [takeTraitInputs, noAsync_takeResult]

theorem noAsync_takeTrait : Reader.NoAsync g.takeTrait := by
  intro ts code rest taken
  simp only [takeTrait, Option.bind_eq_bind, Option.bind_eq_some_iff, Prod.exists] at taken
  obtain ⟨binders, _, bound, relaxed, _, marked, more, _, further, path, found, inputs, _, called,
    same⟩ := taken
  cases same
  have front := hasNoAsync_append (noAsync_maybeOp "?" _ _ _ marked)
    (noAsync_given noAsync_takeBinders _ _ _ bound)
  have middle := hasNoAsync_append front (noAsync_given noAsync_takeBinders _ _ _ further)
  exact hasNoAsync_append (hasNoAsync_append middle (hasNoAsync_of_readPath clean found))
    (noAsync_given (noAsync_takeTraitInputs clean) _ _ _ called)

theorem hasNoAsync_of_readBound
    {captures : Bool}
    {ts : List Token}
    {bound : BoundsRead}
    (read : g.readBound captures ts = some bound) :
    hasNoAsync bound.code := by
  have of_reader {reader : Reader} {hasTrait : Bool} (cleanly : Reader.NoAsync reader)
      (read : (reader ts).map (fun taken => BoundsRead.mk taken.1 hasTrait taken.2) = some bound) :
      hasNoAsync bound.code := by
    obtain ⟨taken, found, same⟩ := Option.map_eq_some_iff.mp read
    cases same
    exact cleanly _ _ _ found
  unfold readBound at read
  split at read
  · exact of_reader noAsync_takeLifetime read
  · split at read
    · split at read
      · exact of_reader noAsync_takeCapture read
      · cases read
    · split at read
      · exact of_reader (noAsync_group _ _) read
      · exact of_reader (noAsync_takeTrait clean) read

theorem noAsync_takeBound : Reader.NoAsync g.takeBound :=
  noAsync_map fun _ _ => hasNoAsync_of_readBound clean

theorem hasNoAsync_of_readBounds
    {plus captures : Bool}
    {ts : List Token}
    {bounds : BoundsRead}
    (read : g.readBounds plus captures ts = some bounds) :
    hasNoAsync bounds.code := by
  unfold readBounds at read
  split at read
  · generalize ts.length + 1 = turns at read
    induction turns generalizing ts bounds with
    | zero => cases read
    | succ turns ih =>
      unfold readBoundsWithin at read
      obtain ⟨bound, here, read⟩ := Option.bind_eq_some_iff.mp read
      have clean_here := hasNoAsync_of_readBound clean here
      split at read
      · cases read
        exact clean_here
      · split at read
        · obtain ⟨more, later, same⟩ := Option.bind_eq_some_iff.mp read
          cases same
          exact hasNoAsync_append clean_here (hasNoAsync_mark '+' false (ih later))
        · cases read
          exact hasNoAsync_append clean_here (hasNoAsync_mark '+' false hasNoAsync_nil)
  · exact hasNoAsync_of_readBound clean read

theorem noAsync_takeAdded : Reader.NoAsync g.takeAdded := by
  grind [takeAdded, noAsync_takeBound]

/-! ### Kinds of types -/

theorem hasNoAsync_of_readBoundsType
    {plus captures : Bool}
    {keyword : Code}
    {ts : List Token}
    {type : TypeRead}
    (before : hasNoAsync keyword)
    (read : g.readBoundsType plus captures keyword ts = some type) :
    hasNoAsync type.code := by
  unfold readBoundsType at read
  obtain ⟨bounds, found, read⟩ := Option.bind_eq_some_iff.mp read
  split at read
  · cases read
    exact hasNoAsync_append before (hasNoAsync_of_readBounds clean found)
  · cases read

theorem hasNoAsync_of_readBoundsAfter
    {plus : Bool}
    {first : Code}
    {ts : List Token}
    {type : TypeRead}
    (before : hasNoAsync first)
    (read : g.readBoundsAfter plus first ts = some type) :
    hasNoAsync type.code := by
  unfold readBoundsAfter at read
  split at read
  · split at read
    · obtain ⟨bounds, found, same⟩ := Option.bind_eq_some_iff.mp read
      cases same
      exact hasNoAsync_append before
        (hasNoAsync_mark '+' false (hasNoAsync_of_readBounds clean found))
    · cases read
      exact hasNoAsync_append before (hasNoAsync_mark '+' false hasNoAsync_nil)
  · cases read
    exact before

omit clean in
theorem hasNoAsync_of_plainType
    {reader : Reader}
    {ts : List Token}
    {type : TypeRead}
    (cleanly : Reader.NoAsync reader)
    (read : plainType (reader ts) = some type) :
    hasNoAsync type.code := by
  obtain ⟨taken, found, same⟩ := Option.map_eq_some_iff.mp read
  cases same
  exact cleanly _ _ _ found

omit clean in
theorem noAsync_macroAfter
    {path : Code}
    (before : hasNoAsync path) :
    Reader.NoAsync (inOrder [after path, macroInput]) :=
  noAsync_andThen (noAsync_after before) (noAsync_andThen noAsync_macroInput noAsync_nothing)

theorem hasNoAsync_of_readPathType
    {plus : Bool}
    {ts : List Token}
    {type : TypeRead}
    (read : g.readPathType plus ts = some type) :
    hasNoAsync type.code := by
  unfold readPathType at read
  obtain ⟨path, found, read⟩ := Option.bind_eq_some_iff.mp read
  have clean_path := hasNoAsync_of_readQualified clean found
  split at read
  · cases read
    exact clean_path
  · split at read
    · exact hasNoAsync_of_plainType (noAsync_macroAfter clean_path) read
    · split at read
      · exact hasNoAsync_of_readBoundsAfter clean clean_path read
      · cases read
        exact clean_path

theorem hasNoAsync_of_readQuantified
    {plus : Bool}
    {ts : List Token}
    {type : TypeRead}
    (read : g.readQuantified plus ts = some type) :
    hasNoAsync type.code := by
  unfold readQuantified at read
  obtain ⟨⟨binders, ts⟩, bound, read⟩ := Option.bind_eq_some_iff.mp read
  have clean_binders := noAsync_takeBinders _ _ _ bound
  dsimp only at read
  split at read
  · obtain ⟨⟨code, rest⟩, function, same⟩ := Option.bind_eq_some_iff.mp read
    cases same
    exact hasNoAsync_append clean_binders (noAsync_takeFunction clean _ _ _ function)
  · split at read
    · obtain ⟨path, found, read⟩ := Option.bind_eq_some_iff.mp read
      have clean_path := hasNoAsync_of_readPath clean found
      split at read
      · exact hasNoAsync_of_plainType (noAsync_macroAfter clean_path) read
      · exact hasNoAsync_of_readBoundsAfter clean (hasNoAsync_append clean_binders clean_path) read
    · cases read

/-- What stands in parentheses does not matter; only bounds may be added to it. -/
theorem hasNoAsync_of_readParenthesized
    {plus : Bool}
    {body rest : List Token}
    {type : TypeRead}
    (read : g.readParenthesized plus body rest = some type) :
    hasNoAsync type.code := by
  have group (inside : Code) : hasNoAsync (parens inside) := by
    rw [parens, hasNoAsync_group, hasNoAsync_nil]
  have added {inside : Code} {more : Code} {after : List Token}
      (found : g.takeAdded rest = some (more, after)) : hasNoAsync (parens inside ++ more) :=
    hasNoAsync_append (group inside) (noAsync_takeAdded clean _ _ _ found)
  unfold readParenthesized at read
  split at read
  · cases read
    exact group []
  · split at read
    · obtain ⟨bounds, -, read⟩ := Option.bind_eq_some_iff.mp read
      split at read
      · cases read
        exact group bounds.code
      · cases read
    · split at read
      · obtain ⟨bound, -, read⟩ := Option.bind_eq_some_iff.mp read
        obtain ⟨⟨more, after⟩, found, same⟩ := Option.bind_eq_some_iff.mp read
        cases same
        exact added found
      · obtain ⟨first, -, read⟩ := Option.bind_eq_some_iff.mp read
        split at read
        · obtain ⟨more, -, same⟩ := Option.bind_eq_some_iff.mp read
          cases same
          exact group _
        · split at read
          · cases read
          · split at read
            · obtain ⟨⟨more, after⟩, found, same⟩ := Option.bind_eq_some_iff.mp read
              cases same
              exact added found
            · cases read
              exact group _

omit clean in
theorem hasNoAsync_of_readBracketed
    {body rest : List Token}
    {type : TypeRead}
    (read : g.readBracketed body rest = some type) :
    hasNoAsync type.code := by
  have group (inside : Code) : hasNoAsync (brackets inside) := by
    rw [brackets, hasNoAsync_group, hasNoAsync_nil]
  unfold readBracketed at read
  obtain ⟨element, -, read⟩ := Option.bind_eq_some_iff.mp read
  split at read
  · obtain ⟨count, -, same⟩ := Option.bind_eq_some_iff.mp read
    cases same
    exact group _
  · split at read
    · cases read
      exact group _
    · cases read

theorem hasNoAsync_of_readReference
    {ts : List Token}
    {type : TypeRead}
    (read : g.readReference ts = some type) :
    hasNoAsync type.code := by
  unfold readReference at read
  obtain ⟨⟨front, rest⟩, marked, read⟩ := Option.bind_eq_some_iff.mp read
  obtain ⟨target, found, same⟩ := Option.bind_eq_some_iff.mp read
  cases same
  refine hasNoAsync_append (noAsync_inOrder ?_ _ _ _ marked) (clean.type _ _ _ found)
  grind

theorem noAsync_takePointer : Reader.NoAsync g.takePointer := by
  grind [takePointer, noAsync_takeType]

/-! ### Types and arguments -/

theorem hasNoAsync_of_readType
    {plus : Bool}
    {ts : List Token}
    {type : TypeRead}
    (read : g.readType plus ts = some type) :
    hasNoAsync type.code := by
  unfold readType at read
  split at read
  · exact hasNoAsync_of_readParenthesized clean read
  · exact hasNoAsync_of_readBracketed read
  split at read
  · exact hasNoAsync_of_readQuantified clean read
  split at read
  · exact hasNoAsync_of_plainType (noAsync_takeFunction clean) read
  split at read
  · obtain ⟨⟨keyword, rest⟩, taken, read⟩ := Option.bind_eq_some_iff.mp read
    refine hasNoAsync_of_readBoundsType clean (noAsync_inOrder ?_ _ _ _ taken) read
    grind
  split at read
  · exact hasNoAsync_of_readBoundsType clean (by simp) read
  split at read
  · exact hasNoAsync_of_plainType (noAsync_takeWord (by decide)) read
  split at read
  · exact hasNoAsync_of_plainType (noAsync_takePointer clean) read
  split at read
  · exact hasNoAsync_of_readReference clean read
  split at read
  · exact hasNoAsync_of_plainType (noAsync_takeOp "!") read
  split at read
  · exact hasNoAsync_of_readPathType clean read
  split at read
  · exact hasNoAsync_of_readBoundsType clean hasNoAsync_nil read
  · cases read

omit clean in
theorem hasNoAsync_of_plainArgument
    {isLifetime : Bool}
    {taken : Taken}
    {argument : Argument}
    {rest : List Token}
    (cleanly : ∀ code rest, taken = some (code, rest) → hasNoAsync code)
    (read : plainArgument isLifetime taken = some (argument, rest)) :
    hasNoAsync argument.code := by
  obtain ⟨found, found_eq, same⟩ := Option.map_eq_some_iff.mp read
  cases same
  exact cleanly _ _ found_eq

theorem noAsync_readArgument : g.readArgument.NoAsync := by
  intro ts argument rest read
  unfold readArgument at read
  dsimp only at read
  split at read
  · exact hasNoAsync_of_plainArgument (noAsync_takeLifetime ts) read
  split at read
  · exact hasNoAsync_of_plainArgument (noAsync_takeConstant ts) read
  obtain ⟨type, found, read⟩ := Option.bind_eq_some_iff.mp read
  have clean_type := clean.type _ _ _ found
  have of_bound {reader : Reader} (cleanly : Reader.NoAsync reader)
      (read : plainArgument false
        ((reader type.rest).map fun taken => (type.code ++ taken.1, taken.2)) =
          some (argument, rest)) :
      hasNoAsync argument.code := by
    refine hasNoAsync_of_plainArgument (fun code rest taken => ?_) read
    obtain ⟨⟨value, after⟩, value_taken, same⟩ := Option.map_eq_some_iff.mp taken
    cases same
    exact hasNoAsync_append clean_type (cleanly _ _ _ value_taken)
  have clean_value := noAsync_takeType clean true
  have clean_bound := noAsync_takeBound clean
  split at read
  · exact of_bound (by grind) read
  split at read
  · exact of_bound (by grind) read
  · cases read
    exact clean_type

end

end Grammar
end Tablewright.Code
