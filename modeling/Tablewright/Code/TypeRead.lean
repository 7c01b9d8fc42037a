import Tablewright.Code.Grammar

/-!
# Reading types

Paths with generic arguments, references, pointers, slices, arrays, tuples, functions, and bounds.
Lifetimes come first among generic arguments; marks that do not belong together stand alone.
-/

namespace Tablewright.Code

/-- A path at the beginning of a token sequence. -/
structure PathRead where
  /-- Its code. -/
  code : Code
  /-- Whether it is the member of a type. -/
  isMember : Bool := false
  /-- The number of its names, a leading colon counted as one. -/
  names : Nat
  /-- Its last name. -/
  last : String
  /-- First argument of the last name, if it is a type. -/
  argument : Option Shape
  /-- Whether the last name has arguments. -/
  hasArguments : Bool
  /-- Whether any name has arguments. -/
  isGeneric : Bool
  /-- The tokens after it. -/
  rest : List Token

/-- The shape of a type that is a path. -/
def PathRead.shape (path : PathRead) : Shape :=
  match path.argument with
  | some argument => .applied path.last argument
  | none => .named path.last

/-- Bounds at the beginning of a token sequence. -/
structure BoundsRead where
  /-- Their code. -/
  code : Code
  /-- Whether one of them is more than a lifetime. -/
  hasTrait : Bool
  /-- The tokens after them. -/
  rest : List Token

/-! ## Generic arguments -/

/-- Code of arguments, a comma set before the first if needed. -/
def argumentCode (needsComma : Bool) : List Argument → Code
  | [] => []
  | argument :: rest =>
    let lead : Code := if needsComma then [.mark ',' false] else []
    let tail : Code := if argument.hasComma then [.mark ',' false] else []
    lead ++ argument.code ++ tail ++ argumentCode (!argument.hasComma) rest

/-- Code of generic arguments: lifetimes first, each argument with its own comma. -/
def argumentsCode (arguments : List Argument) : Code :=
  let lifetimes := arguments.filter (·.isLifetime)
  let lifetimeCode := lifetimes.flatMap fun argument =>
    argument.code ++ (if argument.hasComma then [.mark ',' false] else [])
  let needsComma := (lifetimes.getLast?.map (!·.hasComma)).getD false
  lifetimeCode ++ argumentCode needsComma (arguments.filter (!·.isLifetime))

/-- Reads arguments with commas between them up to a closing angle bracket. -/
def readArgumentsWithin (reader : ArgumentReader) :
    Nat → List Token → Option (List Argument × List Token)
  | 0, _ => none
  | turns + 1, ts =>
    if peekOp ">" ts then some ([], ts)
    else do
      let (argument, ts) ← reader ts
      if peekOp ">" ts then some ([argument], ts)
      else if peekOp "," ts then do
        let (more, ts) ← readArgumentsWithin reader turns (ts.drop 1)
        some ({ argument with hasComma := true } :: more, ts)
      else none

/-- Reads arguments in angle brackets: their code, and the shape of the first if it is a type. -/
def readAngled
    (reader : ArgumentReader)
    (ts : List Token) : Option (Code × Option Shape × List Token) := do
  let (opening, ts) ← takeOp "<" ts
  let (arguments, ts) ← readArgumentsWithin reader (ts.length + 1) ts
  let (closing, ts) ← takeOp ">" ts
  some (opening ++ argumentsCode arguments ++ closing, arguments.head?.bind (·.shape), ts)

/-! ## What comes next -/

/-- Whether a path may begin with the next token. -/
def peekPath : Peek :=
  fun ts => peekName ts || peekWords Grammar.pathWords ts || peekOp "::" ts || peekOp "<" ts

/-- Whether another bound may follow a plus. -/
def peekBound : Peek :=
  fun ts =>
    peekAnyWord ts || peekOp "::" ts || peekOp "?" ts || peekLifetime ts ||
      peekGroup .parenthesis ts

/-- Whether a double colon and arguments in angle brackets come next. -/
def peekAngled : Peek :=
  fun ts => peekOp "::" ts && peekOp "<" (ts.drop 2)

/-- Whether a double colon and a parenthesis come next. -/
def peekInputs : Peek :=
  fun ts => peekOp "::" ts && peekGroup .parenthesis (ts.drop 2)

/-- Whether any further parameters come next, perhaps under a name. -/
def peekVariadic : Peek :=
  fun ts =>
    peekOp "..." ts ||
      ((peekName ts || peekWord "_" ts) && peekOp ":" (ts.drop 1) && peekOp "..." (ts.drop 2))

/-- Takes the name of a foreign calling convention. -/
def takeConvention : Reader
  | .word "extern" :: .literal text :: rest =>
    if text.toList.head? = some '"' || text.toList.head? = some 'r' then
      some ([.word "extern", .literal text], rest)
    else some ([.word "extern"], .literal text :: rest)
  | .word "extern" :: rest => some ([.word "extern"], rest)
  | _ => none

/-- Takes the list of parameters that an opaque type may capture. -/
def takeCapture : Reader :=
  Reader.inOrder
    [takeWord "use", takeOp "<",
      Reader.punctuated "," (peekOp ">")
        (Reader.either peekLifetime takeLifetime (Reader.nameOr ["Self"])),
      takeOp ">"]

namespace Grammar

open Reader

variable (g : Grammar)

/-! ## Functions -/

/-- Takes the lifetimes that `for` introduces. -/
def takeBinders : Reader :=
  inOrder
    [takeWord "for", takeOp "<",
      punctuated "," (peekOp ">") (inOrder [g.attributes, takeLifetime]), takeOp ">"]

/-- Takes the result type after an arrow, if there is an arrow. -/
def takeResult (plus : Bool) : Reader :=
  given (peekOp "->") (inOrder [takeOp "->", g.takeType plus])

/-- Takes the name of a parameter and its colon. -/
def takeParameterName : Reader :=
  inOrder [anyToken, takeOp ":"]

/-- Takes a parameter of a function type; only the first may be the receiver. -/
def takeParameter (isFirst : Bool) : Reader := fun ts =>
  if isFirst && peekWord "mut" ts && peekWord "self" (ts.drop 1) then
    inOrder
      [takeWord "mut", takeWord "self", given peekColon (inOrder [takeOp ":", g.takeType true])] ts
  else
    let isNamed := peekName ts || peekWord "_" ts || (isFirst && peekWord "self" ts)
    inOrder
      [given (fun ts => isNamed && peekColon (ts.drop 1)) takeParameterName, g.takeType true] ts

/-- Takes the parameters of a function type up to the end. -/
def takeParameters : Reader :=
  commasToLast g.attributes peekVariadic
    (inOrder [given (!peekOp "..." ·) takeParameterName, takeOp "...", maybeOp ","])
    g.takeParameter

/-- Takes a function type. -/
def takeFunction : Reader :=
  inOrder
    [maybeWord "unsafe", given (peekWord "extern") takeConvention, takeWord "fn",
      group .parenthesis g.takeParameters, g.takeResult false]

/-! ## Paths -/

/-- Reads a name of a path with its generic arguments, which a double colon introduces in an
expression and may introduce in a type. -/
def readName
    (inExpression : Bool) : List Token → Option PathRead
  | .word text :: rest =>
    let plain : PathRead :=
      { code := [.word text]
        names := 1
        last := text
        argument := none
        hasArguments := false
        isGeneric := false
        rest }
    let applied (colons : Code) : Option PathRead := do
      let (arguments, first, rest) ← readAngled g.argument (rest.drop colons.length)
      some
        { plain with
          code := .word text :: (colons ++ arguments)
          argument := first
          hasArguments := true
          isGeneric := true
          rest }
    if text = "super" || text = "self" || text = "crate" || text = "try" then some plain
    else if isReserved text && text ≠ "Self" then none
    else if peekAngled rest then applied (Token.marks "::".toList)
    else if !inExpression && peekOp "<" rest && !peekOp "<=" rest && !peekOp "<<=" rest then
      applied []
    else some plain
  | _ => none

/-- Reads names with double colons between them. -/
def readNamesWithin (inExpression : Bool) : Nat → List Token → Option PathRead
  | 0, _ => none
  | turns + 1, ts => do
    let first ← g.readName inExpression ts
    if peekOp "::" first.rest && !peekInputs first.rest then do
      let more ← readNamesWithin inExpression turns (first.rest.drop 2)
      some
        { more with
          code := first.code ++ (Token.marks "::".toList ++ more.code)
          names := more.names + 1
          isGeneric := first.isGeneric || more.isGeneric }
    else some first

/-- Reads names with double colons between them. -/
def readNames
    (inExpression : Bool)
    (ts : List Token) : Option PathRead :=
  g.readNamesWithin inExpression (ts.length + 1) ts

/-- Reads a path that is not the member of a type. -/
def readPath
    (inExpression : Bool)
    (ts : List Token) : Option PathRead :=
  if peekOp "::" ts then do
    let path ← g.readNames inExpression (ts.drop 2)
    some { path with code := Token.marks "::".toList ++ path.code, names := path.names + 1 }
  else g.readNames inExpression ts

/-- Takes a path that is not the member of a type. -/
def takePath (inExpression : Bool) : Reader :=
  fun ts => (g.readPath inExpression ts).map fun path => (path.code, path.rest)

/-- Reads a path, perhaps the member of a type. -/
def readQualified
    (inExpression : Bool)
    (ts : List Token) : Option PathRead :=
  if peekOp "<" ts then do
    let (owner, rest) ←
      inOrder
        [takeOp "<", g.takeType true,
          given (peekWord "as") (inOrder [takeWord "as", g.takePath false]),
          takeOp ">", takeOp "::"] ts
    let path ← g.readNames inExpression rest
    some { path with code := owner ++ path.code, isMember := true }
  else g.readPath inExpression ts

/-! ## Bounds -/

/-- Takes the types that a trait is called with and that of its result, perhaps after a double
colon. -/
def takeTraitInputs : Reader :=
  given (fun ts => peekGroup .parenthesis ts || peekInputs ts)
    (inOrder
      [leftOut (maybeOp "::"), group .parenthesis (commas (g.takeType true)), g.takeResult false])

/-- Takes a trait with what it is relaxed or quantified by. -/
def takeTrait : Reader := fun ts => do
  let (binders, ts) ← given (peekWord "for") g.takeBinders ts
  let (relaxed, ts) ← maybeOp "?" ts
  let (more, ts) ←
    given (fun ts => binders.isEmpty && !relaxed.isEmpty && peekWord "for" ts) g.takeBinders ts
  let path ← g.readPath false ts
  let (inputs, rest) ← given (fun _ => !path.hasArguments) g.takeTraitInputs path.rest
  some (relaxed ++ binders ++ more ++ path.code ++ inputs, rest)

/-- Reads a bound. -/
def readBound
    (captures : Bool)
    (ts : List Token) : Option BoundsRead :=
  let read (hasTrait : Bool) (reader : Reader) : Option BoundsRead :=
    (reader ts).map fun (code, rest) => { code, hasTrait, rest }
  if peekLifetime ts then read false takeLifetime
  else if peekWord "use" ts then if captures then read false takeCapture else none
  else if peekGroup .parenthesis ts then read true (group .parenthesis g.takeTrait)
  else read true g.takeTrait

/-- Takes a bound. -/
def takeBound : Reader :=
  fun ts => (g.readBound false ts).map fun bound => (bound.code, bound.rest)

/-- Reads bounds with plus signs between them. -/
def readBoundsWithin (captures : Bool) : Nat → List Token → Option BoundsRead
  | 0, _ => none
  | turns + 1, ts => do
    let bound ← g.readBound captures ts
    if !peekOp "+" bound.rest then some bound
    else if peekBound (bound.rest.drop 1) then do
      let more ← readBoundsWithin captures turns (bound.rest.drop 1)
      some
        { code := bound.code ++ .mark '+' false :: more.code
          hasTrait := bound.hasTrait || more.hasTrait
          rest := more.rest }
    else some { bound with code := bound.code ++ [.mark '+' false], rest := bound.rest.drop 1 }

/-- Reads bounds with plus signs between them; only one if `plus` is false. -/
def readBounds
    (plus captures : Bool)
    (ts : List Token) : Option BoundsRead :=
  if plus then g.readBoundsWithin captures (ts.length + 1) ts else g.readBound captures ts

/-- Takes bounds that are added to one in parentheses. -/
def takeAdded : Reader :=
  repeated (peekOp "+") (inOrder [takeOp "+", g.takeBound])

/-! ## Types -/

/-- A type of which nothing but its code matters. -/
def plainType (taken : Taken) : Option TypeRead :=
  taken.map fun (code, rest) => { code, shape := .other, rest }

/-- Reads a type made of bounds after a keyword. -/
def readBoundsType
    (plus captures : Bool)
    (keyword : Code)
    (ts : List Token) : Option TypeRead := do
  let bounds ← g.readBounds plus captures ts
  if bounds.hasTrait then
    some { code := keyword ++ bounds.code, shape := .other, rest := bounds.rest }
  else none

/-- Reads the bounds that are added to a first one. -/
def readBoundsAfter
    (plus : Bool)
    (first : Code)
    (ts : List Token) : Option TypeRead :=
  if plus && peekOp "+" ts then
    if peekBound (ts.drop 1) then do
      let bounds ← g.readBounds true false (ts.drop 1)
      some { code := first ++ .mark '+' false :: bounds.code, shape := .other, rest := bounds.rest }
    else some { code := first ++ [.mark '+' false], shape := .other, rest := ts.drop 1 }
  else some { code := first, shape := .other, joinable := .bound, rest := ts }

/-- Reads a type that begins with a path. -/
def readPathType
    (plus : Bool)
    (ts : List Token) : Option TypeRead := do
  let path ← g.readQualified false ts
  if path.isMember then some { code := path.code, shape := path.shape, rest := path.rest }
  else if peekBang path.rest && !path.isGeneric then
    plainType (inOrder [after path.code, macroInput] path.rest)
  else if plus && peekOp "+" path.rest then g.readBoundsAfter plus path.code path.rest
  else
    some
      { code := path.code
        shape := path.shape
        joinable := if path.names = 1 then .name else .path
        rest := path.rest }

/-- Reads a type after the lifetimes that `for` introduces. -/
def readQuantified
    (plus : Bool)
    (ts : List Token) : Option TypeRead := do
  let (binders, ts) ← g.takeBinders ts
  if peekWords ["fn", "unsafe", "extern"] ts then do
    let (code, rest) ← g.takeFunction ts
    some { code := binders ++ code, shape := .other, rest }
  else if peekName ts || peekWords pathWords ts then do
    let path ← g.readPath false ts
    if peekBang path.rest && !path.isGeneric then
      plainType (inOrder [after path.code, macroInput] path.rest)
    else g.readBoundsAfter plus (binders ++ path.code) path.rest
  else none

/-- Reads a type in parentheses: nothing, a tuple, a single type, or a bound to which others are
added. -/
def readParenthesized
    (plus : Bool)
    (body rest : List Token) : Option TypeRead :=
  if body.isEmpty then some { code := parens [], shape := .other, rest }
  else if peekLifetime body then do
    let bounds ← g.readBoundsType true false [] body
    if bounds.rest.isEmpty then some { code := parens bounds.code, shape := .other, rest }
    else none
  else if peekOp "?" body then do
    let bound ← whole (g.takeTrait body)
    let (added, after) ← g.takeAdded rest
    some
      { code := parens bound ++ added
        shape := .other
        joinable := if added.isEmpty then .bound else .no
        rest := after }
  else do
    let first ← g.type true body
    if peekOp "," first.rest then do
      let more ← whole (commas (g.takeType true) (first.rest.drop 1))
      some { code := parens (first.code ++ .mark ',' false :: more), shape := .other, rest }
    else if !first.rest.isEmpty then none
    else if plus && peekOp "+" rest && first.joinable ≠ .no then do
      let (added, after) ← g.takeAdded rest
      some { code := parens first.code ++ added, shape := .other, rest := after }
    else some { code := parens first.code, shape := .other, rest }

/-- Reads a slice or an array. -/
def readBracketed (body rest : List Token) : Option TypeRead := do
  let element ← g.type true body
  if peekOp ";" element.rest then do
    let count ← whole (g.takeExpression true (element.rest.drop 1))
    some { code := brackets (element.code ++ .mark ';' false :: count), shape := .other, rest }
  else if element.rest.isEmpty then
    some { code := brackets element.code, shape := .slice element.shape, rest }
  else none

/-- Reads a reference. -/
def readReference (ts : List Token) : Option TypeRead := do
  let (front, rest) ←
    inOrder [takeOp "&", given peekLifetime takeLifetime, maybeWord "mut"] ts
  let target ← g.type false rest
  some
    { code := front ++ target.code
      shape := .reference target.shape
      rest := target.rest }

/-- Takes a pointer. -/
def takePointer : Reader :=
  inOrder
    [takeOp "*", either (peekWord "const") (takeWord "const") (takeWord "mut"), g.takeType false]

/-- Reads a type; `plus` if further bounds may be added to it. -/
def readType
    (plus : Bool)
    (ts : List Token) : Option TypeRead :=
  match ts with
  | .group .parenthesis body :: rest => g.readParenthesized plus body rest
  | .group .bracket body :: rest => g.readBracketed body rest
  | _ =>
    if peekWord "for" ts then g.readQuantified plus ts
    else if peekWords ["fn", "unsafe", "extern"] ts then plainType (g.takeFunction ts)
    else if peekWord "dyn" ts then do
      let (keyword, rest) ← inOrder [takeWord "dyn", maybeOp "*"] ts
      g.readBoundsType plus false keyword rest
    else if peekWord "impl" ts then g.readBoundsType plus true [.word "impl"] (ts.drop 1)
    else if peekWord "_" ts then plainType (takeWord "_" ts)
    else if peekOp "*" ts then plainType (g.takePointer ts)
    else if peekOp "&" ts then g.readReference ts
    else if peekBang ts then plainType (takeOp "!" ts)
    else if peekPath ts then g.readPathType plus ts
    else if peekLifetime ts then g.readBoundsType true false [] ts
    else none

/-! ## Generic arguments -/

/-- Takes a literal or a block. -/
def takeConstant : Reader :=
  either peekLiteral takeLiteral g.attributedBlock

/-- An argument of which nothing but its code matters. -/
def plainArgument
    (isLifetime : Bool)
    (taken : Taken) : Option (Argument × List Token) :=
  taken.map fun (code, rest) => ({ isLifetime, code }, rest)

/-- Reads a generic argument: a lifetime, a constant, a type, or a name bound to one of these. -/
def readArgument : ArgumentReader := fun ts =>
  let isConstant : Peek := fun ts => peekLiteral ts || peekGroup .brace ts
  if peekLifetime ts && !peekOp "+" (ts.drop 2) then plainArgument true (takeLifetime ts)
  else if isConstant ts then plainArgument false (g.takeConstant ts)
  else do
    let type ← g.type true ts
    let bound (reader : Reader) : Option (Argument × List Token) :=
      plainArgument false
        ((reader type.rest).map fun (code, rest) => (type.code ++ code, rest))
    if type.joinable = .name && peekOp "=" type.rest then
      bound (inOrder [takeOp "=", either isConstant g.takeConstant (g.takeType true)])
    else if type.joinable = .name && peekOp ":" type.rest then
      bound
        (inOrder [takeOp ":", joined "+" (fun ts => peekOp "," ts || peekOp ">" ts) g.takeBound])
    else some ({ isLifetime := false, shape := some type.shape, code := type.code }, type.rest)

end Grammar
end Tablewright.Code
