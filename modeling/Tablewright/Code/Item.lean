import Tablewright.Code.Expression

/-!
# Reading items and statements

A block holds statements, and among them items: functions, imports, constants, modules, types,
structures, enumerations, unions, traits, implementations, foreign blocks and macros.  A visibility
before a variant, bounds that name nothing and conditions that ask nothing are not kept.
-/

namespace Tablewright.Code

/-- Takes the visibility of an item; a parenthesis that limits it no further is left alone. -/
def takeVisibility : Reader := fun ts =>
  match ts with
  | .word "pub" :: rest =>
    match rest with
    | .group .parenthesis [.word scope] :: after =>
      if ["crate", "self", "super"].contains scope then
        some ([.word "pub", .group .parenthesis [.word scope]], after)
      else some ([.word "pub"], rest)
    | .group .parenthesis (.word "in" :: _) :: _ =>
      Reader.inOrder
        [takeWord "pub",
          Reader.group .parenthesis (Reader.inOrder [takeWord "in", Grammar.plainPath])] ts
    | _ => some ([.word "pub"], rest)
  | _ => some ([], ts)

/-- Takes the words before the keyword of a function. -/
def takeFunctionFront (safe : Bool) : Reader :=
  Reader.inOrder
    [Reader.maybeWord "const", Reader.maybeWord "async",
      Reader.given (fun ts => peekWord "unsafe" ts || (safe && peekWord "safe" ts)) Reader.anyToken,
      Reader.given (peekWord "extern") takeConvention]

/-- Whether a function comes next. -/
def peekSignature (safe : Bool) : Peek := fun ts =>
  match takeFunctionFront safe ts with
  | some (_, rest) => peekWord "fn" rest
  | none => false

/-- Whether a path without arguments may begin with the next token. -/
def peekPlainPath : Peek :=
  fun ts => peekName ts || peekWords ["self", "super", "crate"] ts || peekOp "::" ts

/-- Whether parameters, rather than the member of a type, follow the keyword of an
implementation. -/
def peekGenerics : Peek :=
  fun ts =>
    let next := ts.drop 1
    let decides : Peek := fun ts =>
      peekColon ts || peekOp "," ts || peekOp ">" ts || peekOp "=" ts
    peekOp "<" ts &&
      (peekOp ">" next || peekOp "#" next || peekWord "const" next ||
        (peekLifetime next && decides (next.drop 2)) || (peekName next && decides (next.drop 1)))

namespace Grammar

open Reader

variable (g : Grammar)

/-! ## Parameters, bounds and conditions -/

/-- Takes what a colon introduces between plus signs, if there is a colon. -/
def takeAfterColon
    (stop : Peek)
    (bound : Reader) : Reader :=
  given (peekOp ":") (introduced (.mark ':' false) (joined "+" stop bound))

/-- Whether the bounds of a parameter end. -/
def peekParameterEnd : Peek :=
  fun ts => ts.isEmpty || peekOp "," ts || peekOp ">" ts || peekOp "=" ts

/-- Takes the value that a constant parameter has by default. -/
def takeDefaultConstant : Reader :=
  firstOf
    [(peekLiteral, takeLiteral), (peekName, name), (peekGroup .brace, g.attributedBlock)]

/-- Reads a generic parameter: a lifetime, a constant or a type. -/
def readParameter : ArgumentReader := fun ts => do
  let (attributes, ts) ← g.attributes ts
  let parameter (isLifetime : Bool) (reader : Reader) : Option (Argument × List Token) :=
    plainArgument isLifetime (inOrder [after attributes, reader] ts)
  if peekLifetime ts then
    parameter true (inOrder [takeLifetime, takeAfterColon peekParameterEnd takeLifetime])
  else if peekName ts then
    parameter false
      (inOrder
        [name, takeAfterColon peekParameterEnd g.takeBound,
          given (peekOp "=") (inOrder [takeOp "=", g.takeType true])])
  else if peekWord "const" ts then
    parameter false
      (inOrder
        [takeWord "const", name, takeOp ":", g.takeType true,
          given (peekOp "=") (inOrder [takeOp "=", g.takeDefaultConstant])])
  else parameter false (takeWord "_")

/-- Takes generic parameters in angle brackets, if there are any. -/
def takeGenerics : Reader :=
  given (peekOp "<") fun ts =>
    (readAngled g.readParameter ts).map fun (code, _, rest) => (code, rest)

/-- Whether the conditions on parameters end. -/
def peekConditionEnd : Peek :=
  fun ts =>
    ts.isEmpty || peekGroup .brace ts || peekOp "," ts || peekOp ";" ts || peekColon ts ||
      peekOp "=" ts

/-- Takes a condition on a lifetime or a type. -/
def takeRequirement : Reader :=
  either (fun ts => peekLifetime ts && peekOp ":" (ts.drop 2))
    (inOrder [takeLifetime, takeOp ":", joined "+" peekConditionEnd takeLifetime])
    (inOrder
      [given (peekWord "for") g.takeBinders, g.takeType true, takeOp ":",
        joined "+" peekConditionEnd g.takeBound])

/-- Takes the conditions on parameters, if there are any. -/
def takeWhere : Reader :=
  given (peekWord "where")
    (introduced (.word "where") (joined "," peekConditionEnd g.takeRequirement))

/-! ## Functions -/

/-- Takes the receiver of a method. -/
def takeReceiver : Reader :=
  either (peekOp "&")
    (inOrder [takeOp "&", given peekLifetime takeLifetime, maybeWord "mut", takeWord "self"])
    (inOrder
      [maybeWord "mut", takeWord "self",
        given (peekOp ":") (inOrder [takeOp ":", g.takeType true])])

/-- Takes a parameter of a function; only the first may be the receiver. -/
def takeInput (isFirst : Bool) : Reader := fun ts =>
  match g.takeReceiver ts with
  | some taken => if isFirst then some taken else none
  | none =>
    if peekName ts && peekOp "<" (ts.drop 1) then
      inOrder [after [.word "_", .mark ':' false], g.takeType true] ts
    else inOrder [g.takePattern, takeOp ":", g.takeType true] ts

/-- Whether any further parameters come next, perhaps under a pattern. -/
def peekRest : Peek := fun ts =>
  peekOp "..." ts ||
    match inOrder [g.takePattern, takeOp ":"] ts with
    | some (_, rest) => peekOp "..." rest
    | none => false

/-- Takes the parameters of a function. -/
def takeInputs : Reader :=
  commasToLast g.attributes g.peekRest
    (inOrder
      [given (!peekOp "..." ·) (inOrder [g.takePattern, takeOp ":"]), takeOp "...", maybeOp ","])
    g.takeInput

/-- Takes a function up to its body. -/
def takeSignature (safe : Bool) : Reader :=
  inOrder
    [takeFunctionFront safe, takeWord "fn", name, g.takeGenerics,
      group .parenthesis g.takeInputs, g.takeResult true, g.takeWhere]

/-- Takes a function whose body may be left out. -/
def takeFunctionItem (safe : Bool) : Reader :=
  inOrder [g.takeSignature safe, either (peekOp ";") (takeOp ";") g.attributedBlock]

/-! ## Constants and types -/

/-- Takes a value after an equals sign, if there is one. -/
def takeInitial : Reader :=
  given (peekOp "=") (inOrder [takeOp "=", g.takeExpression true])

/-- Takes a constant. -/
def takeConstantItem : Reader :=
  inOrder
    [takeWord "const", nameOr ["_"], g.takeGenerics, takeOp ":", g.takeType true, g.takeInitial,
      g.takeWhere, takeOp ";"]

/-- Takes a static variable; its type may be left out only if `typed` is false. -/
def takeStatic (typed : Bool) : Reader :=
  inOrder
    [takeWord "static", maybeWord "mut", name,
      given (fun ts => typed || !peekOp "=" ts) (inOrder [takeOp ":", g.takeType true]),
      g.takeInitial, takeOp ";"]

/-- Takes a type with a name; conditions may stand before the definition or after it. -/
def takeTypeItem (before behind : Bool) : Reader :=
  let stop : Peek := fun ts => peekWord "where" ts || peekOp "=" ts || peekOp ";" ts
  inOrder
    [takeWord "type", name, g.takeGenerics,
      given (peekOp ":") (introduced (.mark ':' false) (punctuated "+" stop g.takeBound)),
      given (fun _ => before) g.takeWhere,
      given (peekOp "=") (inOrder [takeOp "=", g.takeType true]),
      given (fun _ => behind) g.takeWhere, takeOp ";"]

/-! ## Data -/

/-- Takes the fields of a structure with names. -/
def takeNamedFields : Reader :=
  group .brace
    (commas
      (inOrder
        [g.attributes, takeVisibility, nameOr ["_"], takeOp ":", g.takeType true]))

/-- Takes the fields of a structure without names. -/
def takeTupleFields : Reader :=
  group .parenthesis (commas (inOrder [g.attributes, takeVisibility, g.takeType true]))

/-- Takes a structure. -/
def takeStructure : Reader :=
  inOrder
    [takeWord "struct", name, g.takeGenerics,
      firstOf
        [(peekGroup .parenthesis, inOrder [g.takeTupleFields, g.takeWhere, takeOp ";"]),
          (fun _ => true,
            inOrder [g.takeWhere, either (peekOp ";") (takeOp ";") g.takeNamedFields])]]

/-- Takes a variant of an enumeration. -/
def takeVariant : Reader :=
  inOrder
    [g.attributes, leftOut takeVisibility, name,
      firstOf
        [(peekGroup .brace, g.takeNamedFields), (peekGroup .parenthesis, g.takeTupleFields),
          (fun _ => true, nothing)],
      g.takeInitial]

/-- Takes an enumeration. -/
def takeEnumeration : Reader :=
  inOrder
    [takeWord "enum", name, g.takeGenerics, g.takeWhere, group .brace (commas g.takeVariant)]

/-- Takes a union. -/
def takeUnion : Reader :=
  inOrder [takeWord "union", name, g.takeGenerics, g.takeWhere, g.takeNamedFields]

/-! ## Macros, imports and modules -/

/-- Takes what a macro is given; a semicolon must follow other brackets than braces. -/
def takeMacroGroup : Reader :=
  either (peekGroup .brace) anyGroup (inOrder [anyGroup, takeOp ";"])

/-- Takes a macro where a member of a trait, an implementation or a foreign block may stand. -/
def takeMacroMember : Reader :=
  inOrder [plainPath, takeOp "!", takeMacroGroup]

/-- Takes a macro where an item may stand, perhaps with a name of its own. -/
def takeMacroItem : Reader :=
  inOrder
    [plainPath, takeOp "!",
      given (fun ts => peekName ts || peekWord "try" ts) anyToken, takeMacroGroup]

/-- Takes what is imported: names after a path, all of them, or a list in braces. -/
def takeImported (rooted : Bool) : Reader :=
  firstOf
    [(fun ts => peekName ts || peekWords ["self", "super", "crate", "try"] ts,
        inOrder
          [anyToken,
            firstOf
              [(peekOp "::", inOrder [takeOp "::", g.imports false]),
                (peekWord "as", inOrder [takeWord "as", nameOr ["_"]]),
                (fun _ => true, nothing)]]),
      (peekOp "*", takeOp "*"),
      (peekGroup .brace,
        group .brace
          (commas
            (either (fun ts => rooted && peekOp "::" ts)
              (inOrder [takeOp "::", g.imports false]) (g.imports rooted))))]

/-- Takes an import. -/
def takeImport : Reader :=
  inOrder
    [takeWord "use",
      either (peekOp "::") (inOrder [takeOp "::", g.imports false]) (g.imports true),
      takeOp ";"]

/-- Takes the name of a foreign library. -/
def takeForeignLibrary : Reader :=
  inOrder
    [takeWord "extern", takeWord "crate", nameOr ["self"],
      given (peekWord "as") (inOrder [takeWord "as", nameOr ["_"]]), takeOp ";"]

/-- Takes a module. -/
def takeModule : Reader :=
  inOrder
    [maybeWord "unsafe", takeWord "mod", nameOr ["try"],
      either (peekOp ";") (takeOp ";")
        (group .brace (inOrder [g.innerAttributes, repeated (!·.isEmpty) g.item]))]

/-! ## Traits, implementations and foreign blocks -/

/-- Takes a member of a trait or an implementation. -/
def takeTraitMember : Reader :=
  inOrder
    [g.attributes,
      fun ts => do
        let (front, ts) ←
          inOrder
            [takeVisibility,
              given (peekWordThen "default" (!peekOp "!" ·)) (takeWord "default")] ts
        inOrder
          [after front,
            firstOf
              [(peekSignature false, g.takeFunctionItem false),
                (peekWord "const", g.takeConstantItem),
               (peekWord "type", g.takeTypeItem false true),
                (fun ts => front.isEmpty && peekPlainPath ts, takeMacroMember)]] ts]

/-- Takes the members of a trait or an implementation. -/
def takeMembers : Reader :=
  group .brace (inOrder [g.innerAttributes, repeated (!·.isEmpty) g.takeTraitMember])

/-- Takes a trait, or another name for some. -/
def takeTraitItem : Reader :=
  let stop : Peek := fun ts => peekWord "where" ts || peekGroup .brace ts
  let stopOther : Peek := fun ts => peekWord "where" ts || peekOp ";" ts
  inOrder
    [maybeWord "unsafe", maybeWord "auto", takeWord "trait", name, g.takeGenerics,
      either (peekOp "=")
        (inOrder [takeOp "=", punctuated "+" stopOther g.takeBound, g.takeWhere, takeOp ";"])
        (inOrder
          [given (peekOp ":") (introduced (.mark ':' false) (punctuated "+" stop g.takeBound)),
            g.takeWhere, g.takeMembers])]

/-- Takes an implementation. -/
def takeImplementation : Reader :=
  inOrder
    [maybeWord "default", maybeWord "unsafe", takeWord "impl", given peekGenerics g.takeGenerics,
      given (fun ts => peekWord "const" ts || (peekOp "?" ts && peekWord "const" (ts.drop 1)))
        (inOrder [maybeOp "?", takeWord "const"]),
      given (fun ts => peekOp "!" ts && !peekGroup .brace (ts.drop 1)) (takeOp "!"),
      g.takeType true, given (peekWord "for") (inOrder [takeWord "for", g.takeType true]),
      g.takeWhere, g.takeMembers]

/-- Takes a member of a foreign block. -/
def takeForeignMember : Reader :=
  let isStatic : Peek := fun ts =>
    peekWord "static" ts ||
      (peekWords ["unsafe", "safe"] ts && peekWord "static" (ts.drop 1))
  inOrder
    [g.attributes,
      fun ts => do
        let (front, ts) ← takeVisibility ts
        inOrder
          [after front,
            firstOf
              [(peekSignature true, g.takeFunctionItem true),
                (isStatic,
                  inOrder
                    [given (peekWords ["unsafe", "safe"]) anyToken, g.takeStatic true]),
                (peekWord "type", g.takeTypeItem true true),
                (fun ts => front.isEmpty && peekPlainPath ts, takeMacroMember)]] ts]

/-- Takes a foreign block. -/
def takeForeignBlock : Reader :=
  inOrder
    [maybeWord "unsafe", takeConvention,
      group .brace (inOrder [g.innerAttributes, repeated (!·.isEmpty) g.takeForeignMember])]

/-! ## Items -/

/-- Whether a foreign block comes next. -/
def peekForeignBlock : Peek := fun ts =>
  match takeConvention ts with
  | some (_, rest) => peekGroup .brace rest
  | none => false

/-- Whether a trait comes next. -/
def peekTrait : Peek :=
  fun ts => peekWord "trait" ts || peekWordThen "auto" (peekWord "trait") ts

/-- Readers of items after their visibility; some items have none. -/
def itemReaders (isHidden : Bool) : List (Peek × Reader) :=
  [(peekSignature false, g.takeFunctionItem false),
    (peekWordThen "extern" (peekWord "crate"), takeForeignLibrary),
    (fun ts => isHidden && peekForeignBlock ts, g.takeForeignBlock),
    (peekWord "use", g.takeImport), (peekWord "static", g.takeStatic false),
    (peekWord "const", g.takeConstantItem),
    (peekWordThen "unsafe" peekTrait, g.takeTraitItem),
    (peekWordThen "unsafe" (peekWord "impl"), g.takeImplementation),
    (fun ts => isHidden && peekWordThen "unsafe" (peekWord "extern") ts, g.takeForeignBlock),
    (peekWordThen "unsafe" (peekWord "mod"), g.takeModule), (peekWord "mod", g.takeModule),
    (peekWord "type", g.takeTypeItem true false), (peekWord "struct", g.takeStructure),
    (peekWord "enum", g.takeEnumeration), (peekWordThen "union" peekName, g.takeUnion),
    (peekTrait, g.takeTraitItem),
    (fun ts => peekWord "impl" ts || peekWordThen "default" (!peekOp "!" ·) ts,
      g.takeImplementation),
    (peekWord "macro",
      inOrder
        [takeWord "macro", name, given (peekGroup .parenthesis) anyGroup,
          takeGroup .brace some]),
    (fun ts => isHidden && peekPlainPath ts, takeMacroItem)]

/-- Takes an item with its attributes. -/
def takeItem : Reader :=
  inOrder
    [g.attributes,
      fun ts => do
        let (front, ts) ← takeVisibility ts
        inOrder [after front, firstOf (g.itemReaders front.isEmpty)] ts]

/-! ## Statements -/

/-- A statement at the beginning of a token sequence. -/
structure StatementRead where
  /-- Its code. -/
  code : Code
  /-- Whether another one may follow it. -/
  isEnded : Bool
  /-- The tokens after it. -/
  rest : List Token

/-- Whether a macro with a name of its own comes next. -/
def peekMacroItem : Peek := fun ts =>
  match inOrder [plainPath, takeOp "!"] ts with
  | some (_, rest) => peekName rest || peekWord "try" rest
  | none => false

/-- Whether a macro with braces comes next that is not gone on with. -/
def peekMacroStatement : Peek := fun ts =>
  match inOrder [plainPath, takeOp "!"] ts with
  | some (_, .group .brace _ :: rest) => !(peekDot rest || peekOp "?" rest)
  | _ => false

/-- Whether an item comes next, where a statement may stand. -/
def peekItem : Peek := fun ts =>
  let next := ts.drop 1
  let functionWords := ["unsafe", "extern", "fn"]
  peekWords
      ["pub", "extern", "use", "fn", "mod", "type", "struct", "enum", "trait", "impl", "macro"]
      ts ||
    (peekWord "crate" ts && !peekOp "::" next) ||
    (peekWord "static" ts && (peekWord "mut" next || peekName next)) ||
    (peekWord "const" ts &&
      !(peekGroup .brace next || peekWords ["static", "move"] next || peekOp "|" next ||
        peekWordThen "async" (!peekWords functionWords ·) next)) ||
    (peekWord "unsafe" ts && !peekGroup .brace next) ||
    peekWordThen "async" (peekWords functionWords) ts || peekWordThen "union" peekName ts ||
    peekWordThen "auto" (peekWord "trait") ts ||
    peekWordThen "default" (peekWords ["unsafe", "impl"]) ts || peekMacroItem ts

/-- Takes the value of a local variable, perhaps with a block for when the pattern does not match
it. -/
def takeLocalValue : Reader := fun ts => do
  let value ← g.expression true ts
  let endsWithBrace :=
    match value.code.getLast? with
    | some (.group .brace _) => true
    | _ => false
  inOrder
    [after value.code,
      given (fun ts => peekWord "else" ts && !endsWithBrace) (inOrder [takeWord "else", g.block])]
    value.rest

/-- Takes a local variable. -/
def takeLocal : Reader :=
  inOrder
    [takeWord "let", g.takePattern, given (peekOp ":") (inOrder [takeOp ":", g.takeType true]),
      given (peekOp "=") (inOrder [takeOp "=", g.takeLocalValue]), takeOp ";"]

/-- Reads a statement. -/
def readStatement (ts : List Token) : Option StatementRead := do
  let (attributes, body) ← g.attributes ts
  let ended (reader : Reader) : Option StatementRead :=
    (reader ts).map fun (code, rest) => { code, isEnded := true, rest }
  if peekMacroStatement body then
    ended (inOrder [g.attributes, plainPath, macroInput, maybeOp ";"])
  else if peekWord "let" body then ended (inOrder [g.attributes, g.takeLocal])
  else if peekItem body then ended g.item
  else do
    let expression ← g.standalone body
    let (semicolon, rest) ← maybeOp ";" expression.rest
    let isEnded :=
      !semicolon.isEmpty || expression.kind = .block || expression.kind = .bracedMacro
    some { code := attributes ++ expression.code ++ semicolon, isEnded, rest }

/-- Takes the statements of a block up to the end. -/
def takeStatementsWithin : Nat → Reader
  | 0, _ => none
  | turns + 1, ts =>
    andThen (repeated (peekOp ";") (takeOp ";")) (fun ts =>
      if ts.isEmpty then nothing ts
      else do
        let statement ← g.readStatement ts
        if statement.rest.isEmpty then some (statement.code, [])
        else if statement.isEnded then
          andThen (after statement.code) (takeStatementsWithin turns) statement.rest
        else none) ts

/-- Takes the statements of a block up to the end. -/
def takeStatements : Reader :=
  fun ts => g.takeStatementsWithin (ts.length + 1) ts

end Grammar
end Tablewright.Code
