import Tablewright.Code.Pattern

/-!
# Reading expressions

The expressions that can give the length of an array, the value of a constant argument or that of
an attribute: operators, calls, closures, conditionals, loops, blocks and what they contain.  Only
their tokens matter, so reading one yields its code and what may follow it.
-/

namespace Tablewright.Code

/-! ## Operators -/

/-- Binary operators and how tightly they bind; an operator comes before those that begin it. -/
def binaryOps : List (String × Precedence) :=
  [("<<=", .assign), (">>=", .assign), ("==", .compare), ("!=", .compare), ("<=", .compare),
    (">=", .compare), ("&&", .and), ("||", .or), ("<<", .shift), (">>", .shift), ("+=", .assign),
    ("-=", .assign), ("*=", .assign), ("/=", .assign), ("%=", .assign), ("^=", .assign),
    ("&=", .assign), ("|=", .assign), ("+", .sum), ("-", .sum), ("*", .product), ("/", .product),
    ("%", .product), ("^", .bitXor), ("&", .bitAnd), ("|", .bitOr), ("<", .compare),
    (">", .compare), ("=", .assign)]

/-- The binary operator ahead. -/
def peekBinary (ts : List Token) : Option (String × Precedence) :=
  if peekOp "=>" ts then none else binaryOps.find? (peekOp ·.1 ts)

/-- How tightly the operator ahead binds, if there is one. -/
def peekPrecedence (ts : List Token) : Precedence :=
  match peekBinary ts with
  | some (_, precedence) => precedence
  | none =>
    if peekOp ".." ts then .range else if peekWord "as" ts then .cast else .any

/-! ## What comes next -/

/-- Whether a range ends without an upper bound. -/
def peekRangeEnd (braces : Bool) : Peek :=
  fun ts =>
    ts.isEmpty || peekDot ts || (!braces && peekGroup .brace ts) || peekWord "as" ts ||
      [",", ";", "?", "=>", "=", "+", "/", "%", "^", ">", "<=", "!=", "-=", "*=", "&=", "|=",
        "<<="].any (peekOp · ts)

/-- Whether an expression may begin with the next token. -/
def peekExpression : Peek :=
  fun ts =>
    peekAnyWord ts || peekAnyGroup ts || peekLiteral ts || peekBang ts ||
      (peekOp "-" ts && !peekOp "-=" ts && !peekOp "->" ts) ||
      (peekOp "*" ts && !peekOp "*=" ts) || (peekOp "|" ts && !peekOp "|=" ts) ||
      (peekOp "&" ts && !peekOp "&=" ts) || peekOp ".." ts ||
      (peekOp "<" ts && !peekOp "<=" ts && !peekOp "<<=" ts) || peekOp "::" ts ||
      peekLifetime ts || peekOp "#" ts

/-- Whether lifetimes that a closure introduces come next. -/
def peekBinders : Peek :=
  peekWordThen "for" fun ts =>
    peekOp "<" ts && (peekLifetime (ts.drop 1) || peekOp ">" (ts.drop 1))

/-- Whether a closure begins with the next token. -/
def peekClosure : Peek :=
  fun ts =>
    peekOp "|" ts || peekWords ["move", "static"] ts || peekBinders ts ||
      peekWordThen "const" (!peekGroup .brace ·) ts ||
      peekWordThen "async" (fun ts => peekOp "|" ts || peekWord "move" ts) ts

/-- Whether an asynchronous block comes next. -/
def peekAsyncBlock : Peek :=
  peekWordThen "async" fun ts =>
    peekGroup .brace ts || peekWordThen "move" (peekGroup .brace) ts

/-- Whether an operand goes on with a call, an index, a question mark or a member. -/
def peekTrailer : Peek :=
  fun ts => peekGroup .parenthesis ts || peekGroup .bracket ts || peekOp "?" ts || peekDot ts

namespace Grammar

open Reader

variable (g : Grammar)

/-- An expression of the given kind. -/
def asExpression
    (kind : ExpressionKind)
    (reader : Reader) : List Token → Option ExpressionRead :=
  fun ts => (reader ts).map fun (code, rest) => { code, kind, rest }

/-- Reads the right operand of an operator, with the operators in it that bind more tightly. -/
def readTighterWithin
    (braces : Bool)
    (precedence : Precedence) : Nat → ExpressionRead → Option ExpressionRead
  | 0, _ => none
  | turns + 1, right =>
    let next := peekPrecedence right.rest
    if precedence < next || (next = precedence && precedence = .assign) then do
      let longer ← g.operators braces next right
      -- An operator that cannot stand here is left to what comes after the operand.
      if longer.rest.length = right.rest.length then some longer
      else readTighterWithin braces precedence turns longer
    else some right

/-- Reads the right operand of an operator. -/
def readRight
    (braces : Bool)
    (precedence : Precedence)
    (ts : List Token) : Option ExpressionRead := do
  let right ← g.operand braces ts
  g.readTighterWithin braces precedence (ts.length + 1) right

/-- Takes the right operand of an operator. -/
def takeRight
    (braces : Bool)
    (precedence : Precedence) : Reader :=
  fun ts => (g.readRight braces precedence ts).map fun right => (right.code, right.rest)

/-- Takes the dots of a range and its upper bound. -/
def takeRange (braces : Bool) : Reader :=
  firstOf
    [(peekOp "...", fun _ => none),
      (peekOp "..=", inOrder [takeOp "..=", g.takeRight braces .range]),
      (peekOp "..",
        inOrder
          [takeOp "..", given (!peekRangeEnd braces ·) (g.takeRight braces .range)])]

/-- Takes the target of a cast, after which no member or call may follow. -/
def takeCast : Reader :=
  inOrder [takeWord "as", g.takeType false, fun ts => if peekTrailer ts then none else nothing ts]

/-- Reads the operators that bind at least as tightly as `base` after a left operand. -/
def readOperators
    (braces : Bool)
    (base : Precedence)
    (left : ExpressionRead) : Option ExpressionRead :=
  let goOn (kind : ExpressionKind) (reader : Reader) : Option ExpressionRead := do
    let (code, rest) ← reader left.rest
    g.operators braces base { code := left.code ++ code, kind, rest }
  if left.kind = .range || peekPrecedence left.rest < base then some left
  else
    match peekBinary left.rest with
    | some (op, precedence) =>
      if precedence = .compare then
        if left.kind = .comparison then none
        else goOn .comparison (inOrder [takeOp op, g.takeRight braces precedence])
      else goOn .other (inOrder [takeOp op, g.takeRight braces precedence])
    | none =>
      if peekOp ".." left.rest then goOn .range (g.takeRange braces)
      else if peekWord "as" left.rest then goOn .other g.takeCast
      else some left

/-! ## Trailers -/

/-- Takes the name of a field or method with its generic arguments, which a call must follow. -/
def takeNamedMember : Reader :=
  either (peekWord "await") (takeWord "await")
    (either peekName
      (inOrder
        [name,
          given (peekOp "::")
            (inOrder
              [takeOp "::",
                fun ts => (readAngled g.argument ts).map fun (code, _, rest) => (code, rest),
                fun ts => if peekGroup .parenthesis ts then nothing ts else none])])
      takeMember)

/-- Takes a dot and a member.  A literal with a dot in it spells two positions, or one and the dot
before another member. -/
def takeAccess : Reader
  | .mark '.' _ :: .literal text :: rest => do
    let digits := text.toList
    let first ← position? (digits.takeWhile (· ≠ '.'))
    let front := [.mark '.' false, first]
    match digits.dropWhile (· ≠ '.') with
    | [] => some (front, rest)
    | [_] => inOrder [after (front ++ [.mark '.' false]), g.takeNamedMember] rest
    | _ :: digits => do
      let second ← position? digits
      some (front ++ [.mark '.' false, second], rest)
  | ts => inOrder [takeOp ".", g.takeNamedMember] ts

/-- Takes a call, an index, a question mark or a member. -/
def takeTrailer : Reader :=
  firstOf
    [(peekGroup .parenthesis, group .parenthesis (commas (g.takeExpression true))),
      (peekGroup .bracket, group .bracket (g.takeExpression true)), (peekOp "?", takeOp "?"),
      (peekDot, g.takeAccess)]

/-- Reads what follows an operand that is no range. -/
def readTrailers (atom : ExpressionRead) : Option ExpressionRead :=
  if atom.kind = .range || !peekTrailer atom.rest then some atom
  else asExpression .other (inOrder [after atom.code, repeated peekTrailer g.takeTrailer]) atom.rest

/-! ## Conditionals and loops -/

/-- Takes a condition and the block behind it. -/
def takeClause : Reader :=
  inOrder [takeWord "if", g.takeExpression false, g.block]

/-- Takes a conditional. -/
def takeConditional : Reader :=
  inOrder
    [g.takeClause,
      repeated (peekWordThen "else" (peekWord "if")) (inOrder [takeWord "else", g.takeClause]),
      given (peekWord "else") (inOrder [takeWord "else", g.block])]

/-- Takes a loop with a condition. -/
def takeGuardedLoop : Reader :=
  inOrder [takeWord "while", g.takeExpression false, g.attributedBlock]

/-- Takes a loop over the values of an expression. -/
def takeIteration : Reader :=
  inOrder
    [takeWord "for", g.takePatterns, takeWord "in", g.takeExpression false, g.attributedBlock]

/-- Takes a loop without a condition. -/
def takeLoop : Reader :=
  inOrder [takeWord "loop", g.attributedBlock]

/-- Takes a label and the loop or block that it names. -/
def takeLabelled : Reader :=
  inOrder
    [takeLifetime, takeOp ":",
      firstOf
        [(peekWord "while", g.takeGuardedLoop), (peekWord "for", g.takeIteration),
          (peekWord "loop", g.takeLoop), (peekGroup .brace, g.attributedBlock)]]

/-! ## Expressions that end with a block -/

/-- Takes a case of a match; a comma must follow it unless it ends with a block or is the last. -/
def takeArm : Reader := fun ts => do
  let (front, ts) ←
    inOrder
      [g.attributes, g.takePatterns,
        given (peekWord "if") (inOrder [takeWord "if", g.takeExpression true]), takeOp "=>"] ts
  let body ← g.standalone ts
  let needsComma : Peek := fun ts => body.kind ≠ .block && !ts.isEmpty
  inOrder [after (front ++ body.code), either needsComma (takeOp ",") (maybeOp ",")] body.rest

/-- Takes a match. -/
def takeMatch : Reader :=
  inOrder
    [takeWord "match", g.takeExpression false,
      group .brace (inOrder [g.innerAttributes, repeated (!·.isEmpty) g.takeArm])]

/-- Readers of expressions that end with a block and are statements by themselves. -/
def blockReaders : List (Peek × Reader) :=
  [(peekWord "if", g.takeConditional), (peekWord "while", g.takeGuardedLoop),
    (fun ts => peekWord "for" ts && !peekBinders ts, g.takeIteration),
    (peekWord "loop", g.takeLoop), (peekWord "match", g.takeMatch),
    (peekWordThen "try" (peekGroup .brace), inOrder [takeWord "try", g.block]),
    (peekWord "unsafe", inOrder [takeWord "unsafe", g.attributedBlock]),
    (peekWordThen "const" (peekGroup .brace), g.takeConstantBlock),
    (peekGroup .brace, g.attributedBlock), (peekLifetime, g.takeLabelled)]

/-- Reads an expression that stands alone. -/
def readStandalone (ts : List Token) : Option ExpressionRead := do
  let (attributes, ts) ← g.attributes ts
  let expression ←
    if g.blockReaders.any (·.1 ts) then do
      let found ← asExpression .block (firstOf g.blockReaders) ts
      if peekDot found.rest || peekOp "?" found.rest then do
        let operand ← g.readTrailers found
        g.operators true .any operand
      else some found
    else g.expression true ts
  some { expression with code := attributes ++ expression.code }

/-! ## Operands -/

/-- Takes a parameter of a closure. -/
def takeClosureParameter : Reader :=
  inOrder
    [g.attributes, g.takePattern, given (peekOp ":") (inOrder [takeOp ":", g.takeType true])]

/-- Takes a closure. -/
def takeClosure (braces : Bool) : Reader :=
  inOrder
    [given (peekWord "for") g.takeBinders, maybeWord "const", maybeWord "static",
      maybeWord "async", maybeWord "move", takeOp "|",
      punctuated "," (peekOp "|") g.takeClosureParameter, takeOp "|",
      either (peekOp "->") (inOrder [takeOp "->", g.takeType true, g.block])
        (g.takeExpression braces)]

/-- Takes the fields of a structure; the rest may be those of another one. -/
def takeFields : Reader :=
  commasToLast nothing (peekOp "..")
    (inOrder [takeOp "..", given (!·.isEmpty) (g.takeExpression true)])
    fun _ => inOrder [g.attributes, takeField (g.takeExpression true)]

/-- Reads a macro, a structure or a path. -/
def readPathExpression
    (braces : Bool)
    (ts : List Token) : Option ExpressionRead := do
  let path ← g.readQualified true ts
  if !path.isMember && peekBang path.rest && !path.isGeneric then
    let kind := if peekGroup .brace (path.rest.drop 1) then .bracedMacro else .other
    asExpression kind (inOrder [after path.code, macroInput]) path.rest
  else
    asExpression .other
      (inOrder
        [after path.code,
          given (fun ts => braces && peekGroup .brace ts) (group .brace g.takeFields)]) path.rest

/-- Takes the elements of an array, or one element and how often it is repeated. -/
def takeElements : Reader :=
  given (!·.isEmpty)
    (inOrder
      [g.takeExpression true,
        either (peekOp ";") (inOrder [takeOp ";", g.takeExpression true])
          (given (!·.isEmpty) (inOrder [takeOp ",", commas (g.takeExpression true)]))])

/-- Takes the end of a loop or block, which may be named and given a value. -/
def takeBreak (braces : Bool) : Reader :=
  inOrder
    [takeWord "break",
      given peekLifetime
        (inOrder [takeLifetime, fun ts => if peekOp ":" ts then none else nothing ts]),
      given (fun ts => peekExpression ts && (braces || !peekGroup .brace ts))
        (g.takeExpression true)]

/-- Takes a condition that a pattern matches. -/
def takeCondition (braces : Bool) : Reader :=
  inOrder
    [takeWord "let", g.takePatterns, takeOp "=",
      fun ts => do
        let operand ← g.operand braces ts
        let value ← g.operators braces .compare operand
        some (value.code, value.rest)]

/-- Readers of operands that are neither path nor range and do not end with a block. -/
def plainReaders (braces : Bool) : List (Peek × Reader) :=
  [(peekLiteral, takeLiteral),
    (peekAsyncBlock, inOrder [takeWord "async", maybeWord "move", g.block]),
    (peekClosure, g.takeClosure braces),
    (peekWordThen "builtin" (peekOp "#"),
      inOrder [takeWord "builtin", takeOp "#", name, takeGroup .parenthesis some]),
    (peekGroup .parenthesis, group .parenthesis (commas (g.takeExpression true))),
    (peekGroup .bracket, group .bracket g.takeElements), (peekWord "break", g.takeBreak braces),
    (peekWord "continue", inOrder [takeWord "continue", given peekLifetime takeLifetime]),
    (peekWords ["return", "yield"],
      inOrder [anyToken, given peekExpression (g.takeExpression true)]),
    (peekWord "become", inOrder [takeWord "become", g.takeExpression true]),
    (peekWord "let", g.takeCondition braces), (peekWord "_", takeWord "_")]

/-- Whether a path begins with the next token, which in an expression may be `try`. -/
def peekPathExpression : Peek :=
  fun ts =>
    peekPath ts || peekWordThen "try" (fun ts => peekOp "!" ts || peekOp "::" ts) ts

/-- Reads the smallest expression ahead. -/
def readAtom
    (braces : Bool)
    (ts : List Token) : Option ExpressionRead :=
  if (g.plainReaders braces).any (·.1 ts) then
    asExpression .other (firstOf (g.plainReaders braces)) ts
  else if peekPathExpression ts then g.readPathExpression braces ts
  else if peekOp ".." ts then asExpression .range (g.takeRange braces) ts
  else asExpression .block (firstOf g.blockReaders) ts

/-- Takes what makes an ampersand a reference to a place that may change, or a raw one. -/
def takeReferenceKind : Reader
  | .word "raw" :: .word kind :: rest =>
    if kind = "mut" || kind = "const" then some ([.word "raw", .word kind], rest)
    else some ([], .word "raw" :: .word kind :: rest)
  | ts => maybeWord "mut" ts

/-- Readers of the signs before an operand. -/
def signReaders : List (Peek × Reader) :=
  [(peekOp "&", inOrder [takeOp "&", takeReferenceKind]), (peekOp "*", takeOp "*"),
    (peekOp "!", takeOp "!"), (peekOp "-", takeOp "-")]

/-- Reads an operand with the signs before it.  A range that begins with its dots has no
attributes. -/
def readOperand
    (braces : Bool)
    (ts : List Token) : Option ExpressionRead := do
  let (attributes, ts) ← g.attributes ts
  if signReaders.any (·.1 ts) then do
    let (sign, ts) ← firstOf signReaders ts
    let target ← g.operand braces ts
    some { code := attributes ++ sign ++ target.code, rest := target.rest }
  else do
    let atom ← g.readAtom braces ts
    let operand ← g.readTrailers atom
    if operand.kind = .range && !attributes.isEmpty then none
    else some { operand with code := attributes ++ operand.code }

end Grammar
end Tablewright.Code
