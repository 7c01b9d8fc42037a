import Tablewright.Code.Peek

/-!
# Readers

A grammar is put together from readers, which take code from the front of a token sequence, and
peeks, which look at it.  Every turn of a repetition takes a token at least, so a repetition needs
no more turns than there are tokens.
-/

namespace Tablewright.Code

/-- Looks at the front of a token sequence. -/
abbrev Peek := List Token → Bool

/-- Takes code from the front of a token sequence. -/
abbrev Reader := List Token → Taken

/-- Whether the next token is one of the given words. -/
def peekWords
    (words : List String) : Peek :=
  fun ts => words.any (peekWord · ts)

/-- Whether the next token is the given word and the tokens after it look as asked. -/
def peekWordThen
    (word : String)
    (next : Peek) : Peek :=
  fun ts => peekWord word ts && next (ts.drop 1)

/-- Whether the next token is a colon that stands alone. -/
def peekColon : Peek :=
  fun ts => peekOp ":" ts && !peekOp "::" ts

/-- Whether the next token is a dot that stands alone. -/
def peekDot : Peek :=
  fun ts => peekOp "." ts && !peekOp ".." ts

/-- Whether the next token is an exclamation mark that stands alone. -/
def peekBang : Peek :=
  fun ts => peekOp "!" ts && !peekOp "!=" ts

/-- Whether the next token is a group. -/
def peekAnyGroup : Peek
  | .group _ _ :: _ => true
  | _ => false

namespace Reader

/-- Goes on after code that has been taken already. -/
def after (code : Code) : Reader :=
  fun ts => some (code, ts)

/-- Takes nothing. -/
def nothing : Reader :=
  after []

/-- Takes what two readers take one after the other. -/
def andThen
    (first second : Reader) : Reader := fun ts => do
  let (front, ts) ← first ts
  let (back, ts) ← second ts
  some (front ++ back, ts)

/-- Takes what readers take one after the other. -/
def inOrder (readers : List Reader) : Reader :=
  readers.foldr andThen nothing

/-- Takes what a reader takes if the tokens look as asked, and nothing otherwise. -/
def given
    (ahead : Peek)
    (reader : Reader) : Reader :=
  fun ts => if ahead ts then reader ts else nothing ts

/-- Takes what one reader takes if the tokens look as asked, and what another takes otherwise. -/
def either
    (ahead : Peek)
    (first second : Reader) : Reader :=
  fun ts => if ahead ts then first ts else second ts

/-- Takes what the first reader takes whose tokens look as asked. -/
def firstOf : List (Peek × Reader) → Reader
  | [], _ => none
  | (ahead, reader) :: rest, ts => if ahead ts then reader ts else firstOf rest ts

/-- Takes an operator if it is ahead. -/
def maybeOp (op : String) : Reader :=
  given (peekOp op) (takeOp op)

/-- Takes a word if it is ahead. -/
def maybeWord (word : String) : Reader :=
  given (peekWord word) (takeWord word)

/-- Takes the next token, whatever it is. -/
def anyToken : Reader
  | token :: rest => some ([token], rest)
  | [] => none

/-- Takes a name. -/
def name : Reader := fun ts =>
  if peekName ts then anyToken ts else none

/-- Takes a name or one of the given words. -/
def nameOr
    (words : List String) : Reader := fun ts =>
  if peekName ts || peekWords words ts then anyToken ts else none

/-- Takes a group of any tokens. -/
def anyGroup : Reader := fun ts =>
  if peekAnyGroup ts then anyToken ts else none

/-- Takes a group whose body a reader takes as a whole. -/
def group
    (delimiter : Delimiter)
    (body : Reader) : Reader :=
  takeGroup delimiter fun ts => whole (body ts)

/-- The turns of `repeated`. -/
def repeatedWithin
    (ahead : Peek)
    (reader : Reader) : Nat → Reader
  | 0, _ => none
  | turns + 1, ts =>
    if ahead ts then andThen reader (repeatedWithin ahead reader turns) ts else nothing ts

/-- Takes what a reader takes again and again while the tokens look as asked. -/
def repeated
    (ahead : Peek)
    (reader : Reader) : Reader :=
  fun ts => repeatedWithin ahead reader (ts.length + 1) ts

/-- The turns of `punctuated`. -/
def punctuatedWithin
    (mark : String)
    (stop : Peek)
    (reader : Reader) : Nat → Reader
  | 0, _ => none
  | turns + 1, ts =>
    if stop ts then nothing ts
    else andThen reader (fun ts =>
      if stop ts then nothing ts
      else andThen (takeOp mark) (punctuatedWithin mark stop reader turns) ts) ts

/-- Takes what a reader takes again and again, with a mark between each two and perhaps one at the
end, until the tokens look as asked. -/
def punctuated
    (mark : String)
    (stop : Peek)
    (reader : Reader) : Reader :=
  fun ts => punctuatedWithin mark stop reader (ts.length + 1) ts

/-- Takes what a reader takes again and again up to the end, with commas. -/
def commas (reader : Reader) : Reader :=
  punctuated "," List.isEmpty reader

/-- The turns of `joined`. -/
def joinedWithin
    (mark : String)
    (stop : Peek)
    (reader : Reader) : Nat → Reader
  | 0, _ => none
  | turns + 1, ts =>
    if stop ts then nothing ts
    else andThen reader (given (peekOp mark)
      (andThen (takeOp mark) (joinedWithin mark stop reader turns))) ts

/-- Takes what a reader takes again and again, with a mark between each two and perhaps one at the
end, until the tokens look as asked or no mark follows. -/
def joined
    (mark : String)
    (stop : Peek)
    (reader : Reader) : Reader :=
  fun ts => joinedWithin mark stop reader (ts.length + 1) ts

/-- The turns of `commasToLast`; the reader of items is told whether the item is the first. -/
def commasToLastWithin
    (front : Reader)
    (isLast : Peek)
    (last : Reader)
    (item : Bool → Reader)
    (isFirst : Bool) : Nat → Reader
  | 0, _ => none
  | turns + 1, ts =>
    if ts.isEmpty then nothing ts
    else
      inOrder
        [front,
          either isLast last
            (inOrder
              [item isFirst,
                given (!·.isEmpty)
                  (inOrder
                    [takeOp ",", commasToLastWithin front isLast last item false turns])])] ts

/-- Takes what a reader takes again and again up to the end, with commas; each after what `front`
takes.  What looks like the last is left to a reader of its own. -/
def commasToLast
    (front : Reader)
    (isLast : Peek)
    (last : Reader)
    (item : Bool → Reader) : Reader :=
  fun ts => commasToLastWithin front isLast last item true (ts.length + 1) ts

/-- Takes what a reader takes and leaves it out of the code. -/
def leftOut (reader : Reader) : Reader :=
  fun ts => (reader ts).map fun (_, rest) => ([], rest)

/-- Takes code that a mark introduces; the mark is left out if nothing follows it. -/
def introduced
    (mark : Token)
    (reader : Reader) : Reader := fun ts => do
  let (code, rest) ← reader (ts.drop 1)
  some (if code.isEmpty then [] else mark :: code, rest)

end Reader
end Tablewright.Code
