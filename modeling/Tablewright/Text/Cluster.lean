import Tablewright.Text.Mark

/-!
# Character clusters

What a reader takes for one character: a base with the signs before it and the marks after it.
Only the rules that can join a letter, a digit or a separator to a neighbour are kept; those that
join caseless letters to each other (syllable blocks, conjuncts, flags) cannot move a word
boundary.
-/

namespace Tablewright.Text

/-- Whether `next` continues the cluster whose characters, last first, are given. -/
def continues (back : List Char) (next : Char) : Bool :=
  match back with
  | [] => false
  | last :: before =>
    if isControl last then last = '\r' && next = '\n'
    else if isControl next then false
    else
      isMark next || isPrepended last ||
        (last = joiner && isPictograph next &&
          ((before.dropWhile isExtending).head?.map isPictograph).getD false)

/-- Clusters of a text that follows the open cluster given last character first. -/
def clustersAfter (back : List Char) : List Char → List (List Char)
  | [] => [back.reverse]
  | c :: rest =>
    if continues back c then clustersAfter (c :: back) rest
    else back.reverse :: clustersAfter [c] rest

/-- Clusters of a text, in order. -/
def clusters : List Char → List (List Char)
  | [] => []
  | c :: rest => clustersAfter [c] rest

/-- Clustering loses nothing. -/
theorem flatten_clustersAfter
    (back rest : List Char) :
    (clustersAfter back rest).flatten = back.reverse ++ rest := by
  induction rest generalizing back with
  | nil => simp [clustersAfter]
  | cons c rest ih =>
    rw [clustersAfter]
    split <;> simp [ih]

/-- The clusters of a text, joined, are the text. -/
@[simp] theorem flatten_clusters (cs : List Char) : (clusters cs).flatten = cs := by
  cases cs with
  | nil => rfl
  | cons c rest => simp [clusters, flatten_clustersAfter]

end Tablewright.Text
