import Tablewright.Text.Blank

/-!
# Segments of a tag

A tag is cut at its top-level commas: those outside quotes and outside brackets.  Kinds of brackets
are not told apart, and a closing bracket too many is ignored.
-/

namespace Tablewright.Tag

/-- How far a scan is inside quotes and brackets. -/
structure Scan where
  /-- The quote that is open, if any. -/
  quote : Option Char
  /-- The number of open brackets. -/
  depth : Nat
  deriving DecidableEq, Repr

namespace Scan

/-- Outside quotes and brackets. -/
def top : Scan := ⟨none, 0⟩

/-- The scan after one more character. -/
def step
    (s : Scan)
    (c : Char) : Scan :=
  match s.quote with
  | some q => if c = q then { s with quote := none } else s
  | none =>
    if c = '\'' ∨ c = '"' then { s with quote := some c }
    else if c = '(' ∨ c = '[' ∨ c = '\x7b' then { s with depth := s.depth + 1 }
    else if c = ')' ∨ c = ']' ∨ c = '\x7d' then { s with depth := s.depth - 1 }
    else s

/-- The scan after a text. -/
def run (s : Scan) (cs : List Char) : Scan :=
  cs.foldl step s

@[simp] theorem run_nil (s : Scan) : s.run [] = s := rfl

@[simp] theorem run_cons (s : Scan) (c : Char) (cs : List Char) :
    s.run (c :: cs) = (s.step c).run cs := rfl

theorem run_append (s : Scan) (cs ds : List Char) :
    s.run (cs ++ ds) = (s.run cs).run ds := by
  simp [run]

end Scan

/-- A list of segments with one more character at the front of the first. -/
def pushFront (c : Char) : List (List Char) → List (List Char)
  | [] => [[c]]
  | segment :: segments => (c :: segment) :: segments

/-- Segments of the text that follows a scan. -/
def segmentsFrom (s : Scan) : List Char → List (List Char)
  | [] => [[]]
  | c :: rest =>
    if c = ',' ∧ s = Scan.top then [] :: segmentsFrom s rest
    else pushFront c (segmentsFrom (s.step c) rest)

/-- Segments of a text: the pieces between its top-level commas. -/
def segments (cs : List Char) : List (List Char) :=
  segmentsFrom Scan.top cs

/-- There is always a first segment. -/
theorem segmentsFrom_ne_nil (s : Scan) (cs : List Char) : segmentsFrom s cs ≠ [] := by
  cases cs with
  | nil => simp [segmentsFrom]
  | cons c rest =>
    rw [segmentsFrom]
    split
    · simp
    · cases segmentsFrom (s.step c) rest <;> simp [pushFront]

end Tablewright.Tag
