/-!
# Edges

A set of code points given by its edges in ascending order: it begins at the first edge, stops
before the second, begins again at the third, and so on.
-/

namespace Tablewright.Text

/-- Membership in the set with the given edges: the number of edges at or below `n` is odd. -/
def inside : List Nat → Nat → Bool
  | [], _ => false
  | edge :: edges, n => if n < edge then false else !inside edges n

end Tablewright.Text
