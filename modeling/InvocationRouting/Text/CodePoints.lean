/-!
# CodePoints — sets of code points given by their boundaries

A set of code points is written as the ascending list of the places where membership changes: the
first boundary starts a member range, the second ends it, and so on. `CodePoints.contains` counts
the boundaries that are not past a code point; an odd count means that the point lies in a range.
-/

namespace InvocationRouting

/-- An ascending list of boundaries; ranges are half open. -/
structure CodePoints where
  boundaries : List Nat

namespace CodePoints

/-- A code point belongs to the set when an odd number of boundaries precede or equal it. -/
def contains (set : CodePoints) (c : Char) : Bool :=
  (set.boundaries.takeWhile (· ≤ c.toNat)).length % 2 == 1

end CodePoints

end InvocationRouting
