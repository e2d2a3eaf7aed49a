/-!
# Membership in ranges of code points

Character properties are given as lists of inclusive ranges in rising order.
-/

namespace ScopedResources.Text

/-- Whether a number lies in one of the ranges of a list that is in rising order. -/
def inRanges (n : Nat) : List (Nat × Nat) → Bool
  | [] => false
  | (first, last) :: rest => if n < first then false else n ≤ last || inRanges n rest

end ScopedResources.Text
