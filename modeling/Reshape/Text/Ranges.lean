/-!
# Sets of characters as ranges

* `inRanges`: whether one of the ranges, which stand in ascending order, holds a code point.
-/

namespace Reshape.Text

/-- Whether one of the ranges holds the code point. They are in ascending order, so the first one
that begins after the code point ends the search. -/
def inRanges (ranges : List (Nat × Nat)) (n : Nat) : Bool :=
  match ranges with
  | [] => false
  | (first, last) :: later => first ≤ n && (n ≤ last || inRanges later n)

end Reshape.Text
