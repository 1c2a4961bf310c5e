/-!
Classes of characters given by ranges of code points.
-/

namespace PumaBoard.Text

/-- The code point lies in one of the ranges, which hold both of their ends. -/
def inRanges (ranges : List (Nat × Nat)) (n : Nat) : Bool :=
  ranges.any fun r => r.1 ≤ n && n ≤ r.2

end PumaBoard.Text
