/-!
# Sets of code points

A property of characters is a table of closed ranges of code points, disjoint and
ascending.
-/

namespace RowAccess.Text

def inRanges (ranges : Array (Nat × Nat)) (n : Nat) : Bool :=
  ranges.any fun r => r.1 ≤ n && n ≤ r.2

end RowAccess.Text
