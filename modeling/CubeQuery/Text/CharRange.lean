/-!
Classes of characters given as ranges of code points, first and last included, in ascending order.
-/

namespace CubeQuery.Text

def inRanges (ranges : List (Nat × Nat)) (c : Char) : Bool :=
  ranges.any fun range => range.1 ≤ c.toNat && c.toNat ≤ range.2

end CubeQuery.Text
