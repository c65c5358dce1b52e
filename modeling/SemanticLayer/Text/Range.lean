/-!
# Ranges of characters

A property of characters is a table of closed ranges of code points.
-/

namespace SemanticLayer.Text

/-- The code point of `c` lies in one of the ranges. -/
def inRanges (ranges : List (Nat × Nat)) (c : Char) : Bool :=
  ranges.any fun (first, last) => first ≤ c.toNat && c.toNat ≤ last

end SemanticLayer.Text
