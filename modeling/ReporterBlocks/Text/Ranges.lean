/-!
# Ranges of code points
-/

namespace ReporterBlocks.Text

/-- Whether one of the ranges, both ends included, holds a code point. -/
def inRanges (ranges : List (Nat × Nat)) (n : Nat) : Bool :=
  ranges.any fun (first, last) => first ≤ n && n ≤ last

end ReporterBlocks.Text
