/-!
Sets of characters given as ranges of code points.
-/

namespace Docket.Text

def inRanges (ranges : List (Nat × Nat)) (code : Nat) : Bool :=
  ranges.any fun range => range.1 ≤ code && code ≤ range.2

end Docket.Text
