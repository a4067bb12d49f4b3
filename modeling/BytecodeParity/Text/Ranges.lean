/-!
# Tables of code points

Unicode properties are given as lists of code point ranges, both ends included.
-/

namespace BytecodeParity.Text

/-- Whether one of the ranges holds the code point. -/
def inRanges (ranges : List (Nat × Nat)) (n : Nat) : Bool :=
  ranges.any fun r => r.1 ≤ n && n ≤ r.2

end BytecodeParity.Text
