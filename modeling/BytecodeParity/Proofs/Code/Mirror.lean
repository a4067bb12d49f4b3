import BytecodeParity.Code.Comparison
import Mathlib.Data.List.Basic
/-!
# Comparing from the other side

A comparison has a deployed side and a reference side, and nothing but the names tells them apart:
with the codes exchanged, the outcome is the same one seen from the other side (`compare_comm`).

The definitions are not that even. `align` walks the first code and has a case of its own for what
the second one has left, a byte is written down under the side it comes from, and the difference in
size is a quotient cut towards zero. The last of these is where it could fail: a quotient cut
downwards would make a byte of an odd digit on one side and none on the other.
-/

namespace BytecodeParity

/-- The difference seen from the other side. -/
def Difference.mirror (d : Difference) : Difference := ⟨d.position, d.reference, d.deployed⟩

/-- The outcome seen from the other side: the same verdict, the same positions with their bytes
exchanged, the size counted the other way. -/
def Comparison.mirror (c : Comparison) : Comparison where
  identical := c.identical
  sizeDelta := -c.sizeDelta
  differences := c.differences.map Difference.mirror

namespace Code

theorem align_nil (ds : List Text) : align ds [] = ds.map fun d => (d, missingByte) := by
  induction ds with
  | nil => rfl
  | cons d ds ih => simp [align, ih]

theorem align_comm (ds rs : List Text) : align rs ds = (align ds rs).map Prod.swap := by
  induction ds, rs using align.induct with
  | case1 rs => simp [align_nil, align, Function.comp_def]
  | case2 d ds ih => simp [align_nil, align, Function.comp_def]
  | case3 d ds r rs ih => simp [align, ih]

theorem difference?_comm (p : Nat) (d r : Text) :
    difference? p r d = (difference? p d r).map Difference.mirror := by
  unfold difference?
  have hsame : (r == d) = (d == r) := BEq.comm
  -- The condition does not tell the sides apart. What is written down under it does.
  have hcond : (isMasked r || isMasked d || r == d) = (isMasked d || isMasked r || d == r) := by
    rw [hsame, Bool.or_comm (isMasked r)]
  rw [hcond]
  split
  · rfl
  · rfl

theorem differences_swap (bytes : List (Text × Text)) :
    differences (bytes.map Prod.swap) = (differences bytes).map Difference.mirror := by
  unfold differences
  rw [List.zipIdx_map, List.filterMap_map, List.map_filterMap]
  apply List.filterMap_congr
  intro e _
  exact difference?_comm e.2 e.1.1 e.1.2

/-- **Exchanging the codes mirrors the outcome.** -/
theorem compare_comm (a b : Text) : compare b a = (compare a b).mirror := by
  unfold compare Comparison.mirror
  have hsize : Int.tdiv ((Text.utf8 (Hex.body b)).length - (Text.utf8 (Hex.body a)).length) 2 =
      -Int.tdiv ((Text.utf8 (Hex.body a)).length - (Text.utf8 (Hex.body b)).length) 2 := by
    rw [← Int.neg_tdiv, Int.neg_sub]
  simp [align_comm (Text.pairs (Text.utf8 (Hex.body a))), differences_swap, hsize]

/-- An odd digit is a byte that differs and adds nothing to the size, on whichever side it is. -/
example :
    compare "0x6160".toList "61605".toList = ⟨false, 0, [⟨2, "--".toList, "5".toList⟩]⟩ ∧
      compare "61605".toList "0x6160".toList = ⟨false, 0, [⟨2, "5".toList, "--".toList⟩]⟩ := by
  decide +kernel

end Code

end BytecodeParity
