/-!
Membership in a table of inclusive code point ranges.
-/

namespace ClassAtlas.Text

/-- Whether a code point lies in one of the inclusive ranges. -/
def inRanges (ranges : List (Nat × Nat)) (code : Nat) : Bool :=
  ranges.any fun range => decide (range.1 ≤ code) && decide (code ≤ range.2)

/-- The offset of a code point from the start of the first range that holds it. -/
def offsetInRanges? (ranges : List (Nat × Nat)) (code : Nat) : Option Nat :=
  (ranges.find? fun range => decide (range.1 ≤ code) && decide (code ≤ range.2)).map
    fun range => code - range.1

theorem inRanges_iff (ranges : List (Nat × Nat)) (code : Nat) :
    inRanges ranges code = true ↔ ∃ range ∈ ranges, range.1 ≤ code ∧ code ≤ range.2 := by
  simp [inRanges]

end ClassAtlas.Text
