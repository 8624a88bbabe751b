/-! # Sets of characters given by code ranges

A character property is a list of closed ranges of code points. Membership is the only question
asked of it.
-/

namespace Splice.Text

/-- A character belongs to a table when one of the table's ranges contains its code point. -/
def inRanges (ranges : List (Nat × Nat)) (c : Char) : Bool :=
  ranges.any fun range => range.1 ≤ c.toNat && c.toNat ≤ range.2

theorem inRanges_eq_true_iff (ranges : List (Nat × Nat)) (c : Char) :
    inRanges ranges c = true ↔ ∃ range ∈ ranges, range.1 ≤ c.toNat ∧ c.toNat ≤ range.2 := by
  simp [inRanges]

end Splice.Text
