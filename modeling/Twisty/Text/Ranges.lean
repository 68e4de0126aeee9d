/-!
# Classes of characters given by ranges

Properties of the Unicode standard are lists of code point ranges. `inRanges` reads such a list, and
`inRanges_iff` says that it holds of exactly the characters that lie in one of the ranges.
-/

namespace Twisty.Text

/-- Ranges of code points, each with both of its ends. -/
abbrev Ranges := List (Nat × Nat)

/-- A character belongs to the class when one of the ranges holds its code point. -/
def inRanges (ranges : Ranges) (c : Char) : Bool :=
  ranges.any fun r => r.1 ≤ c.toNat && c.toNat ≤ r.2

/-- Membership, in terms of the ranges of the list. -/
theorem inRanges_iff (ranges : Ranges) (c : Char) :
    inRanges ranges c = true ↔ ∃ r ∈ ranges, r.1 ≤ c.toNat ∧ c.toNat ≤ r.2 := by
  simp [inRanges]

end Twisty.Text
