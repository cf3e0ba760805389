/-!
# Ranges of code points

A property of characters is given by the ranges of code points that have it. The tables list
their ranges in ascending order and apart from each other, so that no range can be joined with
the next one.
-/

namespace Allotment.Text

/-- The code points from the first number to the second one, both included. -/
abbrev CodeRange := Nat × Nat

namespace CodeRange

def contains (range : CodeRange) (code : Nat) : Bool :=
  range.1 ≤ code && code ≤ range.2

/-- Every range is behind the one before it, with something between them. -/
def ascending : List CodeRange → Bool
  | [] => true
  | [range] => range.1 ≤ range.2
  | range :: next :: ranges =>
      range.1 ≤ range.2 && range.2 + 1 < next.1 && ascending (next :: ranges)

/-- How many code points lie in the ranges. -/
def count (ranges : List CodeRange) : Nat :=
  ranges.foldr (fun range n => range.2 + 1 - range.1 + n) 0

end CodeRange

/-- The character lies in one of the ranges. -/
def inRanges (ranges : List CodeRange) (c : Char) : Bool :=
  ranges.any (CodeRange.contains · c.toNat)

theorem inRanges_iff {ranges : List CodeRange} {c : Char} :
    inRanges ranges c = true ↔ ∃ range ∈ ranges, range.1 ≤ c.toNat ∧ c.toNat ≤ range.2 := by
  simp [inRanges, CodeRange.contains]

end Allotment.Text
