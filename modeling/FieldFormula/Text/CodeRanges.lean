/-! Sets of characters given by ranges of code points. -/

namespace FieldFormula.Text

/-- Ranges of code points, both ends included, in increasing order. -/
abbrev CodeRanges := List (Nat × Nat)

def CodeRanges.contains (ranges : CodeRanges) (code : Nat) : Bool :=
  ranges.any fun range => range.1 ≤ code && code ≤ range.2

theorem CodeRanges.contains_iff (ranges : CodeRanges) (code : Nat) :
    ranges.contains code = true ↔ ∃ range ∈ ranges, range.1 ≤ code ∧ code ≤ range.2 := by
  simp [CodeRanges.contains, List.any_eq_true]

end FieldFormula.Text
