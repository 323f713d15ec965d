/-! Sets of code points, written as the closed intervals that make them up. -/

namespace LiveSheet.Text

abbrev CodeRanges := List (Nat × Nat)

namespace CodeRanges

def contains (ranges : CodeRanges) (char : Char) : Bool :=
  ranges.any fun range =>
    decide (range.1 ≤ char.toNat) && decide (char.toNat ≤ range.2)

theorem contains_iff (ranges : CodeRanges) (char : Char) :
    ranges.contains char = true ↔
      ∃ range ∈ ranges, range.1 ≤ char.toNat ∧ char.toNat ≤ range.2 := by
  simp [contains]

end CodeRanges

end LiveSheet.Text
