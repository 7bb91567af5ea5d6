/-!
# Ranges of code points

A property of characters is carried as a table of closed ranges of code points,
ascending and apart.  `CodeRanges.contains` looks a character up in such a table.
-/

namespace HomeControl.Text

/-- Closed ranges of code points, first and last, ascending and apart. -/
abbrev CodeRanges := List (Nat × Nat)

namespace CodeRanges

def contains (ranges : CodeRanges) (c : Char) : Bool :=
  ranges.any fun range => range.1 ≤ c.toNat && c.toNat ≤ range.2

theorem contains_iff {ranges : CodeRanges} {c : Char} :
    ranges.contains c = true ↔ ∃ range ∈ ranges, range.1 ≤ c.toNat ∧ c.toNat ≤ range.2 := by
  simp [contains]

end CodeRanges

end HomeControl.Text
