/-!
# Sets of characters given by ranges

Properties of characters that a standard lists, rather than defines, are kept as ascending ranges
of code points.
-/

namespace SuiteTree.Text

/-- Inclusive ranges of code points, ascending and apart. -/
abbrev Ranges := Array (Nat × Nat)

namespace Ranges

/-- The range numbered `i` is looked for between `low` and `high` by halving. -/
def search (ranges : Ranges) (n : Nat) : (fuel low high : Nat) → Bool
  | 0, _, _ => false
  | fuel + 1, low, high =>
    if low < high then
      let middle := (low + high) / 2
      match ranges[middle]? with
      | none => false
      | some (first, last) =>
        if n < first then search ranges n fuel low middle
        else if last < n then search ranges n fuel (middle + 1) high
        else true
    else false

/-- The code point lies in one of the ranges. -/
def contains (ranges : Ranges) (n : Nat) : Bool :=
  ranges.search n (ranges.size.log2 + 2) 0 ranges.size

end Ranges

end SuiteTree.Text
