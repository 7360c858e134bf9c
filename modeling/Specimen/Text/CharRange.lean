/-!
# Sets of characters as code point ranges

A range table lists the inclusive stretches of code points that make up a set, in ascending
order.
-/

namespace Specimen.Text

/-- Whether a code point lies in one of the ranges of a table. -/
def inRanges (table : List (Nat × Nat)) (n : Nat) : Bool :=
  table.any fun (lo, hi) => lo ≤ n && n ≤ hi

end Specimen.Text
