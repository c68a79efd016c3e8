/-!
# Sets of code points

A character class too irregular for a formula is kept as a table of ranges, both ends included.
-/

namespace BucketStore.Text

/-- A set of code points, as ranges with both ends included. -/
abbrev CodePoints := Array (Nat × Nat)

/-- Whether the character lies in one of the ranges. -/
def CodePoints.holds (table : CodePoints) (c : Char) : Bool :=
  table.any fun range => decide (range.1 ≤ c.toNat) && decide (c.toNat ≤ range.2)

end BucketStore.Text
