/-!
# DocQuery.Text.RangeTable

Sets of code points, given by sorted boundaries. The boundaries are the points where membership
changes: the first range starts at the first boundary and ends before the second, and so on. A code
point belongs to the set exactly when an odd number of boundaries lie at or below it, which one
binary search decides.
-/

namespace DocQuery.Text

/-- How many entries of the sorted array `a` lie at or below `x`, looking between `lo` and `hi`. -/
def rankBetween (a : Array Nat) (x lo hi : Nat) : Nat :=
  if lo < hi then
    let mid := (lo + hi) / 2
    if a.getD mid 0 ≤ x then rankBetween a x (mid + 1) hi else rankBetween a x lo mid
  else lo
termination_by hi - lo
decreasing_by all_goals omega

/-- How many entries of the sorted array `a` lie at or below `x`. -/
def rank (a : Array Nat) (x : Nat) : Nat :=
  rankBetween a x 0 a.size

/-- A set of code points, by the sorted boundaries of its ranges. -/
structure RangeTable where
  /-- The points where membership changes, in increasing order. -/
  bounds : Array Nat

namespace RangeTable

/-- The set whose ranges start at the boundaries of even index and end before the next one. -/
def ofBounds (bounds : Array Nat) : RangeTable := ⟨bounds⟩

/-- Whether `x` belongs to the set. -/
def contains (t : RangeTable) (x : Nat) : Bool :=
  rank t.bounds x % 2 == 1

end RangeTable

end DocQuery.Text
