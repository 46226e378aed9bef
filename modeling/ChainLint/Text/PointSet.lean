/-!
# Sets of code points

A set of code points is stored as the increasing list of the points where membership changes: below
the first switch nothing belongs to the set, from there up to the second switch everything does, and
so on. A code point belongs to the set exactly when an odd number of switches lies at or below it.
-/

namespace ChainLint.Text

/-- A set of code points, by the points where membership changes. -/
structure PointSet where
  switches : Array Nat
  deriving Repr, DecidableEq

namespace PointSet

/-- Bisection: the first index in `[lo, hi)` whose switch lies above `c`, or `hi`. -/
def firstAbove (switches : Array Nat) (c lo hi : Nat) : Nat :=
  if lo < hi then
    let mid := (lo + hi) / 2
    if switches.getD mid 0 ≤ c then firstAbove switches c (mid + 1) hi
    else firstAbove switches c lo mid
  else hi
termination_by hi - lo

/-- How many switches lie at or below `c`. -/
def rank (s : PointSet) (c : Nat) : Nat := firstAbove s.switches c 0 s.switches.size

/-- Membership: the number of switches at or below `c` is odd. -/
def mem (s : PointSet) (c : Nat) : Bool := s.rank c % 2 == 1

end PointSet

end ChainLint.Text
