/-!
# Sets of characters

A set of characters is a list of closed intervals of code points.
-/

namespace Handoff.Text

/-- Closed intervals of code points, in increasing order. -/
abbrev Intervals := List (Nat × Nat)

/-- Whether one of the intervals holds `c`. -/
def Intervals.contains (r : Intervals) (c : Char) : Bool :=
  r.any fun i => i.1 ≤ c.toNat && c.toNat ≤ i.2

end Handoff.Text
