/-!
# Sets of characters

A property of characters is a list of ranges of code points in increasing order.
-/

namespace FleetConsole

namespace Text

/-- Does a code point lie in one of the ranges? -/
def inRanges (ranges : List (Nat × Nat)) (code : Nat) : Bool :=
  ranges.any fun r => r.1 ≤ code && code ≤ r.2

/-- Does a code point lie in one of the ranges? The search ends at the first range beyond it. -/
def inSortedRanges : List (Nat × Nat) → Nat → Bool
  | [], _ => false
  | (lo, hi) :: rest, code => if code < lo then false else code ≤ hi || inSortedRanges rest code

end Text

end FleetConsole
