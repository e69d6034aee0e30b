/-!
# Columns

The columns of a table stand side by side, each as wide as it asks to be, with a gap between them.
If they ask for too much, the narrow ones get what they ask for and the others share the rest.
-/

namespace FleetConsole.Screen.Columns

/-- The gap between columns. -/
def gap : Nat := 3

/-- The width, as a fraction, that no column may exceed if all are to have room together. The wishes
are in increasing order. -/
def share (room : Nat) : List Nat → Nat × Nat
  | [] => (room, 1)
  | wish :: rest =>
    if room < wish * (rest.length + 1) then (room, rest.length + 1) else share (room - wish) rest

/-- The columns that begin at a place, given as multiples of a fraction `1 / den` of a cell: where
each begins and how wide it is, in whole cells. -/
def place (den start : Nat) : List Nat → List (Nat × Nat)
  | [] => []
  | width :: rest =>
    let left := nearest start
    (left, nearest (start + width) - left) :: place den (start + width + gap * den) rest
where
  /-- The nearest whole cell; a half goes up. -/
  nearest (n : Nat) : Nat := (2 * n + den) / (2 * den)

/-- Where the columns begin and how wide they are, given the width of all and what each asks for. -/
def arrange (width : Nat) (wishes : List Nat) : List (Nat × Nat) :=
  let room := width - gap * (wishes.length - 1)
  if wishes.foldl (· + ·) 0 ≤ room then place 1 0 wishes
  else
    let (most, den) := share room (wishes.mergeSort (· ≤ ·))
    place den 0 (wishes.map fun wish => min (wish * den) most)

end FleetConsole.Screen.Columns
