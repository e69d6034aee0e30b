import FleetConsole.Session.Basic

/-!
# Scrolling

The first row shown follows the selection: rows are kept visible above and below the selected one,
as far as there is room.
-/

namespace FleetConsole

namespace Scroll

/-- The first row shown, so that `margin` rows below and above the selected one are in sight. -/
def follow (offset selected height margin : Nat) : Nat :=
  let lowered :=
    if offset + (height - margin) ≤ selected then selected - (height - (margin + 1)) else offset
  if selected < lowered + margin then selected - margin else lowered

/-- How many rows are kept in sight above and below the selected one. -/
def margin : Nat := 2

/-- How many rows a table has room for, between its borders and under its header. -/
def visibleRows (height : Nat) : Nat := height - 3

end Scroll

namespace Session

/-- The session, fitted to the height of the table's area. -/
def fit (s : Session) (height : Nat) : Session :=
  let visible := Scroll.visibleRows height
  { s with
    pageSize := max visible 1
    scroll := if s.rowCount = 0 then s.scroll
      else Scroll.follow s.scroll s.location.selected visible Scroll.margin }

end Session

end FleetConsole
