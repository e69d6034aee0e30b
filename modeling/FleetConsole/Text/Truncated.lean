/-!
# Truncated text

A text that does not fit a width, counted in characters, is cut so that an ellipsis fits behind it.
-/

namespace FleetConsole.Text

/-- The mark of what was cut off. -/
def ellipsis : Char := '…'

/-- The room that is left of a width behind so many characters, if they fit. -/
def room? (width length : Nat) : Option Nat :=
  if length ≤ width then some (width - length) else none

/-- The text, cut to at most `width` characters, if there is room for the ellipsis where it is
needed. -/
def truncated? (width : Nat) (s : String) : Option String :=
  if s.length ≤ width then some s
  else if width = 0 then some ""
  else (room? width 1).map fun room => String.ofList (s.toList.take room ++ [ellipsis])

/-- The text, cut to at most `width` characters. -/
def truncated (width : Nat) (s : String) : String := (truncated? width s).getD ""

end FleetConsole.Text
