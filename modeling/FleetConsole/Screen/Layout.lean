import FleetConsole.Screen.Body
import FleetConsole.Screen.Footer
import FleetConsole.Screen.Header

/-!
# The screen

The screen is the header, the body and the footer, one above the other. The body gets what the
others leave; where there is too little room for both, the header comes first.
-/

namespace FleetConsole.Session

open Screen

/-- The heights of the header, the body and the footer. -/
def heights (s : Session) (height : Nat) : Nat × Nat × Nat :=
  let header := min height (headerHeight s.profile.labels)
  let footer := min (height - header) s.footerHeight
  (header, height - header - footer, footer)

/-- The session, fitted to the height of a screen. -/
def fitScreen (s : Session) (height : Nat) : Session := s.fit (s.heights height).2.1

/-- The screen of a session that has been fitted to its height. -/
def screen (s : Session) (now : Instant) (width height : Nat) : Area :=
  let theme := Theme.choose s.profile.display.noColor
  let (header, body, footer) := s.heights height
  s.header theme width header ++ s.body theme now width body ++ s.footer theme width footer

end FleetConsole.Session
