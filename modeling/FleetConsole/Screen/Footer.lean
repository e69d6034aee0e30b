import FleetConsole.Screen.Frame
import FleetConsole.Screen.Theme
import FleetConsole.Screen.Wrapping
import FleetConsole.Session.Basic
import FleetConsole.Session.Hints

/-!
# The footer

The footer shows the message about what happened last or, if there is none, what the keys do.
-/

namespace FleetConsole.Session

open Screen

/-- The text of the footer. -/
def footerSpans (s : Session) (theme : Theme) : List Span :=
  match s.notice with
  | some notice => [⟨notice.text, theme.noticeStyle notice.isError⟩]
  | none => (s.view.hints s.helpShown).flatMap fun (key, action) =>
    [⟨"<" ++ key ++ ">", theme.keyStyle⟩, ⟨" " ++ action ++ "  ", {}⟩]

/-- The height of the footer, borders included. -/
def footerHeight (s : Session) : Nat := if s.helpShown then 4 else 3

/-- The footer. -/
def footer (s : Session) (theme : Theme) (width height : Nat) : Area :=
  let inner := Frame.innerWidth width
  Frame.around {} {} "" width height
    ((wrap inner ((s.footerSpans theme).flatMap Span.pieces)).map (Strip.ofPieces {} inner))

end FleetConsole.Session
