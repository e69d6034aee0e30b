import FleetConsole.Screen.Frame
import FleetConsole.Screen.Theme
import FleetConsole.Session.Basic

/-!
# The header

The header says what the console talks to, which namespace and labels it is limited to, and what is
shown.
-/

namespace FleetConsole.Session

open Screen

/-- What the current view is about: its title, its application and the number of rows. -/
def viewText (s : Session) : String :=
  s.view.title ++ s.location.path.elim "" (fun path => " (" ++ path ++ ")") ++
    s.table.elim "" (fun table => " [" ++ toString table.rows.length ++ "]")

/-- The lines of the header. -/
def headerLines (s : Session) (theme : Theme) : List (List Span) :=
  let label (text : String) : Span := ⟨text, theme.secondaryStyle⟩
  let ns := s.profile.scope.ns?
  [[label "Context:   ", ⟨s.profile.context, theme.contextStyle⟩, label "   Source: ",
      ⟨s.profile.source, {}⟩],
    [label "Namespace: ", ⟨ns.getD "all", theme.namespaceStyle ns.isNone⟩],
    [label "View:      ", ⟨s.viewText, theme.viewStyle⟩]] ++
  s.profile.labels.toList.map fun labels => [label "Selector:  ", ⟨labels, {}⟩]

/-- The height of a header with or without labels, borders included. -/
def headerHeight (labels : Option String) : Nat := if labels.isSome then 6 else 5

/-- The header. -/
def header (s : Session) (theme : Theme) (width height : Nat) : Area :=
  let inner := Frame.innerWidth width
  Frame.around {} {} "" width height ((s.headerLines theme).map fun spans =>
    Strip.ofPieces {} inner (Strip.fitting inner (spans.flatMap Span.pieces)))

end FleetConsole.Session
