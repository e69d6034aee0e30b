import FleetConsole.Screen.Style
import FleetConsole.Table.Health

/-!
# Themes

A theme gives each part of the screen its color. The one without colors leaves them all to the
terminal; effects stay, so that the selection can be seen in either.
-/

namespace FleetConsole.Screen

/-- The colors of a theme. -/
structure Theme where
  context : Color
  oneNamespace : Color
  allNamespaces : Color
  view : Color
  nominal : Color
  pending : Color
  attention : Color
  columnNames : Color
  selected : Color
  selectedGround : Color
  secondary : Color
  label : Color
  key : Color
  success : Color
  failure : Color
deriving DecidableEq, Repr

namespace Theme

/-- The theme with colors. -/
def colored : Theme where
  context := .yellow
  oneNamespace := .yellow
  allNamespaces := .green
  view := .cyan
  nominal := .green
  pending := .yellow
  attention := .red
  columnNames := .cyan
  selected := .blue
  selectedGround := .darkGray
  secondary := .gray
  label := .cyan
  key := .yellow
  success := .green
  failure := .red

/-- The theme without colors. -/
def monochrome : Theme :=
  ⟨.reset, .reset, .reset, .reset, .reset, .reset, .reset, .reset, .reset, .reset, .reset, .reset,
    .reset, .reset, .reset⟩

/-- The theme that the settings ask for. -/
def choose (noColor : Bool) : Theme := if noColor then monochrome else colored

/-- The name of the context. -/
def contextStyle (t : Theme) : Style := { fg := some t.context, bold := true }

/-- The namespace, or the word for all of them. -/
def namespaceStyle (t : Theme) (all : Bool) : Style :=
  { fg := some (if all then t.allNamespaces else t.oneNamespace), bold := true }

/-- The title of the view. -/
def viewStyle (t : Theme) : Style := { fg := some t.view, bold := true }

/-- What is as well as its health says. -/
def healthStyle (t : Theme) : Health → Style
  | .nominal => { fg := some t.nominal }
  | .pending => { fg := some t.pending }
  | .attention => { fg := some t.attention }

/-- The names of the columns. -/
def columnNameStyle (t : Theme) : Style := { fg := some t.columnNames, bold := true }

/-- The selected row. -/
def selectedStyle (t : Theme) : Style :=
  { fg := some t.selected, bg := some t.selectedGround, reversed := true }

/-- Text that stays in the background. -/
def secondaryStyle (t : Theme) : Style := { fg := some t.secondary }

/-- Borders and titles. -/
def labelStyle (t : Theme) : Style := { fg := some t.label }

/-- A key in a hint. -/
def keyStyle (t : Theme) : Style := { fg := some t.key }

/-- A message. -/
def noticeStyle (t : Theme) (isError : Bool) : Style :=
  { fg := some (if isError then t.failure else t.success), bold := true }

end Theme

end FleetConsole.Screen
