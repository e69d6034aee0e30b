import FleetConsole.Screen.Columns
import FleetConsole.Screen.Frame
import FleetConsole.Screen.Theme
import FleetConsole.Session.Scroll
import FleetConsole.Table.Text

/-!
# The body

The body shows the table of the current view, as much of it as there is room for, or says that there
is none yet or nothing in it.
-/

namespace FleetConsole

namespace Screen

/-- A text in place of a table. -/
def placeholder (theme : Theme) (title message advice : String) (width height : Nat) : Area :=
  let ground : Paint := Paint.change {} theme.secondaryStyle
  let inner := Frame.innerWidth width
  Frame.around (ground.change theme.labelStyle) ground title width height
    ([message, "", advice].map fun text =>
      Strip.ofPieces ground inner (Strip.fitting inner (Span.pieces ⟨text, {}⟩)))

/-- What a cell holds if only its first line is shown. -/
def firstLine (text : String) : String :=
  let line := text.toList.takeWhile (· ≠ '\n')
  let ended := line.length < text.length
  String.ofList (if ended && line.getLast? == some '\r' then line.dropLast else line)

/-- A cell of a row, which fills its column. -/
def cellStrip (paint : Paint) (room : Nat) (text : String) : Strip :=
  Strip.fill paint room (Strip.inscribe paint room (Span.pieces ⟨firstLine text, {}⟩))

/-- A row of cells, each with its own paint, on a ground that fills the width. -/
def rowStrip (ground : Paint) (width : Nat) (columns : List (Nat × Nat))
    (cells : List (String × Paint)) : Strip :=
  let cells := (columns.zip cells).foldl (fun strip ((start, room), (text, paint)) =>
    Strip.fill ground start strip ++ cellStrip paint room text) ([] : Strip)
  (Strip.fill ground width cells).take width

/-- The widths that the columns of a table ask for: that of the widest text in each, the header's
name included. A width is a 16-bit number. -/
def columnWishes (table : Table) (now : Instant) : List Nat :=
  ((Table.columnWidths (table.lines now)).take table.header.length).map (· % 65536)

/-- The widths that the columns of shown rows ask for if the table names none: equal parts. -/
def equalWishes (width : Nat) (rows : List Row) : List Nat :=
  let count := (rows.map (·.cells.length)).foldl max 0
  List.replicate count (width / max count 1)

/-- A row of the table. The selected row looks the same all over; in any other a status shows its
own grade. -/
def tableRow (theme : Theme) (now : Instant) (width : Nat) (columns : List (Nat × Nat))
    (selected : Bool) (row : Row) : Strip :=
  let style := if selected then theme.selectedStyle else theme.healthStyle row.health
  let ground := Paint.change {} style
  let paint (cell : Cell) : Paint :=
    if selected then ground else (cell.health?.map theme.healthStyle).elim ground ground.change
  rowStrip ground width columns (row.cells.map fun cell => (cell.display now, paint cell))

end Screen

namespace Session

open Screen

/-- The rows that are shown, with their places in the table. -/
def shownRows (s : Session) (table : Table) (height : Nat) : List (Row × Nat) :=
  ((table.rows.zipIdx).drop s.scroll).take (Scroll.visibleRows height)

/-- The table in its frame. -/
def tableArea (s : Session) (theme : Theme) (now : Instant) (title : String) (table : Table)
    (width height : Nat) : Area :=
  let inner := Frame.innerWidth width
  let rows := s.shownRows table height
  let wishes := if table.header.isEmpty then equalWishes inner (rows.map (·.1))
    else columnWishes table now
  let columns := Columns.arrange inner wishes
  let names := Paint.change {} theme.columnNameStyle
  Frame.around (Paint.change {} theme.labelStyle) {} title width height
    (rowStrip names inner columns (table.header.map fun c => (c.name, names)) ::
      rows.map fun (row, n) => tableRow theme now inner columns (n == s.location.selected) row)

/-- The body. -/
def body (s : Session) (theme : Theme) (now : Instant) (width height : Nat) : Area :=
  let title := s.view.title
  match s.table with
  | none => placeholder theme title "Loading..." "Please wait..." width height
  | some table =>
    let title := title ++ " (" ++ toString table.rows.length ++ ")"
    if table.rows.isEmpty then
      placeholder theme title "No resources found" "Press <r> to refresh" width height
    else s.tableArea theme now title table width height

end Session

end FleetConsole
