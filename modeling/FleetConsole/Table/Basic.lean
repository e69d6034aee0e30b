import FleetConsole.Table.Health
import FleetConsole.Time.Instant

/-!
# Tables

A table has a header and rows of cells. Rows carry no styling, only how well their object does; an
age cell keeps the time of creation, so that its text depends on when it is shown.
-/

namespace FleetConsole

/-- A column of a table. -/
structure Column where
  name : String
  /-- Does the column show times? -/
  isTime : Bool := false
deriving DecidableEq, Repr

/-- The column that shows ages. -/
def Column.age : Column := ⟨"AGE", true⟩

/-- A cell of a table. -/
inductive Cell where
  | text (text : String)
  /-- A status with a grade of its own. -/
  | status (text : String) (health : Health)
  /-- The time since an object was created. -/
  | age (created : Option Instant)
deriving DecidableEq, Repr

namespace Cell

/-- The text of an age that is not known. -/
def unknownAge : String := "<unknown>"

/-- What a cell shows at a time. -/
def display (now : Instant) : Cell → String
  | text s => s
  | status s _ => s
  | age (some created) => ageText created now
  | age none => unknownAge

/-- The grade of a cell's own. -/
def health? : Cell → Option Health
  | status _ h => some h
  | _ => none

end Cell

/-- A row of a table. -/
structure Row where
  /-- The fully qualified name of the object. -/
  id : String
  cells : List Cell
  health : Health
deriving DecidableEq, Repr

/-- What the cells of a row show at a time. -/
def Row.display (now : Instant) (r : Row) : List String := r.cells.map (·.display now)

/-- A table. -/
structure Table where
  header : List Column := []
  rows : List Row := []
deriving DecidableEq, Repr

/-- The first row with an id. -/
def Table.row? (t : Table) (id : String) : Option Row := t.rows.find? (·.id = id)

end FleetConsole
