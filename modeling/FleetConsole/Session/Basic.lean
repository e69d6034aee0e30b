import FleetConsole.Fleet.View
import FleetConsole.Request.Context
import FleetConsole.Settings.Basic
import FleetConsole.Table.Basic

/-!
# Sessions

A session is what the console knows while someone uses it: where they are, which way back there is,
what is shown, and what is being fetched. Requests are numbered by their cancel signals.

The clock is read in whole milliseconds, so that two events within one millisecond are at the same
time. A finer clock would tell them apart; what is waited for are whole seconds.
-/

namespace FleetConsole

/-- A place to be: a view, the application that it is about, and the selected row. -/
structure Location where
  view : View
  path : Option String := none
  selected : Nat := 0
deriving DecidableEq, Repr

/-- What has become of a fetch. -/
inductive Reply where
  | waiting
  | arrived (result : Except FleetError Table)
  /-- Nobody is left who could answer. -/
  | lost

/-- The fetch that a session waits for. -/
structure Pending where
  /-- Where the session was when the fetch began. -/
  location : Location
  number : Nat
  reply : Reply := .waiting

/-- A fetch to be carried out. -/
structure Fetch where
  number : Nat
  view : View
  context : RequestContext
deriving DecidableEq, Repr

/-- A message about what happened last. -/
structure Notice where
  text : String
  isError : Bool
deriving DecidableEq, Repr

/-- What a session is opened with. -/
structure Profile where
  /-- The name of the context that the console talks to. -/
  context : String
  /-- Where the data comes from. -/
  source : String
  scope : Scope := .all
  labels : Option String := none
  display : DisplaySettings := {}

/-- A session. -/
structure Session where
  profile : Profile
  location : Location := ⟨.applications, none, 0⟩
  /-- The places that lead back, the last one left first. -/
  history : List Location := []
  /-- The first row shown. -/
  scroll : Nat := 0
  /-- How many rows the page keys move. -/
  pageSize : Nat := 10
  table : Option Table := none
  /-- When the last fetch for this place began. -/
  lastFetch : Option Nat := none
  /-- Is a fetch wanted as soon as possible? -/
  refreshWanted : Bool := true
  pending : Option Pending := none
  signals : Signals := {}
  notice : Option Notice := none
  helpShown : Bool := false

namespace Session

/-- The current view. -/
def view (s : Session) : View := s.location.view

/-- The number of rows shown. -/
def rowCount (s : Session) : Nat := s.table.elim 0 (·.rows.length)

/-- The selected row, if a table is shown that has it. -/
def selectedRow? (s : Session) : Option Row := s.table.bind (·.rows[s.location.selected]?)

/-- The session with a row selected. -/
def select (s : Session) (n : Nat) : Session :=
  { s with location := { s.location with selected := n } }

/-- The session with a message. -/
def notify (s : Session) (notice : Notice) : Session := { s with notice := some notice }

/-- The session that shows a table. The selection stays within its rows. -/
def showTable (s : Session) (table : Table) : Session :=
  { s.select (min s.location.selected (table.rows.length - 1)) with table := some table }

end Session

end FleetConsole
