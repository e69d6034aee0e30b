import FleetConsole.Session.Fetch

/-!
# Navigation

The three collections lie side by side; the two views of an application lie behind the collection
of applications. Entering a place starts afresh: nothing is shown until it has been fetched.
-/

namespace FleetConsole.Session

/-- Enters a place. -/
def enter (s : Session) (place : Location) : Session :=
  { s.abandon with
    location := place
    scroll := 0
    table := none
    lastFetch := none
    refreshWanted := true
    notice := none }

/-- Switches to a collection and forgets the way back. -/
def switchTo (s : Session) (view : View) : Session :=
  if view.needsPath || (s.view == view && s.history.isEmpty) then s
  else { s with history := [] }.enter ⟨view, none, 0⟩

/-- The application that a view opened from here would be about: the selected one, or the one that
the current view is about already. -/
def subject? (s : Session) : Option String :=
  match s.view with
  | .applications => s.selectedRow?.map (·.id)
  | .manifests | .applicationStatus => s.location.path
  | .clusters | .manifestWorks => none

/-- Opens a view of an application. -/
def openView (s : Session) (view : View) : Session :=
  match s.subject? with
  | some path =>
    if s.view = view then s
    else { s with history := s.location :: s.history }.enter ⟨view, some path, 0⟩
  | none => s

/-- Goes back to the place left last; false if there is none. -/
def goBack (s : Session) : Bool × Session :=
  match s.history with
  | place :: rest => (true, { s with history := rest }.enter place)
  | [] => (false, s)

/-- Selects the next row. -/
def selectNext (s : Session) : Session :=
  if s.location.selected + 1 < s.rowCount then s.select (s.location.selected + 1) else s

/-- Selects the row before. -/
def selectPrevious (s : Session) : Session := s.select (s.location.selected - 1)

/-- Selects the first row. -/
def selectFirst (s : Session) : Session := s.select 0

/-- Selects the last row. -/
def selectLast (s : Session) : Session := s.select (s.rowCount - 1)

/-- Selects the row a page down. -/
def pageDown (s : Session) : Session :=
  s.select (min (s.location.selected + max s.pageSize 1) (s.rowCount - 1))

/-- Selects the row a page up. -/
def pageUp (s : Session) : Session := s.select (s.location.selected - max s.pageSize 1)

end FleetConsole.Session
