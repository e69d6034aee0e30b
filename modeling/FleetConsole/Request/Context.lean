import FleetConsole.Fleet.Coordinate
import FleetConsole.Fleet.Error
import FleetConsole.Fleet.Selector
import FleetConsole.Request.Signal

/-!
# Request contexts

A request carries the path of the object it is about, a label selector as text, the scope of
namespaces, and the signal that cancels it. A call made on behalf of a request is refused if the
signal is cancelled before the call, and given up if it is cancelled while the call waits.
-/

namespace FleetConsole

/-- The circumstances of a request. -/
structure RequestContext where
  values : List (String × String) := []
  scope : Scope := .all
  signal : Option Nat := none
deriving DecidableEq, Repr

namespace RequestContext

/-- The key of the path. -/
def pathKey : String := "path"

/-- The key of the label selector. -/
def labelsKey : String := "labels"

/-- The context with a value set. -/
def withValue (c : RequestContext) (key value : String) : RequestContext :=
  { c with values := (key, value) :: c.values.filter (·.1 ≠ key) }

/-- The context with a path. -/
def withPath (c : RequestContext) (path : String) : RequestContext := c.withValue pathKey path

/-- The context with a label selector. -/
def withLabels (c : RequestContext) (labels : String) : RequestContext :=
  c.withValue labelsKey labels

/-- The value of a key. -/
def value? (c : RequestContext) (key : String) : Option String := c.values.lookup key

/-- The path, unless it is empty. -/
def path? (c : RequestContext) : Option String := (c.value? pathKey).filter (· ≠ "")

/-- The path that a request about an object of a collection has to have. -/
def requirePath (c : RequestContext) (coordinate : Coordinate) : Except FleetError String :=
  match c.path? with
  | some path => .ok path
  | none => .error (.missingPath coordinate.text)

/-- The label selector. A malformed one selects everything. -/
def selector (c : RequestContext) : Selector :=
  match c.value? labelsKey with
  | some labels => Selector.parseLenient labels
  | none => Selector.everything

/-- Is the request cancelled? -/
def isCancelled (c : RequestContext) (board : Signals) : Bool := c.signal.any board.isCancelled

/-- Makes a call that answers at once. -/
def run {α : Type} (c : RequestContext) (board : Signals) (call : Except FleetError α) :
    Except FleetError α :=
  if c.isCancelled board then .error .cancelled else call

/-- Makes a call that never answers: what happens to the signals while it waits decides whether it
is given up. -/
def runPending (c : RequestContext) (board later : Signals) : Option FleetError :=
  if c.isCancelled board || c.isCancelled later then some .cancelled else none

end RequestContext

end FleetConsole
