/-!
# Cancel signals

A signal is issued together with a handle. Only the handle can cancel, once and for all; dropping it
leaves the signal as it is. Signals are numbered in the order in which they are issued, and a board
keeps the state of each.
-/

namespace FleetConsole

/-- The state of a signal. -/
structure Signal where
  cancelled : Bool := false
  /-- Is the handle still there? -/
  held : Bool := true
deriving DecidableEq, Repr

/-- The states of all signals issued so far. -/
structure Signals where
  states : List Signal := []
deriving DecidableEq, Repr

namespace Signals

/-- The number that the next signal gets. -/
def next (board : Signals) : Nat := board.states.length

/-- The board with one more signal. -/
def issue (board : Signals) : Signals := ⟨board.states ++ [({} : Signal)]⟩

/-- The board after the handle of a signal was used. -/
def cancel (board : Signals) (n : Nat) : Signals :=
  ⟨board.states.modify n fun s => if s.held then { s with cancelled := true } else s⟩

/-- The board after the handle of a signal was dropped. -/
def drop (board : Signals) (n : Nat) : Signals :=
  ⟨board.states.modify n fun s => { s with held := false }⟩

/-- Is a signal cancelled? -/
def isCancelled (board : Signals) (n : Nat) : Bool := board.states[n]?.any (·.cancelled)

/-- Is there still a handle that could cancel a signal? -/
def isHeld (board : Signals) (n : Nat) : Bool := board.states[n]?.any (·.held)

end Signals

end FleetConsole
