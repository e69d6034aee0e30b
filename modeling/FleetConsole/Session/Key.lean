import FleetConsole.Session.Navigation

/-!
# Keys

A key press means a command, and a command changes the session. Keys without a meaning are ignored.
-/

namespace FleetConsole

/-- A key. -/
inductive Key where
  | escape
  | enter
  | up
  | down
  | home
  | bottom
  | pageUp
  | pageDown
  | char (c : Char)
  /-- A key that the console does not know. -/
  | other
deriving DecidableEq, Repr

/-- A key, pressed with or without the control key. -/
structure KeyPress where
  key : Key
  control : Bool := false
deriving DecidableEq, Repr

/-- What a user can ask for. -/
inductive Command where
  | quit
  /-- Dismiss the message, or else go back. -/
  | dismiss
  | openView (view : View)
  | switchTo (view : View)
  | refresh
  | toggleHelp
  | selectNext
  | selectPrevious
  | selectFirst
  | selectLast
  | pageDown
  | pageUp
deriving DecidableEq, Repr

/-- What a key means. -/
def Key.command? : Key → Option Command
  | escape => some .dismiss
  | enter | char 'm' => some (.openView .manifests)
  | char 's' => some (.openView .applicationStatus)
  | char 'a' => some (.switchTo .applications)
  | char 'c' => some (.switchTo .clusters)
  | char 'w' => some (.switchTo .manifestWorks)
  | char 'r' => some .refresh
  | char 'q' => some .quit
  | char '?' => some .toggleHelp
  | down | char 'j' => some .selectNext
  | up | char 'k' => some .selectPrevious
  | home | char 'g' => some .selectFirst
  | bottom | char 'G' => some .selectLast
  | pageDown => some .pageDown
  | pageUp => some .pageUp
  | _ => none

/-- What a key press means: control and `c` ends the session, and otherwise the control key makes
no difference. -/
def KeyPress.command? (press : KeyPress) : Option Command :=
  if press.control && press.key == .char 'c' then some .quit else press.key.command?

namespace Session

/-- Dismisses the message; if there is none, goes back. -/
def dismiss (s : Session) : Session :=
  if s.notice.isSome then { s with notice := none } else s.goBack.2

/-- Asks for fresh data. -/
def refresh (s : Session) : Session :=
  { s with refreshWanted := true }.notify ⟨"Refreshing " ++ s.view.title, false⟩

/-- The session after a command. -/
def perform (s : Session) : Command → Session
  | .quit => s
  | .dismiss => s.dismiss
  | .openView view => s.openView view
  | .switchTo view => s.switchTo view
  | .refresh => s.refresh
  | .toggleHelp => { s with helpShown := !s.helpShown }
  | .selectNext => s.selectNext
  | .selectPrevious => s.selectPrevious
  | .selectFirst => s.selectFirst
  | .selectLast => s.selectLast
  | .pageDown => s.pageDown
  | .pageUp => s.pageUp

/-- The session after a key press. -/
def press (s : Session) (press : KeyPress) : Session := press.command?.elim s s.perform

end Session

end FleetConsole
