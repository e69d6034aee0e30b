import FleetConsole.Session.Basic

/-!
# Fetching

A session asks for a fetch when its data is no longer fresh, and waits for one fetch at a time.
Answers come by number, at any time and in any order; one that the session does not wait for goes
nowhere. Leaving a place cancels the fetch made there.
-/

namespace FleetConsole.Session

/-- How long data stays fresh, in seconds. -/
def refreshInterval (s : Session) : Nat :=
  let seconds := match s.view with
    | .manifests => s.profile.display.manifestRefreshSeconds
    | _ => s.profile.display.refreshSeconds
  max seconds.toNat 1

/-- Is it time to fetch? -/
def refreshDue (s : Session) (now : Nat) : Bool :=
  s.pending.isNone &&
    (s.refreshWanted || s.lastFetch.all fun last => s.refreshInterval * 1000 ≤ now - last)

/-- The context of a request made from here. -/
def requestContext (s : Session) : RequestContext :=
  let ctx : RequestContext := { scope := s.profile.scope }
  let ctx := s.location.path.elim ctx ctx.withPath
  s.profile.labels.elim ctx ctx.withLabels

/-- Starts a fetch if it is time. -/
def startFetch (s : Session) (now : Nat) : Option Fetch × Session :=
  if s.refreshDue now then
    let number := s.signals.next
    (some ⟨number, s.view, { s.requestContext with signal := some number }⟩,
      { s with
        pending := some { location := s.location, number }
        signals := s.signals.issue
        lastFetch := some now
        refreshWanted := false })
  else (none, s)

/-- Does the session wait for the answer of a fetch? -/
def awaits (s : Session) (number : Nat) : Bool :=
  match s.pending with
  | some { number := n, reply := .waiting, .. } => n == number
  | _ => false

/-- What becomes of a fetch is noted if the session waits for it. -/
def settle (s : Session) (number : Nat) (reply : Reply) : Session :=
  if s.awaits number then { s with pending := s.pending.map ({ · with reply }) } else s

/-- Takes in the outcome of a fetch. A table puts an end to the message of an earlier failure; a
cancelled fetch leaves no trace. -/
def absorb (s : Session) : Except FleetError Table → Session
  | .ok table => { s with notice := s.notice.filter (!·.isError) }.showTable table
  | .error .cancelled => s
  | .error e => s.notify ⟨s.view.title ++ ": " ++ e.message, true⟩

/-- Forgets the pending fetch; its signal stays as it is. -/
def retire (s : Session) : Session :=
  { s with pending := none, signals := s.pending.elim s.signals (s.signals.drop ·.number) }

/-- Gives the pending fetch up. -/
def abandon (s : Session) : Session :=
  { s with signals := s.pending.elim s.signals (s.signals.cancel ·.number) }.retire

/-- Takes in an outcome unless it is about another place. -/
def absorbFor (s : Session) (place : Location) (result : Except FleetError Table) :
    Bool × Session :=
  if place.view = s.view ∧ place.path = s.location.path then (true, s.absorb result)
  else (false, s)

/-- Takes in what has become of the pending fetch; true if there is something new to be seen. -/
def poll (s : Session) : Bool × Session :=
  match s.pending with
  | some { location, reply := .arrived result, .. } => s.retire.absorbFor location result
  | some { location, reply := .lost, .. } => s.retire.absorbFor location (.error .cancelled)
  | _ => (false, s)

end FleetConsole.Session
