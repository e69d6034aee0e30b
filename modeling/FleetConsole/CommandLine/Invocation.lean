import FleetConsole.CommandLine.Reading
import FleetConsole.Fleet.View

/-!
# Invocations

What a command line asks for: a table, the version, or work on the settings, together with the
options that apply to it. Without a command it asks for the applications.
-/

namespace FleetConsole

/-- The options of an invocation. -/
structure Options where
  debug : Bool := false
  /-- The snapshot to read instead of the hub. -/
  file : Option String := none
  /-- The context of the hub. -/
  context : Option String := none
  ns : Option String := none
  allNamespaces : Bool := false
  selector : Option String := none
deriving DecidableEq, Repr

/-- Work on the settings. -/
inductive SettingsAction where
  | get (key : Option String)
  | set (key value : String)
  | list
  | path
  | validate
deriving DecidableEq, Repr

/-- What is asked for. -/
inductive Action where
  /-- The table of a view, which may be about an application. -/
  | showTable (view : View) (application : Option String)
  | settings (action : SettingsAction)
  | version
deriving DecidableEq, Repr

/-- A command line that can be carried out. -/
structure Invocation where
  options : Options
  action : Action
deriving DecidableEq, Repr

namespace Invocation

open CommandLine

/-- What a command asks for, given the values that it takes. -/
def action? : Verb → List String → Option Action
  | .console, [] | .apps, [] => some (.showTable .applications none)
  | .clusters, [] => some (.showTable .clusters none)
  | .works, [] => some (.showTable .manifestWorks none)
  | .manifests, [app] => some (.showTable .manifests (some app))
  | .status, [app] => some (.showTable .applicationStatus (some app))
  | .version, [] => some .version
  | .configGet, [] => some (.settings (.get none))
  | .configGet, [key] => some (.settings (.get (some key)))
  | .configSet, [key, value] => some (.settings (.set key value))
  | .configList, [] => some (.settings .list)
  | .configPath, [] => some (.settings .path)
  | .configValidate, [] => some (.settings .validate)
  | _, _ => none

/-- The options that have been given. -/
def givenOptions (r : Reading) : Options where
  debug := r.has .debug
  file := r.value? .file
  context := r.value? .context
  ns := r.value? .ns
  allNamespaces := r.has .allNamespaces
  selector := r.value? .selector

/-- The invocation that words write. -/
def ofWords (words : List String) : Except Stop Invocation := do
  let r ← Reading.words {} words
  if let some m := r.complaint? then throw (.misuse m)
  match action? r.verb r.values with
  | some action => return ⟨givenOptions r, action⟩
  | none => throw (.misuse (.missingPlace r.verb))

end Invocation

end FleetConsole
