import FleetConsole.CommandLine.Run
import Std.Time.DateTime.Timestamp

/-!
# The program

Reads what the command line needs, carries it out, and prints and writes what comes of it.
-/

namespace FleetConsole

/-- The instant that is so many nanoseconds after the beginning of 1970. -/
def instantOfNanos (n : Int) : Instant :=
  let second := n / Instant.nanosPerSecond
  ⟨second / 86400, (second % 86400).toNat, (n % Instant.nanosPerSecond).toNat⟩

/-- The text of a file, if it can be read. -/
def readText? (path : String) : IO (Option String) := do
  try return some (← IO.FS.readFile path) catch _ => return none

/-- The folder in which a path lies. -/
def folderOf (path : String) : String :=
  String.ofList (((path.toList.reverse.dropWhile (· ≠ '/')).drop 1).reverse)

/-- Writes a text to a file, in a folder that is made if need be. -/
def writeText (path text : String) : IO Unit := do
  let folder := folderOf path
  if folder ≠ "" then IO.FS.createDirAll folder
  IO.FS.writeFile path text

/-- The values of the variables that matter. -/
def readVariables : IO (List (String × String)) := do
  let values ← Surroundings.variableNames.mapM fun name => do return (name, ← IO.getEnv name)
  return values.filterMap fun (name, value) => value.map ((name, ·))

/-- The surroundings in which words are carried out. -/
def readSurroundings (words : List String) : IO Surroundings := do
  let now := instantOfNanos (← Std.Time.Timestamp.now).toNanosecondsSinceUnixEpoch.val
  let known : Surroundings :=
    { environment := ← readVariables, file? := fun _ => none, now, logPath := "/tmp/fleet9s.log" }
  let texts ← (CommandLine.paths known words).mapM fun path => do return (path, ← readText? path)
  return { known with file? := fun path => (texts.lookup path).join }

end FleetConsole

open FleetConsole in
/-- Carries out a command line. -/
def main (words : List String) : IO UInt32 := do
  let outcome := CommandLine.run (← readSurroundings words) words
  if let some (path, text) := outcome.written then writeText path text
  IO.print outcome.stdout
  IO.eprint outcome.stderr
  return outcome.code
