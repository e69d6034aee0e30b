import FleetConsole.Settings.Basic
import FleetConsole.Yaml.Typed
import FleetConsole.Yaml.Written

/-!
# The settings file

Settings are kept in a YAML file. Absent keys have their defaults, unknown keys are passed over. A
file that does not exist stands for the defaults, but reading it explicitly is an error.
-/

namespace FleetConsole

open Yaml in
/-- How an entry of the API version is read. -/
def ApiVersion.readEntry (d : Document) : String → Option (Node → ApiVersion → Follow ApiVersion)
  | "group" => some fun n s => return { s with group := ← d.textOf n }
  | "version" => some fun n s => return { s with version := ← d.textOf n }
  | _ => none

open Yaml in
/-- How an entry of the display settings is read. -/
def DisplaySettings.readEntry (d : Document) :
    String → Option (Node → DisplaySettings → Follow DisplaySettings)
  | "refreshSeconds" => some fun n s => return { s with refreshSeconds := ← d.wordOf n }
  | "manifestRefreshSeconds" => some fun n s =>
    return { s with manifestRefreshSeconds := ← d.wordOf n }
  | "clustersColumnWidth" => some fun n s => return { s with clustersColumnWidth := ← d.wordOf n }
  | "noColor" => some fun n s => return { s with noColor := ← d.boolOf n }
  | _ => none

namespace Settings

open Yaml in
/-- How an entry of the settings is read. -/
def readEntry (d : Document) : String → Option (Node → Settings → Follow Settings)
  | "defaultNamespace" => some fun n s => return { s with defaultNamespace := ← d.textOf n }
  | "labelSelector" => some fun n s =>
    return { s with labelSelector := ← Document.optional d.textOf d n }
  | "api" => some fun n s =>
    return { s with api := ← d.recordOf (ApiVersion.readEntry d) .standard n }
  | "ui" => some fun n s =>
    return { s with display := ← d.recordOf (DisplaySettings.readEntry d) {} n }
  | _ => none

/-- The settings that a text holds. -/
def ofText? (text : String) : Option Settings :=
  Yaml.typed? text fun d n => d.recordOf (readEntry d) {} n

/-- A key with the value that follows it on the line. -/
def line (key : String) (value : List Char) : List Char := key.toList ++ ':' :: ' ' :: value

/-- The text that holds settings. -/
def text (s : Settings) : String :=
  let label := match s.labelSelector with
    | some v => line "labelSelector" (Yaml.scalarLine 2 v)
    | none => []
  let word (key : String) (n : UInt64) := line key ((toString n).toList ++ ['\n'])
  String.ofList <|
    line "defaultNamespace" (Yaml.scalarLine 2 s.defaultNamespace) ++ label ++
    "api:\n".toList ++
    line "  group" (Yaml.scalarLine 4 s.api.group) ++
    line "  version" (Yaml.scalarLine 4 s.api.version) ++
    "ui:\n".toList ++
    word "  refreshSeconds" s.display.refreshSeconds ++
    word "  manifestRefreshSeconds" s.display.manifestRefreshSeconds ++
    word "  clustersColumnWidth" s.display.clustersColumnWidth ++
    line "  noColor" (if s.display.noColor then "true\n".toList else "false\n".toList)

end Settings

/-- A file that may exist: its path and its text. -/
structure SettingsFile where
  path : String
  text : Option String
deriving DecidableEq, Repr

namespace SettingsFile

/-- The reason why a file that does not exist cannot be read. -/
def missing : String := "No such file or directory (os error 2)"

/-- The settings of a file that has to exist. -/
def read (f : SettingsFile) : Except SettingsError Settings :=
  match f.text with
  | none => .error (.unreadable f.path missing)
  | some text =>
    match Settings.ofText? text with
    | some s => .ok s
    | none => .error (.malformed f.path)

/-- The settings of a file, the defaults if it does not exist. -/
def readOrDefault (f : SettingsFile) : Except SettingsError Settings :=
  if f.text.isNone then .ok {} else f.read

/-- The settings of a file with the overrides of the environment. -/
def load (f : SettingsFile) (o : Overrides) : Except SettingsError Settings :=
  f.readOrDefault.map (·.override o)

/-- Checks the settings of a file. -/
def validate (f : SettingsFile) : Except SettingsError Unit := do (← f.readOrDefault).check

/-- The file with settings written to it. -/
def save (f : SettingsFile) (s : Settings) : SettingsFile := { f with text := some s.text }

end SettingsFile

end FleetConsole
