import FleetConsole.CommandLine.Help
import FleetConsole.CommandLine.Invocation
import FleetConsole.CommandLine.Surroundings
import FleetConsole.Hub.Store
import FleetConsole.Service
import FleetConsole.Store.Snapshot
import FleetConsole.Table.Text

/-!
# Carrying out an invocation

What comes of an invocation is what is printed, the exit code, and the file that is written. Reading
resources never writes the settings, and working on the settings never reads resources.
-/

namespace FleetConsole

/-- What comes of an invocation. -/
structure Outcome where
  code : UInt32 := 0
  stdout : String := ""
  stderr : String := ""
  /-- The file that is written, with its text. -/
  written : Option (String × String) := none
deriving DecidableEq, Repr

namespace Outcome

/-- Something is printed. -/
def printed (text : String) : Outcome := { stdout := text }

/-- A line on the error output. -/
def complained (line : String) : Outcome := { code := 1, stderr := line ++ "\n" }

/-- The report of a failure: its causes, the outermost first. -/
def report : List String → String
  | [] => ""
  | [message] => "Error: " ++ message ++ "\n"
  | [message, cause] => "Error: " ++ message ++ "\n\nCaused by:\n    " ++ cause ++ "\n"
  | message :: causes =>
    let numbered := causes.zipIdx.map fun (cause, n) => toString n ++ ": " ++ cause
    "Error: " ++ message ++ "\n\nCaused by:\n" ++
      String.join (numbered.map fun line => "    " ++ line ++ "\n")

/-- A failure, given by its causes, the outermost first. -/
def failed (causes : List String) : Outcome := { code := 1, stderr := report causes }

/-- An outcome after lines on the error output. -/
def after (lines : List String) (o : Outcome) : Outcome :=
  { o with stderr := String.join (lines.map (· ++ "\n")) ++ o.stderr }

end Outcome

/-- A failure as its causes, or what a step came to. -/
abbrev Attempt (α : Type) := Except (List String) α

/-- Names what failed. -/
def Attempt.about {α : Type} (message : String) : Except (List String) α → Attempt α :=
  Except.mapError (message :: ·)

namespace SettingsAction

/-- The settings in force, for work on them. -/
def loaded (s : Surroundings) : Attempt Settings :=
  Attempt.about "Failed to load configuration"
    ((s.settingsFile.load s.overrides).mapError SettingsError.messages)

/-- The text of a setting, or of all of them. -/
def shown (settings : Settings) : Option String → Attempt String
  | some key => ((settings.getByName key).map (· ++ "\n")).mapError SettingsError.messages
  | none => .ok settings.text

/-- The settings file with one setting changed. What the environment overrides is not written. -/
def changed (s : Surroundings) (key value : String) : Attempt SettingsFile := do
  let settings ← s.settingsFile.readOrDefault.mapError SettingsError.messages
  match settings.set key value with
  | (settings, .ok ()) => return s.settingsFile.save settings
  | (_, .error e) => throw (("Failed to set " ++ key ++ " = " ++ value) :: e.messages)

/-- A line for each setting. -/
def listing (settings : Settings) : String :=
  String.join (settings.list.map fun (key, value) => key ++ ": " ++ value ++ "\n")

/-- What comes of an attempt. -/
def conclude {α : Type} (attempt : Attempt α) (done : α → Outcome) : Outcome :=
  match attempt with
  | .ok a => done a
  | .error causes => .failed causes

/-- Carries out work on the settings. -/
def run (s : Surroundings) : SettingsAction → Outcome
  | get key => conclude (loaded s >>= (shown · key)) .printed
  | set key value =>
    conclude (changed s key value) fun file =>
      { Outcome.printed "Configuration saved\n" with
        written := file.text.map fun text => (file.path, text) }
  | list => conclude (loaded s) fun settings => .printed (listing settings)
  | path => .printed (s.settingsPath ++ "\n")
  | validate =>
    match s.settingsFile.validate with
    | .ok () => .printed "Configuration is valid\n"
    | .error e => .complained ("Configuration validation failed: " ++ ": ".intercalate e.messages)

end SettingsAction

namespace Invocation

/-- The settings in force, for reading resources. If they cannot be read the defaults stand in for
them, and a line says so. -/
def settings (s : Surroundings) : Settings × List String :=
  match s.settingsFile.load s.overrides with
  | .ok settings => (settings, [])
  | .error e =>
    ({}, ["Failed to load configuration: " ++ ": ".intercalate e.messages ++ ", using defaults"])

/-- The scope of an invocation. -/
def scope (o : Options) (settings : Settings) : Scope :=
  if o.allNamespaces then .all else Scope.ofText (o.ns.getD settings.defaultNamespace)

/-- The labels that an invocation is limited to. -/
def labels? (o : Options) (settings : Settings) : Option String :=
  o.selector.or settings.labelSelector

/-- The snapshot in a file. -/
def snapshot (s : Surroundings) (path : String) : Except FleetError Snapshot :=
  match s.file? path with
  | some text => Snapshot.ofText text path
  | none => .error (.unreadable path SettingsFile.missing)

/-- The store that an invocation reads: a snapshot, or the hub. -/
def store (s : Surroundings) (o : Options) : Attempt Store :=
  match o.file with
  | some path =>
    Attempt.about ("Failed to load snapshot " ++ path)
      (((snapshot s path).map Snapshot.store).mapError fun e => [e.message])
  | none =>
    match s.kubeconfig?.bind (·.client? o.context) with
    | some _ =>
      let context := o.context.getD (Kubeconfig.contextName s.kubeconfig?)
      .ok (Hub.store ⟨context, s.respond⟩)
    | none => .error [Kubeconfig.noClientMessage o.context]

/-- The full name of an application. Without a slash it is looked for in the namespace of the scope,
which has to be a single one. -/
def qualify (scope : Scope) (application : String) : Attempt String :=
  if application.toList.contains '/' then .ok application
  else match scope.ns? with
    | some ns => .ok (QualifiedName.text ⟨some ns, application⟩)
    | none =>
      .error ["application " ++ Text.quoted application ++
        " needs a namespace: use namespace/name or --namespace"]

/-- The context of the request for a table. -/
def requestContext (scope : Scope) (labels : Option String) (application : Option String) :
    Attempt RequestContext := do
  let ctx : RequestContext := { scope }
  let ctx := labels.elim ctx ctx.withLabels
  match application with
  | some app => return ctx.withPath (← qualify scope app)
  | none => return ctx

/-- The table that is asked for. -/
def table (s : Surroundings) (o : Options) (settings : Settings) (view : View)
    (application : Option String) : Attempt Table := do
  let store ← store s o
  let scope := scope o settings
  let ctx ← requestContext scope (labels? o settings) application
  let service : Service :=
    { store, api := settings.api, clustersWidth := settings.display.clustersColumnWidth.toNat }
  Attempt.about ("Failed to fetch " ++ view.title)
    ((service.table {} ctx view).mapError fun e => [e.message])

/-- Prints a table, and says so if it is empty. -/
def printTable (now : Instant) (table : Table) : Outcome :=
  { Outcome.printed (table.text now) with
    stderr := if table.rows.isEmpty then "No resources found\n" else "" }

/-- Shows the table of a view. -/
def showTable (s : Surroundings) (o : Options) (view : View) (application : Option String) :
    Outcome :=
  let (settings, notes) := settings s
  let log := if o.debug then ["Debug logging enabled. Logs written to: " ++ s.logPath] else []
  (SettingsAction.conclude (table s o settings view application) (printTable s.now)).after
    (log ++ notes)

/-- The text about the version. -/
def versionText : String :=
  "fleet9s 0.1.0\n" ++
  "  A K9s-inspired terminal UI for inspecting clusterfleet Applications, Clusters and " ++
  "ManifestWorks\n" ++
  "  License: Apache-2.0\n"

/-- Carries out an invocation. -/
def run (s : Surroundings) (i : Invocation) : Outcome :=
  match i.action with
  | .showTable view application => showTable s i.options view application
  | .settings action => action.run s
  | .version => .printed versionText

/-- The paths of the files that an invocation may read. -/
def paths (s : Surroundings) (i : Invocation) : List String :=
  s.settingsPath :: i.options.file.toList ++ s.kubeconfigPaths

end Invocation

namespace CommandLine

/-- What comes of a command line that is not carried out. -/
def Stop.outcome : Stop → Outcome
  | help v => .printed v.help
  | misuse m =>
    { code := 2, stderr := "error: " ++ m.message ++ "\n\nFor more information, try '--help'.\n" }

/-- What comes of a command line. -/
def run (s : Surroundings) (words : List String) : Outcome :=
  match Invocation.ofWords words with
  | .ok i => i.run s
  | .error stop => stop.outcome

/-- The paths of the files that a command line may have read. -/
def paths (s : Surroundings) (words : List String) : List String :=
  match Invocation.ofWords words with
  | .ok i => i.paths s
  | .error _ => []

end CommandLine

end FleetConsole
