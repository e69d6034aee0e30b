import FleetConsole.Hub.Kubeconfig
import FleetConsole.Hub.Response
import FleetConsole.Settings.File
import FleetConsole.Time.Instant

/-!
# Surroundings

What the program finds when it is called: the variables of its environment, the files, the time and
the API server. From these follow the places of its settings and of the kubeconfig.
-/

namespace FleetConsole

/-- What the program is called in. -/
structure Surroundings where
  environment : List (String × String)
  /-- The text of a file that can be read. -/
  file? : String → Option String
  now : Instant
  /-- The response of the API server to a request for an address, if it can be reached. -/
  respond : String → Option Hub.Response := fun _ => none
  /-- Where the debug log goes. -/
  logPath : String := ""

namespace Surroundings

/-- The variable that names the folder of the settings. -/
def settingsFolderVariable : String := "FLEET9S_CONFIG_DIR"

/-- The variable that names the folder of all settings. -/
def configHomeVariable : String := "XDG_CONFIG_HOME"

/-- The variable that names the home folder. -/
def homeVariable : String := "HOME"

/-- The variable that names kubeconfig files. -/
def kubeconfigVariable : String := "KUBECONFIG"

/-- The variable that overrides the namespace to start with. -/
def namespaceVariable : String := "FLEET9S_NAMESPACE"

/-- The variable that overrides the API group. -/
def groupVariable : String := "FLEET9S_API_GROUP"

/-- The variable that overrides the API version. -/
def versionVariable : String := "FLEET9S_API_VERSION"

/-- The variables that matter. -/
def variableNames : List String :=
  [settingsFolderVariable, configHomeVariable, homeVariable, kubeconfigVariable, namespaceVariable,
   groupVariable, versionVariable]

/-- The value of a variable. -/
def value? (s : Surroundings) (name : String) : Option String := s.environment.lookup name

/-- The path of a file in a folder; the empty folder is the current one. -/
def join (folder file : String) : String :=
  if folder = "" || folder.toList.getLast? == some '/' then folder ++ file
  else folder ++ "/" ++ file

/-- The home folder. -/
def home? (s : Surroundings) : Option String := (s.value? homeVariable).filter (· ≠ "")

/-- The folder of the settings. -/
def settingsFolder (s : Surroundings) : String :=
  (s.value? settingsFolderVariable).getD <|
    join ((s.value? configHomeVariable).getD (join (s.home?.getD ".") ".config")) "fleet9s"

/-- The path of the settings file. -/
def settingsPath (s : Surroundings) : String := join s.settingsFolder "config.yaml"

/-- The settings file. -/
def settingsFile (s : Surroundings) : SettingsFile := ⟨s.settingsPath, s.file? s.settingsPath⟩

/-- The settings that variables override. -/
def overrides (s : Surroundings) : Overrides :=
  ⟨s.value? namespaceVariable, s.value? groupVariable, s.value? versionVariable⟩

/-- The paths of the kubeconfig files: those that the variable lists or, if it lists none, the one
in the home folder. -/
def kubeconfigPaths (s : Surroundings) : List String :=
  let listed := ((s.value? kubeconfigVariable).getD "").splitOn ":"
  match listed.filter (· ≠ "") with
  | [] => s.home?.toList.map fun home => join (join home ".kube") "config"
  | paths => paths

/-- The kubeconfig that the files add up to, if all of them can be read. -/
def kubeconfig? (s : Surroundings) : Option Kubeconfig := do
  if s.kubeconfigPaths.isEmpty then none
  let parts ← s.kubeconfigPaths.mapM fun path => (s.file? path).bind Kubeconfig.ofText?
  return parts.foldl Kubeconfig.merge {}

end Surroundings

end FleetConsole
