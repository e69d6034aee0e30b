/-!
# The grammar of the command line

The program is called with a command, which may have commands of its own, with options, and with the
values that the command takes. All options may stand at any level.
-/

namespace FleetConsole.CommandLine

/-- An option. -/
inductive Switch where
  | debug
  | file
  | context
  | ns
  | allNamespaces
  | selector
  | help
deriving DecidableEq, Repr

namespace Switch

/-- All options, in the order in which they are explained. -/
def all : List Switch := [debug, file, context, ns, allNamespaces, selector, help]

/-- The long form, without its dashes. -/
def long : Switch → String
  | debug => "debug"
  | file => "file"
  | context => "context"
  | ns => "namespace"
  | allNamespaces => "all-namespaces"
  | selector => "selector"
  | help => "help"

/-- The short form, without its dash. -/
def short? : Switch → Option Char
  | debug => some 'd'
  | file => some 'f'
  | context => none
  | ns => some 'n'
  | allNamespaces => some 'A'
  | selector => some 'l'
  | help => some 'h'

/-- What the value of an option is called, if it takes one. -/
def value? : Switch → Option String
  | file => some "FILE"
  | context => some "CONTEXT"
  | ns => some "NAMESPACE"
  | selector => some "SELECTOR"
  | debug | allNamespaces | help => none

/-- May the value of an option be empty? A path may not. -/
def allowsEmpty (s : Switch) : Bool := s != file

/-- What an option does. -/
def about : Switch → String
  | debug => "Enable debug logging"
  | file => "Read resources from a YAML snapshot instead of the cluster"
  | context => "Kubeconfig context of the hub cluster"
  | ns => "Namespace to show (\"all\" for every namespace)"
  | allNamespaces => "Show every namespace"
  | selector => "Label selector, e.g. \"team=edge,tier!=canary\""
  | help => "Print help"

end Switch

/-- The word that asks for help about a command. -/
def helpWord : String := "help"

/-- A value that a command takes. -/
structure Place where
  name : String
  about : String
  required : Bool := true
deriving DecidableEq, Repr

/-- A command; `console` is the program itself. -/
inductive Verb where
  | console
  | config
  | configGet
  | configSet
  | configList
  | configPath
  | configValidate
  | version
  | apps
  | clusters
  | works
  | manifests
  | status
deriving DecidableEq, Repr

namespace Verb

/-- The words that call a command. -/
def path : Verb → List String
  | console => ["fleet9s"]
  | config => ["fleet9s", "config"]
  | configGet => ["fleet9s", "config", "get"]
  | configSet => ["fleet9s", "config", "set"]
  | configList => ["fleet9s", "config", "list"]
  | configPath => ["fleet9s", "config", "path"]
  | configValidate => ["fleet9s", "config", "validate"]
  | version => ["fleet9s", "version"]
  | apps => ["fleet9s", "apps"]
  | clusters => ["fleet9s", "clusters"]
  | works => ["fleet9s", "works"]
  | manifests => ["fleet9s", "manifests"]
  | status => ["fleet9s", "status"]

/-- The word that calls a command after those that lead to it. -/
def name (v : Verb) : String := v.path.getLast?.getD ""

/-- What a command does. -/
def about : Verb → String
  | console => "A K9s-inspired terminal UI for clusterfleet resources"
  | config => "Configuration management"
  | configGet => "Get configuration value"
  | configSet => "Set configuration value"
  | configList => "List all configuration"
  | configPath => "Show configuration file path"
  | configValidate => "Validate configuration"
  | version => "Show version information"
  | apps => "List applications"
  | clusters => "List clusters"
  | works => "List manifest works"
  | manifests => "Show the workload manifests of an application"
  | status => "Show the per-cluster status of an application"

/-- The commands that a command has. -/
def children : Verb → List Verb
  | console => [config, version, apps, clusters, works, manifests, status]
  | config => [configGet, configSet, configList, configPath, configValidate]
  | _ => []

/-- The command that a word calls. -/
def child? (v : Verb) (word : String) : Option Verb := v.children.find? (·.name = word)

/-- Is a command incomplete without one of its own commands? -/
def needsChild (v : Verb) : Bool := v == config

/-- The values that a command takes. -/
def places : Verb → List Place
  | configGet => [{ name := "KEY", about := key, required := false }]
  | configSet =>
    [{ name := "KEY", about := key }, { name := "VALUE", about := "Configuration value" }]
  | manifests | status =>
    [{ name := "APP", about := "Application as namespace/name, or name with --namespace" }]
  | _ => []
where
  /-- What a key is. -/
  key : String := "Configuration key (e.g., \"defaultNamespace\", \"ui.refreshSeconds\")"

end Verb

end FleetConsole.CommandLine
