import FleetConsole.Hub.Address
import FleetConsole.Record.Record
import FleetConsole.Yaml.Tree

/-!
# Kubeconfig files

A kubeconfig names clusters, users and contexts. A context pairs a cluster with a user and a
namespace; one of the contexts is current.
-/

namespace FleetConsole

/-- A cluster's API server. -/
structure ClusterAddress where
  server : Option String := none

/-- A cluster, a user and a namespace by their names. -/
structure ClusterContext where
  cluster : Option String := none
  user : Option String := none
  ns : Option String := none

/-- An entry of a list by name. -/
structure NamedEntry (α : Type) where
  name : Option String := none
  value : Option α := none

/-- A kubeconfig. -/
structure Kubeconfig where
  currentContext : Option String := none
  clusters : List (NamedEntry ClusterAddress) := []
  contexts : List (NamedEntry ClusterContext) := []

/-- The field of a cluster's address that is needed here. -/
def ClusterAddress.record : Record ClusterAddress where
  expected := "struct Cluster"
  blank := {}
  listForm := false
  fields := [.optional "server" .string (·.server) fun v s => { s with server := v }]

/-- The fields of a context. -/
def ClusterContext.record : Record ClusterContext where
  expected := "struct Context"
  blank := {}
  listForm := false
  fields :=
    [.optional "cluster" .string (·.cluster) fun v s => { s with cluster := v },
     .optional "user" .string (·.user) fun v s => { s with user := v },
     .optional "namespace" .string (·.ns) fun v s => { s with ns := v }]

/-- The fields of an entry, of which the value stands under `key`. -/
def NamedEntry.record {α : Type} (key : String) (value : Codec α) : Record (NamedEntry α) where
  expected := "struct NamedEntry"
  blank := {}
  listForm := false
  fields :=
    [.optional "name" .string (·.name) fun v s => { s with name := v },
     .optional key value (·.value) fun v s => { s with value := v }]

namespace Kubeconfig

/-- The fields of a kubeconfig. -/
def record : Record Kubeconfig where
  expected := "struct Kubeconfig"
  blank := {}
  listForm := false
  fields :=
    [.optional "current-context" .string (·.currentContext)
       fun v s => { s with currentContext := v },
     .plain "clusters"
       (.orNull (.list (NamedEntry.record "cluster" ClusterAddress.record.codec).codec) [])
       (·.clusters) fun v s => { s with clusters := v },
     .plain "contexts"
       (.orNull (.list (NamedEntry.record "context" ClusterContext.record.codec).codec) [])
       (·.contexts) fun v s => { s with contexts := v }]

/-- Does every entry have a name, and every context a cluster? -/
def isComplete (k : Kubeconfig) : Bool :=
  k.clusters.all (·.name.isSome) && k.contexts.all fun c =>
    c.name.isSome && c.value.all (·.cluster.isSome)

/-- The first kubeconfig with what the second adds: entries under new names, and the current context
if the first has none. -/
def merge (k l : Kubeconfig) : Kubeconfig where
  currentContext := k.currentContext.or l.currentContext
  clusters := k.clusters ++ l.clusters.filter fun c => k.clusters.all (·.name ≠ c.name)
  contexts := k.contexts ++ l.contexts.filter fun c => k.contexts.all (·.name ≠ c.name)

/-- The kubeconfig that a tree holds. -/
def ofTree? (tree : Json) : Option Kubeconfig :=
  match record.read tree with
  | .ok k => if k.isComplete then some k else none
  | .error _ => none

/-- The kubeconfig that the documents of a text add up to. -/
def ofText? (text : String) : Option Kubeconfig := do
  let parts ← (← Yaml.trees? text).mapM ofTree?
  return parts.foldl merge {}

/-- The context that is taken for current if none is. -/
def defaultContext : String := "default"

/-- The namespace of contexts that name none. -/
def defaultNamespace : String := "default"

/-- The value of the first entry with a name. -/
def find? {α : Type} (entries : List (NamedEntry α)) (name : String) : Option α :=
  (entries.find? (·.name = some name)).bind (·.value)

/-- The namespace of a client for a context, the current one if none is given. There is a client if
the context exists and its cluster has an address. -/
def client? (k : Kubeconfig) (context : Option String) : Option String := do
  let name ← context.or k.currentContext
  let context ← find? k.contexts name
  let cluster ← find? k.clusters (← context.cluster)
  if Hub.Address.isValid (← cluster.server) then return context.ns.getD defaultNamespace else none

/-- The message that there is no client for a context. -/
def noClientMessage : Option String → String
  | some context => "Failed to load kubeconfig context " ++ Text.quoted context
  | none => "Failed to infer Kubernetes configuration"

/-- The name of the current context. -/
def contextName (k : Option Kubeconfig) : String :=
  (k.bind (·.currentContext)).getD defaultContext

end Kubeconfig

end FleetConsole
