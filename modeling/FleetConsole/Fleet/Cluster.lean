import FleetConsole.Fleet.Metadata
import FleetConsole.Fleet.State

/-!
# Clusters

A cluster managed by the fleet. Its status is written by the lifecycle controller.
-/

namespace FleetConsole

/-- What a cluster declares. -/
structure ClusterSpec where
  provisioner : String := ""
  clusterDefinition : String := ""
  properties : List (String × String) := []
deriving DecidableEq

/-- The status of one step of provisioning. -/
structure ProvisioningStep where
  name : String := ""
  type : String := ""
  status : String := ""
  errorMessage : String := ""
  properties : List (String × String) := []
deriving DecidableEq

/-- The versions that run on a cluster. -/
structure ClusterVersion where
  controlPlaneVersion : String := ""
  /-- The number of nodes by version. -/
  nodeVersions : List (String × Int) := []
deriving DecidableEq

/-- How many nodes are healthy. -/
structure NodeStatus where
  healthyNodeCount : Int := 0
  totalNodeCount : Int := 0
deriving DecidableEq

/-- The operating system of the nodes. -/
structure OsDistribution where
  os : String := ""
  type : String := ""
  versionName : String := ""
  nodeCount : Int := 0
deriving DecidableEq

/-- What is reported about a running cluster. -/
structure RuntimeStatus where
  clusterVersion : ClusterVersion := {}
  nodeStatus : NodeStatus := {}
  osDistribution : OsDistribution := {}
  clusterStateOverride : Bool := false
  clusterState : Option ClusterState := none
  clusterSubstate : Option ClusterSubstate := none
  lastStateChangeTime : String := ""
  capabilities : List (String × String) := []
  lastCapabilitiesTransitionTime : String := ""
deriving DecidableEq

/-- What is reported about a cluster. -/
structure ClusterStatus where
  keyIdentifiers : List (String × String) := []
  lastStatusChange : String := ""
  healthPolicy : String := ""
  health : Option ClusterHealth := none
  activity : Option ClusterActivity := none
  provisioning : List ProvisioningStep := []
  runtime : RuntimeStatus := {}
deriving DecidableEq

/-- A cluster. -/
structure Cluster where
  apiVersion : Option String := none
  kind : Option String := none
  metadata : Metadata := {}
  spec : ClusterSpec := {}
  status : ClusterStatus := {}
deriving DecidableEq

/-- The fields of what a cluster declares. -/
def ClusterSpec.record : Record ClusterSpec where
  expected := "struct ClusterSpec"
  blank := {}
  listForm := true
  fields :=
    [.plain "provisioner" .string (·.provisioner) fun v s => { s with provisioner := v },
     .plain "clusterDefinition" .string (·.clusterDefinition)
       fun v s => { s with clusterDefinition := v },
     .plain "properties" (.map .string) (·.properties) fun v s => { s with properties := v }]

/-- The fields of a step of provisioning. -/
def ProvisioningStep.record : Record ProvisioningStep where
  expected := "struct StepStatus"
  blank := {}
  listForm := true
  fields :=
    [.plain "name" .string (·.name) fun v s => { s with name := v },
     .plain "type" .string (·.type) fun v s => { s with type := v },
     .plain "status" .string (·.status) fun v s => { s with status := v },
     .plain "errorMessage" .string (·.errorMessage) fun v s => { s with errorMessage := v },
     .plain "properties" (.map .string) (·.properties) fun v s => { s with properties := v }]

/-- The fields of the versions on a cluster. -/
def ClusterVersion.record : Record ClusterVersion where
  expected := "struct ClusterVersion"
  blank := {}
  listForm := true
  fields :=
    [.plain "controlPlaneVersion" .string (·.controlPlaneVersion)
       fun v s => { s with controlPlaneVersion := v },
     .plain "nodeVersions" (.map .int64) (·.nodeVersions) fun v s => { s with nodeVersions := v }]

/-- The fields of the node counts. -/
def NodeStatus.record : Record NodeStatus where
  expected := "struct NodeStatus"
  blank := {}
  listForm := true
  fields :=
    [.plain "healthyNodeCount" .int64 (·.healthyNodeCount)
       fun v s => { s with healthyNodeCount := v },
     .plain "totalNodeCount" .int64 (·.totalNodeCount) fun v s => { s with totalNodeCount := v }]

/-- The fields of an operating system. -/
def OsDistribution.record : Record OsDistribution where
  expected := "struct OsDistribution"
  blank := {}
  listForm := true
  fields :=
    [.plain "os" .string (·.os) fun v s => { s with os := v },
     .plain "type" .string (·.type) fun v s => { s with type := v },
     .plain "versionName" .string (·.versionName) fun v s => { s with versionName := v },
     .plain "nodeCount" .int64 (·.nodeCount) fun v s => { s with nodeCount := v }]

/-- The fields of what is reported about a running cluster. -/
def RuntimeStatus.record : Record RuntimeStatus where
  expected := "struct RuntimeStatus"
  blank := {}
  listForm := true
  fields :=
    [.plain "clusterVersion" ClusterVersion.record.codec (·.clusterVersion)
       fun v s => { s with clusterVersion := v },
     .plain "nodeStatus" NodeStatus.record.codec (·.nodeStatus)
       fun v s => { s with nodeStatus := v },
     .plain "osDistribution" OsDistribution.record.codec (·.osDistribution)
       fun v s => { s with osDistribution := v },
     .plain "clusterStateOverride" .bool (·.clusterStateOverride)
       fun v s => { s with clusterStateOverride := v },
     .optional "clusterState" ReportedState.codec (·.clusterState)
       fun v s => { s with clusterState := v },
     .optional "clusterSubstate" ReportedState.codec (·.clusterSubstate)
       fun v s => { s with clusterSubstate := v },
     .plain "lastClusterStateChangeTime" .string (·.lastStateChangeTime)
       fun v s => { s with lastStateChangeTime := v },
     .plain "clusterCapabilitiesStatus" (.map .string) (·.capabilities)
       fun v s => { s with capabilities := v },
     .plain "lastCapabilitiesStatusTransitionTime" .string (·.lastCapabilitiesTransitionTime)
       fun v s => { s with lastCapabilitiesTransitionTime := v }]

/-- The fields of what is reported about a cluster. -/
def ClusterStatus.record : Record ClusterStatus where
  expected := "struct ClusterStatus"
  blank := {}
  listForm := true
  fields :=
    [.plain "keyIdentifiers" (.map .string) (·.keyIdentifiers)
       fun v s => { s with keyIdentifiers := v },
     .plain "lastStatusChange" .string (·.lastStatusChange)
       fun v s => { s with lastStatusChange := v },
     .plain "clusterHealthPolicy" .string (·.healthPolicy)
       fun v s => { s with healthPolicy := v },
     .optional "clusterStatus" ReportedState.codec (·.health) fun v s => { s with health := v },
     .optional "clusterActivityStatus" ReportedState.codec (·.activity)
       fun v s => { s with activity := v },
     .plain "provisioningStatus" (.list ProvisioningStep.record.codec) (·.provisioning)
       fun v s => { s with provisioning := v },
     .plain "runtimeStatus" RuntimeStatus.record.codec (·.runtime)
       fun v s => { s with runtime := v }]

namespace Cluster

/-- The fields of a cluster. -/
def record : Record Cluster where
  expected := "struct Cluster"
  blank := {}
  listForm := true
  fields :=
    [.optional "apiVersion" .string (·.apiVersion) fun v s => { s with apiVersion := v },
     .optional "kind" .string (·.kind) fun v s => { s with kind := v },
     .plain "metadata" Metadata.record.codec (·.metadata) fun v s => { s with metadata := v },
     .plain "spec" ClusterSpec.record.codec (·.spec) fun v s => { s with spec := v },
     .plain "status" ClusterStatus.record.codec (·.status) fun v s => { s with status := v }]

/-- The step of provisioning that the provisioner itself reports. -/
def provisionerStep : String := "provisioner"

/-- The name, empty if there is none. -/
def name (c : Cluster) : String := c.metadata.name.getD ""

/-- The status of the first step with a name. -/
def stepStatus? (c : Cluster) (step : String) : Option String :=
  (c.status.provisioning.find? (·.name = step)).map (·.status)

/-- The lifecycle state, if it is reported. -/
def state? (c : Cluster) : Option ClusterState := c.status.runtime.clusterState

end Cluster

end FleetConsole
