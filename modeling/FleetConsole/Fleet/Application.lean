import FleetConsole.Fleet.Condition
import FleetConsole.Fleet.Metadata
import FleetConsole.Fleet.State

/-!
# Applications

An application declares a workload, an ordered list of manifests, to be rolled out to the clusters
that its selectors pick. Its status reports conditions, and the runtime status of every manifest on
every target cluster.
-/

namespace FleetConsole

/-- The runtime status of one manifest, as its cluster reports it. -/
structure StatusReport where
  name : String := ""
  ns : String := ""
  kind : String := ""
  /-- A payload whose form depends on the kind. -/
  status : Json := .null
deriving DecidableEq

/-- The rollout status of an application on one cluster. -/
structure ClusterRollout where
  cluster : String := ""
  conditions : List Condition := []
  lastObservedTime : Option String := none
  observedGeneration : Int := 0
  reports : List StatusReport := []
deriving DecidableEq

/-- One item of a workload. -/
structure WorkloadItem where
  manifest : Json := .null
deriving DecidableEq

/-- How a new version is rolled out. -/
structure RolloutStrategy where
  /-- A count or a percentage. -/
  minAvailableReplicas : String := ""
deriving DecidableEq

/-- When a rollout is taken back. -/
structure RollbackStrategy where
  minReadyReplicas : Int := 0
  minReadySeconds : Int := 0
  progressDeadlineSeconds : Int := 0
  revisionHistoryLimit : Int := 0
deriving DecidableEq

/-- The clusters that an application is meant for. -/
structure ClusterSelectors where
  capabilities : List String := []
deriving DecidableEq

/-- What an application declares. -/
structure ApplicationSpec where
  paused : Bool := false
  workload : List WorkloadItem := []
  version : String := ""
  rolloutStrategy : RolloutStrategy := {}
  rollbackStrategy : RollbackStrategy := {}
  clusterSelectors : ClusterSelectors := {}
deriving DecidableEq

/-- What is reported about an application. -/
structure ApplicationStatus where
  clusters : List ClusterRollout := []
  conditions : List Condition := []
  observedGeneration : Int := 0
  lastKnownGoodVersion : String := ""
  rolloutStatus : Option RolloutStatus := none
  applicationState : Option ApplicationState := none
  singletonState : Option SingletonState := none
  reports : List StatusReport := []
deriving DecidableEq

/-- An application. -/
structure Application where
  apiVersion : Option String := none
  kind : Option String := none
  metadata : Metadata := {}
  spec : ApplicationSpec := {}
  status : ApplicationStatus := {}
deriving DecidableEq

/-- The key by which manifests and reports are joined. -/
def manifestKey (ns name kind : String) : String := ns ++ "." ++ name ++ "." ++ kind

/-- The key of a report. -/
def StatusReport.key (r : StatusReport) : String := manifestKey r.ns r.name r.kind

/-- The fields of a report. -/
def StatusReport.record : Record StatusReport where
  expected := "struct ManifestStatus"
  blank := {}
  listForm := true
  fields :=
    [.plain "name" .string (·.name) fun v s => { s with name := v },
     .plain "namespace" .string (·.ns) fun v s => { s with ns := v },
     .plain "kind" .string (·.kind) fun v s => { s with kind := v },
     .plain "status" .tree (·.status) fun v s => { s with status := v }]

/-- The fields of a rollout status on a cluster. -/
def ClusterRollout.record : Record ClusterRollout where
  expected := "struct ApplicationClusterStatus"
  blank := {}
  listForm := true
  fields :=
    [.plain "cluster" .string (·.cluster) fun v s => { s with cluster := v },
     .plain "conditions" (.list Condition.record.codec) (·.conditions)
       fun v s => { s with conditions := v },
     .optional "lastManifestStatusObservedTime" .string (·.lastObservedTime)
       fun v s => { s with lastObservedTime := v },
     .plain "observedGeneration" .int64 (·.observedGeneration)
       fun v s => { s with observedGeneration := v },
     .plain "manifestStatuses" (.list StatusReport.record.codec) (·.reports)
       fun v s => { s with reports := v }]

/-- The field of a workload item. -/
def WorkloadItem.record : Record WorkloadItem where
  expected := "struct ManifestWithStrategy"
  blank := {}
  listForm := true
  fields := [.plain "manifest" .tree (·.manifest) fun v s => { s with manifest := v }]

/-- The field of a rollout strategy. -/
def RolloutStrategy.record : Record RolloutStrategy where
  expected := "struct RolloutStrategy"
  blank := {}
  listForm := true
  fields :=
    [.plain "minAvailableReplicas" .string (·.minAvailableReplicas)
       fun v s => { s with minAvailableReplicas := v }]

/-- The fields of a rollback strategy. -/
def RollbackStrategy.record : Record RollbackStrategy where
  expected := "struct RollbackStrategy"
  blank := {}
  listForm := true
  fields :=
    [.plain "minReadyReplicas" .int32 (·.minReadyReplicas)
       fun v s => { s with minReadyReplicas := v },
     .plain "minReadySeconds" .int32 (·.minReadySeconds)
       fun v s => { s with minReadySeconds := v },
     .plain "progressDeadlineSeconds" .int32 (·.progressDeadlineSeconds)
       fun v s => { s with progressDeadlineSeconds := v },
     .plain "revisionHistoryLimit" .int32 (·.revisionHistoryLimit)
       fun v s => { s with revisionHistoryLimit := v }]

/-- The field of cluster selectors. -/
def ClusterSelectors.record : Record ClusterSelectors where
  expected := "struct ClusterSelectors"
  blank := {}
  listForm := true
  fields :=
    [.plain "capabilities" (.list .string) (·.capabilities)
       fun v s => { s with capabilities := v }]

/-- The fields of what an application declares. -/
def ApplicationSpec.record : Record ApplicationSpec where
  expected := "struct ApplicationSpec"
  blank := {}
  listForm := true
  fields :=
    [.plain "paused" .bool (·.paused) fun v s => { s with paused := v },
     .plain "workload" (.list WorkloadItem.record.codec) (·.workload)
       fun v s => { s with workload := v },
     .plain "version" .string (·.version) fun v s => { s with version := v },
     .plain "rolloutStrategy" RolloutStrategy.record.codec (·.rolloutStrategy)
       fun v s => { s with rolloutStrategy := v },
     .plain "rollbackStrategy" RollbackStrategy.record.codec (·.rollbackStrategy)
       fun v s => { s with rollbackStrategy := v },
     .plain "clusterSelectors" ClusterSelectors.record.codec (·.clusterSelectors)
       fun v s => { s with clusterSelectors := v }]

/-- The fields of what is reported about an application. -/
def ApplicationStatus.record : Record ApplicationStatus where
  expected := "struct ApplicationStatus"
  blank := {}
  listForm := true
  fields :=
    [.plain "clusters" (.list ClusterRollout.record.codec) (·.clusters)
       fun v s => { s with clusters := v },
     .plain "conditions" (.list Condition.record.codec) (·.conditions)
       fun v s => { s with conditions := v },
     .plain "observedGeneration" .int64 (·.observedGeneration)
       fun v s => { s with observedGeneration := v },
     .plain "lastKnownGoodVersion" .string (·.lastKnownGoodVersion)
       fun v s => { s with lastKnownGoodVersion := v },
     .optional "rolloutStatus" ReportedState.codec (·.rolloutStatus)
       fun v s => { s with rolloutStatus := v },
     .optional "applicationState" ReportedState.codec (·.applicationState)
       fun v s => { s with applicationState := v },
     .optional "SingletonApplicationState" ReportedState.codec (·.singletonState)
       fun v s => { s with singletonState := v },
     .plain "manifestStatuses" (.list StatusReport.record.codec) (·.reports)
       fun v s => { s with reports := v }]

namespace Application

/-- The fields of an application. -/
def record : Record Application where
  expected := "struct Application"
  blank := {}
  listForm := true
  fields :=
    [.optional "apiVersion" .string (·.apiVersion) fun v s => { s with apiVersion := v },
     .optional "kind" .string (·.kind) fun v s => { s with kind := v },
     .plain "metadata" Metadata.record.codec (·.metadata) fun v s => { s with metadata := v },
     .plain "spec" ApplicationSpec.record.codec (·.spec) fun v s => { s with spec := v },
     .plain "status" ApplicationStatus.record.codec (·.status) fun v s => { s with status := v }]

/-- The name, empty if there is none. -/
def name (a : Application) : String := a.metadata.name.getD ""

/-- The namespace, empty if there is none. -/
def ns (a : Application) : String := a.metadata.ns.getD ""

/-- The names of the clusters that report a status. -/
def clusterNames (a : Application) : List String := a.status.clusters.map (·.cluster)

end Application

end FleetConsole
