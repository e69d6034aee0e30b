import FleetConsole.Rollout.Replicas
import FleetConsole.Fleet.Application

/-!
# An application on its clusters

What an application's status reports about each cluster: whether the application is ready there and
why, and the replicas of the deployment that was reported last.
-/

namespace FleetConsole

/-- An application on one cluster. -/
structure ClusterView where
  source : ClusterRollout
deriving DecidableEq

namespace ClusterView

/-- The reason that is shown where nothing says whether the application is ready. -/
def unknownReason : String := "Unknown"

/-- The condition that the application is ready. -/
def ready? (v : ClusterView) : Option Condition :=
  Condition.last? Condition.ready v.source.conditions

/-- Why the application is or is not ready. -/
def readyReason (v : ClusterView) : String := (v.ready?.map (·.reason)).getD unknownReason

/-- Whether the application is ready, if the status is not empty. -/
def readyStatus (v : ClusterView) : Option String := (v.ready?.map (·.status)).filter (· ≠ "")

/-- The replicas of the last deployment reported. -/
def replicas (v : ClusterView) : String :=
  match v.source.reports.reverse.find? (·.kind = Replicas.deploymentKind) with
  | some report => Replicas.fraction report.status
  | none => Replicas.unknown

end ClusterView

/-- The clusters of an application, in the order in which they are reported. -/
def Application.clusterViews (app : Application) : List ClusterView :=
  app.status.clusters.map fun source => ⟨source⟩

end FleetConsole
