import FleetConsole.Fleet.Cluster
import FleetConsole.Fleet.ManifestWork
import FleetConsole.Rollout.ClusterView
import FleetConsole.Rollout.ManifestView
import FleetConsole.Table.Basic
import FleetConsole.Text.Truncated

/-!
# The layouts of the tables

A layout says which columns a table has and how an object becomes a row.
-/

namespace FleetConsole

/-- How objects of a type become a table. -/
structure Layout (σ : Type) where
  header : List Column
  row : σ → Row

namespace Layout

/-- The table of a list of objects, a row for each. -/
def table {σ : Type} (l : Layout σ) (items : List σ) : Table := ⟨l.header, items.map l.row⟩

/-- What is shown of what has not been provisioned. -/
def notProcessed : String := "Not Processed"

/-- The width of a list of clusters unless configured otherwise. -/
def defaultClustersWidth : Nat := 30

/-- Applications, with the names of their clusters cut to a width. -/
def applications (clustersWidth : Nat) : Layout Application where
  header := [⟨"NAMESPACE", false⟩, ⟨"NAME", false⟩, ⟨"PROVISIONED", false⟩, ⟨"CLUSTERS", false⟩,
    .age]
  row app :=
    let reason := Condition.reason? Condition.provisioned app.status.conditions
    let clusters := String.intercalate "," app.clusterNames
    { id := QualifiedName.text ⟨some app.ns, app.name⟩
      cells := [.text app.ns, .text app.name, .text (reason.getD notProcessed),
        .text (Text.truncated clustersWidth clusters), .age app.metadata.creationTime]
      health := HealthScheme.provisioning.grade reason }

/-- An application's clusters. A row is as well as the worse of its readiness and its replicas. -/
def clusterViews : Layout ClusterView where
  header := [⟨"CLUSTER", false⟩, ⟨"READY", false⟩, ⟨"REPLICAS", false⟩]
  row view :=
    { id := QualifiedName.text ⟨none, view.source.cluster⟩
      cells := [.text view.source.cluster, .text view.readyReason, .text view.replicas]
      health := (HealthScheme.ready.grade view.readyStatus).worse
        (HealthScheme.workload.grade (some view.replicas)) }

/-- An application's manifests. What is not reported has no label. -/
def manifestViews : Layout ManifestView where
  header := [⟨"NAME", false⟩, ⟨"KIND", false⟩, ⟨"REPLICAS", false⟩]
  row view :=
    { id := QualifiedName.text ⟨some view.identity.ns, view.displayName⟩
      cells := [.text view.displayName, .text view.identity.kind, .text view.replicas]
      health := HealthScheme.workload.grade (view.report.map fun _ => view.replicas) }

/-- What every cluster is used for. -/
def generalUsage : String := "general"

/-- Clusters. -/
def clusters : Layout Cluster where
  header := [⟨"NAME", false⟩, ⟨"USAGE", false⟩, ⟨"PROVISIONED", false⟩, ⟨"HEALTH", false⟩, .age]
  row cluster :=
    let provisioned := cluster.stepStatus? Cluster.provisionerStep
    let state := cluster.state?.map ReportedState.text
    { id := QualifiedName.text ⟨none, cluster.name⟩
      cells := [.text cluster.name, .text generalUsage, .text (provisioned.getD notProcessed),
        .status (state.getD "") (HealthScheme.clusterState.grade state),
        .age cluster.metadata.creationTime]
      health := HealthScheme.clusterState.grade provisioned }

/-- Manifest works. -/
def manifestWorks : Layout ManifestWork where
  header := [⟨"NAMESPACE", false⟩, ⟨"NAME", false⟩, ⟨"STATE", false⟩, ⟨"HEALTHY", false⟩, .age]
  row work :=
    let state := work.status.state.map ReportedState.text
    { id := QualifiedName.text ⟨some work.ns, work.name⟩
      cells := [.text work.ns, .text work.name, .text (state.getD ""),
        .text work.healthyFraction, .age work.metadata.creationTime]
      health := HealthScheme.manifestWork.grade state }

end Layout

end FleetConsole
