import FleetConsole.Rollout.Replicas
import FleetConsole.Rollout.ReportIndex

/-!
# Declared manifests and their reports

Each manifest of an application's workload is joined with the status report of the same object, if
there is one. A manifest that cannot be read has no identity, so that its namespace, name and kind
are empty.
-/

namespace FleetConsole

/-- What a manifest declares about itself. -/
structure ManifestIdentity where
  name : String := ""
  ns : String := ""
  kind : String := ""
  declaredReplicas : String := Replicas.unknown
deriving DecidableEq, Repr

/-- The identity that a manifest declares, blank if it cannot be read. -/
def ManifestIdentity.ofManifest (manifest : Json) : ManifestIdentity :=
  match Embedded.object manifest with
  | .ok object =>
    { name := object.metadataName
      ns := object.metadataNamespace
      kind := object.kindText
      declaredReplicas :=
        match object.int64At? ["spec", "replicas"] with
        | some n => toString n
        | none => Replicas.unknown }
  | .error _ => {}

/-- A declared manifest and what is reported about it. -/
structure ManifestView where
  identity : ManifestIdentity
  manifest : Json
  report : Option StatusReport
deriving DecidableEq

namespace ManifestView

/-- The key of the object. -/
def key (v : ManifestView) : String := manifestKey v.identity.ns v.identity.name v.identity.kind

/-- The name under which the object is shown. -/
def displayName (v : ManifestView) : String := v.identity.name ++ "_" ++ v.identity.kind

/-- The replicas reported for a deployment. -/
def replicas (v : ManifestView) : String :=
  match v.report with
  | some report =>
    if v.identity.kind = Replicas.deploymentKind then Replicas.fraction report.status
    else Replicas.unknown
  | none => Replicas.unknown

/-- A manifest with its report from an index. -/
def join (index : ReportIndex) (manifest : Json) : ManifestView :=
  let identity := ManifestIdentity.ofManifest manifest
  ⟨identity, manifest, index.get? (manifestKey identity.ns identity.name identity.kind)⟩

end ManifestView

/-- The manifests of an application with their reports, in the order of the workload. -/
def Application.manifestViews (app : Application) : List ManifestView :=
  let index := ReportIndex.ofReports app.status.reports
  app.spec.workload.map fun item => ManifestView.join index item.manifest

end FleetConsole
