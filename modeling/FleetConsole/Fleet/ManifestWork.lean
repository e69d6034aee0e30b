import FleetConsole.Fleet.Application

/-!
# Manifest works

A manifest work is the delivery of an application's manifests to one cluster.
-/

namespace FleetConsole

/-- The manifests to deliver. -/
structure ManifestsTemplate where
  manifests : List Json := []
deriving DecidableEq

/-- What a manifest work declares. -/
structure ManifestWorkSpec where
  workload : ManifestsTemplate := {}
deriving DecidableEq

/-- What is reported about a manifest work. -/
structure ManifestWorkStatus where
  observedGeneration : Int := 0
  conditions : List Condition := []
  state : Option ManifestWorkState := none
  lastObservedTime : Option String := none
  reports : List StatusReport := []
  healthyReplicas : Int := 0
  nonSchedulableReplicas : Int := 0
  totalReplicas : Int := 0
  degradedReason : Option DegradedReason := none
deriving DecidableEq

/-- A manifest work. -/
structure ManifestWork where
  apiVersion : Option String := none
  kind : Option String := none
  metadata : Metadata := {}
  spec : ManifestWorkSpec := {}
  status : ManifestWorkStatus := {}
deriving DecidableEq

/-- The field of the manifests to deliver. -/
def ManifestsTemplate.record : Record ManifestsTemplate where
  expected := "struct ManifestsTemplate"
  blank := {}
  listForm := true
  fields :=
    [.plain "manifests" (.list .tree) (·.manifests) fun v s => { s with manifests := v }]

/-- The field of what a manifest work declares. -/
def ManifestWorkSpec.record : Record ManifestWorkSpec where
  expected := "struct ManifestWorkSpec"
  blank := {}
  listForm := true
  fields :=
    [.plain "workload" ManifestsTemplate.record.codec (·.workload)
       fun v s => { s with workload := v }]

/-- The fields of what is reported about a manifest work. -/
def ManifestWorkStatus.record : Record ManifestWorkStatus where
  expected := "struct ManifestWorkStatus"
  blank := {}
  listForm := true
  fields :=
    [.plain "observedGeneration" .int64 (·.observedGeneration)
       fun v s => { s with observedGeneration := v },
     .plain "conditions" (.list Condition.record.codec) (·.conditions)
       fun v s => { s with conditions := v },
     .optional "manifestState" ReportedState.codec (·.state) fun v s => { s with state := v },
     .optional "lastManifestStatusObservedTime" .string (·.lastObservedTime)
       fun v s => { s with lastObservedTime := v },
     .plain "manifestStatuses" (.list StatusReport.record.codec) (·.reports)
       fun v s => { s with reports := v },
     .plain "healthReplicas" .int64 (·.healthyReplicas)
       fun v s => { s with healthyReplicas := v },
     .plain "nonSchedulableReplicas" .int64 (·.nonSchedulableReplicas)
       fun v s => { s with nonSchedulableReplicas := v },
     .plain "totalReplicas" .int64 (·.totalReplicas) fun v s => { s with totalReplicas := v },
     .optional "degradedReason" ReportedState.codec (·.degradedReason)
       fun v s => { s with degradedReason := v }]

namespace ManifestWork

/-- The fields of a manifest work. -/
def record : Record ManifestWork where
  expected := "struct ManifestWork"
  blank := {}
  listForm := true
  fields :=
    [.optional "apiVersion" .string (·.apiVersion) fun v s => { s with apiVersion := v },
     .optional "kind" .string (·.kind) fun v s => { s with kind := v },
     .plain "metadata" Metadata.record.codec (·.metadata) fun v s => { s with metadata := v },
     .plain "spec" ManifestWorkSpec.record.codec (·.spec) fun v s => { s with spec := v },
     .plain "status" ManifestWorkStatus.record.codec (·.status) fun v s => { s with status := v }]

/-- The name, empty if there is none. -/
def name (w : ManifestWork) : String := w.metadata.name.getD ""

/-- The namespace, empty if there is none. -/
def ns (w : ManifestWork) : String := w.metadata.ns.getD ""

/-- Healthy replicas out of all. -/
def healthyFraction (w : ManifestWork) : String :=
  toString w.status.healthyReplicas ++ "/" ++ toString w.status.totalReplicas

end ManifestWork

end FleetConsole
