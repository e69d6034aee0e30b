import FleetConsole.Record.Codec

/-!
# Reported states

States that the controllers report as text. Each type lists the states known so far; a controller
may report others, which are kept as they are written, so reading a state never fails on a text and
writing it gives the text back.
-/

namespace FleetConsole

/-- A type of states that are reported as text. -/
class ReportedState (σ : Type) where
  /-- The known states. -/
  known : List σ
  /-- A state under another text. -/
  other : String → σ
  /-- The text that reports a state. -/
  text : σ → String
  /-- The name of a state in diagnostics, without a text of its own. -/
  name : σ → String
  /-- The text of a state that is not known. -/
  otherText? : σ → Option String

namespace ReportedState

variable {σ : Type} [ReportedState σ]

/-- The state that a text reports. -/
def ofText (s : String) : σ := ((known : List σ).find? (text · = s)).getD (other s)

/-- A state in diagnostics: its name, and the text if it is not known. -/
def diagnostic (state : σ) : String :=
  match otherText? state with
  | some s => name state ++ "(" ++ Text.quoted s ++ ")"
  | none => name state

/-- States as trees. -/
def codec : Codec σ where
  read j := (Codec.string.read j).map ofText
  write state := .str (text state)

end ReportedState

/-- The aggregated state of an application's manifest works. -/
inductive ApplicationState where
  | progressing
  | applied
  | available
  | degraded
  | other (text : String)
deriving DecidableEq, Repr

instance : ReportedState ApplicationState where
  known := [.progressing, .applied, .available, .degraded]
  other := .other
  text
    | .progressing => "Progressing"
    | .applied => "Applied"
    | .available => "Available"
    | .degraded => "Degraded"
    | .other s => s
  name
    | .progressing => "Progressing"
    | .applied => "Applied"
    | .available => "Available"
    | .degraded => "Degraded"
    | .other _ => "Other"
  otherText?
    | .other s => some s
    | _ => none

/-- The migration state of an application that runs on one cluster. -/
inductive SingletonState where
  | migrating
  | working
  | other (text : String)
deriving DecidableEq, Repr

instance : ReportedState SingletonState where
  known := [.migrating, .working]
  other := .other
  text
    | .migrating => "Migrating"
    | .working => "Working"
    | .other s => s
  name
    | .migrating => "Migrating"
    | .working => "Working"
    | .other _ => "Other"
  otherText?
    | .other s => some s
    | _ => none

/-- The progress of a rollout. -/
inductive RolloutStatus where
  | inProgress
  | completed
  | rollingBack
  | rollingBackCompleted
  | other (text : String)
deriving DecidableEq, Repr

instance : ReportedState RolloutStatus where
  known := [.inProgress, .completed, .rollingBack, .rollingBackCompleted]
  other := .other
  text
    | .inProgress => "InProgress"
    | .completed => "Completed"
    | .rollingBack => "RollingBack"
    | .rollingBackCompleted => "RollingBackCompleted"
    | .other s => s
  name
    | .inProgress => "InProgress"
    | .completed => "Completed"
    | .rollingBack => "RollingBack"
    | .rollingBackCompleted => "RollingBackCompleted"
    | .other _ => "Other"
  otherText?
    | .other s => some s
    | _ => none

/-- The state of the manifests of one manifest work. -/
inductive ManifestWorkState where
  | progressing
  | applied
  | available
  | degraded
  | other (text : String)
deriving DecidableEq, Repr

instance : ReportedState ManifestWorkState where
  known := [.progressing, .applied, .available, .degraded]
  other := .other
  text
    | .progressing => "Progressing"
    | .applied => "Applied"
    | .available => "Available"
    | .degraded => "Degraded"
    | .other s => s
  name
    | .progressing => "Progressing"
    | .applied => "Applied"
    | .available => "Available"
    | .degraded => "Degraded"
    | .other _ => "Other"
  otherText?
    | .other s => some s
    | _ => none

/-- Why a manifest work is degraded. -/
inductive DegradedReason where
  | noEnoughResource
  | other (text : String)
deriving DecidableEq, Repr

instance : ReportedState DegradedReason where
  known := [.noEnoughResource]
  other := .other
  text
    | .noEnoughResource => "NoEnoughResouce"
    | .other s => s
  name
    | .noEnoughResource => "NoEnoughResource"
    | .other _ => "Other"
  otherText?
    | .other s => some s
    | _ => none

/-- The health of a cluster by its health policy. -/
inductive ClusterHealth where
  | healthy
  | partialFailed
  | failed
  | other (text : String)
deriving DecidableEq, Repr

instance : ReportedState ClusterHealth where
  known := [.healthy, .partialFailed, .failed]
  other := .other
  text
    | .healthy => "Healthy"
    | .partialFailed => "Partial-Failed"
    | .failed => "Failed"
    | .other s => s
  name
    | .healthy => "Healthy"
    | .partialFailed => "PartialFailed"
    | .failed => "Failed"
    | .other _ => "Other"
  otherText?
    | .other s => some s
    | _ => none

/-- Whether a cluster takes work. -/
inductive ClusterActivity where
  | active
  | drain
  | other (text : String)
deriving DecidableEq, Repr

instance : ReportedState ClusterActivity where
  known := [.active, .drain]
  other := .other
  text
    | .active => "Active"
    | .drain => "Drain"
    | .other s => s
  name
    | .active => "Active"
    | .drain => "Drain"
    | .other _ => "Other"
  otherText?
    | .other s => some s
    | _ => none

/-- The lifecycle state of a cluster. -/
inductive ClusterState where
  | provisioned
  | ready
  | failed
  | drain
  | delete
  | unknown
  | other (text : String)
deriving DecidableEq, Repr

instance : ReportedState ClusterState where
  known := [.provisioned, .ready, .failed, .drain, .delete, .unknown]
  other := .other
  text
    | .provisioned => "Provisioned"
    | .ready => "Ready"
    | .failed => "Failed"
    | .drain => "Drain"
    | .delete => "Delete"
    | .unknown => "Unknown"
    | .other s => s
  name
    | .provisioned => "Provisioned"
    | .ready => "Ready"
    | .failed => "Failed"
    | .drain => "Drain"
    | .delete => "Delete"
    | .unknown => "Unknown"
    | .other _ => "Other"
  otherText?
    | .other s => some s
    | _ => none

/-- The state of a cluster within its lifecycle state. -/
inductive ClusterSubstate where
  | running
  | degraded
  | other (text : String)
deriving DecidableEq, Repr

instance : ReportedState ClusterSubstate where
  known := [.running, .degraded]
  other := .other
  text
    | .running => "Running"
    | .degraded => "Degraded"
    | .other s => s
  name
    | .running => "Running"
    | .degraded => "Degraded"
    | .other _ => "Other"
  otherText?
    | .other s => some s
    | _ => none

end FleetConsole
