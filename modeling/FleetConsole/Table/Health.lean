import FleetConsole.Binary64.Reader
import FleetConsole.Fleet.Name
import FleetConsole.Rollout.Replicas

/-!
# Health

Every row shows how well its object does, in three grades from nominal to attention. A scheme grades
the status labels of one kind of row; a label may be missing.
-/

namespace FleetConsole

/-- How well an object does. -/
inductive Health where
  | nominal
  | pending
  | attention
deriving DecidableEq, Repr

namespace Health

/-- The grade's name. -/
def text : Health → String
  | nominal => "nominal"
  | pending => "pending"
  | attention => "attention"

/-- The grade with a name. -/
def ofText? (s : String) : Option Health := [nominal, pending, attention].find? (·.text = s)

/-- The worse of two grades. -/
def worse : Health → Health → Health
  | attention, _ | _, attention => attention
  | pending, _ | _, pending => pending
  | nominal, nominal => nominal

end Health

/-- A way to grade labels. -/
inductive HealthScheme where
  | provisioning
  | clusterState
  | manifestWork
  | replicas
  | workload
  | ready
deriving DecidableEq, Repr

namespace HealthScheme

/-- The schemes with their names. -/
def named : List (String × HealthScheme) :=
  [("Provisioning", provisioning), ("ClusterState", clusterState), ("ManifestWork", manifestWork),
   ("Replicas", replicas), ("Workload", workload), ("Ready", ready)]

/-- The label of an application that is provisioned. -/
def applicationProvisioned : String := "ApplicationProvisioned"

/-- The grade of a missing label. -/
def gradeMissing : HealthScheme → Health
  | replicas | workload | ready => .pending
  | provisioning | clusterState | manifestWork => .attention

/-- The grade of available replicas out of all: nominal once there are enough. What is no fraction
is pending, and a fraction of what are no numbers needs attention. -/
def gradeFraction (label : String) : Health :=
  match splitOnce? '/' label with
  | none => .pending
  | some (available, desired) =>
    match Binary64.ofText? available, Binary64.ofText? desired with
    | some a, some d => if a.ge d then .nominal else .pending
    | _, _ => .attention

/-- The grade of a label. -/
def gradeLabel (label : String) : HealthScheme → Health
  | provisioning => if label = applicationProvisioned then .nominal else .attention
  | clusterState =>
    if label = "Ready" ∨ label = "completed" then .nominal
    else if label = "Provisioning" then .pending
    else .attention
  | manifestWork =>
    if label = "Available" then .nominal
    else if label = "Progressing" ∨ label = "Applied" then .pending
    else .attention
  | replicas => gradeFraction label
  | workload => if label = Replicas.unknown then .nominal else gradeFraction label
  | ready =>
    if label = "True" then .nominal else if label = "False" then .attention else .pending

/-- The grade of a label that may be missing. -/
def grade (scheme : HealthScheme) : Option String → Health
  | some label => scheme.gradeLabel label
  | none => scheme.gradeMissing

end HealthScheme

end FleetConsole
