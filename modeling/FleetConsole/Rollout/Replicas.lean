import FleetConsole.Binary64.Shortest
import FleetConsole.Rollout.Embedded

/-!
# Replica counts

Only deployments report replicas. Their payload is shown as a fraction, the available replicas out
of all; a count that is missing is zero, and so is one in a payload that cannot be read.
-/

namespace FleetConsole.Replicas

/-- What is shown where there are no replicas to count. -/
def unknown : String := "-"

/-- The kind of objects that report replicas. -/
def deploymentKind : String := "Deployment"

/-- A count under a key, zero if there is none. -/
def count (key : String) (payload : Json) : Double :=
  (payload.doubleAt? [key]).getD (Double.zero false)

/-- The available replicas out of all, from the payload of a deployment. -/
def fraction (payload : Json) : String :=
  match Embedded.object payload with
  | .ok object => (count "availableReplicas" object).text ++ "/" ++ (count "replicas" object).text
  | .error _ => "0/0"

end FleetConsole.Replicas
