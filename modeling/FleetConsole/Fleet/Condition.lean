import FleetConsole.Record.Record

/-!
# Status conditions

A condition says of one aspect of an object whether it holds, and why. The hub does not always fill
in every field, so every field may be absent. Where a type occurs more than once, the last condition
of the type counts.
-/

namespace FleetConsole

/-- A status condition. -/
structure Condition where
  type : String := ""
  status : String := ""
  observedGeneration : Option Int := none
  lastTransitionTime : Option String := none
  reason : String := ""
  message : String := ""
deriving DecidableEq

namespace Condition

/-- The fields of a condition. -/
def record : Record Condition where
  expected := "struct Condition"
  blank := {}
  listForm := true
  fields :=
    [.plain "type" .string (·.type) fun v s => { s with type := v },
     .plain "status" .string (·.status) fun v s => { s with status := v },
     .optional "observedGeneration" .int64 (·.observedGeneration)
       fun v s => { s with observedGeneration := v },
     .optional "lastTransitionTime" .string (·.lastTransitionTime)
       fun v s => { s with lastTransitionTime := v },
     .plain "reason" .string (·.reason) fun v s => { s with reason := v },
     .plain "message" .string (·.message) fun v s => { s with message := v }]

/-- The type of the condition that an object is ready. -/
def ready : String := "Ready"

/-- The type of the condition that an application is provisioned. -/
def provisioned : String := "Provisioned"

/-- The last condition of a type. -/
def last? (type : String) (conditions : List Condition) : Option Condition :=
  conditions.reverse.find? (·.type = type)

/-- The reason of the last condition of a type. -/
def reason? (type : String) (conditions : List Condition) : Option String :=
  (last? type conditions).map (·.reason)

end Condition

end FleetConsole
