import FleetConsole.Record.Record

/-!
# Object metadata

The metadata that the API server keeps for every object. Every field may be absent or null, and only
the fields that are present are written. Times are written with whole seconds, so a creation time
with a fraction loses it on the way through a record.
-/

namespace FleetConsole

/-- The object that owns another. -/
structure OwnerReference where
  apiVersion : String := ""
  blockOwnerDeletion : Option Bool := none
  controller : Option Bool := none
  kind : String := ""
  name : String := ""
  uid : String := ""
deriving DecidableEq

/-- The fields of an object that one manager has set. -/
structure ManagedFields where
  apiVersion : Option String := none
  fieldsType : Option String := none
  fields : Option Json := none
  manager : Option String := none
  operation : Option String := none
  subresource : Option String := none
  time : Option Instant := none
deriving DecidableEq

/-- Object metadata. -/
structure Metadata where
  annotations : Option (List (String × String)) := none
  creation : Option Instant := none
  deletionGracePeriodSeconds : Option Int := none
  deletion : Option Instant := none
  finalizers : Option (List String) := none
  generateName : Option String := none
  generation : Option Int := none
  labels : Option (List (String × String)) := none
  managedFields : Option (List ManagedFields) := none
  name : Option String := none
  ns : Option String := none
  ownerReferences : Option (List OwnerReference) := none
  resourceVersion : Option String := none
  selfLink : Option String := none
  uid : Option String := none
deriving DecidableEq

namespace OwnerReference

/-- The fields of an owner reference; null stands for an empty text. -/
def record : Record OwnerReference where
  expected := "OwnerReference"
  blank := {}
  listForm := false
  fields :=
    let text := Codec.orNull .string ""
    [.plain "apiVersion" text (·.apiVersion) fun v s => { s with apiVersion := v },
     .optional "blockOwnerDeletion" .bool (·.blockOwnerDeletion)
       fun v s => { s with blockOwnerDeletion := v },
     .optional "controller" .bool (·.controller) fun v s => { s with controller := v },
     .plain "kind" text (·.kind) fun v s => { s with kind := v },
     .plain "name" text (·.name) fun v s => { s with name := v },
     .plain "uid" text (·.uid) fun v s => { s with uid := v }]

end OwnerReference

namespace ManagedFields

/-- The fields of an entry about one manager. -/
def record : Record ManagedFields where
  expected := "ManagedFieldsEntry"
  blank := {}
  listForm := false
  fields :=
    [.optional "apiVersion" .string (·.apiVersion) fun v s => { s with apiVersion := v },
     .optional "fieldsType" .string (·.fieldsType) fun v s => { s with fieldsType := v },
     .optional "fieldsV1" .tree (·.fields) fun v s => { s with fields := v },
     .optional "manager" .string (·.manager) fun v s => { s with manager := v },
     .optional "operation" .string (·.operation) fun v s => { s with operation := v },
     .optional "subresource" .string (·.subresource) fun v s => { s with subresource := v },
     .optional "time" .instant (·.time) fun v s => { s with time := v }]

end ManagedFields

namespace Metadata

/-- The fields of object metadata. -/
def record : Record Metadata where
  expected := "ObjectMeta"
  blank := {}
  listForm := false
  fields :=
    [.optional "annotations" (.map .string) (·.annotations) fun v s => { s with annotations := v },
     .optional "creationTimestamp" .instant (·.creation) fun v s => { s with creation := v },
     .optional "deletionGracePeriodSeconds" .int64 (·.deletionGracePeriodSeconds)
       fun v s => { s with deletionGracePeriodSeconds := v },
     .optional "deletionTimestamp" .instant (·.deletion) fun v s => { s with deletion := v },
     .optional "finalizers" (.list .string) (·.finalizers) fun v s => { s with finalizers := v },
     .optional "generateName" .string (·.generateName) fun v s => { s with generateName := v },
     .optional "generation" .int64 (·.generation) fun v s => { s with generation := v },
     .optional "labels" (.map .string) (·.labels) fun v s => { s with labels := v },
     .optional "managedFields" (.list ManagedFields.record.codec) (·.managedFields)
       fun v s => { s with managedFields := v },
     .optional "name" .string (·.name) fun v s => { s with name := v },
     .optional "namespace" .string (·.ns) fun v s => { s with ns := v },
     .optional "ownerReferences" (.list OwnerReference.record.codec) (·.ownerReferences)
       fun v s => { s with ownerReferences := v },
     .optional "resourceVersion" .string (·.resourceVersion)
       fun v s => { s with resourceVersion := v },
     .optional "selfLink" .string (·.selfLink) fun v s => { s with selfLink := v },
     .optional "uid" .string (·.uid) fun v s => { s with uid := v }]

/-- The creation time as it is read, strictly, from its own text. The text has whole seconds, and
the text of a year of more than four digits has a sign, so that an age is not computed from it. -/
def creationTime (m : Metadata) : Option Instant :=
  m.creation.bind fun t => Instant.ofStrictText? t.wholeText

end Metadata

end FleetConsole
