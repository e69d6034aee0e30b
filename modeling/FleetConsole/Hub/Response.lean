import FleetConsole.Fleet.Coordinate
import FleetConsole.Fleet.Error
import FleetConsole.Fleet.Metadata
import FleetConsole.Json.Reader

/-!
# Responses of the API server

A response has a status code and a body. From 400 on it is an error, which the body describes as a
status object; otherwise the body is an object or a list of objects. Objects are typed as far as
every object is: the metadata is a record, everything else is kept as it is.
-/

namespace FleetConsole.Hub

/-- A response. -/
structure Response where
  status : Nat
  body : String
deriving DecidableEq, Repr

/-- Why a response is no document. -/
inductive Failure where
  /-- The server reports an error. -/
  | reported (code : Nat) (reason : String)
  /-- There is no response, or its body is of the wrong type. -/
  | unusable
deriving DecidableEq, Repr

/-- The error that a failure stands for. -/
def Failure.error : Failure → FleetError
  | reported code _ => .server (some code)
  | unusable => .server none

/-- The reason by which a server reports that there is no such object. -/
def notFoundReason : String := "NotFound"

/-- A text under a key of a status object, empty if the key is absent. -/
def statusText? (body : Json) (key : String) : Option String :=
  match body.get? key with
  | none => some ""
  | some j => j.string?

/-- The failure that a status object reports, if the body is one. -/
def reported? (body : Json) : Option Failure := do
  let _ ← (← body.get? "status").string?
  let _ ← statusText? body "message"
  let reason ← statusText? body "reason"
  match body.get? "code" with
  | some (.int code) =>
    if 0 ≤ code ∧ code < 65536 then some (.reported code.toNat reason) else none
  | _ => none

/-- The body of a response, or the failure that it reports. A body that is no status object leaves
only the status code. -/
def Response.document (r : Response) : Except Failure Json :=
  let body := Json.ofText? r.body
  if 400 ≤ r.status ∧ r.status < 600 then
    .error ((body.bind reported?).getD (.reported r.status ""))
  else match body with
    | some doc => .ok doc
    | none => .error .unusable

/-- The entries that name the type of an object. They count only together, and an API version that
is no text does not stand for one. -/
def typeEntries (o : Json) : List (String × Json) :=
  match o.get? "apiVersion", o.get? "kind" with
  | some (.str v), some (.str k) => [("apiVersion", .str v), ("kind", .str k)]
  | some (.str _), _ | none, _ => []
  | some _, kind => kind.toList.map fun k => ("kind", k)

/-- An object of a collection as a document. Items of lists come without their type, which is then
the collection's. -/
def object (c : Coordinate) : Json → Except Failure Json
  | .obj entries => do
    let o := Json.obj entries
    let metadata ← match o.get? "metadata" with
      | none => pure ({} : Metadata)
      | some j => (Metadata.record.read j).mapError fun _ => Failure.unusable
    let types := typeEntries o
    let default (key value : String) : List (String × Json) :=
      if (types.lookup key).isSome then [] else [(key, .str value)]
    let rest := entries.filter fun e => !(["apiVersion", "kind", "metadata"].contains e.1)
    return .ofEntries (rest ++ ("metadata", Metadata.record.write metadata) :: types ++
      default "apiVersion" c.apiVersionText ++ default "kind" c.kind.text)
  | _ => .error .unusable

/-- The metadata of a list. -/
structure ListMetadata where
  continueFrom : Option String := none
  remainingItems : Option Int := none
  resourceVersion : Option String := none
  selfLink : Option String := none

/-- The fields of the metadata of a list. -/
def ListMetadata.record : Record ListMetadata where
  expected := "ListMeta"
  blank := {}
  listForm := false
  fields :=
    [.optional "continue" .string (·.continueFrom) fun v s => { s with continueFrom := v },
     .optional "remainingItemCount" .int64 (·.remainingItems)
       fun v s => { s with remainingItems := v },
     .optional "resourceVersion" .string (·.resourceVersion)
       fun v s => { s with resourceVersion := v },
     .optional "selfLink" .string (·.selfLink) fun v s => { s with selfLink := v }]

/-- The objects of a list. -/
def objects (c : Coordinate) : Json → Except Failure (List Json)
  | .obj entries => do
    let list := Json.obj entries
    match (list.get? "metadata").map ListMetadata.record.read with
    | some (.error _) => throw .unusable
    | _ => pure ()
    match list.get? "items" with
    | some (.arr items) => items.mapM (object c)
    | some .null => return []
    | _ => throw .unusable
  | _ => .error .unusable

end FleetConsole.Hub
