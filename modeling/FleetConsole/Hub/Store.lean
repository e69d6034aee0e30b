import FleetConsole.Hub.Request
import FleetConsole.Hub.Response

/-!
# The hub as a store

The hub cluster's API server answers queries with its current objects.
-/

namespace FleetConsole

/-- An API server. -/
structure Hub where
  /-- The name of the context through which it is reached. -/
  context : String
  /-- The response to a request for an address, if there is one. -/
  respond : String → Option Hub.Response

namespace Hub

/-- The document with which the server answers a query. -/
def fetch (h : Hub) (q : Query) : Except Failure Json :=
  match (sentAddress? q).bind h.respond with
  | some r => r.document
  | none => .error .unusable

/-- The objects of a collection. -/
def list (h : Hub) (l : Listing) : Except FleetError (List Json) :=
  ((h.fetch (.list l)).bind (objects l.coordinate)).mapError Failure.error

/-- The object that is looked up. An exact lookup asks for the object itself; any other lists the
collection and takes the first object with the name. -/
def get (h : Hub) (l : Lookup) : Except FleetError Json :=
  let response := h.fetch (.get l)
  if l.exact then
    match response.bind (object l.coordinate) with
    | .ok doc => .ok doc
    | .error (.reported code reason) =>
      .error (if reason = notFoundReason then l.notFound else .server (some code))
    | .error .unusable => .error (.server none)
  else
    match response.bind (objects l.coordinate) with
    | .ok docs =>
      let name := (QualifiedName.ofText l.name).name
      match docs.find? fun doc => doc.stringAt? ["metadata", "name"] = some name with
      | some doc => .ok doc
      | none => .error l.notFound
    | .error e => .error e.error

/-- The hub as a store. -/
def store (h : Hub) : Store where
  source := h.context
  get := h.get
  list := h.list

end Hub

end FleetConsole
