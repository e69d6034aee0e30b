import FleetConsole.Fleet.Kind
import FleetConsole.Json.Basic

/-!
# Coordinates of collections

A coordinate names one collection of resources: its API group and version, and its kind.
-/

namespace FleetConsole

/-- An API group and version. -/
structure ApiVersion where
  group : String
  version : String
deriving DecidableEq, Repr

/-- Where the fleet's API is served unless configured otherwise. -/
def ApiVersion.standard : ApiVersion := ⟨"apis.clusterfleet.io", "v1alpha1"⟩

/-- A collection of resources. -/
structure Coordinate where
  api : ApiVersion
  kind : Kind
deriving DecidableEq, Repr

namespace Coordinate

/-- The coordinate in messages. -/
def text (c : Coordinate) : String :=
  c.api.group ++ "/" ++ c.api.version ++ "/" ++ c.kind.plural

/-- What documents of the collection state as their API version: the core group has no name. -/
def apiVersionText (c : Coordinate) : String :=
  if c.api.group = "" then c.api.version else c.api.group ++ "/" ++ c.api.version

/-- The text before the last slash, empty if there is none. -/
def groupOf (apiVersion : String) : String :=
  String.ofList (((apiVersion.toList.reverse.dropWhile (· ≠ '/')).drop 1).reverse)

/-- Does a document belong to the collection? Its kind has to be the collection's; its API group
too, unless it states no API version. The version itself does not matter. -/
def isOf (c : Coordinate) (doc : Json) : Bool :=
  doc.kindText = c.kind.text &&
    match doc.stringAt? ["apiVersion"] with
    | some v => groupOf v = c.api.group
    | none => true

end Coordinate

end FleetConsole
