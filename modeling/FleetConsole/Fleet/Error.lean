import FleetConsole.Text.Quoted

/-!
# Errors of requests

An error aborts the one request that met it. Missing optional data is never an error.
-/

namespace FleetConsole

/-- Why a document is not a record of a kind. -/
inductive Undecodable where
  | notAnObject
  | unnamed
  | kindNotText
  | otherKind (name kind : String)
  | misfit (name reason : String)
deriving DecidableEq, Repr

/-- The wording of the reason. -/
def Undecodable.message : Undecodable → String
  | notAnObject => "document is not an object"
  | unnamed => "metadata.name is missing"
  | kindNotText => "kind is not a string"
  | otherKind name kind =>
    "document " ++ Text.quoted name ++ " has kind " ++ Text.quoted kind
  | misfit name reason => Text.quoted name ++ ": " ++ reason

/-- An error of a request. -/
inductive FleetError where
  /-- The request does not say which object of a collection it is about. -/
  | missingPath (coordinate : String)
  /-- The store has no such object in a collection. -/
  | notFound (coordinate name : String)
  /-- A document is not a record of its kind. -/
  | undecodable (kind : String) (reason : String)
  /-- The request was cancelled before it was answered. -/
  | cancelled
  /-- The API server failed; the status code if it answered with one. -/
  | server (code : Option Nat)
  /-- A snapshot cannot be read. -/
  | unreadable (path reason : String)
  /-- A snapshot is not YAML; what the reader says about it, if anything. -/
  | malformed (path : String) (reason : Option String)
deriving DecidableEq, Repr

namespace FleetError

/-- The wording of an error. What the API client would add is not part of it. -/
def message : FleetError → String
  | missingPath coordinate => "no context path for " ++ Text.quoted coordinate
  | notFound coordinate name => coordinate ++ " " ++ Text.quoted name ++ " not found"
  | undecodable kind reason => "failed to decode " ++ kind ++ ": " ++ reason
  | cancelled => "request cancelled"
  | server _ => "kubernetes API error"
  | unreadable path reason => "failed to read " ++ path ++ ": " ++ reason
  | malformed path reason => "failed to parse " ++ path ++ reason.elim "" (": " ++ ·)

/-- Is the error that there is no such object? -/
def isNotFound : FleetError → Bool
  | notFound .. => true
  | _ => false

end FleetError

end FleetConsole
