/-!
# Kinds of resources

The three kinds of resources that the fleet's API serves.
-/

namespace FleetConsole

/-- A kind of resource. -/
inductive Kind where
  | application
  | cluster
  | manifestWork
deriving DecidableEq, Repr

namespace Kind

/-- All kinds. -/
def all : List Kind := [application, cluster, manifestWork]

/-- The kind as documents state it. -/
def text : Kind → String
  | application => "Application"
  | cluster => "Cluster"
  | manifestWork => "ManifestWork"

/-- The name of the collection in API paths. -/
def plural : Kind → String
  | application => "applications"
  | cluster => "clusters"
  | manifestWork => "manifestworks"

/-- Clusters belong to no namespace, everything else lives in one. -/
def isNamespaced : Kind → Bool
  | cluster => false
  | _ => true

/-- The kind that a document states. -/
def ofText? (s : String) : Option Kind := all.find? (·.text = s)

/-- The message that there is no such kind. -/
def unknownMessage (s : String) : String := "Unknown fleet resource kind: " ++ s

/-- The short names of a kind, in lower case. -/
def aliases : Kind → List String
  | application => ["application", "applications", "app", "apps"]
  | cluster => ["cluster", "clusters", "cl", "fleetclusters"]
  | manifestWork => ["manifestwork", "manifestworks", "mw", "works"]

/-- The lower case of a character, as far as it is an ASCII letter: of the characters beyond ASCII
only the Kelvin sign has one. No other character can occur in a short name. -/
def lowerLetter (c : Char) : Char := if c.toNat = 0x212A then 'k' else c.toLower

/-- The kind with a short name, in any case. -/
def ofAlias? (s : String) : Option Kind :=
  let lower := String.ofList (s.toList.map lowerLetter)
  all.find? fun k => k.aliases.contains lower

end Kind

end FleetConsole
