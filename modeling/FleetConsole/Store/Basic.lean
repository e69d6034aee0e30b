import FleetConsole.Fleet.Coordinate
import FleetConsole.Fleet.Error
import FleetConsole.Fleet.Selector

/-!
# Stores

A store answers two queries with documents: one object by its name, or all objects of a collection
that a scope and a selector admit.
-/

namespace FleetConsole

/-- A query for one object. -/
structure Lookup where
  coordinate : Coordinate
  /-- The fully qualified name as users write it. -/
  name : String
  /-- An exact lookup is by name alone; otherwise the selector has to select the object too. -/
  exact : Bool
  selector : Selector
deriving DecidableEq

/-- A query for a collection. -/
structure Listing where
  coordinate : Coordinate
  scope : Scope
  selector : Selector
deriving DecidableEq

/-- A query. -/
inductive Query where
  | get (lookup : Lookup)
  | list (listing : Listing)
deriving DecidableEq

/-- A source of documents. -/
structure Store where
  /-- How the source is shown. -/
  source : String
  get : Lookup → Except FleetError Json
  list : Listing → Except FleetError (List Json)

/-- The error that a lookup finds nothing. -/
def Lookup.notFound (l : Lookup) : FleetError :=
  .notFound l.coordinate.text (QualifiedName.ofText l.name).text

end FleetConsole
