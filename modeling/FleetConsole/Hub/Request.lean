import FleetConsole.Hub.Address
import FleetConsole.Store.Basic

/-!
# Requests to the API server

A query is a single request for a path. Collections are listed, within a namespace if one is named,
and the selector travels as a parameter; an object that is looked up exactly has a path of its own.
-/

namespace FleetConsole.Hub

/-- The path of a collection. The core group is served under a root of its own. -/
def collectionPath (c : Coordinate) (ns : Option String) : String :=
  let scope := match ns with
    | some ns => if c.kind.isNamespaced then "namespaces/" ++ ns ++ "/" else ""
    | none => ""
  "/" ++ (if c.api.group = "" then "api" else "apis") ++ "/" ++ c.apiVersionText ++ "/" ++ scope ++
    c.kind.plural

/-- A character of a parameter: letters, digits and a few signs stand for themselves. -/
def parameterChar (c : Char) : List Char :=
  if c.isAlphanum || "*-._".toList.contains c then [c]
  else if c = ' ' then ['+']
  else
    (String.utf8EncodeChar c).flatMap fun byte =>
      '%' :: [Nat.digitChar (byte.toNat / 16), Nat.digitChar (byte.toNat % 16)].map Char.toUpper

/-- A text as the value of a parameter. -/
def parameter (s : String) : String := String.ofList (s.toList.flatMap parameterChar)

/-- The address that lists a collection. -/
def listAddress (c : Coordinate) (ns : Option String) (selector : Selector) : String :=
  collectionPath c ns ++ "?" ++
    if selector.isEverything then "" else "&labelSelector=" ++ parameter selector.text

/-- The address that a query asks for. An object without a name has none. -/
def address? : Query → Option String
  | .list l => some (listAddress l.coordinate l.scope.ns? l.selector)
  | .get l =>
    let name := QualifiedName.ofText l.name
    if !l.exact then some (listAddress l.coordinate name.ns l.selector)
    else if name.name = "" then none
    else some (collectionPath l.coordinate name.ns ++ "/" ++ name.name)

/-- The address that is sent for a query, unless it is not one. -/
def sentAddress? (q : Query) : Option String :=
  match address? q with
  | some a =>
    if Address.isPathAndQuery a.toList then some (String.ofList (Address.withoutFragment a.toList))
    else none
  | none => none

end FleetConsole.Hub
