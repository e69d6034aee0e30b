import FleetConsole.Store.Basic
import FleetConsole.Yaml.Tree

/-!
# Snapshots

A snapshot holds documents that were exported from an API server, as a YAML text of one or more
documents. Lists of objects are taken apart, at any depth; what is no object is left out.
-/

namespace FleetConsole

/-- The documents of an export. -/
structure Snapshot where
  origin : String
  documents : List Json
deriving DecidableEq

namespace Snapshot

/-- Is a document a list of objects? Its kind says so by its ending. -/
def isListKind (doc : Json) : Bool :=
  match (doc.get? "kind").bind Json.string? with
  | some kind => "List".toList.isSuffixOf kind.toList
  | none => false

mutual

/-- The objects that a document holds. -/
def flatten : Json → List Json
  | .obj entries =>
    if isListKind (.obj entries) then flattenItems entries else [.obj entries]
  | _ => []

/-- The objects in the items of a list, given by its entries. -/
def flattenItems : List (String × Json) → List Json
  | [] => []
  | (key, .arr items) :: rest => if key = "items" then flattenAll items else flattenItems rest
  | (key, _) :: rest => if key = "items" then [] else flattenItems rest

/-- The objects that documents hold. -/
def flattenAll : List Json → List Json
  | [] => []
  | doc :: docs => flatten doc ++ flattenAll docs

end

/-- The origin of a snapshot that comes from no file. -/
def inMemory : String := "<memory>"

/-- The snapshot of documents. -/
def ofDocuments (docs : List Json) : Snapshot := ⟨inMemory, flattenAll docs⟩

/-- The snapshot that a text holds. -/
def ofText (text origin : String) : Except FleetError Snapshot :=
  match Yaml.trees? text with
  | some docs => .ok ⟨origin, flattenAll docs⟩
  | none => .error (.malformed origin none)

/-- How the snapshot is shown as a source. -/
def source (s : Snapshot) : String := "file:" ++ s.origin

/-- The documents of a collection. -/
def collection (s : Snapshot) (c : Coordinate) : List Json := s.documents.filter c.isOf

/-- The documents that a listing admits. Scopes do not matter to what has no namespace. -/
def list (s : Snapshot) (l : Listing) : List Json :=
  let inScope (doc : Json) : Bool :=
    !l.coordinate.kind.isNamespaced || l.scope.covers doc.metadataNamespace
  ((s.collection l.coordinate).filter inScope).filter l.selector.selectsDocument

/-- Does a document have a name? A namespace matters only if it is given and the collection has
namespaces. -/
def isNamed (c : Coordinate) (name : QualifiedName) (doc : Json) : Bool :=
  (!c.kind.isNamespaced || name.ns.all (doc.metadataNamespace = ·)) &&
    doc.metadataName = name.name

/-- The first document that a lookup admits. -/
def get? (s : Snapshot) (l : Lookup) : Option Json :=
  ((s.collection l.coordinate).filter (isNamed l.coordinate (.ofText l.name))).find?
    fun doc => l.exact || l.selector.selectsDocument doc

/-- The snapshot as a store. -/
def store (s : Snapshot) : Store where
  source := s.source
  get l :=
    match s.get? l with
    | some doc => .ok doc
    | none => .error l.notFound
  list l := .ok (s.list l)

end Snapshot

end FleetConsole
