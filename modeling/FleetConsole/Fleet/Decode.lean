import FleetConsole.Fleet.Application
import FleetConsole.Fleet.Cluster
import FleetConsole.Fleet.Error
import FleetConsole.Fleet.Kind
import FleetConsole.Fleet.ManifestWork

/-!
# Records of documents

A document is decoded as a record of a known kind: it has to be an object with a name, and a kind,
where it states one, has to be the expected kind. Then every field has to fit. An error names the
document, so it says which of many is at fault.
-/

namespace FleetConsole

/-- A record type with its kind. -/
class FleetRecord (σ : Type) where
  kind : Kind
  record : Record σ

instance : FleetRecord Application := ⟨.application, Application.record⟩

instance : FleetRecord Cluster := ⟨.cluster, Cluster.record⟩

instance : FleetRecord ManifestWork := ⟨.manifestWork, ManifestWork.record⟩

namespace FleetRecord

variable {σ : Type} [FleetRecord σ]

/-- Does a document state another kind than the expected one? -/
def checkKind (kind : Kind) (name : String) (doc : Json) : Except Undecodable Unit :=
  match doc.get? "kind" with
  | none => .ok ()
  | some (.str k) => if k = kind.text then .ok () else .error (.otherKind name k)
  | some _ => .error .kindNotText

/-- The record that a document holds, or why it holds none. -/
def ofDocument (doc : Json) : Except Undecodable σ := do
  if !doc.isObject then .error .notAnObject
  else if doc.metadataName = "" then .error .unnamed
  else
    checkKind (kind σ) doc.metadataName doc
    match (record : Record σ).read doc with
    | .ok s => .ok s
    | .error m => .error (.misfit doc.metadataName m.message)

/-- The record that a document holds; an error names the kind. -/
def decode (doc : Json) : Except FleetError σ :=
  match (ofDocument doc : Except Undecodable σ) with
  | .ok s => .ok s
  | .error reason => .error (.undecodable (kind σ).text reason.message)

/-- The records of all documents, or the error of the first that holds none. -/
def decodeAll (docs : List Json) : Except FleetError (List σ) := docs.mapM decode

/-- The document that a record writes. -/
def encode (s : σ) : Json := (record : Record σ).write s

end FleetRecord

end FleetConsole
