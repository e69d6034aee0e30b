import FleetConsole.Json.Text
import FleetConsole.Text.Blank
import FleetConsole.Yaml.Tree

/-!
# Embedded documents

A manifest or a status payload is a tree whose form the schema leaves open: an object as it is, or a
text that holds an object as a YAML document. Everything else cannot be read as an object.
-/

namespace FleetConsole

/-- Why a payload cannot be read as an object. -/
inductive EmbeddedError where
  | empty
  | notAnObject
  | unexpected (payload : Json)
  | malformed
deriving DecidableEq

/-- The wording of the reason. -/
def EmbeddedError.message : EmbeddedError → String
  | empty => "embedded document is empty"
  | notAnObject => "embedded document is not an object"
  | unexpected payload => "unexpected embedded document: " ++ payload.compact
  | malformed => "unable to parse embedded document"

namespace Embedded

/-- Does a payload hold nothing at all? -/
def isEmpty : Json → Bool
  | .null => true
  | .str s => Text.isBlankText s
  | .obj entries => entries.isEmpty
  | _ => false

/-- The object that a payload holds. -/
def object : Json → Except EmbeddedError Json
  | .obj entries => .ok (.obj entries)
  | .str s =>
    match Yaml.tree? s with
    | some tree => if tree.isObject then .ok tree else .error .notAnObject
    | none => .error .malformed
  | .null => .error .empty
  | payload => .error (.unexpected payload)

end Embedded

end FleetConsole
