import FleetConsole.Yaml.Token

/-!
# YAML documents

A document is a tree of scalars, sequences and mappings in which an alias stands for an anchored
node. Anchors are numbered: an anchor takes as its slot the number of anchor names used before it,
and of two nodes with one slot the later stands behind it.
-/

namespace FleetConsole.Yaml

/-- A node of a document. -/
inductive Node where
  | scalar (tag : Option String) (text : String) (style : ScalarStyle)
  | sequence (tag : Option String) (items : List Node)
  | mapping (tag : Option String) (entries : List (Node × Node))
  | alias (slot : Nat)
deriving Inhabited

/-- An anchored node with its slot; `order` counts the anchors before it. -/
structure Anchored where
  slot : Nat
  order : Nat
  node : Node

/-- A document. -/
structure Document where
  root : Node
  anchors : List Anchored
  /-- Scalars and aliases count one, collections two: one for each end. -/
  size : Nat

/-- A scalar of which nothing is written. -/
def Node.empty : Node := .scalar none "" .plain

/-- The document of an empty text. -/
def Document.empty : Document := ⟨.empty, [], 1⟩

/-- The latest node with a slot. -/
def Document.anchored? (d : Document) (slot : Nat) : Option Node :=
  let latest (best : Option Anchored) (a : Anchored) : Option Anchored :=
    if a.slot = slot ∧ best.all (fun b => b.order < a.order) then some a else best
  (d.anchors.foldl latest none).map (·.node)

end FleetConsole.Yaml
