import FleetConsole.Yaml.Node.Grammar
import FleetConsole.Yaml.Scalar

/-!
# YAML documents as trees

A document becomes a tree by resolving its scalars and replacing its aliases. Collections may nest
128 deep, also through aliases, and a document may follow a hundred aliases for every unit of its
size, so that no text grows beyond measure. The keys of a mapping are scalars of any kind and become
texts; of a repeated key the last value counts.
-/

namespace FleetConsole.Yaml

/-- A conversion that counts the aliases it follows. -/
abbrev Follow := StateT Nat Option

namespace Document

/-- The node that an alias stands for; any other node stands for itself. -/
def resolve (d : Document) (n : Node) : Follow Node :=
  match n with
  | .alias slot => do
    let followed := (← get) + 1
    set followed
    if d.size * 100 < followed then failure
    else match d.anchored? slot with
      | some node => return node
      | none => failure
  | n => return n

/-- The text of a scalar, whatever its tag and style. -/
def keyText (d : Document) (n : Node) : Follow String := do
  match ← d.resolve n with
  | .scalar _ text _ => return text
  | _ => failure

/-- The tree of a scalar. -/
def scalarTree (tag : Option String) (text : String) (style : ScalarStyle) : Follow Json :=
  match tag with
  | some tag => (taggedTree? tag text : Option Json)
  | none => if style = .plain then (plainTree? text : Option Json) else return .str text

/-- Is the tag private? A collection with such a tag has no tree. -/
def isPrivate (tag : Option String) : Bool :=
  tag.any fun t => "!".toList.isPrefixOf t.toList

/-- The tree of a node whose collections nest at most `depth` deep. -/
def treeOf (d : Document) (depth : Nat) (n : Node) : Follow Json := do
  match ← d.resolve n with
  | .scalar tag text style => scalarTree tag text style
  | .sequence tag items =>
    match depth with
    | 0 => failure
    | depth + 1 => if isPrivate tag then failure else return .arr (← items.mapM (d.treeOf depth))
  | .mapping tag entries =>
    match depth with
    | 0 => failure
    | depth + 1 =>
      if isPrivate tag then failure
      else
        let entry (e : Node × Node) : Follow (String × Json) := do
          let key ← d.keyText e.1
          return (key, ← d.treeOf depth e.2)
        return .ofEntries (← entries.mapM entry)
  | .alias _ => failure

/-- The greatest nesting of collections. -/
def maxDepth : Nat := 128

/-- The tree of a document. -/
def tree? (d : Document) : Option Json := ((d.treeOf maxDepth d.root).run 0).map (·.1)

end Document

/-- The trees of all documents of a text. -/
def trees? (text : String) : Option (List Json) := do (← documents? text).mapM Document.tree?

/-- The tree of a text that is a single document. -/
def tree? (text : String) : Option Json := do
  match ← documents? text with
  | [d] => d.tree?
  | _ => none

end FleetConsole.Yaml
