import FleetConsole.Yaml.Tree

/-!
# Typed reading of YAML documents

A document that has to be of a known type is read without becoming a tree first: every scalar is a
text whatever it looks like, and numbers and truth values are only what is written plain.
-/

namespace FleetConsole.Yaml.Document

/-- A scalar as a text. -/
def textOf (d : Document) (n : Node) : Follow String := d.keyText n

/-- The text of a plain scalar. -/
def plainText (d : Document) (tag : String) (n : Node) : Follow String := do
  match ← d.resolve n with
  | .scalar _ text .plain => return text
  | .scalar (some t) text .literal => if t = coreTag tag then return text else failure
  | _ => failure

/-- A truth value. -/
def boolOf (d : Document) (n : Node) : Follow Bool := do
  match bool? (← d.plainText "bool" n) with
  | some b => return b
  | none => failure

/-- A natural number of 64 bits. -/
def wordOf (d : Document) (n : Node) : Follow UInt64 := do
  match unsigned? (← d.plainText "int" n).toList with
  | some v => if v < Nat.pow 2 64 then return UInt64.ofNat v else failure
  | none => failure

/-- Is a node written as null, or not at all? -/
def isNullNode : Node → Bool
  | .scalar none text .plain => text.isEmpty || isNull text
  | .scalar (some tag) text .plain => tag = coreTag "null" && isNull text
  | _ => false

/-- A value that may be null. -/
def optional {α : Type} (read : Node → Follow α) (d : Document) (n : Node) : Follow (Option α) := do
  let n ← d.resolve n
  if isNullNode n then return none
  else match n with
    | .scalar (some tag) _ .plain => if tag = coreTag "null" then failure else some <$> read n
    | _ => some <$> read n

/-- The entries of a mapping with their keys as texts. A mapping of which nothing is written has no
entries. -/
def entriesOf (d : Document) (n : Node) : Follow (List (String × Node)) := do
  match ← d.resolve n with
  | .mapping _ entries => entries.mapM fun e => return (← d.textOf e.1, e.2)
  | .scalar _ "" .plain => return []
  | _ => failure

/-- A record read entry by entry, from the record of which no entry is given. `read` says how an
entry changes the record, if the key is one of the record's; such a key may occur only once. -/
def recordOf {σ : Type} (d : Document) (read : String → Option (Node → σ → Follow σ)) (blank : σ)
    (n : Node) : Follow σ := do
  let entries ← d.entriesOf n
  let known := (entries.map (·.1)).filter fun k => (read k).isSome
  if !known.Nodup then failure
  else entries.foldlM (fun s e => match read e.1 with
    | some f => f e.2 s
    | none => return s) blank

end FleetConsole.Yaml.Document

namespace FleetConsole.Yaml

/-- The typed value of a text that is a single document. -/
def typed? {α : Type} (text : String) (read : Document → Node → Follow α) : Option α := do
  match ← documents? text with
  | [d] => ((read d d.root).run 0).map (·.1)
  | _ => none

end FleetConsole.Yaml
