import FleetConsole.Yaml.Node
import FleetConsole.Yaml.Token.Stream

/-!
# The documents of a YAML text

The grammar of documents over tokens, read from left to right with one token of lookahead. Every
reader either consumes a token or returns, so a step count that exceeds the number of tokens by a
constant factor is never exhausted.
-/

namespace FleetConsole.Yaml

/-- What a reader of tokens knows. -/
structure GrammarState where
  tokens : List Token
  /-- What the handles of tags stand for. -/
  handles : List (String × String)
  /-- The slots of the anchor names. -/
  names : List (String × Nat)
  /-- The number of anchors so far. -/
  order : Nat
  anchors : List Anchored
  size : Nat

/-- A reader of tokens. -/
abbrev Grammar := StateT GrammarState Option

namespace Grammar

/-- The next token. -/
def peek : Grammar (Option Token) := do return (← get).tokens.head?

/-- The next token is consumed. -/
def skip : Grammar Unit := modify fun s => { s with tokens := s.tokens.tail }

/-- The next token is consumed if it is the given one. -/
def accept (t : Token) : Grammar Bool := do
  if (← peek) = some t then skip; return true
  else return false

/-- Some more units of size. -/
def grow (n : Nat) : Grammar Unit := modify fun s => { s with size := s.size + n }

/-- An empty scalar. -/
def emptyNode : Grammar Node := do grow 1; return .empty

/-- A node that could stand here is absent if one of these tokens comes next. -/
def absentBefore (ts : List Token) : Grammar Bool := do
  return (← peek).all ts.contains

/-- A tag reference resolved by the handles of the document. -/
def resolveTag (handle suffix : String) : Grammar String := do
  if handle.isEmpty then return suffix
  else
    match (← get).handles.lookup handle with
    | some start => return start ++ suffix
    | none => failure

/-- An anchor name, if one comes next. -/
def anchorName? : Grammar (Option String) := do
  match ← peek with
  | some (.anchor name) => skip; return some name
  | _ => return none

/-- A resolved tag, if one comes next. -/
def tag? : Grammar (Option String) := do
  match ← peek with
  | some (.tag handle suffix) => skip; return some (← resolveTag handle suffix)
  | _ => return none

/-- An anchor and a tag, in either order. -/
def properties : Grammar (Option String × Option String) := do
  match ← anchorName? with
  | some name => return (some name, ← tag?)
  | none =>
    match ← tag? with
    | some tag => return (← anchorName?, some tag)
    | none => return (none, none)

/-- The slot and the order of an anchor that begins here. -/
def beginAnchor (name : String) : Grammar (Nat × Nat) := do
  let s ← get
  let slot := s.names.length
  let names := (name, slot) :: s.names.filter (·.1 ≠ name)
  set { s with names := names, order := s.order + 1 }
  return (slot, s.order)

/-- A finished node, kept for its aliases if it is anchored. -/
def finish (anchor : Option (Nat × Nat)) (node : Node) : Grammar Node := do
  match anchor with
  | some (slot, order) =>
    modify fun s => { s with anchors := ⟨slot, order, node⟩ :: s.anchors }
    return node
  | none => return node

mutual

/-- A node. Block collections may begin only where `block` says so, and a sequence without
indentation of its own only as the key or value of a block mapping. -/
def node (block unindented : Bool) : Nat → Grammar Node
  | 0 => failure
  | fuel + 1 => do
    match ← peek with
    | some (.alias name) =>
      skip
      grow 1
      match (← get).names.lookup name with
      | some slot => return .alias slot
      | none => failure
    | _ =>
      let (name, tag) ← properties
      let anchor ← name.mapM beginAnchor
      match ← peek with
      | some (.scalar text style) =>
        skip
        grow 1
        finish anchor (.scalar (if tag = some "!" then none else tag) text style)
      | some .flowSequenceStart =>
        skip
        grow 2
        finish anchor (.sequence tag (← flowItems true fuel))
      | some .flowMappingStart =>
        skip
        grow 2
        finish anchor (.mapping tag (← flowEntries true fuel))
      | some .blockEntry =>
        if unindented then
          grow 2
          finish anchor (.sequence tag (← unindentedItems fuel))
        else bare anchor tag name
      | some .blockSequenceStart =>
        if block then
          skip
          grow 2
          finish anchor (.sequence tag (← blockItems fuel))
        else bare anchor tag name
      | some .blockMappingStart =>
        if block then
          skip
          grow 2
          finish anchor (.mapping tag (← blockEntries fuel))
        else bare anchor tag name
      | _ => bare anchor tag name
where
  /-- A node of which only the anchor or the tag is written. -/
  bare (anchor : Option (Nat × Nat)) (tag name : Option String) : Grammar Node :=
    if name.isSome || tag.isSome then do grow 1; finish anchor (.scalar tag "" .plain)
    else failure

/-- The items of a block sequence through its end. -/
def blockItems : Nat → Grammar (List Node)
  | 0 => failure
  | fuel + 1 => do
    if ← accept .blockEntry then
      let item ← if ← absentBefore [.blockEntry, .blockEnd] then emptyNode
        else node true false fuel
      return item :: (← blockItems fuel)
    else if ← accept .blockEnd then return []
    else failure

/-- The items of a sequence that is not indented: it ends before the first other token. -/
def unindentedItems : Nat → Grammar (List Node)
  | 0 => failure
  | fuel + 1 => do
    if ← accept .blockEntry then
      let item ← if ← absentBefore [.blockEntry, .key, .value, .blockEnd] then emptyNode
        else node true false fuel
      return item :: (← unindentedItems fuel)
    else return []

/-- The entries of a block mapping through its end. -/
def blockEntries : Nat → Grammar (List (Node × Node))
  | 0 => failure
  | fuel + 1 => do
    if ← accept .key then
      let absent := absentBefore [.key, .value, .blockEnd]
      let k ← if ← absent then emptyNode else node true true fuel
      let v ← if ← accept .value then
          if ← absent then emptyNode else node true true fuel
        else emptyNode
      return (k, v) :: (← blockEntries fuel)
    else if ← accept .blockEnd then return []
    else failure

/-- The items of a flow sequence through its closing bracket. -/
def flowItems (first : Bool) : Nat → Grammar (List Node)
  | 0 => failure
  | fuel + 1 => do
    if ← accept .flowSequenceEnd then return []
    else
      if !first && !(← accept .flowEntry) then failure
      else if ← accept .key then
        grow 2
        let k ← if ← absentBefore [.value, .flowEntry, .flowSequenceEnd] then
            skip
            emptyNode
          else node false false fuel
        let v ← if ← accept .value then
            if ← absentBefore [.flowEntry, .flowSequenceEnd] then emptyNode
            else node false false fuel
          else emptyNode
        return .mapping none [(k, v)] :: (← flowItems false fuel)
      else if ← accept .flowSequenceEnd then return []
      else
        let item ← node false false fuel
        return item :: (← flowItems false fuel)

/-- The entries of a flow mapping through its closing brace. -/
def flowEntries (first : Bool) : Nat → Grammar (List (Node × Node))
  | 0 => failure
  | fuel + 1 => do
    if ← accept .flowMappingEnd then return []
    else
      if !first && !(← accept .flowEntry) then failure
      else if ← accept .key then
        let k ← if ← absentBefore [.value, .flowEntry, .flowMappingEnd] then emptyNode
          else node false false fuel
        let v ← if ← accept .value then
            if ← absentBefore [.flowEntry, .flowMappingEnd] then emptyNode
            else node false false fuel
          else emptyNode
        return (k, v) :: (← flowEntries false fuel)
      else if ← accept .flowMappingEnd then return []
      else
        let k ← node false false fuel
        let v ← emptyNode
        return (k, v) :: (← flowEntries false fuel)

end

/-- The directives before a document: at most one version, which has to be 1.1 or 1.2, and no
handle twice. -/
def directives : Nat → Bool → Grammar Unit
  | 0, _ => failure
  | fuel + 1, versioned => do
    match ← peek with
    | some (.versionDirective major minor) =>
      if versioned || major ≠ 1 || (minor ≠ 1 && minor ≠ 2) then failure
      else skip; directives fuel true
    | some (.tagDirective handle uri) =>
      if ((← get).handles.lookup handle).isSome then failure
      else
        skip
        modify fun s => { s with handles := s.handles ++ [(handle, uri)] }
        directives fuel versioned
    | _ => return ()

/-- Does a token begin or end a document? -/
def isBoundary : Token → Bool
  | .versionDirective .. | .tagDirective .. | .documentStart | .documentEnd => true
  | _ => false

/-- The handles that every document knows. -/
def defaultHandles : List (String × String) := [("!", "!"), ("!!", "tag:yaml.org,2002:")]

/-- The documents up to the end of the tokens. Only the first may begin without a mark. -/
def documents (first : Bool) : Nat → Grammar (List Document)
  | 0 => failure
  | fuel + 1 => do
    modify fun s => { s with handles := [], names := [], order := 0, anchors := [], size := 0 }
    if !first then modify fun s => { s with tokens := s.tokens.dropWhile (· = .documentEnd) }
    let depth := 3 * (← get).tokens.length + 10
    match ← peek with
    | none => return []
    | some t =>
      let implicitStart := first && (t = .documentEnd || !isBoundary t)
      if !implicitStart then
        directives depth false
        if !(← accept .documentStart) then failure
      modify fun s => { s with handles := s.handles ++ defaultHandles }
      let root ← if !implicitStart && (← peek).all isBoundary then emptyNode
        else node true false depth
      let _ ← accept .documentEnd
      let s ← get
      let rest ← documents false fuel
      return ⟨root, s.anchors, s.size⟩ :: rest

end Grammar

/-- The documents of a text, if it is YAML; an empty text is one empty document. -/
def documents? (text : String) : Option (List Document) := do
  let ts ← tokens? text
  let (ds, _) ← (Grammar.documents true (ts.length + 1)).run ⟨ts, [], [], 0, [], 0⟩
  return if ds.isEmpty then [.empty] else ds

end FleetConsole.Yaml
