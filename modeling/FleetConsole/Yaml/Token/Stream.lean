import FleetConsole.Yaml.Token.Name

/-!
# The tokens of a YAML text

A text is read token by token. Two things are only known later and are put in afterwards: that a
scalar or a collection was the key of a mapping shows at the colon behind it, and that a block has
ended shows by the indentation of the next token. `TokenReader` remembers for that purpose the
columns of the open blocks and, for every open bracket, the place where a key may have begun.
-/

namespace FleetConsole.Yaml

/-- A place where a key without a `?` may have begun. -/
structure SimpleKey where
  /-- A colon has to follow, since the block consists of keys at this column. -/
  required : Bool
  /-- The number of tokens before it. -/
  tokenNumber : Nat
  index : Nat
  line : Nat
  column : Nat
deriving Repr

/-- What has been read of a text. -/
structure TokenReader where
  cursor : Cursor
  /-- The tokens, the latest first. -/
  tokens : List Token
  /-- The column of the innermost open block, `-1` outside of all. -/
  indent : Int
  /-- The columns of the blocks around it. -/
  indents : List Int
  /-- The possible key inside the innermost bracket. -/
  simpleKey : Option SimpleKey
  /-- The possible keys around the open brackets, the innermost first. -/
  outerKeys : List (Option SimpleKey)
  /-- May a key begin here? -/
  keyAllowed : Bool

namespace TokenReader

/-- Before the first token. -/
def start (text : List Char) : TokenReader :=
  ⟨Cursor.start text, [], -1, [], none, [], true⟩

/-- Inside brackets? -/
def inFlow (r : TokenReader) : Bool := !r.outerKeys.isEmpty

/-- One more token. -/
def push (t : Token) (r : TokenReader) : TokenReader := { r with tokens := t :: r.tokens }

/-- A token put in behind the first `n`. -/
def insertAt (n : Nat) (t : Token) (r : TokenReader) : TokenReader :=
  let later := r.tokens.length - n
  { r with tokens := r.tokens.take later ++ t :: r.tokens.drop later }

/-- The place is moved on. -/
def moveTo (c : Cursor) (r : TokenReader) : TokenReader := { r with cursor := c }

/-- A block at a column opens, if the column lies deeper than the innermost block. -/
def openBlock (column : Nat) (place : TokenReader → TokenReader) (r : TokenReader) :
    TokenReader :=
  if r.inFlow || (column : Int) ≤ r.indent then r
  else place { r with indents := r.indent :: r.indents, indent := column }

/-- The blocks deeper than a column end. -/
def closeBlocks (column : Int) (r : TokenReader) : TokenReader :=
  if r.inFlow then r
  else
    let rec close : List Int → Int → List Token → TokenReader
      | [], indent, tokens => { r with indents := [], indent := indent, tokens := tokens }
      | outer :: rest, indent, tokens =>
        if column < indent then close rest outer (.blockEnd :: tokens)
        else { r with indents := outer :: rest, indent := indent, tokens := tokens }
    close r.indents r.indent r.tokens

/-- A key can no longer begin where one might have begun; if one had to, the text is refused. -/
def dropKey (r : TokenReader) : Option TokenReader :=
  if r.simpleKey.any (·.required) then none else some { r with simpleKey := none }

/-- A key may have begun here. -/
def saveKey (r : TokenReader) : Option TokenReader :=
  if r.keyAllowed then do
    let r ← r.dropKey
    let c := r.cursor
    some { r with
      simpleKey := some
        ⟨!r.inFlow && r.indent = c.column, r.tokens.length, c.index, c.line, c.column⟩ }
  else some r

/-- Is the key too old at a place: on an earlier line, or more than 1024 characters back? -/
def SimpleKey.isStale (c : Cursor) (k : SimpleKey) : Bool :=
  k.line < c.line || k.index + 1024 < c.index

/-- A possible key that is too old is none any more; if it was required, the text is refused. -/
def refreshKey (c : Cursor) (k : Option SimpleKey) : Option (Option SimpleKey) :=
  match k with
  | none => some none
  | some key =>
    if SimpleKey.isStale c key then (if key.required then none else some none) else some k

/-- All possible keys are checked for their age. -/
def refreshKeys (r : TokenReader) : Option TokenReader := do
  let key ← refreshKey r.cursor r.simpleKey
  let outer ← r.outerKeys.mapM (refreshKey r.cursor)
  some { r with simpleKey := key, outerKeys := outer }

/-- Blanks, comments and line ends before the next token. A tab may stand there only inside
brackets or where no key may begin. A mark of byte order may start the text. -/
def skipToToken : Nat → TokenReader → TokenReader
  | 0, r => r
  | fuel + 1, r =>
    let c := r.cursor
    let c := if c.index = 0 && c.peek?.any (fun x => x.toNat = 0xFEFF) then c.skip 1 else c
    let c := c.skipWhile fun x => x = ' ' || ((r.inFlow || !r.keyAllowed) && x = '\t')
    let c := if c.at? '#' then c.skipToBreak else c
    if c.peek?.any isBreak then
      skipToToken fuel
        { r with cursor := c.takeBreak.2, keyAllowed := r.keyAllowed || !r.inFlow }
    else { r with cursor := c }

/-- All open blocks end, as at the end of a document, and no key may begin. -/
def endBlocks (r : TokenReader) : Option TokenReader := do
  let r ← (r.closeBlocks (-1)).dropKey
  some { r with keyAllowed := false }

/-- A mark of three characters. -/
def readMark (t : Token) (r : TokenReader) : Option TokenReader := do
  let r ← r.endBlocks
  some ((r.moveTo (r.cursor.skip 3)).push t)

/-- An opening bracket. -/
def openFlow (t : Token) (r : TokenReader) : Option TokenReader := do
  let r ← r.saveKey
  some (({ r with
    outerKeys := r.simpleKey :: r.outerKeys
    simpleKey := none
    keyAllowed := true }.moveTo (r.cursor.skip 1)).push t)

/-- A closing bracket. -/
def closeFlow (t : Token) (r : TokenReader) : Option TokenReader := do
  let r ← r.dropKey
  let r := match r.outerKeys with
    | [] => r
    | key :: rest => { r with simpleKey := key, outerKeys := rest }
  some (({ r with keyAllowed := false }.moveTo (r.cursor.skip 1)).push t)

/-- A comma between brackets. -/
def readFlowEntry (r : TokenReader) : Option TokenReader := do
  let r ← r.dropKey
  some (({ r with keyAllowed := true }.moveTo (r.cursor.skip 1)).push .flowEntry)

/-- The dash of a block sequence. -/
def readBlockEntry (r : TokenReader) : Option TokenReader := do
  if !r.inFlow && !r.keyAllowed then none
  else
    let r ← (r.openBlock r.cursor.column (·.push .blockSequenceStart)).dropKey
    some (({ r with keyAllowed := true }.moveTo (r.cursor.skip 1)).push .blockEntry)

/-- The question mark of an explicit key. -/
def readKey (r : TokenReader) : Option TokenReader := do
  if !r.inFlow && !r.keyAllowed then none
  else
    let r ← (r.openBlock r.cursor.column (·.push .blockMappingStart)).dropKey
    some (({ r with keyAllowed := !r.inFlow }.moveTo (r.cursor.skip 1)).push .key)

/-- The colon of a value. Behind a possible key it makes that a key. -/
def readValue (r : TokenReader) : Option TokenReader := do
  let r ← match r.simpleKey with
    | some k =>
      let r := r.insertAt k.tokenNumber .key
      let r := r.openBlock k.column (insertAt k.tokenNumber .blockMappingStart)
      some { r with simpleKey := none, keyAllowed := false }
    | none =>
      if r.inFlow then some { r with keyAllowed := false }
      else if !r.keyAllowed then none
      else some { r.openBlock r.cursor.column (·.push .blockMappingStart) with keyAllowed := true }
  some ((r.moveTo (r.cursor.skip 1)).push .value)

/-- A token that may begin a key and after which no key may begin. -/
def readNode (scan : Cursor → Option (Token × Cursor)) (r : TokenReader) :
    Option TokenReader := do
  let r ← r.saveKey
  let (t, next) ← scan r.cursor
  some (({ r with keyAllowed := false }.moveTo next).push t)

/-- A block scalar. -/
def readBlockScalar (isLiteral : Bool) (r : TokenReader) : Option TokenReader := do
  let r ← r.dropKey
  let (text, next) ← scanBlock isLiteral r.indent (r.cursor.skip 1)
  let style := if isLiteral then ScalarStyle.literal else .folded
  some (({ r with keyAllowed := true }.moveTo next).push (.scalar (String.ofList text) style))

/-- A plain scalar. If a line has ended behind it, a key may begin. -/
def readPlain (r : TokenReader) : Option TokenReader := do
  let r ← r.saveKey
  let s ← scanPlain r.inFlow (r.indent + 1).toNat (r.cursor.rest.length + 1) [] Gap.none r.cursor
  some (({ r with keyAllowed := s.lineEnded }.moveTo s.next).push
    (.scalar (String.ofList s.text) .plain))

/-- The characters that cannot begin a plain scalar. -/
def isIndicator (c : Char) : Bool :=
  "-?:,[]#&*!|>'\"%@".toList.contains c || c = '\x7b' || c = '\x7d' || c.toNat = 0x60

/-- Can a plain scalar begin here? The dash, the question mark and the colon can begin one if a
character follows them directly, the latter two only outside of brackets. -/
def startsPlain (r : TokenReader) : Bool :=
  match r.cursor.peek? with
  | none => false
  | some x =>
    !(isSpaceOrBreak x || isIndicator x) ||
      (x = '-' && !(r.cursor.peekAt? 1).any isSpace) ||
      (!r.inFlow && (x = '?' || x = ':') && !r.cursor.spaceAt 1)

/-- The token at a place that is not the end of the text. -/
def readToken (x : Char) (r : TokenReader) : Option TokenReader :=
  let c := r.cursor
  let quotedScalar (single : Bool) (c : Cursor) : Option (Token × Cursor) :=
    (scanQuoted single (c.rest.length + 1) [] (c.skip 1)).map fun (text, next) =>
      (.scalar (String.ofList text) (if single then .singleQuoted else .doubleQuoted), next)
  let named (token : String → Token) (c : Cursor) : Option (Token × Cursor) :=
    (scanAnchorName (c.skip 1)).map fun (name, next) => (token name, next)
  if c.column = 0 && x = '%' then do
    let r ← r.endBlocks
    let (t, next) ← scanDirective c
    some ((r.moveTo next).push t)
  else if c.isMark '-' then r.readMark .documentStart
  else if c.isMark '.' then r.readMark .documentEnd
  else if x = '[' then r.openFlow .flowSequenceStart
  else if x = '\x7b' then r.openFlow .flowMappingStart
  else if x = ']' then r.closeFlow .flowSequenceEnd
  else if x = '\x7d' then r.closeFlow .flowMappingEnd
  else if x = ',' then r.readFlowEntry
  else if x = '-' && c.spaceAt 1 then r.readBlockEntry
  else if x = '?' && (r.inFlow || c.spaceAt 1) then r.readKey
  else if x = ':' && (r.inFlow || c.spaceAt 1) then r.readValue
  else if x = '*' then r.readNode (named .alias)
  else if x = '&' then r.readNode (named .anchor)
  else if x = '!' then r.readNode (scanTag r.inFlow)
  else if x = '|' && !r.inFlow then r.readBlockScalar true
  else if x = '>' && !r.inFlow then r.readBlockScalar false
  else if x = '\'' then r.readNode (quotedScalar true)
  else if x = '"' then r.readNode (quotedScalar false)
  else if r.startsPlain then r.readPlain
  else none

/-- The tokens up to the end of the text. Every token but the last moves the place on, so the length
of the text bounds the steps. -/
def readAll : Nat → TokenReader → Option (List Token)
  | 0, _ => none
  | fuel + 1, r => do
    let r ← (skipToToken (r.cursor.rest.length + 1) r).refreshKeys
    let r := r.closeBlocks r.cursor.column
    match r.cursor.peek? with
    | none =>
      let r ← r.endBlocks
      some r.tokens.reverse
    | some x => (r.readToken x).bind (readAll fuel)

end TokenReader

/-- The characters that a YAML text may hold. -/
def isTextChar (c : Char) : Bool :=
  c = '\t' || c = '\n' || c = '\r' || (0x20 ≤ c.toNat && c.toNat ≤ 0x7E) || c.toNat = 0x85 ||
    (0xA0 ≤ c.toNat && c.toNat ≤ 0xFFFD) || 0x10000 ≤ c.toNat

/-- The tokens of a text, if it is one. -/
def tokens? (text : String) : Option (List Token) :=
  let cs := text.toList
  if cs.all isTextChar then TokenReader.readAll (cs.length + 1) (TokenReader.start cs) else none

end FleetConsole.Yaml
