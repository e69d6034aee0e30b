import FleetConsole.Json.Reader
import FleetConsole.Yaml.Cursor

/-!
# Scalars in YAML text

The characters of a scalar and the place behind it, for the block styles, the quoted styles and the
plain style. Line ends inside a scalar fold: one line end becomes a blank, of several the first is
dropped. Where a step count is needed, the length of the unread text bounds it.
-/

namespace FleetConsole.Yaml

/-- The blanks and line ends between two words of a flow scalar. -/
structure Gap where
  /-- Blanks before the first line end. -/
  spaces : List Char
  /-- The first line end. -/
  first : List Char
  /-- The further line ends. -/
  more : List Char
  /-- Has a line ended? -/
  broken : Bool

namespace Gap

/-- No gap. -/
def none : Gap := ⟨[], [], [], false⟩

/-- What a gap contributes to the scalar. -/
def fold (g : Gap) : List Char :=
  if g.broken then
    if g.first = ['\n'] then (if g.more.isEmpty then [' '] else g.more) else g.first ++ g.more
  else g.spaces

/-- The gap at a place, continuing one that has begun. A tab that would indent a line by less than
`indent` columns is refused. -/
def scan (indent : Nat) : Nat → Gap → Cursor → Option (Gap × Cursor)
  | 0, g, c => some (g, c)
  | fuel + 1, g, c =>
    match c.peek? with
    | some x =>
      if isSpace x then
        if g.broken then
          if x = '\t' ∧ c.column < indent then Option.none else scan indent fuel g (c.skip 1)
        else scan indent fuel { g with spaces := g.spaces ++ [x] } (c.skip 1)
      else if isBreak x then
        let (b, next) := c.takeBreak
        if g.broken then scan indent fuel { g with more := g.more ++ b } next
        else scan indent fuel { g with spaces := [], first := b, broken := true } next
      else some (g, c)
    | Option.none => some (g, c)

end Gap

/-- A scalar's text, the place behind it, and whether a line has ended behind its last word. -/
structure PlainScalar where
  text : List Char
  next : Cursor
  lineEnded : Bool

/-- The characters that end a plain scalar inside brackets. -/
def isFlowIndicator (c : Char) : Bool :=
  c = ',' || c = '[' || c = ']' || c = '\x7b' || c = '\x7d'

/-- A run of characters of a plain scalar and what follows it. Inside brackets a colon directly
before an indicator is refused. -/
def plainWord? (flow : Bool) : List Char → Option (List Char × List Char)
  | [] => some ([], [])
  | c :: rest =>
    if isSpaceOrBreak c then some ([], c :: rest)
    else if flow && c = ':' && rest.head?.any (fun x => isFlowIndicator x || x = '?') then none
    else if (c = ':' && Cursor.endsOr isSpaceOrBreak rest.head?) || (flow && isFlowIndicator c) then
      some ([], c :: rest)
    else (plainWord? flow rest).map fun (w, r) => (c :: w, r)

/-- A plain scalar whose continuation lines have to be indented by `indent` columns outside of
brackets. `text` and `gap` are what has been read. -/
def scanPlain (flow : Bool) (indent : Nat) :
    Nat → List Char → Gap → Cursor → Option PlainScalar
  | 0, text, gap, c => some ⟨text, c, gap.broken⟩
  | fuel + 1, text, gap, c =>
    if c.isDocumentMark || c.at? '#' then some ⟨text, c, gap.broken⟩
    else
      match plainWord? flow c.rest with
      | none => none
      | some (word, _) =>
        let next := c.skip word.length
        let text := if word.isEmpty then text else text ++ gap.fold ++ word
        let ended := word.isEmpty && gap.broken
        if next.peek?.any isSpaceOrBreak then
          match Gap.scan indent (next.rest.length + 1) Gap.none next with
          | none => none
          | some (gap, next) =>
            if !flow && next.column < indent then some ⟨text, next, gap.broken⟩
            else scanPlain flow indent fuel text gap next
        else some ⟨text, next, ended⟩

/-- The character of an escape that is one letter, inside double quotes. -/
def letterEscape? (c : Char) : Option Char :=
  match c with
  | '0' => some (Char.ofNat 0)
  | 'a' => some (Char.ofNat 7)
  | 'b' => some (Char.ofNat 8)
  | 't' => some '\t'
  | '\t' => some '\t'
  | 'n' => some '\n'
  | 'v' => some (Char.ofNat 11)
  | 'f' => some (Char.ofNat 12)
  | 'r' => some '\r'
  | 'e' => some (Char.ofNat 27)
  | ' ' => some ' '
  | '"' => some '"'
  | '/' => some '/'
  | '\\' => some '\\'
  | 'N' => some (Char.ofNat 0x85)
  | '_' => some (Char.ofNat 0xA0)
  | 'L' => some (Char.ofNat 0x2028)
  | 'P' => some (Char.ofNat 0x2029)
  | _ => none

/-- The number of hexadecimal digits of an escape. -/
def escapeDigits? (c : Char) : Option Nat :=
  match c with
  | 'x' => some 2
  | 'u' => some 4
  | 'U' => some 8
  | _ => none

/-- The value of a list of hexadecimal digits. -/
def hexNumber? (ds : List Char) : Option Nat :=
  ds.foldlM (fun n d => (Json.hexValue? d).map (16 * n + ·)) 0

/-- The escape at a place inside double quotes: its character and the place behind it. -/
def scanEscape (c : Cursor) : Option (Char × Cursor) := do
  let letter ← c.peekAt? 1
  match letterEscape? letter with
  | some x => some (x, c.skip 2)
  | none =>
    let count ← escapeDigits? letter
    let digits := (c.rest.drop 2).take count
    if digits.length < count then none
    else
      let n ← hexNumber? digits
      if n.isValidChar then some (Char.ofNat n, c.skip (2 + count)) else none

/-- The characters of a quoted scalar up to a blank, a line end or the closing quote. The flag says
that they ended with an escaped line end. -/
def quotedRun (single : Bool) : Nat → Cursor → Option (List Char × Cursor × Bool)
  | 0, c => some ([], c, false)
  | fuel + 1, c =>
    match c.peek? with
    | none => some ([], c, false)
    | some x =>
      if isSpaceOrBreak x then some ([], c, false)
      else if single && x = '\'' && c.peekAt? 1 = some '\'' then
        (quotedRun single fuel (c.skip 2)).map fun (w, r) => ('\'' :: w, r)
      else if x = (if single then '\'' else '"') then some ([], c, false)
      else if !single && x = '\\' && (c.peekAt? 1).any isBreak then
        some ([], (c.skip 1).takeBreak.2, true)
      else if !single && x = '\\' then
        match scanEscape c with
        | none => none
        | some (y, next) => (quotedRun single fuel next).map fun (w, r) => (y :: w, r)
      else (quotedRun single fuel (c.skip 1)).map fun (w, r) => (x :: w, r)

/-- The rest of a quoted scalar after its opening quote, up to and with the closing one. -/
def scanQuoted (single : Bool) : Nat → List Char → Cursor → Option (List Char × Cursor)
  | 0, _, _ => none
  | fuel + 1, text, c =>
    if c.isDocumentMark || c.rest.isEmpty then none
    else
      match quotedRun single (c.rest.length + 1) c with
      | none => none
      | some (run, next, broken) =>
        let text := text ++ run
        if next.at? (if single then '\'' else '"') then some (text, next.skip 1)
        else
          match Gap.scan 0 (next.rest.length + 1) { Gap.none with broken := broken } next with
          | none => none
          | some (gap, next) => scanQuoted single fuel (text ++ gap.fold) next

/-- Empty lines and indentation before a line of a block scalar: the line ends, the greatest column
reached, and the place behind. `indent` is the indentation of the scalar if it is known; a tab in
its place is refused. -/
def blockBreaks (indent : Option Nat) :
    Nat → List Char → Nat → Cursor → Option (List Char × Nat × Cursor)
  | 0, breaks, most, c => some (breaks, most, c)
  | fuel + 1, breaks, most, c =>
    let margin := c.rest.takeWhile (· = ' ')
    let wanted := match indent with
      | some n => min margin.length (n - c.column)
      | none => margin.length
    let c := c.skip wanted
    let most := max most c.column
    if c.at? '\t' && indent.all (fun n => c.column < n) then none
    else if c.peek?.any isBreak then
      let (b, next) := c.takeBreak
      blockBreaks indent fuel (breaks ++ b) most next
    else some (breaks, most, c)

/-- The lines of a block scalar at a known indentation. `lead` is the line end before the current
place, `breaks` the empty lines since then, `leadSpace` whether the line before began with a
blank. -/
def blockLines (isLiteral : Bool) (indent : Nat) :
    Nat → List Char → List Char → List Char → Bool → Cursor →
    Option (List Char × List Char × List Char × Cursor)
  | 0, text, lead, breaks, _, c => some (text, lead, breaks, c)
  | fuel + 1, text, lead, breaks, leadSpace, c =>
    if c.column = indent ∧ ¬ c.rest.isEmpty then
      let spaceHere := c.peek?.any isSpace
      let joined :=
        if !isLiteral && lead = ['\n'] && !leadSpace && !spaceHere then
          if breaks.isEmpty then [' '] else []
        else lead
      let (line, next) := c.takeWhile fun x => !isBreak x
      let (lead', next) := next.takeBreak
      match blockBreaks (some indent) (next.rest.length + 1) [] 0 next with
      | none => none
      | some (breaks', _, next) =>
        blockLines isLiteral indent fuel (text ++ joined ++ breaks ++ line) lead' breaks'
          spaceHere next
    else some (text, lead, breaks, c)

/-- What becomes of the line ends behind the last line of a block scalar. -/
inductive Chomping where
  | strip
  | clip
  | keep
deriving DecidableEq, Repr

/-- The signs behind the indicator of a block scalar, in either order: chomping and an indentation
from 1 to 9. -/
def blockHeader? (c : Cursor) : Option (Chomping × Option Nat × Cursor) :=
  let chomping? (c : Cursor) : Option (Chomping × Cursor) :=
    if c.at? '+' then some (.keep, c.skip 1)
    else if c.at? '-' then some (.strip, c.skip 1)
    else none
  let digit? (c : Cursor) : Option (Nat × Cursor) :=
    match c.peek? with
    | some d => if d.isDigit then some (d.toNat - '0'.toNat, c.skip 1) else none
    | none => none
  let (chomping, increment, c) :=
    match chomping? c with
    | some (ch, c) =>
      match digit? c with
      | some (n, c) => (ch, some n, c)
      | none => (ch, none, c)
    | none =>
      match digit? c with
      | some (n, c) =>
        match chomping? c with
        | some (ch, c) => (ch, some n, c)
        | none => (.clip, some n, c)
      | none => (.clip, none, c)
  if increment = some 0 then none else some (chomping, increment, c)

/-- A block scalar from the place behind its indicator, in a block indented by `parent` columns. -/
def scanBlock (isLiteral : Bool) (parent : Int) (c : Cursor) : Option (List Char × Cursor) := do
  let (chomping, increment, c) ← blockHeader? c
  let c := c.skipWhile isSpace
  let c := if c.at? '#' then c.skipToBreak else c
  if !Cursor.endsOr isBreak c.peek? then none
  else
    let c := c.takeBreak.2
    let known := increment.map fun n => if 0 ≤ parent then parent.toNat + n else n
    let (breaks, most, c) ← blockBreaks known (c.rest.length + 1) [] 0 c
    let indent := known.getD (max most (max (parent + 1).toNat 1))
    let (text, lead, breaks, c) ←
      blockLines isLiteral indent (c.rest.length + 1) [] [] breaks false c
    let tail := match chomping with
      | .strip => []
      | .clip => lead
      | .keep => lead ++ breaks
    some (text ++ tail, c)

end FleetConsole.Yaml
