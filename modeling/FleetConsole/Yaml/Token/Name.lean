import FleetConsole.Json.Reader
import FleetConsole.Yaml.Token
import FleetConsole.Yaml.Token.Scalar

/-!
# Names in YAML text

Anchors, aliases, tags and directives: the tokens that are introduced by a sign and consist of a
name or a tag reference.
-/

namespace FleetConsole.Yaml

/-- The characters that may follow an anchor directly, besides blanks. -/
def endsAnchor (c : Char) : Bool :=
  isSpaceOrBreak c || c = '?' || c = ':' || c = ',' || c = ']' || c = '\x7d' || c = '%' ||
    c = '@' || c.toNat = 0x60

/-- The name of an anchor or alias, from the place behind its sign. -/
def scanAnchorName (c : Cursor) : Option (String × Cursor) :=
  let (name, next) := c.takeWhile isWordChar
  if name.isEmpty || !Cursor.endsOr endsAnchor next.peek? then none
  else some (String.ofList name, next)

/-- The characters of a tag reference. Between angle brackets the comma and the square brackets
belong to it too. -/
def isTagChar (verbatim : Bool) (c : Char) : Bool :=
  isWordChar c || ";/?:@&=+$.%!~*'()".toList.contains c ||
    (verbatim && (c = ',' || c = '[' || c = ']'))

/-- The byte of one `%` escape and the text behind it. -/
def escapedByte? : List Char → Option (Nat × List Char)
  | '%' :: a :: b :: rest => (hexNumber? [a, b]).map fun n => (n, rest)
  | _ => none

/-- The number of bytes that a first byte of UTF-8 announces. -/
def utf8Width? (byte : Nat) : Option Nat :=
  if byte < 0x80 then some 1
  else if byte / 0x20 = 0x6 then some 2
  else if byte / 0x10 = 0xE then some 3
  else if byte / 0x8 = 0x1E then some 4
  else none

/-- The character of a run of `%` escapes and the text behind it. -/
def escapedChar? (cs : List Char) : Option (Char × List Char) := do
  let (first, rest) ← escapedByte? cs
  let width ← utf8Width? first
  let payload := if width = 1 then first else first % Nat.pow 2 (7 - width)
  let rec trail : Nat → Nat → List Char → Option (Nat × List Char)
    | 0, n, rest => some (n, rest)
    | k + 1, n, rest => do
      let (b, rest) ← escapedByte? rest
      if b / 0x40 = 2 then trail k (n * 0x40 + b % 0x40) rest else none
  let (n, rest) ← trail (width - 1) payload rest
  some (Char.ofNat n, rest)

/-- The characters of a tag reference, escapes resolved, and the number of characters read. -/
def tagChars (verbatim : Bool) : Nat → List Char → Option (List Char × Nat)
  | 0, _ => some ([], 0)
  | _ + 1, [] => some ([], 0)
  | fuel + 1, c :: rest =>
    if c = '%' then do
      let (x, more) ← escapedChar? (c :: rest)
      let (xs, n) ← tagChars verbatim fuel more
      some (x :: xs, n + ((rest.length + 1) - more.length))
    else if isTagChar verbatim c then
      (tagChars verbatim fuel rest).map fun (xs, n) => (c :: xs, n + 1)
    else some ([], 0)

/-- A tag reference at a place. -/
def scanTagUri (verbatim : Bool) (c : Cursor) : Option (String × Cursor) :=
  (tagChars verbatim (c.rest.length + 1) c.rest).map fun (xs, n) => (String.ofList xs, c.skip n)

/-- The text from a `!` through the word characters behind it and, if it is there, the `!` that
closes a handle. -/
def scanHandle (c : Cursor) : List Char × Cursor :=
  let (word, next) := (c.skip 1).takeWhile isWordChar
  if next.at? '!' then ('!' :: word ++ ['!'], next.skip 1) else ('!' :: word, next)

/-- A tag, from its `!`. -/
def scanTag (flow : Bool) (c : Cursor) : Option (Token × Cursor) := do
  let (token, next) ←
    if c.peekAt? 1 = some '<' then do
      let (uri, next) ← scanTagUri true (c.skip 2)
      if uri.isEmpty || !next.at? '>' then none else some (Token.tag "" uri, next.skip 1)
    else do
      let (head, next) := scanHandle c
      if 2 ≤ head.length ∧ head.getLast? = some '!' then
        let (suffix, next) ← scanTagUri false next
        if suffix.isEmpty then none else some (Token.tag (String.ofList head) suffix, next)
      else
        let (more, next) ← scanTagUri false next
        let suffix := String.ofList (head.drop 1) ++ more
        if suffix.isEmpty then some (Token.tag "" "!", next) else some (Token.tag "!" suffix, next)
  if (flow && next.at? ',') || Cursor.endsOr isSpaceOrBreak next.peek? then some (token, next)
  else none

/-- A number of a version, of one to nine digits. -/
def scanVersionNumber (c : Cursor) : Option (Nat × Cursor) :=
  let (digits, next) := c.takeWhile Char.isDigit
  if digits.isEmpty ∨ 9 < digits.length then none else some (Binary64.digitsValue digits, next)

/-- A directive, from its `%`, through the end of its line. -/
def scanDirective (c : Cursor) : Option (Token × Cursor) := do
  let (name, next) := (c.skip 1).takeWhile isWordChar
  if name.isEmpty || !Cursor.endsOr isSpaceOrBreak next.peek? then none
  else
    let value := next.skipWhile isSpace
    let (token, next) ←
      if name = "YAML".toList then do
        let (major, next) ← scanVersionNumber value
        if !next.at? '.' then none
        else
          let (minor, next) ← scanVersionNumber (next.skip 1)
          some (Token.versionDirective major minor, next)
      else if name = "TAG".toList then do
        if !value.at? '!' then none
        else
          let (handle, next) := scanHandle value
          if handle ≠ ['!'] ∧ (handle.length < 2 ∨ handle.getLast? ≠ some '!') then none
          else if !next.peek?.any isSpace then none
          else
            let (uri, next) ← scanTagUri true (next.skipWhile isSpace)
            if uri.isEmpty || !Cursor.endsOr isSpaceOrBreak next.peek? then none
            else some (Token.tagDirective (String.ofList handle) uri, next)
      else none
    let next := next.skipWhile isSpace
    let next := if next.at? '#' then next.skipToBreak else next
    if Cursor.endsOr isBreak next.peek? then some (token, next.takeBreak.2) else none

end FleetConsole.Yaml
