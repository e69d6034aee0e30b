/-!
# A place in a YAML text

A cursor is the unread text together with the place where it starts: the number of characters
before it, its line and its column. Indentation, simple keys and block scalars all depend on the
column, so nothing reads the text without moving the cursor.
-/

namespace FleetConsole.Yaml

/-- The characters that end a line. -/
def isBreak (c : Char) : Bool :=
  c = '\n' || c = '\r' || c.toNat = 0x85 || c.toNat = 0x2028 || c.toNat = 0x2029

/-- The blank and the tab. -/
def isSpace (c : Char) : Bool := c = ' ' || c = '\t'

/-- A blank, a tab or the end of a line. -/
def isSpaceOrBreak (c : Char) : Bool := isSpace c || isBreak c

/-- The characters of names: letters, digits, `-` and `_`. -/
def isWordChar (c : Char) : Bool := c.isAlphanum || c = '-' || c = '_'

/-- A place in a text. -/
structure Cursor where
  /-- The text from here on. -/
  rest : List Char
  /-- Characters before this place. -/
  index : Nat
  /-- Lines before this place. -/
  line : Nat
  /-- Characters before this place on its line. -/
  column : Nat
deriving Repr

namespace Cursor

/-- The start of a text. -/
def start (text : List Char) : Cursor := ⟨text, 0, 0, 0⟩

/-- The next character. -/
def peek? (c : Cursor) : Option Char := c.rest.head?

/-- The character some places ahead. -/
def peekAt? (c : Cursor) (n : Nat) : Option Char := c.rest[n]?

/-- Is the next character the given one? -/
def at? (c : Cursor) (x : Char) : Bool := c.rest.head? = some x

/-- Does the text end here, or is the next character one of a class? -/
def endsOr (p : Char → Bool) (c : Option Char) : Bool := c.all p

/-- Does the line, the word or the text end at a place some characters ahead? -/
def spaceAt (c : Cursor) (n : Nat) : Bool := endsOr isSpaceOrBreak (c.peekAt? n)

/-- Some characters further on the same line. -/
def skip (c : Cursor) (n : Nat) : Cursor :=
  ⟨c.rest.drop n, c.index + min n c.rest.length, c.line, c.column + min n c.rest.length⟩

/-- The characters of a class, which holds no line end, and the place behind them. -/
def takeWhile (c : Cursor) (p : Char → Bool) : List Char × Cursor :=
  let taken := c.rest.takeWhile p
  (taken, c.skip taken.length)

/-- The place behind the characters of a class that holds no line end. -/
def skipWhile (c : Cursor) (p : Char → Bool) : Cursor := (c.takeWhile p).2

/-- The rest of the line. -/
def skipToBreak (c : Cursor) : Cursor := c.skipWhile fun x => !isBreak x

/-- A line end and the start of the next line. The line ends of one or two characters read as a
line feed, the separators of lines and paragraphs as themselves. At no line end nothing is read. -/
def takeBreak (c : Cursor) : List Char × Cursor :=
  match c.rest with
  | '\r' :: '\n' :: more => (['\n'], ⟨more, c.index + 2, c.line + 1, 0⟩)
  | x :: more =>
    if isBreak x then
      let kept := if x.toNat = 0x2028 ∨ x.toNat = 0x2029 then x else '\n'
      ([kept], ⟨more, c.index + 1, c.line + 1, 0⟩)
    else ([], c)
  | [] => ([], c)

/-- Three equal characters at the start of a line, before a blank or the end: a document mark. -/
def isMark (c : Cursor) (x : Char) : Bool :=
  c.column = 0 && c.rest.take 3 = [x, x, x] && c.spaceAt 3

/-- Is there a mark of the start or the end of a document? -/
def isDocumentMark (c : Cursor) : Bool := c.isMark '-' || c.isMark '.'

end Cursor

end FleetConsole.Yaml
