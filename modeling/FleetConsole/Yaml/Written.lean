import FleetConsole.Yaml.Cursor
import FleetConsole.Yaml.Scalar

/-!
# Texts written as scalars

A text is written plain if it reads back as a text, in single quotes if it would read back as
something else or holds a character that means something to the grammar, as a literal block if it
has several lines, and in double quotes with escapes if nothing else can hold it.
-/

namespace FleetConsole.Yaml

/-- The spellings of truth values in YAML 1.1. Older readers do not take them for texts. -/
def olderBools : List String :=
  ["y", "Y", "yes", "Yes", "YES", "n", "N", "no", "No", "NO", "on", "On", "ON", "off", "Off", "OFF"]

/-- Would the text read back as something else if it were written plain? Digits with a leading zero
are texts, but not to every reader. -/
def isAmbiguous (s : String) : Bool :=
  olderBools.contains s || isZeroPadded s.toList ||
    match plainTree? s with
    | some (.str _) => false
    | _ => true

/-- The characters that can be written as they are: the line feed and whatever has a visible form,
up to the end of the basic plane. -/
def isWritable (c : Char) : Bool :=
  let n := c.toNat
  n = 0xA || (0x20 ≤ n && n ≤ 0x7E) || (0xA0 ≤ n && n < 0xFFFE && n ≠ 0xFEFF)

/-- What the emitter has to know about a text. -/
structure ScalarTraits where
  /-- A plain scalar of a block mapping can hold the text. -/
  plain : Bool
  /-- Single quotes can hold the text. -/
  quoted : Bool
  /-- A block scalar can hold the text. -/
  block : Bool

/-- Is a character that starts a text an indicator? `next` says whether a blank follows it. -/
def startsIndicator (next : Bool) (c : Char) : Bool :=
  "#,[]\x7b\x7d&*!|>'\"%@\x60".toList.contains c || ((c = '?' || c = ':' || c = '-') && next)

/-- Does a text hold an indicator after its first character? A colon counts before a blank, a number
sign after one. -/
def holdsIndicator : List Char → Bool
  | a :: b :: rest =>
    (b = ':' && Cursor.endsOr isSpaceOrBreak rest.head?) || (b = '#' && isSpaceOrBreak a) ||
      holdsIndicator (b :: rest)
  | _ => false

/-- Does a character of the first kind stand right before one of the second? -/
def adjoins (p q : Char → Bool) : List Char → Bool
  | a :: b :: rest => (p a && q b) || adjoins p q (b :: rest)
  | _ => false

/-- The traits of a text. -/
def ScalarTraits.ofText (cs : List Char) : ScalarTraits :=
  let isBlank (c : Char) : Bool := c = ' '
  let indicators :=
    "---".toList.isPrefixOf cs || "...".toList.isPrefixOf cs || holdsIndicator cs ||
      match cs with
      | c :: rest => startsIndicator (Cursor.endsOr isSpaceOrBreak rest.head?) c
      | [] => false
  let unwritable := !cs.all isWritable || adjoins isBlank isBreak cs
  let ends := cs.head?.any isSpaceOrBlank || cs.getLast?.any isSpaceOrBlank
  { plain := !unwritable && !ends && !indicators && !cs.any isBreak
    quoted := !unwritable && !adjoins isBreak isBlank cs
    block := !cs.isEmpty && !unwritable && !cs.getLast?.any isBlank }
where
  /-- A blank or the end of a line. -/
  isSpaceOrBlank (c : Char) : Bool := c = ' ' || isBreak c

/-- A hexadecimal number of so many digits, in upper case. -/
def upperHex (width n : Nat) : List Char :=
  let ds := (Nat.toDigits 16 n).map Char.toUpper
  List.replicate (width - ds.length) '0' ++ ds

/-- The letters that escape single characters. -/
def writtenEscape? (c : Char) : Option Char :=
  [(0x0, '0'), (0x7, 'a'), (0x8, 'b'), (0x9, 't'), (0xA, 'n'), (0xB, 'v'), (0xC, 'f'), (0xD, 'r'),
   (0x1B, 'e'), (0x22, '"'), (0x5C, '\\'), (0x85, 'N'), (0xA0, '_'), (0x2028, 'L'),
   (0x2029, 'P')].lookup c.toNat

/-- A character in double quotes. -/
def doubleQuotedChar (c : Char) : List Char :=
  if isWritable c && !isBreak c && c ≠ '"' && c ≠ '\\' then [c]
  else match writtenEscape? c with
    | some letter => ['\\', letter]
    | none =>
      if c.toNat ≤ 0xFF then '\\' :: 'x' :: upperHex 2 c.toNat
      else if c.toNat ≤ 0xFFFF then '\\' :: 'u' :: upperHex 4 c.toNat
      else '\\' :: 'U' :: upperHex 8 c.toNat

/-- Lines in single quotes: a quote is doubled, and what follows a line end is indented. -/
def singleQuotedLines (indent : Nat) : Bool → List Char → List Char
  | _, [] => []
  | atStart, c :: cs =>
    if isBreak c then c :: singleQuotedLines indent true cs
    else
      (if atStart then List.replicate indent ' ' else []) ++
        (if c = '\'' then ['\'', '\''] else [c]) ++ singleQuotedLines indent false cs

/-- The lines of a block scalar, each of which is indented unless it is empty. -/
def blockScalarLines (indent : Nat) : Bool → List Char → List Char
  | _, [] => []
  | atStart, c :: cs =>
    if isBreak c then c :: blockScalarLines indent true cs
    else
      (if atStart then List.replicate indent ' ' else []) ++ c :: blockScalarLines indent false cs

/-- How a block scalar says what becomes of the line ends behind it: one is kept, none is marked by
`-`, several by `+`. -/
def chompingMark (cs : List Char) : List Char :=
  match cs.reverse with
  | [] => ['-']
  | [c] => if isBreak c then ['+'] else ['-']
  | c :: d :: _ => if !isBreak c then ['-'] else if isBreak d then ['+'] else []

/-- A literal block. Its indentation is given if the text starts with a blank. -/
def literalBlock (indent : Nat) (cs : List Char) : List Char :=
  let hint := if cs.head?.any fun c => c = ' ' || isBreak c then ['2'] else []
  '|' :: (hint ++ chompingMark cs ++ '\n' :: blockScalarLines indent true cs)

/-- A text in double quotes. -/
def doubleQuoted (cs : List Char) : List Char :=
  '"' :: cs.flatMap doubleQuotedChar ++ ['"']

/-- A text as the value of a key, with the line end behind it. What spreads over several lines is
indented as far as given. -/
def scalarLine (indent : Nat) (s : String) : List Char :=
  let cs := s.toList
  let traits := ScalarTraits.ofText cs
  if cs.contains '\n' then
    if traits.block then
      literalBlock indent cs ++ (if cs.getLast?.any isBreak then [] else ['\n'])
    else doubleQuoted cs ++ ['\n']
  else if traits.plain && !isAmbiguous s then cs ++ ['\n']
  else if traits.quoted then '\'' :: singleQuotedLines indent false cs ++ ['\'', '\n']
  else doubleQuoted cs ++ ['\n']

end FleetConsole.Yaml
