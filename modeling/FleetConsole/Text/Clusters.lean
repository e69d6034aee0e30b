import FleetConsole.Text.Extending
import FleetConsole.Text.Ranges
import FleetConsole.Text.WideForms

/-!
# Characters as readers see them

A text falls into clusters: a letter with its marks, a Hangul syllable, a flag, pictographs held
together by joiners. Each cluster takes none, one or two columns of a screen.
-/

namespace FleetConsole

namespace Text

/-- The joiner that holds pictographs together. -/
def joiner : Char := '\u200D'

/-- The joiner that keeps letters apart. -/
def nonJoiner : Char := '\u200C'

/-- After a sign that can be shown as text or as a picture: show the text. -/
def textSelector : Char := '\uFE0E'

/-- After a sign that can be shown as text or as a picture: show the picture. -/
def pictureSelector : Char := '\uFE0F'

/-- Skin tones, which change the pictograph before them. -/
def isTone (c : Char) : Bool := 0x1F3FB ≤ c.toNat && c.toNat ≤ 0x1F3FF

/-- Letters of flags, which go in pairs. -/
def isFlagLetter (c : Char) : Bool := 0x1F1E6 ≤ c.toNat && c.toNat ≤ 0x1F1FF

/-- Characters that belong to the one before them. -/
def isExtending (c : Char) : Bool := inSortedRanges extending c.toNat || isTone c

/-- Is a character a pictograph? -/
def isPictograph (c : Char) : Bool := inSortedRanges pictographs c.toNat

/-- The jamo that fill a place where a letter is missing. -/
def isFiller (c : Char) : Bool := ['\u115F', '\u1160', '\u3164', '\uFFA0'].contains c

/-- Controls, line ends and invisible format characters: clusters of their own. -/
def isSolitary (c : Char) : Bool :=
  c.toNat < 0x20 ||
    inSortedRanges [(0x7F, 0x9F), (0x2028, 0x2029), (0xFFF9, 0xFFFB), (0x13430, 0x1343F)] c.toNat ||
    (inSortedRanges ignorable c.toNat && !isExtending c && !isFiller c && c != joiner)

/-- The parts of a Hangul syllable. -/
inductive Jamo where
  | lead
  | vowel
  | tail
deriving DecidableEq, Repr

/-- What a character begins with and ends with in a Hangul syllable, if it is part of one. -/
def jamo? (c : Char) : Option (Jamo × Jamo) :=
  let code := c.toNat
  if inSortedRanges [(0x1100, 0x115F), (0xA960, 0xA97C)] code then some (.lead, .lead)
  else if inSortedRanges [(0x1160, 0x11A7), (0xD7B0, 0xD7C6)] code then some (.vowel, .vowel)
  else if inSortedRanges [(0x11A8, 0x11FF), (0xD7CB, 0xD7FB)] code then some (.tail, .tail)
  else if 0xAC00 ≤ code && code ≤ 0xD7A3 then
    some (.lead, if (code - 0xAC00) % 28 = 0 then .vowel else .tail)
  else none

/-- May one part of a syllable follow another? -/
def Jamo.precedes : Jamo → Jamo → Bool
  | lead, tail => false
  | lead, _ => true
  | vowel, lead => false
  | vowel, _ => true
  | tail, next => next == .tail

/-- Do two characters belong to one Hangul syllable? -/
def sameSyllable (c d : Char) : Bool :=
  match jamo? c, jamo? d with
  | some (_, last), some (first, _) => last.precedes first
  | _, _ => false

/-- The signs that bind two Indic consonants into one. -/
def isLinker (c : Char) : Bool :=
  [0x94D, 0x9CD, 0xACD, 0xB4D, 0xC4D, 0xD4D].contains c.toNat

/-- The Indic consonants that such a sign can bind. -/
def linkedConsonants : List (Nat × Nat) :=
  [(0x915, 0x939), (0x958, 0x95F), (0x978, 0x97F), (0x995, 0x9A8), (0x9AA, 0x9B0),
   (0x9B2, 0x9B2), (0x9B6, 0x9B9), (0x9DC, 0x9DD), (0x9DF, 0x9DF), (0x9F0, 0x9F1),
   (0xA95, 0xAA8), (0xAAA, 0xAB0), (0xAB2, 0xAB3), (0xAB5, 0xAB9), (0xAF9, 0xAF9),
   (0xB15, 0xB28), (0xB2A, 0xB30), (0xB32, 0xB33), (0xB35, 0xB39), (0xB5C, 0xB5D),
   (0xB5F, 0xB5F), (0xB71, 0xB71), (0xC15, 0xC28), (0xC2A, 0xC39), (0xC58, 0xC5A),
   (0xD15, 0xD3A)]

/-- Does a cluster, given last character first, end in a consonant that waits for another one? -/
def awaitsConsonant (cluster : List Char) : Bool :=
  let mark (c : Char) := (isExtending c && c != nonJoiner) || c == joiner
  (cluster.takeWhile mark).any isLinker &&
    (cluster.dropWhile mark).head?.any (inSortedRanges linkedConsonants ·.toNat)

/-- Does a character belong to the cluster before it, which is given last character first? -/
def joins : List Char → Char → Bool
  | [], _ => false
  | last :: before, c =>
    if last = '\r' then c == '\n'
    else if isSolitary last || isSolitary c then false
    else
      isExtending c || c == joiner || inSortedRanges spacingMarks c.toNat ||
        inSortedRanges prepended last.toNat || sameSyllable last c ||
        (last == joiner && isPictograph c &&
          (before.dropWhile isExtending).head?.any isPictograph) ||
        (isFlagLetter c && isFlagLetter last && (before.takeWhile isFlagLetter).length % 2 == 0) ||
        (inSortedRanges linkedConsonants c.toNat && awaitsConsonant (last :: before))

/-- The clusters of a text. -/
def clusters : List Char → List (List Char)
  | [] => []
  | c :: rest => go [c] rest
where
  /-- The clusters from one that has begun, which is given last character first. -/
  go (cluster : List Char) : List Char → List (List Char)
    | [] => [cluster.reverse]
    | c :: rest =>
      if joins cluster c then go (c :: cluster) rest else cluster.reverse :: go [c] rest

/-- The characters without a width that are neither marks nor ignorable. -/
def zeroWidth : List (Nat × Nat) :=
  [(0x605, 0x605), (0x70F, 0x70F), (0x890, 0x891), (0x8E2, 0x8E2), (0x1160, 0x11FF),
   (0xA8FA, 0xA8FA), (0xD7B0, 0xD7C6), (0xD7CB, 0xD7FB)]

/-- How many columns a character takes. A control takes one, so that it shows. -/
def charWidth (c : Char) : Nat :=
  let code := c.toNat
  if c = '\u115F' then 2
  else if inSortedRanges ignorable code || inSortedRanges extending code ||
    inSortedRanges zeroWidth code then 0
  else if inSortedRanges wideForms code && !isFlagLetter c then 2
  else 1

/-- How many columns characters take side by side. -/
def charsWidth : List Char → Nat
  | [] => 0
  | c :: rest => charWidth c + charsWidth rest

/-- Can a character be shown as a picture? Digits can, on keys. -/
def hasPicture (c : Char) : Bool := isPictograph c || c.isDigit || c == '#' || c == '*'

/-- Is a character, with what follows it, one picture? -/
def isPicture (c next : Char) (rest : List Char) : Bool :=
  (next == pictureSelector && hasPicture c) ||
    (isPictograph c && (isTone next || (next == joiner && rest.head?.any isPictograph)))

/-- How many columns a cluster takes. -/
def clusterWidth : List Char → Nat
  | ['\r', '\n'] => 1
  | c :: next :: rest =>
    if isPicture c next rest then 2
    else if next = textSelector && isPictograph c then 1
    else charsWidth (c :: next :: rest)
  | cluster => charsWidth cluster

end Text

end FleetConsole
