import FleetConsole.Screen.Strip
import FleetConsole.Text.Blank

/-!
# Wrapping

A line that is too long is broken between words, and a word that is too long wherever it has to be.
Blanks at a break are dropped, and so are those before the first word.
-/

namespace FleetConsole.Screen

/-- The sum of the widths of pieces. -/
def totalWidth : List Piece → Nat
  | [] => 0
  | p :: rest => p.width + totalWidth rest

/-- May a line be broken here? The space that holds words together does not count. -/
def Piece.isBlank (p : Piece) : Bool :=
  p.symbol == "\u200B" || (p.symbol.toList.all Text.isBlank && p.symbol != "\u00A0")

/-- A line that is being wrapped. -/
structure Wrapping where
  /-- The lines that are finished, the last one first. -/
  done : List (List Piece) := []
  line : List Piece := []
  /-- The blanks between the line and the word. -/
  gap : List Piece := []
  word : List Piece := []
  /-- Was the last piece part of a word? -/
  inWord : Bool := false

namespace Wrapping

/-- Drops as many blanks as fit the room left at the end of a line. -/
def dropFitting : Nat → List Piece → List Piece
  | _, [] => []
  | room, p :: rest => if p.width ≤ room then dropFitting (room - p.width) rest else p :: rest

/-- The line with the word on it, after the gap unless the line is empty. -/
def joined (s : Wrapping) : List Piece :=
  if s.line.isEmpty then s.word else s.line ++ s.gap ++ s.word

/-- Puts the word on the line. -/
def commit (s : Wrapping) : Wrapping := { s with line := s.joined, gap := [], word := [] }

/-- Is the word finished, or the line too short for what has come? -/
def isRipe (s : Wrapping) (width : Nat) (p : Piece) : Bool :=
  (s.inWord && p.isBlank) ||
    (s.line.isEmpty &&
      (width < totalWidth s.word + p.width || width < totalWidth s.gap + p.width))

/-- Is there no room left on the line? -/
def isFull (s : Wrapping) (width : Nat) (p : Piece) : Bool :=
  width ≤ totalWidth s.line ||
    (0 < p.width && width ≤ totalWidth s.line + totalWidth s.gap + totalWidth s.word)

/-- Finishes the line; blanks that would have fitted are dropped. -/
def breakLine (s : Wrapping) (width : Nat) : Wrapping :=
  { s with
    done := s.line :: s.done
    line := []
    gap := dropFitting (width - totalWidth s.line) s.gap }

/-- Takes in the next piece. -/
def push (s : Wrapping) (p : Piece) : Wrapping :=
  if p.isBlank then { s with gap := s.gap ++ [p], inWord := false }
  else { s with word := s.word ++ [p], inWord := true }

/-- Takes in the next piece, at a width. The blank at which a line is broken is dropped. -/
def step (width : Nat) (s : Wrapping) (p : Piece) : Wrapping :=
  let s := if s.isRipe width p then s.commit else s
  if s.isFull width p then
    let s := s.breakLine width
    if p.isBlank && s.gap.isEmpty then s else s.push p
  else s.push p

/-- The lines, once all pieces are taken in. -/
def finish (s : Wrapping) : List (List Piece) :=
  let onlyBlanks := s.line.isEmpty && s.word.isEmpty && !s.gap.isEmpty
  let done := if onlyBlanks then [] :: s.done else s.done
  let lines := (if s.joined.isEmpty then done else s.joined :: done).reverse
  if lines.isEmpty then [[]] else lines

end Wrapping

/-- The lines of wrapped text. Pieces wider than a line are left out. -/
def wrap (width : Nat) (pieces : List Piece) : List (List Piece) :=
  ((pieces.filter (·.width ≤ width)).foldl (Wrapping.step width) {}).finish

end FleetConsole.Screen
