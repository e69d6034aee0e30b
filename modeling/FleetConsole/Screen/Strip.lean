import FleetConsole.Screen.Style
import FleetConsole.Text.Clusters

/-!
# Strips of cells

A strip is a row of cells or a part of one. Text is laid out cluster by cluster; a cluster that is
two columns wide covers the cell after its own.
-/

namespace FleetConsole.Screen

/-- A cell of the screen. -/
structure Glyph where
  symbol : String := " "
  paint : Paint := {}
deriving DecidableEq, Repr

/-- A row of cells. -/
abbrev Strip := List Glyph

/-- Text in one style. -/
structure Span where
  text : String
  style : Style := {}
deriving DecidableEq, Repr

/-- A cluster to be laid out. -/
structure Piece where
  symbol : String
  width : Nat
  style : Style := {}
deriving DecidableEq, Repr

/-- The pieces of a span; line breaks are not among them. -/
def Span.pieces (s : Span) : List Piece :=
  ((Text.clusters s.text.toList).filter (· ≠ ['\n'])).map fun cluster =>
    ⟨String.ofList cluster, Text.clusterWidth cluster, s.style⟩

namespace Strip

/-- Blank cells. -/
def blank (paint : Paint) (width : Nat) : Strip := List.replicate width ⟨" ", paint⟩

/-- A strip, filled up to a width. -/
def fill (paint : Paint) (width : Nat) (s : Strip) : Strip := s ++ blank paint (width - s.length)

/-- The pieces of a line that fit a width. The line ends where a piece does not fit; pieces that
never could are left out. -/
def fitting (width : Nat) (pieces : List Piece) : List Piece :=
  go width (pieces.filter (·.width ≤ width))
where
  /-- The pieces that fit the room left. -/
  go : Nat → List Piece → List Piece
    | _, [] => []
    | room, p :: rest => if p.width ≤ room then p :: go (room - p.width) rest else []

/-- A line of a paragraph. Pieces without a width are not shown, and the cells that a wide piece
covers stay as they are. -/
def ofPieces (paint : Paint) (width : Nat) (pieces : List Piece) : Strip :=
  fill paint width ((pieces.filter (0 < ·.width)).flatMap fun p =>
    ⟨p.symbol, paint.change p.style⟩ :: blank paint (p.width - 1))

/-- The content of a table cell or a title. A piece without a width joins the cell before it, or the
first one; the cells that a wide piece covers are wiped. -/
def inscribe (paint : Paint) (width : Nat) (pieces : List Piece) : Strip :=
  let lead := String.join ((pieces.takeWhile (·.width = 0)).map (·.symbol))
  match pieces.dropWhile (·.width = 0) with
  | [] => []
  | p :: rest => go width [] ({ p with symbol := lead ++ p.symbol } :: rest)
where
  /-- Goes on with a strip that is given last cell first. -/
  go : Nat → Strip → List Piece → Strip
    | _, done, [] => done.reverse
    | room, done, p :: rest =>
      if room < p.width then done.reverse
      else match p.width, done with
        | 0, last :: before =>
          go room ({ last with symbol := last.symbol ++ p.symbol } :: before) rest
        | 0, [] => go room [] rest
        | w + 1, _ =>
          go (room - (w + 1)) (blank {} w ++ ⟨p.symbol, paint.change p.style⟩ :: done) rest

end Strip

end FleetConsole.Screen
