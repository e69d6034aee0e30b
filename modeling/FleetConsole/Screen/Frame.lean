import FleetConsole.Screen.Strip

/-!
# Frames

A frame is a border around an area, with a title in its upper edge. An area too small for both edges
keeps the upper and the left one.
-/

namespace FleetConsole.Screen

/-- A rectangle of cells, row by row. -/
abbrev Area := List Strip

namespace Frame

/-- A line from one corner to another. -/
def edge (paint : Paint) (width : Nat) (left middle right : String) : Strip :=
  match width with
  | 0 => []
  | 1 => [⟨left, paint⟩]
  | w + 2 => ⟨left, paint⟩ :: List.replicate w ⟨middle, paint⟩ ++ [⟨right, paint⟩]

/-- The upper edge with its title. -/
def upper (paint : Paint) (width : Nat) (title : String) : Strip :=
  let line := edge paint width "┌" "─" "┐"
  let text := Strip.inscribe paint (width - 2) (Span.pieces ⟨title, {}⟩)
  line.take 1 ++ text ++ line.drop (1 + text.length)

/-- The lower edge. -/
def lower (paint : Paint) (width : Nat) : Strip := edge paint width "└" "─" "┘"

/-- A row of the inside between the two sides. -/
def row (paint : Paint) (width : Nat) (inside : Strip) : Strip :=
  match width with
  | 0 => []
  | 1 => [⟨"│", paint⟩]
  | _ => ⟨"│", paint⟩ :: inside ++ [⟨"│", paint⟩]

/-- The width of the inside. -/
def innerWidth (width : Nat) : Nat := width - 2

/-- An area with a border, a title and rows inside it; `ground` fills what they leave. -/
def around (border ground : Paint) (title : String) (width height : Nat) (rows : Area) : Area :=
  match height with
  | 0 => []
  | 1 => [upper border width title]
  | h + 2 =>
    let blank := Strip.blank ground (innerWidth width)
    let inside := rows.take h ++ List.replicate (h - rows.length) blank
    upper border width title :: inside.map (row border width) ++ [lower border width]

end Frame

end FleetConsole.Screen
