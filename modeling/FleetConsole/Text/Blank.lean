import FleetConsole.Text.Ranges

/-!
# Blank characters and trimming

The blanks are the characters with the property `White_Space`.
-/

namespace FleetConsole

namespace Text

/-- The property `White_Space`, in order. -/
def blanks : List (Nat × Nat) :=
  [(0x9, 0xD), (0x20, 0x20), (0x85, 0x85), (0xA0, 0xA0), (0x1680, 0x1680), (0x2000, 0x200A),
   (0x2028, 0x2029), (0x202F, 0x202F), (0x205F, 0x205F), (0x3000, 0x3000)]

/-- Is the character a blank? -/
def isBlank (c : Char) : Bool := inRanges blanks c.toNat

/-- The characters without the blanks at the start. -/
def trimStart (cs : List Char) : List Char := cs.dropWhile isBlank

/-- The characters without the blanks at the end. -/
def trimEnd (cs : List Char) : List Char := (cs.reverse.dropWhile isBlank).reverse

/-- The characters without the blanks at either end. -/
def trim (cs : List Char) : List Char := trimEnd (trimStart cs)

/-- A string without the blanks at either end. -/
def trimmed (s : String) : String := String.ofList (trim s.toList)

/-- Does a string hold nothing but blanks? -/
def isBlankText (s : String) : Bool := s.toList.all isBlank

end Text

end FleetConsole
