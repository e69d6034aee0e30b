/-!
# Styles

A style says what it changes: colors and effects. A paint is what a cell of the screen has.
-/

namespace FleetConsole.Screen

/-- A color; `reset` is the terminal's own. -/
inductive Color where
  | reset
  | red
  | green
  | yellow
  | blue
  | cyan
  | gray
  | darkGray
deriving DecidableEq, Repr

/-- What a style changes. -/
structure Style where
  fg : Option Color := none
  bg : Option Color := none
  bold : Bool := false
  reversed : Bool := false
deriving DecidableEq, Repr

/-- What a cell looks like. -/
structure Paint where
  fg : Color := .reset
  bg : Color := .reset
  bold : Bool := false
  reversed : Bool := false
deriving DecidableEq, Repr

/-- A paint, changed by a style. -/
def Paint.change (p : Paint) (s : Style) : Paint where
  fg := s.fg.getD p.fg
  bg := s.bg.getD p.bg
  bold := p.bold || s.bold
  reversed := p.reversed || s.reversed

end FleetConsole.Screen
