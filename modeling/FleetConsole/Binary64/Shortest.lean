import FleetConsole.Binary64.Basic

/-!
# Shortest decimal text

The text of a number has the fewest significant digits that still round to it, and of those digit
strings the one nearest to its value. `Double.shortest` finds them on the decimal grids of one, two
and up to seventeen digits: on each grid only the two neighbours of the value can lie in the
interval of reals that round to it. Two layouts of the digits follow: positional for display,
and the number syntax of JSON.
-/

namespace FleetConsole

/-- A decimal number `0.d₁d₂… * 10 ^ point` without sign, given by its digits as a natural
number, their count, and the position of the point. -/
structure Decimal where
  /-- The digits read as a number. -/
  digits : Nat
  /-- The decimal point stands `point` places after the start of the digits. -/
  point : Int
deriving DecidableEq, Repr

namespace Decimal

/-- Decimal digits of a natural number, the most significant first. -/
def digitChars (n : Nat) : List Char := n.toDigits 10

/-- The digits without the zeros at the end. -/
def significant (d : Decimal) : List Char :=
  ((Nat.toDigits 10 d.digits).reverse.dropWhile (· = '0')).reverse

/-- Positional notation without an exponent and without a point when the value is integral. -/
def positional (d : Decimal) : List Char :=
  let ds := d.significant
  if ds.isEmpty then ['0']
  else if d.point ≤ 0 then '0' :: '.' :: (List.replicate (-d.point).toNat '0' ++ ds)
  else
    let n := d.point.toNat
    if ds.length ≤ n then ds ++ List.replicate (n - ds.length) '0'
    else ds.take n ++ '.' :: ds.drop n

/-- Positional notation that always shows a point. -/
def pointed (d : Decimal) : List Char :=
  let text := d.positional
  if text.contains '.' then text else text ++ ['.', '0']

/-- One digit before the point and a signed exponent of at least two digits. -/
def scientific (d : Decimal) : List Char :=
  let ds := d.significant
  let e := d.point - 1
  let mantissa := match ds with
    | [] => ['0']
    | [c] => [c]
    | c :: rest => c :: '.' :: rest
  let es := Nat.toDigits 10 e.natAbs
  mantissa ++ 'e' :: (if e < 0 then '-' else '+') ::
    (if es.length < 2 then '0' :: es else es)

/-- The number syntax of JSON for a fractional value: positional with a point while the decimal
exponent lies between -5 and 15, scientific beyond. -/
def jsonText (d : Decimal) : List Char :=
  if d.digits = 0 ∨ (-5 ≤ d.point - 1 ∧ d.point - 1 ≤ 15) then d.pointed else d.scientific

end Decimal

namespace Double

/-- The interval of reals that round to a positive number, as numerators over the common
denominator `scale`: its lower end, the value, its upper end. Below a power of two the numbers lie
twice as dense, so there the lower half is half as wide. -/
def roundingInterval (x : Double) : Nat × Nat × Nat :=
  let low := if x.mantissa = Nat.pow 2 52 ∧ -1074 < x.exponent then 1 else 2
  let unit := Nat.pow 2 (x.exponent - 2).toNat
  ((4 * x.mantissa - low) * unit, 4 * x.mantissa * unit, (4 * x.mantissa + 2) * unit)

/-- The common denominator of `roundingInterval`. -/
def scale (x : Double) : Nat := Nat.pow 2 (2 - x.exponent).toNat

/-- The greatest `e` with `10 ^ e * den ≤ num`, found by counting digits. -/
def floorLog10 (num den : Nat) : Int :=
  let e : Int := ((Nat.toDigits 10 num).length : Int) - (Nat.toDigits 10 den).length
  if den * Nat.pow 10 e.toNat ≤ num * Nat.pow 10 (-e).toNat then e else e - 1

/-- Does a point of the decimal grid with the step `10 ^ q` round to `x`? -/
def isInside (x : Double) (q : Int) (n : Nat) : Bool :=
  let (lo, _, hi) := x.roundingInterval
  let up := Nat.pow 10 (-q).toNat
  let step := Nat.pow 10 q.toNat * x.scale
  if x.mantissa % 2 = 0 then lo * up ≤ n * step ∧ n * step ≤ hi * up
  else lo * up < n * step ∧ n * step < hi * up

/-- The last point of the grid that is not above the value. -/
def pointBelow (x : Double) (q : Int) : Nat :=
  x.roundingInterval.2.1 * Nat.pow 10 (-q).toNat / (Nat.pow 10 q.toNat * x.scale)

/-- Is the value nearer to the point below it than to the next one? -/
def isNearBelow (x : Double) (q : Int) : Bool :=
  2 * (x.roundingInterval.2.1 * Nat.pow 10 (-q).toNat) <
    (2 * x.pointBelow q + 1) * (Nat.pow 10 q.toNat * x.scale)

/-- A point of the decimal grid that rounds to `x`, if one of the two neighbours of the value does:
the nearer of the two, the upper one if both are equally near. -/
def neighbour? (x : Double) (q : Int) : Option Nat :=
  let below := x.pointBelow q
  let above := below + 1
  match x.isInside q below, x.isInside q above with
  | true, true => some (if x.isNearBelow q then below else above)
  | true, false => some below
  | false, true => some above
  | false, false => none

/-- The first grid of at least `17 - fuel` digits that holds a point rounding to `x`. -/
def searchGrid (x : Double) (top : Int) : Nat → Decimal
  | 0 => ⟨0, 1⟩
  | fuel + 1 =>
    let q := top - (16 - fuel : Nat)
    match x.neighbour? q with
    | some n => ⟨n, (Nat.toDigits 10 n).length + q⟩
    | none => searchGrid x top fuel

/-- The shortest decimal that rounds to the magnitude of `x`, the nearest of those to its value. -/
def shortest (x : Double) : Decimal :=
  if x.mantissa = 0 then ⟨0, 1⟩
  else x.searchGrid (floorLog10 x.magnitude x.denominator) 17

/-- Display text: positional, integral values without a point, the sign of zero kept. -/
def text (x : Double) : String :=
  String.ofList ((if x.negative then ['-'] else []) ++ x.shortest.positional)

/-- JSON text: always with a point or an exponent. -/
def jsonText (x : Double) : String :=
  String.ofList ((if x.negative then ['-'] else []) ++ x.shortest.jsonText)

end Double

/-- Display text of any number of the format. -/
def Binary64.text : Binary64 → String
  | finite x => x.text
  | infinite negative => if negative then "-inf" else "inf"
  | notANumber => "NaN"

end FleetConsole
