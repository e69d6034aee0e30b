import FleetConsole.Binary64.Basic

/-!
# Reading decimal text as a binary64 number

A numeral is a sign, digits with at most one point among them, and an optional exponent. Its value
is an exact decimal, rounded once. `Binary64.ofText?` reads a whole string and knows the names of
the values that have no digits; `ofDecimal` is the rounding of an exact decimal.
-/

namespace FleetConsole

namespace Binary64

/-- The number nearest to `digits * 10 ^ exponent`. Exponents far outside the format's range are
answered without forming the power. -/
def ofDecimal (negative : Bool) (digits : Nat) (exponent : Int) : Binary64 :=
  let count : Int := (Nat.toDigits 10 digits).length
  if digits = 0 then finite (Double.zero negative)
  else if 320 < count + exponent then infinite negative
  else if count + exponent < -340 then finite (Double.zero negative)
  else roundRatio negative (digits * Nat.pow 10 exponent.toNat) (Nat.pow 10 (-exponent).toNat)

/-- The value of a list of decimal digits. -/
def digitsValue (ds : List Char) : Nat :=
  ds.foldl (fun n c => 10 * n + (c.toNat - '0'.toNat)) 0

/-- An optionally signed run of digits, as in an exponent. -/
def signedDigits? (cs : List Char) : Option Int :=
  match cs with
  | '+' :: ds => if ds.isEmpty ∨ ¬ ds.all Char.isDigit then none else some (digitsValue ds)
  | '-' :: ds => if ds.isEmpty ∨ ¬ ds.all Char.isDigit then none else some (-(digitsValue ds : Int))
  | ds => if ds.isEmpty ∨ ¬ ds.all Char.isDigit then none else some (digitsValue ds)

/-- A decimal numeral without sign: digits, a point with digits on at least one side, an
exponent. -/
def unsignedNumeral? (negative : Bool) (cs : List Char) : Option Binary64 :=
  let whole := cs.takeWhile Char.isDigit
  let afterWhole := cs.dropWhile Char.isDigit
  let (fraction, afterFraction) := match afterWhole with
    | '.' :: rest => (rest.takeWhile Char.isDigit, rest.dropWhile Char.isDigit)
    | rest => ([], rest)
  if whole.isEmpty ∧ fraction.isEmpty then none
  else
    let digits := digitsValue (whole ++ fraction)
    let shift : Int := fraction.length
    match afterFraction with
    | [] => some (ofDecimal negative digits (-shift))
    | e :: rest =>
      if e = 'e' ∨ e = 'E' then
        (signedDigits? rest).map fun n => ofDecimal negative digits (n - shift)
      else none

/-- A numeral without sign, or a name: `inf`, `infinity` and `nan` in any case. -/
def unsigned? (negative : Bool) (cs : List Char) : Option Binary64 :=
  let lower := cs.map Char.toLower
  if lower = "inf".toList ∨ lower = "infinity".toList then some (infinite negative)
  else if lower = "nan".toList then some notANumber
  else unsignedNumeral? negative cs

/-- The number that a whole text denotes: no blanks, an optional sign, a numeral or a name. -/
def ofText? (s : String) : Option Binary64 :=
  match s.toList with
  | '-' :: cs => unsigned? true cs
  | '+' :: cs => unsigned? false cs
  | cs => unsigned? false cs

end Binary64

end FleetConsole
