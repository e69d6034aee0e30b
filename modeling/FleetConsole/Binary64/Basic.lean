/-!
# The numbers of the binary64 format

A finite number is a sign, a mantissa and an exponent of two; besides these there are the two
infinities and one value that is not a number. Arithmetic is exact arithmetic on natural numbers
followed by one rounding: `roundRatio` takes a quotient of naturals to the nearest number of the
format, a tie to the even mantissa, and everything that produces a number goes through it. The
mantissa and the exponent of a number are those that its value determines (`Double.InFormat`), so
equality of numbers is equality of the three fields, which tells the two zeros apart.
-/

namespace FleetConsole

/-- A mantissa and an exponent of two are those of a number of the format: the mantissa has at most
53 binary digits, and fewer of them only with the least exponent. -/
def Double.InFormat (mantissa : Nat) (exponent : Int) : Prop :=
  mantissa < Nat.pow 2 53 ∧ -1074 ≤ exponent ∧ exponent ≤ 971 ∧
    (Nat.pow 2 52 ≤ mantissa ∨ exponent = -1074)

instance (mantissa : Nat) (exponent : Int) : Decidable (Double.InFormat mantissa exponent) :=
  inferInstanceAs (Decidable (_ ∧ _))

/-- A finite number of the format: `mantissa * 2 ^ exponent` with a sign. -/
structure Double where
  /-- The sign; zero has one too. -/
  negative : Bool
  /-- The magnitude in units of `2 ^ exponent`. -/
  mantissa : Nat
  /-- The power of two that the mantissa counts. -/
  exponent : Int
  inFormat : Double.InFormat mantissa exponent
deriving DecidableEq, Repr

/-- A number of the binary64 format. -/
inductive Binary64 where
  | finite (value : Double)
  | infinite (negative : Bool)
  | notANumber
deriving DecidableEq, Repr

namespace Double

/-- Positive or negative zero. -/
def zero (negative : Bool) : Double := ⟨negative, 0, -1074, by decide⟩

instance : Inhabited Double := ⟨zero false⟩

/-- The denominator of the value: a power of two when the exponent is negative, else one. -/
def denominator (x : Double) : Nat := Nat.pow 2 (-x.exponent).toNat

/-- The magnitude times the denominator. -/
def magnitude (x : Double) : Nat := x.mantissa * Nat.pow 2 x.exponent.toNat

/-- The value times the denominator. -/
def numerator (x : Double) : Int :=
  if x.negative then -(x.magnitude : Int) else x.magnitude

/-- Order of the values: the two zeros are equal. -/
def ble (x y : Double) : Bool :=
  x.numerator * y.denominator ≤ y.numerator * x.denominator

/-- The value, if it is an integer. -/
def toInt? (x : Double) : Option Int :=
  if x.magnitude % x.denominator = 0 then
    let n := x.magnitude / x.denominator
    some (if x.negative then -(n : Int) else n)
  else none

/-- The number with the opposite sign. -/
def neg (x : Double) : Double := ⟨!x.negative, x.mantissa, x.exponent, x.inFormat⟩

end Double

namespace Binary64

/-- The quotient rounded to the nearest integer, a tie to the even one. -/
def divHalfEven (num den : Nat) : Nat :=
  let q := num / den
  let r := num % den
  if 2 * r < den then q
  else if den < 2 * r then q + 1
  else q + q % 2

/-- The greatest `e` with `2 ^ e * den ≤ num`, for positive `num` and `den`. -/
def floorLog2 (num den : Nat) : Int :=
  let e : Int := (num.log2 : Int) - den.log2
  if den * Nat.pow 2 e.toNat ≤ num * Nat.pow 2 (-e).toNat then e else e - 1

/-- The number with a sign, a mantissa and an exponent, infinite if the exponent is too large for
the format. -/
def ofParts (negative : Bool) (mantissa : Nat) (exponent : Int) : Binary64 :=
  if h : Double.InFormat mantissa exponent then finite ⟨negative, mantissa, exponent, h⟩
  else infinite negative

/-- The number nearest to `num / den`, a tie to the even mantissa; what rounds beyond the largest
finite number is infinite. -/
def roundRatio (negative : Bool) (num den : Nat) : Binary64 :=
  if num = 0 then finite (Double.zero negative)
  else
    let e : Int := max (floorLog2 num den - 52) (-1074)
    let m := divHalfEven (num * Nat.pow 2 (-e).toNat) (den * Nat.pow 2 e.toNat)
    if m = Nat.pow 2 53 then ofParts negative (Nat.pow 2 52) (e + 1) else ofParts negative m e

/-- The number nearest to an integer. -/
def ofInt (n : Int) : Binary64 := roundRatio (n < 0) n.natAbs 1

/-- The finite number nearest to an integer, zero beyond the format's range. -/
def doubleOfInt (n : Int) : Double :=
  match ofInt n with
  | finite d => d
  | _ => Double.zero false

/-- The product with the quotient `num / den`, rounded once. -/
def scale (x : Double) (num den : Nat) : Binary64 :=
  roundRatio x.negative (x.magnitude * num) (x.denominator * den)

/-- The comparison `x ≥ y`, false as soon as one side is not a number. -/
def ge : Binary64 → Binary64 → Bool
  | notANumber, _ => false
  | _, notANumber => false
  | infinite false, _ => true
  | _, infinite true => true
  | infinite true, _ => false
  | _, infinite false => false
  | finite x, finite y => y.ble x

end Binary64

end FleetConsole
