import FleetConsole.Binary64.Reader
import FleetConsole.Json.Basic

/-!
# The values of plain scalars

What a scalar without quotes and tag denotes, by the core schema of YAML 1.2 with binary integers
added: null, a truth value, an integer in base ten, sixteen, eight or two, a float, or else its own
text. A decimal number with a leading zero is text.
-/

namespace FleetConsole.Yaml

/-- The spellings of null. -/
def isNull (s : String) : Bool := s = "null" || s = "Null" || s = "NULL" || s = "~"

/-- The spellings of the truth values. -/
def bool? (s : String) : Option Bool :=
  if s = "true" ∨ s = "True" ∨ s = "TRUE" then some true
  else if s = "false" ∨ s = "False" ∨ s = "FALSE" then some false
  else none

/-- The text without a sign in front of it. -/
def withoutSign : List Char → List Char
  | '+' :: cs => cs
  | '-' :: cs => cs
  | cs => cs

/-- Digits that are not a number since the first of several is zero. -/
def isZeroPadded (cs : List Char) : Bool :=
  let ds := withoutSign cs
  1 < ds.length && ds.head? = some '0' && ds.all Char.isDigit

/-- The value of a digit in a base up to sixteen. -/
def digitValue? (base : Nat) (c : Char) : Option Nat :=
  let n := if c.isDigit then c.toNat - '0'.toNat
    else if 'a' ≤ c ∧ c ≤ 'f' then c.toNat - 'a'.toNat + 10
    else if 'A' ≤ c ∧ c ≤ 'F' then c.toNat - 'A'.toNat + 10
    else base
  if n < base then some n else none

/-- The value of one or more digits in a base. -/
def digits? (base : Nat) (ds : List Char) : Option Nat :=
  if ds.isEmpty then none
  else ds.foldlM (fun n d => (digitValue? base d).map (base * n + ·)) 0

/-- A natural number with its base prefix, if it has one. -/
def natural? : List Char → Option Nat
  | '0' :: 'x' :: ds => digits? 16 ds
  | '0' :: 'o' :: ds => digits? 8 ds
  | '0' :: 'b' :: ds => digits? 2 ds
  | ds => digits? 10 ds

/-- A natural number with an optional plus sign. -/
def unsigned? (cs : List Char) : Option Nat :=
  if isZeroPadded cs then none
  else
    match cs with
    | '+' :: ds => natural? ds
    | ds => natural? ds

/-- An integer with an optional sign. -/
def integer? (cs : List Char) : Option Int :=
  match cs with
  | '-' :: ds => if isZeroPadded cs then none else (natural? ds).map fun n => -(n : Int)
  | _ => (unsigned? cs).map fun n => (n : Int)

/-- The names of the numbers without digits. -/
def specialFloat? (cs : List Char) : Option Binary64 :=
  let s := String.ofList cs
  let named (s : String) : Bool := s = ".inf" || s = ".Inf" || s = ".INF"
  if named s then some (.infinite false)
  else match cs with
    | '+' :: ds => if named (String.ofList ds) then some (.infinite false) else none
    | '-' :: ds => if named (String.ofList ds) then some (.infinite true) else none
    | _ => if s = ".nan" ∨ s = ".NaN" ∨ s = ".NAN" then some .notANumber else none

/-- A float: a special name, or a decimal numeral with a finite value. -/
def float? (cs : List Char) : Option Binary64 :=
  match specialFloat? cs with
  | some x => some x
  | none =>
    let value := match cs with
      | '-' :: ds => Binary64.unsignedNumeral? true ds
      | '+' :: ds => Binary64.unsignedNumeral? false ds
      | ds => Binary64.unsignedNumeral? false ds
    match value with
    | some (.finite x) => some (.finite x)
    | _ => none

/-- A float as a tree; trees know no infinities. -/
def floatTree : Binary64 → Json
  | .finite x => .float x
  | _ => .null

/-- The least integer of 128 bits with sign. -/
def minInt128 : Int := -170141183460469231731687303715884105728

/-- The greatest integer of 128 bits without sign. -/
def maxUInt128 : Int := 340282366920938463463374607431768211455

/-- An integer as a tree: of 64 bits with or without sign. What takes up to 128 bits has no tree
and is refused; what takes more is no integer. -/
def integerTree? (cs : List Char) : Option (Option Json) :=
  match integer? cs with
  | none => none
  | some n =>
    if Json.minInt64 ≤ n ∧ n ≤ Json.maxUInt64 then some (some (.int n))
    else if minInt128 ≤ n ∧ n ≤ maxUInt128 then some none
    else none

/-- The tree of a plain scalar. -/
def plainTree? (s : String) : Option Json :=
  let cs := s.toList
  if s.isEmpty || isNull s then some .null
  else match bool? s with
    | some b => some (.bool b)
    | none =>
      match integerTree? cs with
      | some tree => tree
      | none =>
        if isZeroPadded cs then some (.str s)
        else match float? cs with
          | some x => some (floatTree x)
          | none => some (.str s)

/-- The name of a core tag. -/
def coreTag (name : String) : String := "tag:yaml.org,2002:" ++ name

/-- The tree of a scalar with a tag: the core tags of null, truth values and numbers convert the
text, other tags of a known namespace leave it, and a private tag is refused. -/
def taggedTree? (tag s : String) : Option Json :=
  if tag = coreTag "bool" then (bool? s).map .bool
  else if tag = coreTag "int" then (integerTree? s.toList).join
  else if tag = coreTag "float" then (float? s.toList).map floatTree
  else if tag = coreTag "null" then (if isNull s then some .null else none)
  else if "!".toList.isPrefixOf tag.toList then none
  else some (.str s)

end FleetConsole.Yaml
