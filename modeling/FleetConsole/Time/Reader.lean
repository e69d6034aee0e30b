import FleetConsole.Text.Blank
import FleetConsole.Time.Instant

/-!
# Reading an instant

The reader takes RFC 3339 and some more: blanks before each number and around the marks, a year of
any length with a sign, `t` or a blank between date and time, any count of fraction digits, and as
offset `Z`, `UTC` or a signed time whose parts may be separated by colons and blanks. A second of 60
is a leap second. The fields are judged from left to right, each as soon as it is read, so that the
first fault decides the error. Last, the offset must not carry the time out of the supported years.
The strict reader takes RFC 3339 and no more.
-/

namespace FleetConsole

/-- Why a text is no instant. -/
inductive TimeError where
  | tooShort
  | invalid
  | outOfRange
  | trailing
  | impossible
deriving DecidableEq, Repr

/-- The wording of a time error. -/
def TimeError.message : TimeError → String
  | tooShort => "premature end of input"
  | invalid => "input contains invalid characters"
  | outOfRange => "input is out of range"
  | trailing => "trailing input"
  | impossible => "no possible date and time matching input"

namespace Instant

/-- The value of a run of digits. -/
def number (ds : List Char) : Nat := ds.foldl (fun n c => 10 * n + (c.toNat - '0'.toNat)) 0

/-- One or more digits, at most `most` of them. -/
def scanDigits (most : Nat) (cs : List Char) : Except TimeError (List Char × List Char) :=
  match cs with
  | [] => .error .tooShort
  | _ :: _ =>
    let ds := (cs.take most).takeWhile Char.isDigit
    if ds.isEmpty then .error .invalid else .ok (ds, cs.drop ds.length)

/-- A number of at most two digits that has to lie between two bounds, after blanks. -/
def scanField (least greatest : Nat) (cs : List Char) : Except TimeError (Nat × List Char) := do
  let (ds, rest) ← scanDigits 2 (Text.trimStart cs)
  let n := number ds
  if least ≤ n ∧ n ≤ greatest then .ok (n, rest) else .error .outOfRange

/-- A year: four digits, or a sign and any number of them. -/
def scanYear (cs : List Char) : Except TimeError (Int × List Char) := do
  let bounded (n : Int) (rest : List Char) : Except TimeError (Int × List Char) :=
    if -2147483648 ≤ n ∧ n ≤ 2147483647 then .ok (n, rest) else .error .outOfRange
  match Text.trimStart cs with
  | '-' :: more => do
    let (ds, rest) ← scanDigits more.length more
    bounded (-(number ds : Int)) rest
  | '+' :: more => do
    let (ds, rest) ← scanDigits more.length more
    bounded (number ds) rest
  | more => do
    let (ds, rest) ← scanDigits 4 more
    bounded (number ds) rest

/-- One given mark, after blanks. -/
def scanMark (mark : Char) (cs : List Char) : Except TimeError (Unit × List Char) :=
  match Text.trimStart cs with
  | [] => .error .tooShort
  | c :: rest => if c = mark then .ok ((), rest) else .error .invalid

/-- The letter or blank between date and time. -/
def scanSeparator : List Char → Except TimeError (Unit × List Char)
  | [] => .error .tooShort
  | c :: rest => if c = 't' ∨ c = 'T' ∨ c = ' ' then .ok ((), rest) else .error .invalid

/-- An optional fraction of a second, in nanoseconds; digits beyond the ninth are dropped. -/
def scanFraction (cs : List Char) : Except TimeError (Nat × List Char) :=
  match cs with
  | '.' :: more => do
    let (ds, rest) ← scanDigits 9 more
    .ok (number ds * Nat.pow 10 (9 - ds.length), rest.dropWhile Char.isDigit)
  | _ => .ok (0, cs)

/-- Two digits of an offset. -/
def scanPair (cs : List Char) : Except TimeError ((Char × Char) × List Char) :=
  match cs with
  | [] => .error .tooShort
  | [c] => if c.utf8Size < 2 then .error .tooShort else .error .invalid
  | a :: b :: rest => if a.isDigit ∧ b.isDigit then .ok ((a, b), rest) else .error .invalid

/-- An offset from universal time in seconds. -/
def scanOffset (cs : List Char) : Except TimeError (Int × List Char) :=
  let signed (negative : Bool) (more : List Char) : Except TimeError (Int × List Char) := do
    let ((h, h'), more) ← scanPair more
    let more := more.dropWhile fun c => c = ':' || Text.isBlank c
    let ((m, m'), rest) ← scanPair more
    if m > '5' then .error .outOfRange
    else
      let n : Int := number [h, h'] * 3600 + number [m, m'] * 60
      .ok (if negative then -n else n, rest)
  match cs with
  | [] => .error .tooShort
  | c :: more =>
    if c = 'Z' ∨ c = 'z' then .ok (0, more)
    else if c = '+' then signed false more
    else if c = '-' ∨ c.toNat = 0x2212 then signed true more
    else .error .invalid

/-- An offset, or the name of universal time, after blanks. -/
def scanZone (cs : List Char) : Except TimeError (Int × List Char) :=
  let cs := Text.trimStart cs
  if (cs.take 3).map Char.toUpper = ['U', 'T', 'C'] then .ok (0, cs.drop 3) else scanOffset cs

/-- The instant of a date, a time of day in seconds, nanoseconds and an offset. -/
def ofLocal (d : Date) (second nano : Nat) (offset : Int) : Instant :=
  let total : Int := d.toDays * 86400 + second - offset
  ⟨total / 86400, (total % 86400).toNat, nano⟩

/-- The instant that a text denotes. -/
def ofText (s : String) : Except TimeError Instant := do
  let (year, cs) ← scanYear s.toList
  let (_, cs) ← scanMark '-' cs
  let (month, cs) ← scanField 1 12 cs
  let (_, cs) ← scanMark '-' cs
  let (day, cs) ← scanField 1 31 cs
  let (_, cs) ← scanSeparator cs
  let (hour, cs) ← scanField 0 23 cs
  let (_, cs) ← scanMark ':' cs
  let (minute, cs) ← scanField 0 59 cs
  let (_, cs) ← scanMark ':' cs
  let (second, cs) ← scanField 0 60 cs
  let (nano, cs) ← scanFraction cs
  let (offset, cs) ← scanZone cs
  if ¬ (Text.trimStart cs).isEmpty then .error .trailing
  else
    let d : Date := ⟨year, month, day⟩
    if ¬ d.isValid ∨ offset.natAbs ≥ 86400 then .error .outOfRange
    else
      let leap := second = 60
      let t := ofLocal d (hour * 3600 + minute * 60 + (if leap then 59 else second))
        (if leap then nano + nanosPerSecond else nano) offset
      if Date.supportedYear t.year then .ok t else .error .impossible

/-! ## The strict form -/

/-- What comes after a pattern at the start of a text. In a pattern a zero stands for any digit and
`T` for a separator of date and time. -/
def afterPattern? : List Char → List Char → Option (List Char)
  | [], cs => some cs
  | _ :: _, [] => none
  | p :: ps, c :: cs =>
    let fits := if p = '0' then c.isDigit else if p = 'T' then c ∈ ['T', 't', ' '] else c = p
    if fits then afterPattern? ps cs else none

/-- What comes after an optional fraction of a second. -/
def afterFraction : List Char → List Char
  | '.' :: c :: cs => if c.isDigit then cs.dropWhile Char.isDigit else '.' :: c :: cs
  | cs => cs

/-- Is the text a zone: `Z`, or a sign and hours and minutes with a colon between them? -/
def isZone : List Char → Bool
  | ['Z'] | ['z'] => true
  | sign :: offset =>
    sign ∈ ['+', '-', Char.ofNat 0x2212] && afterPattern? ['0', '0', ':', '0', '0'] offset = some []
  | [] => false

/-- The form of date and time, as a pattern. -/
def pattern : List Char := "0000-00-00T00:00:00".toList

/-- Is the text of the form of RFC 3339, with four digits for the year? -/
def isStrict (cs : List Char) : Bool :=
  (afterPattern? pattern cs).any fun rest => isZone (afterFraction rest)

/-- The instant that a text of the strict form denotes. -/
def ofStrictText? (s : String) : Option Instant :=
  if isStrict s.toList then (ofText s).toOption else none

end Instant

end FleetConsole
