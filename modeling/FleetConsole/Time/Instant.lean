import FleetConsole.Time.Calendar

/-!
# Instants

An instant is a day, a second of the day and a count of nanoseconds, in universal time. During a
leap second the count runs on beyond a full second. The text of an instant is RFC 3339 with the
suffix `Z`.
-/

namespace FleetConsole

/-- An instant of universal time. -/
structure Instant where
  /-- Days from 1970-01-01. -/
  day : Int
  /-- Seconds from midnight, below 86400. -/
  second : Nat
  /-- Nanoseconds, below a second or, in a leap second, below two. -/
  nano : Nat
deriving DecidableEq, Repr

namespace Instant

/-- Nanoseconds in a second. -/
def nanosPerSecond : Nat := 1000000000

/-- The year of an instant. -/
def year (t : Instant) : Int := (Date.ofDays t.day).year

/-- The instant cut to whole seconds; a leap second stays one. -/
def wholeSecond (t : Instant) : Instant :=
  { t with nano := if t.nano < nanosPerSecond then 0 else nanosPerSecond }

/-- Nanoseconds from `s` to `t`. A leap second that has passed on a day between them, as far as the
times of day tell, is counted. -/
def nanosSince (t s : Instant) : Int :=
  let seconds : Int := (t.day - s.day) * 86400 + t.second - s.second
  let leap : Int :=
    if s.second < t.second ∧ nanosPerSecond ≤ s.nano then 1
    else if t.second < s.second ∧ nanosPerSecond ≤ t.nano then -1
    else 0
  (seconds + leap) * nanosPerSecond + t.nano - s.nano

/-- A number with at least so many digits. -/
def padded (width n : Nat) : List Char :=
  let ds := Nat.toDigits 10 n
  List.replicate (width - ds.length) '0' ++ ds

/-- A year: four digits, with a sign beyond the years 0 to 9999. -/
def yearText (y : Int) : List Char :=
  if 0 ≤ y ∧ y ≤ 9999 then padded 4 y.toNat
  else (if y < 0 then '-' else '+') :: padded 4 y.natAbs

/-- Date, time and seconds of an instant; a leap second is the second 60. -/
def secondsText (t : Instant) : List Char :=
  let d := Date.ofDays t.day
  let leap := if nanosPerSecond ≤ t.nano then 1 else 0
  yearText d.year ++ '-' :: padded 2 d.month ++ '-' :: padded 2 d.day ++
    'T' :: padded 2 (t.second / 3600) ++ ':' :: padded 2 (t.second / 60 % 60) ++
    ':' :: padded 2 (t.second % 60 + leap)

/-- The fraction of a second in 0, 3, 6 or 9 digits, as few as it takes. -/
def fractionText (t : Instant) : List Char :=
  let n := t.nano % nanosPerSecond
  if n = 0 then []
  else if n % 1000000 = 0 then '.' :: padded 3 (n / 1000000)
  else if n % 1000 = 0 then '.' :: padded 6 (n / 1000)
  else '.' :: padded 9 n

/-- The text of an instant with whole seconds. -/
def wholeText (t : Instant) : String := String.ofList (t.secondsText ++ ['Z'])

/-- The text of an instant. -/
def text (t : Instant) : String := String.ofList (t.secondsText ++ t.fractionText ++ ['Z'])

end Instant

/-- The age text of what was created at `created`: whole seconds, minutes, hours or days, by the
first unit that the age does not exceed sixty, sixty or twenty-four times. A creation in the future
has age zero. -/
def ageText (created now : Instant) : String :=
  let seconds : Int := (now.nanosSince created).tdiv Instant.nanosPerSecond
  if seconds < 60 then toString (max seconds 0) ++ "s"
  else if seconds / 60 < 60 then toString (seconds / 60) ++ "m"
  else if seconds / 3600 < 24 then toString (seconds / 3600) ++ "h"
  else toString (seconds / 86400) ++ "d"

end FleetConsole
