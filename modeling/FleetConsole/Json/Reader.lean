import FleetConsole.Json.Basic
import FleetConsole.Binary64.Reader

/-!
# Reading a document tree

The reader accepts the JSON syntax without extensions. An integer literal between `-2^63` and
`2^64 - 1` is an integer tree; every other number is a float, and a literal beyond the float range
is refused. Of a repeated key the last value counts. Lists and objects may nest 127 deep.

A float is read in two roundings, as readers that avoid long arithmetic do it: the first digits of
the literal, as many as fit into 64 bits, are rounded to a binary64 number, which is then multiplied
or divided by the rounded power of ten.
-/

namespace FleetConsole

namespace Json

/-- The blanks between tokens. -/
def isSpace (c : Char) : Bool := c = ' ' || c = '\n' || c = '\t' || c = '\r'

/-- The text from its first character that is not a blank. -/
def skipSpace (cs : List Char) : List Char := cs.dropWhile isSpace

/-- The value of a hexadecimal digit. -/
def hexValue? (c : Char) : Option Nat :=
  if '0' ≤ c ∧ c ≤ '9' then some (c.toNat - '0'.toNat)
  else if 'a' ≤ c ∧ c ≤ 'f' then some (c.toNat - 'a'.toNat + 10)
  else if 'A' ≤ c ∧ c ≤ 'F' then some (c.toNat - 'A'.toNat + 10)
  else none

/-- Four hexadecimal digits and the text after them. -/
def hexQuad? : List Char → Option (Nat × List Char)
  | a :: b :: c :: d :: rest => do
    let a ← hexValue? a
    let b ← hexValue? b
    let c ← hexValue? c
    let d ← hexValue? d
    some (((a * 16 + b) * 16 + c) * 16 + d, rest)
  | _ => none

/-- The character of an escape that is one letter. -/
def simpleEscape? (c : Char) : Option Char :=
  match c with
  | '"' => some '"'
  | '\\' => some '\\'
  | '/' => some '/'
  | 'b' => some (Char.ofNat 8)
  | 'f' => some (Char.ofNat 12)
  | 'n' => some '\n'
  | 'r' => some '\r'
  | 't' => some '\t'
  | _ => none

/-- The character of an escape in hexadecimal digits: one quad, or two that form a surrogate
pair. -/
def unicodeEscape? (cs : List Char) : Option (Char × List Char) := do
  let (high, rest) ← hexQuad? cs
  if 0xD800 ≤ high ∧ high < 0xDC00 then
    match rest with
    | '\\' :: 'u' :: more =>
      let (low, rest) ← hexQuad? more
      if 0xDC00 ≤ low ∧ low < 0xE000 then
        some (Char.ofNat (0x10000 + (high - 0xD800) * 0x400 + (low - 0xDC00)), rest)
      else none
    | _ => none
  else if 0xDC00 ≤ high ∧ high < 0xE000 then none
  else some (Char.ofNat high, rest)

/-- The rest of a string after its opening quote: its characters and the text behind the closing
quote. Every step consumes a character, so the length of the text bounds the steps. -/
def stringBody? : Nat → List Char → Option (List Char × List Char)
  | 0, _ => none
  | _ + 1, [] => none
  | fuel + 1, c :: rest =>
    if c = '"' then some ([], rest)
    else if c = '\\' then
      match rest with
      | 'u' :: more => do
        let (d, rest) ← unicodeEscape? more
        let (ds, rest) ← stringBody? fuel rest
        some (d :: ds, rest)
      | e :: more => do
        let d ← simpleEscape? e
        let (ds, rest) ← stringBody? fuel more
        some (d :: ds, rest)
      | [] => none
    else if c.toNat < 32 then none
    else do
      let (ds, rest) ← stringBody? fuel rest
      some (c :: ds, rest)

/-- The longest run of digits whose value fits into 64 bits, and the digits after it. -/
def splitWord (n : Nat) : List Char → Nat × List Char
  | [] => (n, [])
  | d :: ds =>
    let next := 10 * n + (d.toNat - '0'.toNat)
    if next < Nat.pow 2 64 then splitWord next ds else (n, d :: ds)

/-- A float from a word of digits and a power of ten, each rounded before they are combined. -/
def scaledFloat? (negative : Bool) (word : Nat) (exponent : Int) : Option Json :=
  let sign (x : Double) : Json := .float (if negative then x.neg else x)
  match Binary64.ofInt word with
  | .finite start =>
    if start.mantissa = 0 then some (sign start)
    else if 308 < exponent then none
    else if 0 ≤ exponent then
      match Binary64.ofDecimal false 1 exponent with
      | .finite power =>
        match Binary64.scale start power.magnitude power.denominator with
        | .finite x => some (sign x)
        | _ => none
      | _ => none
    else
      let steps := (-exponent - 1).toNat / 308
      let low := (-exponent).toNat - 308 * steps
      let divide (x : Double) (n : Nat) : Double :=
        match Binary64.ofDecimal false 1 n with
        | .finite power =>
          match Binary64.scale x power.denominator power.magnitude with
          | .finite y => y
          | _ => x
        | _ => x
      some (sign (divide ((List.replicate (min steps 3) 308).foldl divide start) low))
  | _ => none

/-- A number without its sign, and the text after it: an integer part without leading zeros, an
optional fraction, an optional exponent. -/
def unsignedNumber? (negative : Bool) (cs : List Char) : Option (Json × List Char) :=
  let whole := cs.takeWhile Char.isDigit
  let afterWhole := cs.dropWhile Char.isDigit
  if whole.isEmpty ∨ (1 < whole.length ∧ whole.head? = some '0') then none
  else do
    let (fraction, afterFraction) ← match afterWhole with
      | '.' :: rest =>
        let ds := rest.takeWhile Char.isDigit
        if ds.isEmpty then none else some (ds, rest.dropWhile Char.isDigit)
      | rest => some ([], rest)
    let (exponent, rest) ← match afterFraction with
      | e :: rest =>
        if e = 'e' ∨ e = 'E' then
          let (negativeExponent, digits) := match rest with
            | '+' :: ds => (false, ds)
            | '-' :: ds => (true, ds)
            | ds => (false, ds)
          let ds := digits.takeWhile Char.isDigit
          if ds.isEmpty then none
          else
            let n : Int := Binary64.digitsValue ds
            some (some (if negativeExponent then -n else n), digits.dropWhile Char.isDigit)
        else some (none, afterFraction)
      | [] => some (none, [])
    let value := Binary64.digitsValue whole
    if fraction.isEmpty ∧ exponent.isNone ∧ value < Nat.pow 2 64 ∧ ¬ (negative ∧ value = 0)
        ∧ ¬ (negative ∧ Nat.pow 2 63 < value) then
      some (.int (if negative then -(value : Int) else value), rest)
    else
      let (word, left) := splitWord 0 whole
      let (word, shift) :=
        if left.isEmpty then
          let (more, dropped) := splitWord word fraction
          (more, -((fraction.length - dropped.length : Nat) : Int))
        else (word, (left.length : Int))
      let x ← scaledFloat? negative word (exponent.getD 0 + shift)
      some (x, rest)

/-- The text after a literal word, if it begins with that word. -/
def afterWord? (word : List Char) (cs : List Char) : Option (List Char) :=
  if word.isPrefixOf cs then some (cs.drop word.length) else none

mutual

/-- A value at the start of a text without leading blanks, and the text after it. The first
argument bounds the nesting, the second the number of steps. -/
def readValue? (depth : Nat) : Nat → List Char → Option (Json × List Char)
  | 0, _ => none
  | _ + 1, [] => none
  | fuel + 1, c :: rest =>
    if c = '"' then
      (stringBody? (rest.length + 1) rest).map fun (s, r) => (.str (String.ofList s), r)
    else if c = '[' then
      match depth with
      | 0 => none
      | depth + 1 =>
        match skipSpace rest with
        | ']' :: after => some (.arr [], after)
        | more => (readItems? depth fuel more).map fun (xs, r) => (.arr xs, r)
    else if c = '\x7b' then
      match depth with
      | 0 => none
      | depth + 1 =>
        match skipSpace rest with
        | '\x7d' :: after => some (.obj [], after)
        | more => (readEntries? depth fuel more).map fun (es, r) => (.ofEntries es, r)
    else if c = '-' then unsignedNumber? true rest
    else if c = 't' then (afterWord? "rue".toList rest).map fun r => (.bool true, r)
    else if c = 'f' then (afterWord? "alse".toList rest).map fun r => (.bool false, r)
    else if c = 'n' then (afterWord? "ull".toList rest).map fun r => (.null, r)
    else unsignedNumber? false (c :: rest)

/-- The items of a list up to its closing bracket. -/
def readItems? (depth : Nat) : Nat → List Char → Option (List Json × List Char)
  | 0, _ => none
  | fuel + 1, cs => do
    let (x, rest) ← readValue? depth fuel cs
    match skipSpace rest with
    | ']' :: after => some ([x], after)
    | ',' :: more =>
      let (xs, after) ← readItems? depth fuel (skipSpace more)
      some (x :: xs, after)
    | _ => none

/-- The entries of an object up to its closing brace. -/
def readEntries? (depth : Nat) : Nat → List Char → Option (List (String × Json) × List Char)
  | 0, _ => none
  | fuel + 1, cs =>
    match cs with
    | '"' :: rest => do
      let (key, rest) ← stringBody? (rest.length + 1) rest
      match skipSpace rest with
      | ':' :: rest =>
        let (x, rest) ← readValue? depth fuel (skipSpace rest)
        match skipSpace rest with
        | '\x7d' :: after => some ([(String.ofList key, x)], after)
        | ',' :: more =>
          let (es, after) ← readEntries? depth fuel (skipSpace more)
          some ((String.ofList key, x) :: es, after)
        | _ => none
      | _ => none
    | _ => none

end

/-- The tree that a whole text denotes. -/
def ofText? (text : String) : Option Json :=
  let cs := skipSpace text.toList
  match readValue? 127 (cs.length + 1) cs with
  | some (j, rest) => if (skipSpace rest).isEmpty then some j else none
  | none => none

end Json

end FleetConsole
