import FleetConsole.Json.Basic
import FleetConsole.Binary64.Shortest

/-!
# Writing a document tree

The compact text of a tree: no blanks, entries in the order of the object, strings escaped only
where the syntax demands it, floats always with a point or an exponent so that they read back as
floats.
-/

namespace FleetConsole

namespace Json

/-- A hexadecimal digit in lower case. -/
def hexDigit (n : Nat) : Char := (Nat.toDigits 16 (n % 16)).headD '0'

/-- A character inside a string: the quote, the backslash and the control characters are escaped,
five of the controls by a letter. -/
def escapeChar (c : Char) : List Char :=
  if c = '"' then ['\\', '"']
  else if c = '\\' then ['\\', '\\']
  else if c = '\n' then ['\\', 'n']
  else if c = '\r' then ['\\', 'r']
  else if c = '\t' then ['\\', 't']
  else if c.toNat = 8 then ['\\', 'b']
  else if c.toNat = 12 then ['\\', 'f']
  else if c.toNat < 32 then
    ['\\', 'u', '0', '0', hexDigit (c.toNat / 16), hexDigit c.toNat]
  else [c]

/-- A string in quotes. -/
def quote (s : String) : String :=
  String.ofList ('"' :: s.toList.flatMap escapeChar ++ ['"'])

mutual

/-- The compact text of a tree. -/
def compact : Json → String
  | null => "null"
  | bool value => if value then "true" else "false"
  | int value => toString value
  | float value => value.jsonText
  | str value => quote value
  | arr items => "[" ++ compactItems items ++ "]"
  | obj entries => "\x7b" ++ compactEntries entries ++ "\x7d"

/-- The items of a list, separated by commas. -/
def compactItems : List Json → String
  | [] => ""
  | [x] => compact x
  | x :: y :: rest => compact x ++ "," ++ compactItems (y :: rest)

/-- The entries of an object, separated by commas. -/
def compactEntries : List (String × Json) → String
  | [] => ""
  | [(k, v)] => quote k ++ ":" ++ compact v
  | (k, v) :: e :: rest => quote k ++ ":" ++ compact v ++ "," ++ compactEntries (e :: rest)

end

end Json

end FleetConsole
