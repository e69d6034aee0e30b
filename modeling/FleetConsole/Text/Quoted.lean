import FleetConsole.Text.Extending
import FleetConsole.Text.Ranges
import FleetConsole.Text.Unprintable

/-!
# Quoted text in messages

A message shows a name in double quotes and so that every character can be seen: the quote and the
backslash are escaped, the usual controls by a letter, and a character without a visible form or
one that would merge with its neighbour by its code point in braces.
-/

namespace FleetConsole

namespace Text

/-- An escape by code point: hexadecimal digits in braces. -/
def codePointEscape (c : Char) : List Char :=
  '\\' :: 'u' :: '\x7b' :: (Nat.toDigits 16 c.toNat ++ ['\x7d'])

/-- One character as it appears between quotes. -/
def quotedChar (c : Char) : List Char :=
  if c = '"' then ['\\', '"']
  else if c = '\\' then ['\\', '\\']
  else if c = '\n' then ['\\', 'n']
  else if c = '\r' then ['\\', 'r']
  else if c = '\t' then ['\\', 't']
  else if c.toNat = 0 then ['\\', '0']
  else if 32 ≤ c.toNat ∧ c.toNat < 127 then [c]
  else if inSortedRanges extending c.toNat || inSortedRanges unprintable c.toNat then
    codePointEscape c
  else [c]

/-- A string in quotes, as messages show it. -/
def quoted (s : String) : String :=
  String.ofList ('"' :: s.toList.flatMap quotedChar ++ ['"'])

end Text

end FleetConsole
