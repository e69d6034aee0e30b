/-!
# Addresses

The syntax of the addresses that a client can send requests to: an absolute path, or a host with an
optional scheme in front of it and a path behind it. Only what decides between an address and no
address is modelled; nothing is decoded.
-/

namespace FleetConsole.Hub.Address

/-- The characters of a path that need no escape. Beyond ASCII everything is let through. -/
def isPathChar (c : Char) : Bool :=
  let n := c.toNat
  n = 0x21 || (0x24 ≤ n && n ≤ 0x3B) || n = 0x3D || (0x40 ≤ n && n ≤ 0x5F) ||
    (0x61 ≤ n && n ≤ 0x7A) || n = 0x7C || 0x7E ≤ n || c = '"' || c = '\x7b' || c = '\x7d'

/-- The characters of a query. -/
def isQueryChar (c : Char) : Bool :=
  let n := c.toNat
  n = 0x21 || (0x24 ≤ n && n ≤ 0x3B) || n = 0x3D || 0x3F ≤ n

/-- The part of an address that is sent: everything before the fragment. -/
def withoutFragment (cs : List Char) : List Char := cs.takeWhile (· ≠ '#')

/-- Is the text a path with an optional query? -/
def isPathAndQuery (cs : List Char) : Bool :=
  let sent := withoutFragment cs
  (sent.takeWhile (· ≠ '?')).all isPathChar && ((sent.dropWhile (· ≠ '?')).drop 1).all isQueryChar

/-- The characters of a host with user and port. -/
def isAuthorityChar (c : Char) : Bool := c.isAlphanum || "!$&'()*+,-.:;=@[]_~%".toList.contains c

/-- The characters of a scheme. -/
def isSchemeChar (c : Char) : Bool := c.isAlphanum || c = '+' || c = '-' || c = '.'

/-- What the characters of an authority add up to. -/
structure Authority where
  /-- Colons since the user or the bracketed address. -/
  colons : Nat := 0
  opened : Bool := false
  closed : Bool := false
  /-- Is there a percent sign outside the user and the bracketed address? -/
  percent : Bool := false
  /-- Was the last character the sign behind the user? -/
  atEnd : Bool := false

/-- One more character of an authority. -/
def Authority.step (a : Authority) (c : Char) : Option Authority :=
  let a := { a with atEnd := c = '@' }
  if !isAuthorityChar c then none
  else if c = ':' then if a.colons < 8 then some { a with colons := a.colons + 1 } else none
  else if c = '[' then if a.percent || a.opened then none else some { a with opened := true }
  else if c = ']' then
    if a.opened && !a.closed then some { a with closed := true, colons := 0, percent := false }
    else none
  else if c = '@' then some { a with colons := 0, percent := false }
  else if c = '%' then some { a with percent := true }
  else some a

/-- Is the text a host with user and port? -/
def isAuthority (cs : List Char) : Bool :=
  match cs.foldlM Authority.step {} with
  | some a => a.opened = a.closed && a.colons ≤ 1 && !a.percent && !a.atEnd
  | none => false

/-- Does a character end an authority? -/
def endsAuthority (c : Char) : Bool := c = '/' || c = '?' || c = '#'

/-- The text behind a scheme, if there is a scheme. -/
def afterScheme? (cs : List Char) : Option (List Char) :=
  match cs.dropWhile isSchemeChar with
  | ':' :: '/' :: '/' :: rest => some rest
  | _ => none

/-- Is the text an address? -/
def isValid (s : String) : Bool :=
  match s.toList with
  | [] => false
  | ['*'] => true
  | '/' :: rest => isPathAndQuery ('/' :: rest)
  | cs =>
    match afterScheme? cs with
    | some rest =>
      let host := rest.takeWhile (!endsAuthority ·)
      !host.isEmpty && isAuthority host && isPathAndQuery (rest.dropWhile (!endsAuthority ·))
    | none => !cs.any endsAuthority && isAuthority cs

end FleetConsole.Hub.Address
