import FleetConsole.CommandLine.Grammar

/-!
# Reading the command line

Words are read one by one. A word is a command, an option, the value of the option before it, or a
value of the command; after two dashes it is always a value. An option may be given once at a level,
and where several levels give it the innermost counts.
-/

namespace FleetConsole.CommandLine

/-- What is wrong with a command line. -/
inductive Misuse where
  | unknownOption (word : String)
  | repeated (s : Switch)
  | missingValue (s : Switch)
  /-- The option takes no value. -/
  | surplusValue (s : Switch)
  | unexpected (word : String)
  | conflict (s t : Switch)
  | missingPlace (v : Verb)
  | missingCommand (v : Verb)
deriving DecidableEq, Repr

/-- Why there is nothing to be carried out. -/
inductive Stop where
  | misuse (m : Misuse)
  /-- Help was asked for. -/
  | help (v : Verb)
deriving DecidableEq, Repr

/-- The options given at a level, with their values; an option that takes none has an empty one. -/
abbrev Given := List (Switch × String)

/-- How far a command line has been read. -/
structure Reading where
  verb : Verb := .console
  /-- The options of the levels that have been left, the innermost first. -/
  outer : List Given := []
  given : Given := []
  values : List String := []
  /-- The option whose value is to come. -/
  pending : Option Switch := none
  /-- Are all words to come values? -/
  escaped : Bool := false

namespace Reading

/-- An option is given. -/
def give (r : Reading) (s : Switch) (value : String) : Except Stop Reading :=
  if s = .help then .error (.help r.verb)
  else if (r.given.lookup s).isSome then .error (.misuse (.repeated s))
  else if value = "" ∧ s.value?.isSome ∧ !s.allowsEmpty then .error (.misuse (.missingValue s))
  else .ok { r with given := (s, value) :: r.given, pending := none }

/-- An option is named, perhaps with a value attached. -/
def name (r : Reading) (s : Switch) (attached : Option String) : Except Stop Reading :=
  match s.value?, attached with
  | some _, some value => r.give s value
  | some _, none => .ok { r with pending := some s }
  | none, none => r.give s ""
  | none, some _ => .error (.misuse (.surplusValue s))

/-- A long option, given by what stands after the two dashes. -/
def long (r : Reading) (cs : List Char) : Except Stop Reading :=
  let word := String.ofList (cs.takeWhile (· ≠ '='))
  let attached := match cs.dropWhile (· ≠ '=') with
    | [] => none
    | _ :: value => some (String.ofList value)
  match Switch.all.find? (·.long = word) with
  | some s => r.name s attached
  | none => .error (.misuse (.unknownOption word))

/-- Short options, given by what stands after the dash. The first one that takes a value has the
rest, without a sign of equality before it. -/
def short (r : Reading) : List Char → Except Stop Reading
  | [] => .ok r
  | c :: rest =>
    match Switch.all.find? (·.short? = some c) with
    | none => .error (.misuse (.unknownOption (String.singleton c)))
    | some s =>
      if s.value?.isSome then
        match rest with
        | [] => r.name s none
        | '=' :: value => r.name s (some (String.ofList value))
        | value => r.name s (some (String.ofList value))
      else do (← r.name s none).short rest

/-- A value of the command. -/
def value (r : Reading) (word : String) : Except Stop Reading :=
  if r.values.length < r.verb.places.length then .ok { r with values := r.values ++ [word] }
  else .error (.misuse (.unexpected word))

/-- An option, given by its characters. An option that waits for its value does not get it. -/
def option (r : Reading) (read : Reading → Except Stop Reading) : Except Stop Reading :=
  match r.pending with
  | some s => .error (.misuse (.missingValue s))
  | none => read r

/-- A word that is no command. -/
def word (r : Reading) (w : String) : Except Stop Reading :=
  if r.escaped then r.value w
  else match w.toList with
    | ['-', '-'] => r.option fun r => .ok { r with escaped := true }
    | '-' :: '-' :: cs => r.option (·.long cs)
    | '-' :: c :: cs => r.option (·.short (c :: cs))
    | _ =>
      match r.pending with
      | some s => r.give s w
      | none => r.value w

/-- The level of a command that has been called. -/
def enter (r : Reading) (v : Verb) : Reading where
  verb := v
  outer := r.given :: r.outer

/-- May a word be a command here? -/
def expectsVerb (r : Reading) : Bool := !r.escaped && r.pending.isNone

/-- The command whose help words ask for. -/
def helpAbout (v : Verb) : List String → Stop
  | [] => .help v
  | w :: rest =>
    match v.child? w with
    | some c => helpAbout c rest
    | none => .misuse (.unexpected w)

/-- Reads words. -/
def words (r : Reading) : List String → Except Stop Reading
  | [] => .ok r
  | w :: rest =>
    if r.expectsVerb && !r.verb.children.isEmpty && w == helpWord then
      .error (helpAbout r.verb rest)
    else if let some v := (if r.expectsVerb then r.verb.child? w else none) then
      (r.enter v).words rest
    else
      match r.word w with
      | .ok r => r.words rest
      | .error e => .error e

/-- The levels, the innermost first. -/
def levels (r : Reading) : List Given := r.given :: r.outer

/-- The value of an option, if it is given. -/
def value? (r : Reading) (s : Switch) : Option String := r.levels.findSome? (·.lookup s)

/-- Is an option given? -/
def has (r : Reading) (s : Switch) : Bool := (r.value? s).isSome

/-- Does a level ask for one namespace and for all of them? -/
def conflicts (given : Given) : Bool :=
  (given.lookup .ns).isSome && (given.lookup .allNamespaces).isSome

/-- What is still wrong when all words have been read. -/
def complaint? (r : Reading) : Option Misuse :=
  if let some s := r.pending then some (.missingValue s)
  else if r.verb.needsChild then some (.missingCommand r.verb)
  else if r.values.length < (r.verb.places.filter (·.required)).length then
    some (.missingPlace r.verb)
  else if r.levels.any conflicts then some (.conflict .allNamespaces .ns)
  else none

end Reading

end FleetConsole.CommandLine
