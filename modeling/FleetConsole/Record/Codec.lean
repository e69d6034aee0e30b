import FleetConsole.Json.Basic
import FleetConsole.Json.Text
import FleetConsole.Text.Quoted
import FleetConsole.Time.Reader

/-!
# Typed reading and writing of trees

A codec reads a tree as a value of a type or says why the tree does not fit, and writes values as
trees. The codecs here are those of the single values that resource fields hold, and of lists and
maps of them.
-/

namespace FleetConsole

/-- Why a tree does not fit a type. -/
inductive Misfit where
  /-- The tree is of another shape than the expected one. -/
  | shape (found : Json) (expected : String)
  /-- The integer does not fit the expected width. -/
  | range (found : Int) (expected : String)
  /-- The list has more items than the record has fields. -/
  | tooLong (length : Nat)
  /-- The text is no time. -/
  | time (error : TimeError)
deriving DecidableEq

/-- How a message names a tree that was not expected: a single value with its text, a collection
only by its shape. -/
def Json.described : Json → String
  | null => "null"
  | bool b => "boolean \x60" ++ (if b then "true" else "false") ++ "\x60"
  | int n => "integer \x60" ++ toString n ++ "\x60"
  | float x => "floating point \x60" ++ x.jsonText ++ "\x60"
  | str s => "string " ++ Text.quoted s
  | arr _ => "sequence"
  | obj _ => "map"

/-- The wording of a misfit. -/
def Misfit.message : Misfit → String
  | shape found expected => "invalid type: " ++ found.described ++ ", expected " ++ expected
  | range found expected =>
    "invalid value: integer \x60" ++ toString found ++ "\x60, expected " ++ expected
  | tooLong length =>
    "invalid length " ++ toString length ++ ", expected fewer elements in array"
  | time error => error.message

/-- Reads and writes the values of one type. -/
structure Codec (α : Type) where
  read : Json → Except Misfit α
  write : α → Json

namespace Codec

/-- Any tree, as it is. -/
def tree : Codec Json := ⟨.ok, id⟩

/-- A text. -/
def string : Codec String where
  read
    | .str s => .ok s
    | j => .error (.shape j "a string")
  write := .str

/-- A truth value. -/
def bool : Codec Bool where
  read
    | .bool b => .ok b
    | j => .error (.shape j "a boolean")
  write := .bool

/-- An integer between two bounds, of the type that messages call `name`. -/
def intBetween (least greatest : Int) (name : String) : Codec Int where
  read
    | .int n => if least ≤ n ∧ n ≤ greatest then .ok n else .error (.range n name)
    | j => .error (.shape j name)
  write := .int

/-- An integer of 64 bits. -/
def int64 : Codec Int := intBetween Json.minInt64 Json.maxInt64 "i64"

/-- An integer of 32 bits. -/
def int32 : Codec Int := intBetween (-2147483648) 2147483647 "i32"

/-- An instant, written with whole seconds. -/
def instant : Codec Instant where
  read
    | .str s =>
      match Instant.ofText s with
      | .ok t => .ok t
      | .error e => .error (.time e)
    | j => .error (.shape j "an RFC 3339 formatted date and time string")
  write t := .str t.wholeText

variable {α : Type}

/-- A list of values. -/
def list (c : Codec α) : Codec (List α) where
  read
    | .arr xs => xs.mapM c.read
    | j => .error (.shape j "a sequence")
  write xs := .arr (xs.map c.write)

/-- A map from texts to values, in the order of the keys. -/
def map (c : Codec α) : Codec (List (String × α)) where
  read
    | .obj es => es.mapM fun e => (c.read e.2).map fun v => (e.1, v)
    | j => .error (.shape j "a map")
  write es := .ofEntries (es.map fun e => (e.1, c.write e.2))

/-- A value for which null stands too. -/
def orNull (c : Codec α) (default : α) : Codec α where
  read
    | .null => .ok default
    | j => c.read j
  write := c.write

end Codec

end FleetConsole
