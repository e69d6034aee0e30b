import FleetConsole.Binary64.Basic

/-!
# Document trees

A resource document, a manifest or a status payload is a tree of the JSON data model. Numbers are
integers or finite binary64 numbers and stay apart: `3` and `3.0` are different trees. The entries
of an object built by `Json.ofEntries` are sorted by key and no key occurs twice, so that two
objects with the same entries are equal however they were written.
-/

namespace FleetConsole

/-- A document tree. -/
inductive Json where
  | null
  | bool (value : Bool)
  | int (value : Int)
  | float (value : Double)
  | str (value : String)
  | arr (items : List Json)
  | obj (entries : List (String × Json))
deriving Inhabited

namespace Json

mutual

/-- Equality of trees is decidable. -/
def decEq : (a b : Json) → Decidable (a = b)
  | null, null => isTrue rfl
  | bool x, bool y => if h : x = y then isTrue (h ▸ rfl) else isFalse (fun e => h (by injection e))
  | int x, int y => if h : x = y then isTrue (h ▸ rfl) else isFalse (fun e => h (by injection e))
  | float x, float y =>
    if h : x = y then isTrue (h ▸ rfl) else isFalse (fun e => h (by injection e))
  | str x, str y => if h : x = y then isTrue (h ▸ rfl) else isFalse (fun e => h (by injection e))
  | arr xs, arr ys =>
    match decEqItems xs ys with
    | isTrue h => isTrue (h ▸ rfl)
    | isFalse h => isFalse (fun e => h (by injection e))
  | obj xs, obj ys =>
    match decEqEntries xs ys with
    | isTrue h => isTrue (h ▸ rfl)
    | isFalse h => isFalse (fun e => h (by injection e))
  | null, bool _ | null, int _ | null, float _ | null, str _ | null, arr _ | null, obj _
  | bool _, null | bool _, int _ | bool _, float _ | bool _, str _ | bool _, arr _ | bool _, obj _
  | int _, null | int _, bool _ | int _, float _ | int _, str _ | int _, arr _ | int _, obj _
  | float _, null | float _, bool _ | float _, int _ | float _, str _ | float _, arr _
  | float _, obj _ | str _, null | str _, bool _ | str _, int _ | str _, float _ | str _, arr _
  | str _, obj _ | arr _, null | arr _, bool _ | arr _, int _ | arr _, float _ | arr _, str _
  | arr _, obj _ | obj _, null | obj _, bool _ | obj _, int _ | obj _, float _ | obj _, str _
  | obj _, arr _ => isFalse nofun

/-- Equality of lists of trees is decidable. -/
def decEqItems : (xs ys : List Json) → Decidable (xs = ys)
  | [], [] => isTrue rfl
  | x :: xs, y :: ys =>
    match decEq x y, decEqItems xs ys with
    | isTrue h, isTrue t => isTrue (h ▸ t ▸ rfl)
    | isFalse h, _ => isFalse (fun e => h (by injection e))
    | _, isFalse t => isFalse (fun e => t (by injection e))
  | [], _ :: _ | _ :: _, [] => isFalse nofun

/-- Equality of entry lists is decidable. -/
def decEqEntries : (xs ys : List (String × Json)) → Decidable (xs = ys)
  | [], [] => isTrue rfl
  | (k, x) :: xs, (l, y) :: ys =>
    if hk : k = l then
      match decEq x y, decEqEntries xs ys with
      | isTrue h, isTrue t => isTrue (hk ▸ h ▸ t ▸ rfl)
      | isFalse h, _ => isFalse (fun e => h (by injection e with e _; injection e))
      | _, isFalse t => isFalse (fun e => t (by injection e))
    else isFalse (fun e => hk (by injection e with e _; injection e))
  | [], _ :: _ | _ :: _, [] => isFalse nofun

end

instance : DecidableEq Json := decEq

/-- Entries with one key set: the key keeps its place in the order, a present value is replaced. -/
def insertEntry (key : String) (value : Json) :
    List (String × Json) → List (String × Json)
  | [] => [(key, value)]
  | (k, v) :: rest =>
    if key < k then (key, value) :: (k, v) :: rest
    else if key = k then (key, value) :: rest
    else (k, v) :: insertEntry key value rest

/-- The object of a list of entries; the last entry of a key counts. -/
def ofEntries (entries : List (String × Json)) : Json :=
  obj (entries.foldl (fun acc e => insertEntry e.1 e.2 acc) [])

/-- The value under a key, if the tree is an object that has it. If the entries have the key more
than once, the last one counts. -/
def get? (key : String) : Json → Option Json
  | obj entries => entries.reverse.lookup key
  | _ => none

/-- The value at the end of a path of keys through nested objects. -/
def path? : List String → Json → Option Json
  | [], j => some j
  | key :: rest, j => (j.get? key).bind (path? rest)

/-- The text of a string tree. -/
def string? : Json → Option String
  | str s => some s
  | _ => none

/-- The items of a list. -/
def items? : Json → Option (List Json)
  | arr xs => some xs
  | _ => none

/-- The entries of an object. -/
def entries? : Json → Option (List (String × Json))
  | obj es => some es
  | _ => none

/-- Is the tree an object? -/
def isObject : Json → Bool
  | obj _ => true
  | _ => false

/-- The least integer that a field of 64 bits with a sign can hold. -/
def minInt64 : Int := -9223372036854775808

/-- The greatest integer that a field of 64 bits with a sign can hold. -/
def maxInt64 : Int := 9223372036854775807

/-- The greatest integer of 64 bits without sign. -/
def maxUInt64 : Int := 18446744073709551615

/-- The nearest integer of 64 bits with a sign. -/
def clampInt64 (n : Int) : Int := max minInt64 (min maxInt64 n)

/-- A number as an integer of 64 bits: an integer, or a float without fractional part, since
encoders disagree about the two; what lies beyond the range is clamped. -/
def int64? : Json → Option Int
  | int n => some (clampInt64 n)
  | float x => x.toInt?.map clampInt64
  | _ => none

/-- A number as a binary64 number. -/
def double? : Json → Option Double
  | int n => some (Binary64.doubleOfInt n)
  | float x => some x
  | _ => none

/-- The text at the end of a path. -/
def stringAt? (path : List String) (j : Json) : Option String :=
  (j.path? path).bind string?

/-- The text at the end of a path, empty if there is none. -/
def stringAt (path : List String) (j : Json) : String :=
  (j.stringAt? path).getD ""

/-- The integer at the end of a path. -/
def int64At? (path : List String) (j : Json) : Option Int :=
  (j.path? path).bind int64?

/-- The number at the end of a path. -/
def doubleAt? (path : List String) (j : Json) : Option Double :=
  (j.path? path).bind double?

/-- The name that a document carries in its metadata, empty if it has none. -/
def metadataName (j : Json) : String := j.stringAt ["metadata", "name"]

/-- The namespace that a document carries in its metadata, empty if it has none. -/
def metadataNamespace (j : Json) : String := j.stringAt ["metadata", "namespace"]

/-- The kind that a document states, empty if it states none. -/
def kindText (j : Json) : String := j.stringAt ["kind"]

end Json

end FleetConsole
