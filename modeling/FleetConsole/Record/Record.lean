import FleetConsole.Record.Codec

/-!
# Records

A record type is described by its fields: the key of each, how a value under that key changes a
record, and what the record writes under it. Reading starts from a blank record and takes the
entries of an object in their order, so the first entry that does not fit decides the error;
unknown keys are passed over and absent fields stay blank. A record may also be a list of its
fields in their order, with fields missing at the end.
-/

namespace FleetConsole

/-- A field of the record type `σ`. -/
structure Field (σ : Type) where
  key : String
  /-- The record with the field read from a tree. -/
  read : Json → σ → Except Misfit σ
  /-- What is written under the key, if anything. -/
  write : σ → Option Json

namespace Field

variable {σ α : Type}

/-- A field that is always written. -/
def plain (key : String) (c : Codec α) (get : σ → α) (set : α → σ → σ) : Field σ where
  key := key
  read j s := (c.read j).map fun v => set v s
  write s := some (c.write (get s))

/-- A field that null leaves absent and that is not written while absent. -/
def optional (key : String) (c : Codec α) (get : σ → Option α) (set : Option α → σ → σ) :
    Field σ where
  key := key
  read
    | .null, s => .ok (set none s)
    | j, s => (c.read j).map fun v => set (some v) s
  write s := (get s).map c.write

end Field

/-- A record type. -/
structure Record (σ : Type) where
  /-- How messages call the type. -/
  expected : String
  /-- The record of which no field is given. -/
  blank : σ
  fields : List (Field σ)
  /-- May the record be written as a list of its fields? -/
  listForm : Bool

namespace Record

variable {σ : Type}

/-- The record with one entry of an object read into it. -/
def readEntry (r : Record σ) (s : σ) (e : String × Json) : Except Misfit σ :=
  match r.fields.find? (·.key = e.1) with
  | some f => f.read e.2 s
  | none => .ok s

/-- The record of a list of field values. -/
def readList (r : Record σ) (xs : List Json) : Except Misfit σ := do
  let s ← (r.fields.zip xs).foldlM (fun s p => p.1.read p.2 s) r.blank
  if r.fields.length < xs.length then .error (.tooLong xs.length) else .ok s

/-- The record that a tree holds. -/
def read (r : Record σ) : Json → Except Misfit σ
  | .obj es => es.foldlM r.readEntry r.blank
  | .arr xs => if r.listForm then r.readList xs else .error (.shape (.arr xs) r.expected)
  | j => .error (.shape j r.expected)

/-- The entries that a record writes. -/
def entries (r : Record σ) (s : σ) : List (String × Json) :=
  r.fields.filterMap fun f => (f.write s).map fun j => (f.key, j)

/-- The object that a record writes. -/
def write (r : Record σ) (s : σ) : Json := .ofEntries (r.entries s)

/-- A record as a single value. -/
def codec (r : Record σ) : Codec σ := ⟨r.read, r.write⟩

end Record

end FleetConsole
