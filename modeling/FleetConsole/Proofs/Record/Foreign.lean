import FleetConsole.Proofs.Record.Read
import Mathlib.Logic.Relation

/-!
# Foreign keys

A record type knows the keys of its fields and passes over all others. `Codec.Inserts` says that a
tree is another one with one foreign key more, in a record object at any depth: in the record
itself, in the value of one of its fields, or in an item of a list of records. What is inside of a
single value, of a map or of an opaque payload belongs to no record, so nothing is inserted there.

A codec reads both trees alike, whether they fit or not (`Codec.Inserts.read_eq`), and a path of
keys that matter to the codec leads to the same text in both (`Codec.Inserts.text_eq`).
-/

namespace FleetConsole

variable {σ α : Type}

/-- A field reads its value with a codec. -/
inductive Field.ReadsWith (f : Field σ) (c : Codec α) : Prop
  | plain (get : σ → α) (set : α → σ → σ) (h : f = .plain f.key c get set)
  | optional (get : σ → Option α) (set : Option α → σ → σ) (h : f = .optional f.key c get set)

/-- A tree with one key inserted that the record type does not know, into one of the record objects
that a codec reads. -/
inductive Codec.Inserts : {α : Type} → Codec α → Json → Json → Prop
  /-- The record object gets an entry under a key of none of its fields. -/
  | entry {σ : Type} (r : Record σ) (before after : List (String × Json)) {key : String}
      (hkey : r.fields.find? (·.key = key) = none) (value : Json) :
      Inserts r.codec (.obj (before ++ after)) (.obj (before ++ (key, value) :: after))
  /-- The key is inserted in the value of a field. -/
  | field {σ α : Type} (r : Record σ) (before after : List (String × Json)) {key : String}
      {f : Field σ} (hf : r.fields.find? (·.key = key) = some f) {c : Codec α}
      (hc : f.ReadsWith c) {x y : Json} (h : Inserts c x y) :
      Inserts r.codec (.obj (before ++ (key, x) :: after)) (.obj (before ++ (key, y) :: after))
  /-- The key is inserted in the value of a field of a record that is written as a list. -/
  | position {σ α : Type} (r : Record σ) (hlist : r.listForm) (before after : List Json)
      {f : Field σ} (hf : r.fields[before.length]? = some f) {c : Codec α}
      (hc : f.ReadsWith c) {x y : Json} (h : Inserts c x y) :
      Inserts r.codec (.arr (before ++ x :: after)) (.arr (before ++ y :: after))
  /-- The key is inserted in an item of a list. -/
  | item {α : Type} (c : Codec α) (before after : List Json) {x y : Json} (h : Inserts c x y) :
      Inserts (.list c) (.arr (before ++ x :: after)) (.arr (before ++ y :: after))

namespace Codec.Inserts

variable {c : Codec α} {x y : Json}

/-- Nothing is inserted into null, and null is not what comes of it. -/
theorem ne_null (h : Inserts c x y) : x ≠ .null ∧ y ≠ .null := by
  cases h <;> exact ⟨nofun, nofun⟩

/-- Only what is no text gets a key, and it does not become a text. -/
theorem string?_eq_none (h : Inserts c x y) : x.string? = none ∧ y.string? = none := by
  cases h <;> exact ⟨rfl, rfl⟩

/-- An object stays an object, and what is none becomes none. -/
theorem isObject_eq (h : Inserts c x y) : y.isObject = x.isObject := by
  cases h <;> rfl

end Codec.Inserts

/-- Two trees other than null that a codec reads alike are read alike by a field of the codec. -/
theorem Field.ReadsWith.read_congr {f : Field σ} {c : Codec α} (hf : f.ReadsWith c) {x y : Json}
    (hx : x ≠ .null) (hy : y ≠ .null) (h : c.read y = c.read x) (s : σ) :
    f.read y s = f.read x s := by
  obtain ⟨get, set, hf⟩ | ⟨get, set, hf⟩ := hf
  · rw [hf]
    simp only [Field.plain, h]
  · have hread {j : Json} (hj : j ≠ .null) :
        (Field.optional f.key c get set).read j s = (c.read j).map fun v => set (some v) s := by
      cases j with
      | null => exact absurd rfl hj
      | _ => rfl
    rw [hf, hread hx, hread hy, h]

namespace Record

variable {r : Record σ}

/-- An entry under a foreign key is passed over. -/
theorem readEntry_of_foreign {key : String} (hkey : r.fields.find? (·.key = key) = none)
    (value : Json) (s : σ) : r.readEntry s (key, value) = .ok s := by
  rw [readEntry]
  dsimp only
  rw [hkey]

/-- An entry is read into the field of its key. -/
theorem readEntry_of_field {key : String} {f : Field σ}
    (hf : r.fields.find? (·.key = key) = some f) (value : Json) (s : σ) :
    r.readEntry s (key, value) = f.read value s := by
  rw [readEntry]
  dsimp only
  rw [hf]

/-- An object with one entry is read into the blank record. -/
theorem read_single (r : Record σ) (e : String × Json) :
    r.read (.obj [e]) = r.readEntry r.blank e := by
  show [e].foldlM r.readEntry r.blank = _
  rw [List.foldlM_cons]
  cases r.readEntry r.blank e <;> rfl

/-- Entries that are read alike may be exchanged. -/
theorem read_obj_congr {e e' : String × Json} (h : ∀ s, r.readEntry s e' = r.readEntry s e)
    (before after : List (String × Json)) :
    r.read (.obj (before ++ e' :: after)) = r.read (.obj (before ++ e :: after)) := by
  simp only [read, List.foldlM_append, List.foldlM_cons, h]

/-- Values that a field reads alike may be exchanged where a record is a list. -/
theorem readList_congr {before : List Json} {f : Field σ}
    (hf : r.fields[before.length]? = some f) {x y : Json} (h : ∀ s, f.read y s = f.read x s)
    (after : List Json) :
    r.readList (before ++ y :: after) = r.readList (before ++ x :: after) := by
  -- The fields are cut where the list of values is, so that the two fields stand side by side.
  obtain ⟨hlt, hget⟩ := List.getElem?_eq_some_iff.mp hf
  have hfields : r.fields =
      r.fields.take before.length ++ f :: r.fields.drop (before.length + 1) := by
    rw [← hget, List.getElem_cons_drop, List.take_append_drop]
  have hlength : (r.fields.take before.length).length = before.length :=
    List.length_take_of_le (Nat.le_of_lt hlt)
  have hzip (z : Json) : r.fields.zip (before ++ z :: after) =
      (r.fields.take before.length).zip before ++
        (f, z) :: (r.fields.drop (before.length + 1)).zip after := by
    conv => lhs; rw [hfields]
    rw [List.zip_append hlength, List.zip_cons_cons]
  simp only [readList, hzip, List.foldlM_append, List.foldlM_cons, h, List.length_append,
    List.length_cons]

end Record

/-- A codec reads a tree and the tree with a foreign key alike: as the same value, or with the same
misfit. -/
theorem Codec.Inserts.read_eq {c : Codec α} {x y : Json} (h : c.Inserts x y) :
    c.read y = c.read x := by
  -- By induction on the way to the record object that gets the key.
  induction h with
  | entry r before after hkey value =>
    simp only [Record.codec, Record.read, List.foldlM_append, List.foldlM_cons,
      Record.readEntry_of_foreign hkey]
    rfl
  | field r before after hf hc h ih =>
    refine Record.read_obj_congr (fun s => ?_) before after
    rw [Record.readEntry_of_field hf, Record.readEntry_of_field hf]
    exact hc.read_congr h.ne_null.1 h.ne_null.2 ih s
  | position r hlist before after hf hc h ih =>
    simp only [Record.codec, Record.read, hlist, if_true]
    exact Record.readList_congr hf (hc.read_congr h.ne_null.1 h.ne_null.2 ih) after
  | item c before after h ih =>
    simp only [Codec.list, List.mapM_append, List.mapM_cons, ih]

/-! ## Paths of known keys -/

/-- A tree at the end of a path, through objects that hold nothing else. -/
def Json.nested : List String → Json → Json
  | [], j => j
  | key :: rest, j => .obj [(key, nested rest j)]

/-- A path of keys matters to a codec: it reads a text at the end of the path otherwise than the
same objects with nothing in the last one. -/
def Codec.Knows (c : Codec α) (path : List String) (key : String) : Prop :=
  c.read (.nested path (.obj [(key, .str "")])) ≠ c.read (.nested path (.obj []))

namespace Json

/-- What comes under another key does not matter to what a key finds. -/
theorem get?_obj_insert {key key' : String} (hne : key' ≠ key) (value : Json)
    (before after : List (String × Json)) :
    (obj (before ++ (key', value) :: after)).get? key = (obj (before ++ after)).get? key := by
  have hlookup : List.lookup key [(key', value)] = none := by
    rw [lookup_cons_if, if_neg hne.symm, List.lookup_nil]
  simp only [get?, List.reverse_append, List.reverse_cons, List.lookup_append, hlookup,
    Option.or_none]

/-- What a key finds in an object is found after its last entry of the key, or in this entry. -/
theorem get?_obj_replace (key : String) (x y : Json) (before after : List (String × Json)) :
    (obj (before ++ (key, y) :: after)).get? key = (obj (before ++ (key, x) :: after)).get? key ∨
      (obj (before ++ (key, x) :: after)).get? key = some x ∧
        (obj (before ++ (key, y) :: after)).get? key = some y := by
  have hget (z : Json) : (obj (before ++ (key, z) :: after)).get? key =
      (after.reverse.lookup key).or (some z) := by
    have hlookup : List.lookup key [(key, z)] = some z := by rw [lookup_cons_if, if_pos rfl]
    simp only [get?, List.reverse_append, List.reverse_cons, List.lookup_append, hlookup]
    rw [Option.or_assoc, Option.some_or]
  rw [hget, hget]
  cases after.reverse.lookup key with
  | none => exact .inr ⟨rfl, rfl⟩
  | some j => exact .inl rfl

end Json

/-- A record reads nothing from an object with a foreign key only. -/
theorem Record.read_foreign {r : Record σ} {key : String}
    (hkey : r.fields.find? (·.key = key) = none) (value : Json) :
    r.read (.obj [(key, value)]) = r.read (.obj []) := by
  rw [read_single, readEntry_of_foreign hkey]
  rfl

/-- A path of keys that matter leads to the same text in a tree with a foreign key: it ends in both
trees or in neither, and at the same text, if at a text at all. -/
theorem Codec.Inserts.text_eq {c : Codec α} {x y : Json} (h : c.Inserts x y) {path : List String}
    {key : String} (hknows : c.Knows path key) :
    (y.path? (path ++ [key])).map Json.string? = (x.path? (path ++ [key])).map Json.string? := by
  -- By the same induction. The path shortens with every record object that it enters, and what it
  -- leads to inside of a field matters to the codec of the field.
  induction h generalizing path with
  | @entry _ r before after key' hkey value =>
    -- The first key of the path is known, so it is not the one that was inserted.
    have hfirst : ∀ first rest, path ++ [key] = first :: rest → key' ≠ first := by
      rintro first rest hpath rfl
      refine hknows ?_
      cases path with
      | nil =>
        obtain ⟨rfl, -⟩ := List.cons.inj hpath
        exact r.read_foreign hkey _
      | cons p path =>
        obtain ⟨rfl, -⟩ := List.cons.inj hpath
        exact (r.read_foreign hkey _).trans (r.read_foreign hkey _).symm
    cases hpath : path ++ [key] with
    | nil => simp at hpath
    | cons first rest =>
      simp only [Json.path?, Json.get?_obj_insert (hfirst first rest hpath)]
  | @field _ _ r before after key' f hf c' hc x' y' h ih =>
    cases hpath : path ++ [key] with
    | nil => simp at hpath
    | cons first rest =>
      simp only [Json.path?]
      by_cases hkey : key' = first
      · subst hkey
        obtain hsame | ⟨hx, hy⟩ := Json.get?_obj_replace key' x' y' before after
        · rw [hsame]
        · rw [hx, hy, Option.bind_some, Option.bind_some]
          cases path with
          | nil =>
            -- The path ends here, and what gets a key is no text.
            obtain ⟨-, rfl⟩ := List.cons.inj hpath
            simp only [Json.path?, Option.map_some, h.string?_eq_none]
          | cons p path =>
            obtain ⟨rfl, rfl⟩ := List.cons.inj hpath
            refine ih fun hread => hknows ?_
            have hfield := hc.read_congr (by cases path <;> nofun) (by cases path <;> nofun) hread
            refine r.read_obj_congr (fun s => ?_) [] []
            rw [Record.readEntry_of_field hf, Record.readEntry_of_field hf, hfield]
      · rw [Json.get?_obj_insert hkey, Json.get?_obj_insert hkey]
  | position r hlist before after hf hc h ih => cases path <;> rfl
  | item c before after h ih => cases path <;> rfl

end FleetConsole
