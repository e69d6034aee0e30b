import FleetConsole.Proofs.Record.Read

/-!
# Records read part by part

Each entry of an object is read by itself: whether it fits does not depend on the entries before it
(`Record.exists_read_iff`), and a part of a record that one field stands for is what this field's
codec reads from the last entry of its key (`Record.HasPart.read_part`). So objects that agree under
a key are read as records that agree in its part, whatever else they hold.
-/

namespace FleetConsole

variable {σ α : Type}

/-- Whether a field can be read from a tree does not depend on the record. -/
def Field.Uniform (f : Field σ) : Prop :=
  ∀ j s s', f.read j s = .ok s' → ∀ t, ∃ t', f.read j t = .ok t'

/-- A field that is always written is read whatever the record is. -/
theorem Field.uniform_plain (key : String) (c : Codec α) (get : σ → α) (set : α → σ → σ) :
    (plain key c get set).Uniform := by
  intro j s s' hread t
  obtain ⟨v, hv, -⟩ := map_eq_ok_iff.mp hread
  exact ⟨set v t, map_eq_ok_iff.mpr ⟨v, hv, rfl⟩⟩

/-- An optional field is read whatever the record is. -/
theorem Field.uniform_optional (key : String) (c : Codec α) (get : σ → Option α)
    (set : Option α → σ → σ) : (optional key c get set).Uniform := by
  intro j s s' hread t
  cases j with
  | null => exact ⟨set none t, rfl⟩
  | _ =>
    obtain ⟨v, hv, -⟩ := map_eq_ok_iff.mp hread
    exact ⟨set (some v) t, map_eq_ok_iff.mpr ⟨v, hv, rfl⟩⟩

namespace Record

variable {r : Record σ}

/-- An entry fits a record type: the field of its key, if there is one, can be read from its value.
-/
def Fits (r : Record σ) (e : String × Json) : Prop :=
  ∀ f, r.fields.find? (·.key = e.1) = some f → ∀ s, ∃ s', f.read e.2 s = .ok s'

/-- An entry is read if it fits. -/
theorem exists_readEntry_iff (huniform : ∀ f ∈ r.fields, f.Uniform) {s : σ} {e : String × Json} :
    (∃ s', r.readEntry s e = .ok s') ↔ r.Fits e := by
  unfold readEntry Fits
  cases hfind : r.fields.find? (·.key = e.1) with
  | none => exact ⟨fun _ => nofun, fun _ => ⟨s, rfl⟩⟩
  | some f =>
    have hf := huniform f (List.mem_of_find?_eq_some hfind)
    constructor
    · rintro ⟨s', hread⟩ g hg t
      obtain rfl := Option.some.inj hg
      exact hf e.2 s s' hread t
    · exact fun hfits => hfits f rfl s

/-- An object is read if each of its entries fits. -/
theorem exists_read_iff (huniform : ∀ f ∈ r.fields, f.Uniform) {entries : List (String × Json)} :
    (∃ s, r.read (.obj entries) = .ok s) ↔ ∀ e ∈ entries, r.Fits e := by
  show (∃ s, entries.foldlM r.readEntry r.blank = .ok s) ↔ _
  -- By induction over the entries, for any record to start from.
  generalize r.blank = t
  induction entries generalizing t with
  | nil => exact ⟨fun _ => nofun, fun _ => ⟨t, rfl⟩⟩
  | cons e es ih =>
    rw [List.forall_mem_cons, ← exists_readEntry_iff huniform]
    simp only [List.foldlM_cons, bind_eq_ok_iff]
    constructor
    · rintro ⟨s, t', hfirst, hrest⟩
      exact ⟨⟨t', hfirst⟩, (ih t').mp ⟨s, hrest⟩⟩
    · rintro ⟨⟨t', hfirst⟩, hrest⟩
      obtain ⟨s, hs⟩ := (ih t').mpr hrest
      exact ⟨s, t', hfirst, hs⟩

/-- A part of the records of a type is read under a key by a codec, and nowhere else. -/
structure HasPart (r : Record σ) (key : String) (c : Codec α) (get : σ → α) : Prop where
  own : ∃ set, r.fields.find? (·.key = key) = some (.plain key c get set) ∧
    ∀ v s, get (set v s) = v
  others : ∀ f ∈ r.fields, f.key ≠ key → f.Keeps get

variable {key : String} {c : Codec α} {get : σ → α} {entries : List (String × Json)} {s : σ}

/-- A part is shown under its key. -/
theorem HasPart.shows (h : r.HasPart key c get) :
    r.Shows key get fun j => (c.read j).toOption.getD (get r.blank) where
  own := by
    obtain ⟨set, hfind, hset⟩ := h.own
    refine ⟨_, hfind, fun j s s' hread => ?_⟩
    obtain ⟨v, hv, rfl⟩ := map_eq_ok_iff.mp hread
    rw [hset, hv]
    rfl
  others := h.others

/-- A part of a record that was read is what the codec reads under its key. -/
theorem HasPart.read_part (h : r.HasPart key c get) (huniform : ∀ f ∈ r.fields, f.Uniform)
    (hread : r.read (.obj entries) = .ok s) {j : Json}
    (hj : (Json.obj entries).get? key = some j) : c.read j = .ok (get s) := by
  obtain ⟨set, hfind, -⟩ := h.own
  have hfits := (exists_read_iff huniform).mp ⟨s, hread⟩ _ (Json.mem_of_get? hj)
  obtain ⟨s', hfield⟩ := hfits _ hfind s
  obtain ⟨v, hv, -⟩ := map_eq_ok_iff.mp hfield
  have hsees := h.shows.read hread
  rw [hj, Option.map_some, Option.getD_some, hv] at hsees
  rw [hv, hsees]
  rfl

/-- Objects that agree under the key of a part are read as records that agree in the part. -/
theorem HasPart.congr (h : r.HasPart key c get) (hread : r.read (.obj entries) = .ok s)
    {entries' : List (String × Json)} {s' : σ} (hread' : r.read (.obj entries') = .ok s')
    (hsame : (Json.obj entries').get? key = (Json.obj entries).get? key) : get s' = get s := by
  rw [h.shows.read hread, h.shows.read hread', hsame]

end Record

end FleetConsole
