import FleetConsole.Proofs.Json.Lookup
import FleetConsole.Proofs.Record.Outcome
import FleetConsole.Record.Record
import Mathlib.Data.List.Induction

/-!
# What a record shows of an object

A record is read entry by entry, each into the field that its key names. So what can be seen of the
record in one place depends on the last entry of one key only, if no other field writes to that
place (`Record.Shows.read`).
-/

namespace FleetConsole

variable {σ α π : Type}

/-- Reading a field never changes what can be seen of a record in some place. -/
def Field.Keeps (f : Field σ) (view : σ → π) : Prop :=
  ∀ j s s', f.read j s = .ok s' → view s' = view s

namespace Field

@[simp]
theorem plain_key (key : String) (c : Codec α) (get : σ → α) (set : α → σ → σ) :
    (plain key c get set).key = key := rfl

@[simp]
theorem optional_key (key : String) (c : Codec α) (get : σ → Option α) (set : Option α → σ → σ) :
    (optional key c get set).key = key := rfl

/-- A field that is always written keeps what setting it does not touch. -/
theorem keeps_plain {key : String} {c : Codec α} {get : σ → α} {set : α → σ → σ} {view : σ → π}
    (h : ∀ v s, view (set v s) = view s) : (plain key c get set).Keeps view := by
  intro j s s' hread
  obtain ⟨v, -, rfl⟩ := map_eq_ok_iff.mp hread
  exact h v s

/-- Reading an optional field sets it, to nothing if the tree is null. -/
theorem read_optional {key : String} {c : Codec α} {get : σ → Option α} {set : Option α → σ → σ}
    {j : Json} {s s' : σ} (hread : (optional key c get set).read j s = .ok s') :
    (j = .null ∧ s' = set none s) ∨ ∃ v, c.read j = .ok v ∧ s' = set (some v) s := by
  simp only [optional] at hread
  split at hread
  · exact .inl ⟨rfl, by simpa using hread.symm⟩
  · obtain ⟨v, hv, rfl⟩ := map_eq_ok_iff.mp hread
    exact .inr ⟨v, hv, rfl⟩

/-- An optional field keeps what setting it does not touch. -/
theorem keeps_optional {key : String} {c : Codec α} {get : σ → Option α}
    {set : Option α → σ → σ} {view : σ → π} (h : ∀ v s, view (set v s) = view s) :
    (optional key c get set).Keeps view := by
  intro j s s' hread
  obtain ⟨-, rfl⟩ | ⟨v, -, rfl⟩ := read_optional hread
  · exact h none s
  · exact h (some v) s

end Field

namespace Record

/-- A view of the records of a type shows the value of one key: reading the field of the key makes
the view what `seen` says of the tree, and every other field keeps it. -/
structure Shows (r : Record σ) (key : String) (view : σ → π) (seen : Json → π) : Prop where
  own : ∃ f, r.fields.find? (·.key = key) = some f ∧
    ∀ j s s', f.read j s = .ok s' → view s' = seen j
  others : ∀ f ∈ r.fields, f.key ≠ key → f.Keeps view

/-- One more entry changes what is shown only if it has the key that is shown. -/
theorem Shows.readEntry {r : Record σ} {key : String} {view : σ → π} {seen : Json → π}
    (h : r.Shows key view seen) {s s' : σ} {e : String × Json}
    (hread : r.readEntry s e = .ok s') : view s' = if key = e.1 then seen e.2 else view s := by
  unfold Record.readEntry at hread
  by_cases hkey : key = e.1
  · rw [if_pos hkey]
    obtain ⟨f, hfind, hown⟩ := h.own
    simp only [← hkey, hfind] at hread
    exact hown e.2 s s' hread
  · rw [if_neg hkey]
    cases hfind : r.fields.find? (·.key = e.1) with
    | none =>
      simp only [hfind] at hread
      exact congrArg view (Except.ok.inj hread).symm
    | some f =>
      simp only [hfind] at hread
      have hf : f.key = e.1 := by simpa using List.find?_some hfind
      exact h.others f (List.mem_of_find?_eq_some hfind) (fun e' => hkey (e' ▸ hf)) e.2 s s' hread

/-- What a record shows of an object is decided by the last entry of the key, or by the blank record
if there is no such entry. -/
theorem Shows.read {r : Record σ} {key : String} {view : σ → π} {seen : Json → π}
    (h : r.Shows key view seen) {entries : List (String × Json)} {s : σ}
    (hread : r.read (.obj entries) = .ok s) :
    view s = (((Json.obj entries).get? key).map seen).getD (view r.blank) := by
  -- By induction from the end, since the last entry of a key is the one that counts.
  induction entries using List.reverseRecOn generalizing s with
  | nil =>
    obtain rfl : r.blank = s := Except.ok.inj hread
    rfl
  | append_singleton es e ih =>
    simp only [Record.read, List.foldlM_append, List.foldlM_cons, List.foldlM_nil, bind_pure,
      bind_eq_ok_iff] at hread
    obtain ⟨t, hfirst, hlast⟩ := hread
    rw [h.readEntry hlast, Json.get?_obj_concat]
    by_cases hkey : key = e.1
    · rw [if_pos hkey, if_pos hkey]
      rfl
    · rw [if_neg hkey, if_neg hkey]
      exact ih hfirst

/-- A record that is never written as a list is read from an object. -/
theorem object_of_read {r : Record σ} (hlist : r.listForm = false) {j : Json} {s : σ}
    (hread : r.read j = .ok s) : ∃ entries, j = .obj entries := by
  cases j with
  | obj entries => exact ⟨entries, rfl⟩
  | arr xs => simp [Record.read, hlist] at hread
  | _ => simp [Record.read] at hread

/-- What a part of a record shows, the record shows too, if the part is read by one field. -/
theorem Shows.of_part {ρ : Type} {r : Record σ} {part : Record ρ} {key key' : String}
    {get : σ → ρ} {set : ρ → σ → σ} {view : ρ → π} {seen : Json → π}
    (h : part.Shows key' view seen) (hlist : part.listForm = false)
    (hown : r.fields.find? (·.key = key) = some (.plain key part.codec get set))
    (hset : ∀ v s, get (set v s) = v) (hothers : ∀ f ∈ r.fields, f.key ≠ key → f.Keeps get) :
    r.Shows key (view ∘ get) fun j => ((j.get? key').map seen).getD (view part.blank) where
  own := by
    -- A tree that is read as the part is an object, so what the part shows of it is known.
    refine ⟨_, hown, fun j s s' hread => ?_⟩
    obtain ⟨v, hv, rfl⟩ := map_eq_ok_iff.mp hread
    obtain ⟨entries, rfl⟩ := object_of_read hlist hv
    rw [Function.comp_apply, hset]
    exact h.read hv
  others f hf hkey j s s' hread := congrArg view (hothers f hf hkey j s s' hread)

end Record

end FleetConsole
