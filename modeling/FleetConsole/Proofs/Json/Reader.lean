import FleetConsole.Json.Reader
import FleetConsole.Proofs.Json.Ordered

/-!
# Every tree that is read is ordered

The reader puts the entries of each object in order and keeps the last value of a repeated key, so
that whatever it reads is ordered (`isOrdered_of_ofText?`). Values, items and entries are read by
functions that call each other with fewer steps left, and the steps carry the induction.
-/

namespace FleetConsole.Json

/-- A float has no entries. -/
theorem isOrdered_of_scaledFloat? {negative : Bool} {word : Nat} {exponent : Int} {j : Json}
    (h : scaledFloat? negative word exponent = some j) : j.isOrdered := by
  unfold scaledFloat? at h
  repeat' split at h
  all_goals cases h
  all_goals rfl

/-- A number has no entries. -/
theorem isOrdered_of_unsignedNumber? {negative : Bool} {cs rest : List Char} {j : Json}
    (h : unsignedNumber? negative cs = some (j, rest)) : j.isOrdered := by
  unfold unsignedNumber? at h
  extract_lets whole tail value withFraction at h
  -- Whatever the fraction and the exponent are, an integer or a float comes out.
  have hfraction (x) (hx : withFraction x = some (j, rest)) : j.isOrdered := by
    obtain ⟨fraction, more⟩ := x
    dsimp -zeta only [withFraction] at hx
    extract_lets withExponent at hx
    have hexponent (y) (hy : withExponent y = some (j, rest)) : j.isOrdered := by
      dsimp only [withExponent] at hy
      split at hy
      · cases hy
        rfl
      · obtain ⟨z, hz, hrest⟩ := Option.bind_eq_some_iff.mp hy
        cases hrest
        exact isOrdered_of_scaledFloat? hz
    clear_value withExponent
    split at hx
    · split at hx
      · split at hx
        all_goals
          dsimp -zeta only at hx
          extract_lets digits at hx
          split at hx
          · cases hx
          · exact hexponent _ hx
      · exact hexponent _ hx
    · exact hexponent _ hx
  clear_value withFraction tail
  split at h
  · cases h
  · split at h
    · extract_lets ds at h
      split at h
      · cases h
      · exact hfraction _ h
    · exact hfraction _ h

/-- Whatever is read in at most so many steps is ordered. -/
structure ReadsOrdered (fuel : Nat) : Prop where
  value : ∀ {depth cs j rest}, readValue? depth fuel cs = some (j, rest) → j.isOrdered
  items : ∀ {depth cs xs rest}, readItems? depth fuel cs = some (xs, rest) → ∀ x ∈ xs, x.isOrdered
  entries : ∀ {depth cs es rest}, readEntries? depth fuel cs = some (es, rest) →
    ∀ e ∈ es, e.2.isOrdered

namespace ReadsOrdered

variable {fuel depth : Nat} {cs rest : List Char}

/-- A value is ordered if what it consists of is. -/
theorem value_succ (h : ReadsOrdered fuel) {j : Json}
    (hread : readValue? depth (fuel + 1) cs = some (j, rest)) : j.isOrdered := by
  cases cs with
  | nil => cases hread
  | cons c cs =>
    unfold readValue? at hread
    split at hread
    · obtain ⟨s, -, heq⟩ := Option.map_eq_some_iff.mp hread
      cases heq
      rfl
    · split at hread
      · split at hread
        · cases hread
        · split at hread
          · cases hread
            rfl
          · obtain ⟨⟨xs, r⟩, hxs, heq⟩ := Option.map_eq_some_iff.mp hread
            cases heq
            exact isOrdered_arr.mpr (h.items hxs)
      · split at hread
        · split at hread
          · cases hread
          · split at hread
            · cases hread
              rfl
            · obtain ⟨⟨es, r⟩, hes, heq⟩ := Option.map_eq_some_iff.mp hread
              cases heq
              exact ofEntries_isOrdered (h.entries hes)
        · repeat' split at hread
          case isTrue => exact isOrdered_of_unsignedNumber? hread
          case isFalse.isFalse.isFalse.isFalse => exact isOrdered_of_unsignedNumber? hread
          all_goals
            obtain ⟨r, -, heq⟩ := Option.map_eq_some_iff.mp hread
            cases heq
            rfl

/-- Items are ordered if the first is, and those after it. -/
theorem items_succ (h : ReadsOrdered fuel) {xs : List Json}
    (hread : readItems? depth (fuel + 1) cs = some (xs, rest)) : ∀ x ∈ xs, x.isOrdered := by
  unfold readItems? at hread
  obtain ⟨⟨x, r⟩, hx, hread⟩ := Option.bind_eq_some_iff.mp hread
  dsimp only at hread
  split at hread
  · cases hread
    exact List.forall_mem_singleton.mpr (h.value hx)
  · obtain ⟨⟨xs, r'⟩, hxs, heq⟩ := Option.bind_eq_some_iff.mp hread
    cases heq
    exact List.forall_mem_cons.mpr ⟨h.value hx, h.items hxs⟩
  · cases hread

/-- Entries have ordered values if the first has, and those after it. -/
theorem entries_succ (h : ReadsOrdered fuel) {es : List (String × Json)}
    (hread : readEntries? depth (fuel + 1) cs = some (es, rest)) : ∀ e ∈ es, e.2.isOrdered := by
  unfold readEntries? at hread
  split at hread
  · obtain ⟨⟨key, r⟩, -, hread⟩ := Option.bind_eq_some_iff.mp hread
    dsimp only at hread
    split at hread
    · obtain ⟨⟨x, r'⟩, hx, hread⟩ := Option.bind_eq_some_iff.mp hread
      dsimp only at hread
      split at hread
      · cases hread
        exact List.forall_mem_singleton.mpr (h.value hx)
      · obtain ⟨⟨es, r''⟩, hes, heq⟩ := Option.bind_eq_some_iff.mp hread
        cases heq
        exact List.forall_mem_cons.mpr ⟨h.value hx, h.entries hes⟩
      · cases hread
    · cases hread
  · cases hread

end ReadsOrdered

/-- Whatever is read is ordered, however many steps it takes. -/
theorem readsOrdered (fuel : Nat) : ReadsOrdered fuel := by
  induction fuel with
  | zero => exact ⟨nofun, nofun, nofun⟩
  | succ fuel ih => exact ⟨ih.value_succ, ih.items_succ, ih.entries_succ⟩

/-- The tree of a text is ordered. -/
theorem isOrdered_of_ofText? {text : String} {j : Json} (h : ofText? text = some j) :
    j.isOrdered := by
  unfold ofText? at h
  extract_lets cs at h
  split at h
  · next hread =>
    split at h
    · cases h
      exact (readsOrdered _).value hread
    · cases h
  · cases h

end FleetConsole.Json
