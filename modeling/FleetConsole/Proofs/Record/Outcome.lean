import Mathlib.Data.List.Forall2

/-!
# Outcomes

A computation that may fail gives a value or an error. These lemmas take sequences of computations
apart: what a value of the whole says about the steps, and which step an error comes from.
-/

namespace FleetConsole

variable {ε α β : Type}

/-- A sequence of two computations has a value if both have one. -/
theorem bind_eq_ok_iff {x : Except ε α} {f : α → Except ε β} {b : β} :
    (x >>= f) = .ok b ↔ ∃ a, x = .ok a ∧ f a = .ok b := by
  cases x <;> simp [bind, Except.bind]

/-- A sequence of two computations fails if one of them does. -/
theorem bind_eq_error_iff {x : Except ε α} {f : α → Except ε β} {e : ε} :
    (x >>= f) = .error e ↔ x = .error e ∨ ∃ a, x = .ok a ∧ f a = .error e := by
  cases x <;> simp [bind, Except.bind]

/-- A changed value comes from a value. -/
theorem map_eq_ok_iff {x : Except ε α} {f : α → β} {b : β} :
    x.map f = .ok b ↔ ∃ a, x = .ok a ∧ f a = b := by
  cases x <;> simp [Except.map]

/-- Changing the value does not change the error. -/
theorem map_eq_error_iff {x : Except ε α} {f : α → β} {e : ε} :
    x.map f = .error e ↔ x = .error e := by
  cases x <;> simp [Except.map]

/-- Changing the error does not change the value. -/
theorem mapError_eq_ok_iff {ε' : Type} {x : Except ε α} {f : ε → ε'} {a : α} :
    x.mapError f = .ok a ↔ x = .ok a := by
  cases x <;> simp [Except.mapError]

/-- Behind a condition under which it fails, a computation has a value if the condition is not met.
-/
theorem guard_eq_ok_iff {c : Prop} [Decidable c] {e : ε} {rest : PUnit → Except ε α} {a : α} :
    (if c then throw e >>= rest else rest ⟨⟩) = .ok a ↔ ¬ c ∧ rest ⟨⟩ = .ok a := by
  split
  · next hc =>
    refine iff_of_false (fun h => ?_) (fun h => h.1 hc)
    cases h
  · next hc => exact ⟨fun h => ⟨hc, h⟩, fun h => h.2⟩

/-- A traversal has a value if every item has one, and then these are its items in order. -/
theorem mapM_eq_ok_iff {f : α → Except ε β} {xs : List α} {ys : List β} :
    xs.mapM f = .ok ys ↔ List.Forall₂ (fun x y => f x = .ok y) xs ys := by
  induction xs generalizing ys with
  | nil =>
    rw [List.mapM_nil, List.forall₂_nil_left_iff]
    exact ⟨fun h => (Except.ok.inj h).symm, fun h => h ▸ rfl⟩
  | cons x xs ih =>
    simp only [List.mapM_cons, bind_eq_ok_iff, List.forall₂_cons_left_iff, ih]
    constructor
    · rintro ⟨y, hy, ys', hys, hcons⟩
      exact ⟨y, ys', hy, hys, (Except.ok.inj hcons).symm⟩
    · rintro ⟨y, ys', hy, hys, rfl⟩
      exact ⟨y, hy, ys', hys, rfl⟩

/-- Changing the values of a traversal is changing each of them. -/
theorem map_mapM {γ : Type} (f : α → Except ε β) (g : β → γ) (xs : List α) :
    (xs.mapM f).map (List.map g) = xs.mapM fun x => (f x).map g := by
  induction xs with
  | nil => rfl
  | cons x xs ih =>
    rw [List.mapM_cons, List.mapM_cons, ← ih]
    cases f x with
    | error e => rfl
    | ok y => cases xs.mapM f <;> rfl

/-- A traversal fails with the error of the first item that has no value. -/
theorem mapM_eq_error_iff {f : α → Except ε β} {xs : List α} {e : ε} :
    xs.mapM f = .error e ↔ ∃ before x after, xs = before ++ x :: after ∧
      (∀ b ∈ before, ∃ y, f b = .ok y) ∧ f x = .error e := by
  induction xs with
  | nil =>
    rw [List.mapM_nil]
    constructor
    · intro h
      cases h
    · rintro ⟨before, x, after, h, -⟩
      cases before <;> cases h
  | cons x xs ih =>
    simp only [List.mapM_cons, bind_eq_error_iff, ih]
    constructor
    · rintro (hx | ⟨y, hy, ⟨before, z, after, rfl, hbefore, hz⟩ | ⟨ys, -, hpure⟩⟩)
      · exact ⟨[], x, xs, rfl, by simp, hx⟩
      · refine ⟨x :: before, z, after, rfl, fun b hb => ?_, hz⟩
        obtain rfl | hb := List.mem_cons.mp hb
        · exact ⟨y, hy⟩
        · exact hbefore b hb
      · cases hpure
    · -- The first item is the one that fails if none comes before it.
      rintro ⟨before, z, after, hxs, hbefore, hz⟩
      cases before with
      | nil =>
        obtain ⟨rfl, rfl⟩ := List.cons.inj hxs
        exact .inl hz
      | cons b before =>
        obtain ⟨rfl, rfl⟩ := List.cons.inj hxs
        obtain ⟨y, hy⟩ := hbefore x List.mem_cons_self
        exact .inr ⟨y, hy, .inl ⟨before, z, after, rfl,
          fun b hb => hbefore b (.tail _ hb), hz⟩⟩

/-- What every step of a fold preserves, the whole fold preserves. -/
theorem foldlM_preserves {P : β → Prop} {f : β → α → Except ε β} {xs : List α}
    (hstep : ∀ x ∈ xs, ∀ b b', P b → f b x = .ok b' → P b') {b b' : β} (hb : P b)
    (h : xs.foldlM f b = .ok b') : P b' := by
  induction xs generalizing b with
  | nil => exact Except.ok.inj h ▸ hb
  | cons x xs ih =>
    rw [List.foldlM_cons] at h
    obtain ⟨b₁, hfirst, hrest⟩ := bind_eq_ok_iff.mp h
    exact ih (fun y hy => hstep y (.tail _ hy)) (hstep x List.mem_cons_self b b₁ hb hfirst) hrest

/-- Where the items of two lists correspond, every item on the right has one on the left. -/
theorem exists_of_forall₂ {R : α → β → Prop} {xs : List α} {ys : List β} (h : List.Forall₂ R xs ys)
    {y : β} (hy : y ∈ ys) : ∃ x ∈ xs, R x y := by
  induction h with
  | nil => cases hy
  | cons hhead _ ih =>
    obtain rfl | htail := List.mem_cons.mp hy
    · exact ⟨_, List.mem_cons_self, hhead⟩
    · obtain ⟨x, hx, hR⟩ := ih htail
      exact ⟨x, .tail _ hx, hR⟩

end FleetConsole
