import Mathlib.Data.List.TakeWhile

/-!
# Texts with separators

A character cuts a text in two, at its first occurrence or at its last. A part that does not have
the character is found by looking for it, and so both parts are determined by the whole.
-/

namespace FleetConsole

variable {α : Type} [DecidableEq α] {c : α} {xs xs' ys ys' : List α}

/-- Nothing in a part without a separator stops a search for it. -/
theorem forall_ne_of_notMem (h : c ∉ xs) : ∀ x ∈ xs, decide (x ≠ c) = true := by
  intro x hx
  refine decide_eq_true fun e => h ?_
  rw [← e]
  exact hx

/-- What stands before the first separator. -/
theorem takeWhile_ne_append_cons (h : c ∉ xs) : (xs ++ c :: ys).takeWhile (· ≠ c) = xs := by
  rw [List.takeWhile_append_of_pos (forall_ne_of_notMem h)]
  simp

/-- What stands from the first separator on. -/
theorem dropWhile_ne_append_cons (h : c ∉ xs) :
    (xs ++ c :: ys).dropWhile (· ≠ c) = c :: ys := by
  rw [List.dropWhile_append_of_pos (forall_ne_of_notMem h)]
  simp

/-- Without a separator nothing is left. -/
theorem dropWhile_ne_of_notMem (h : c ∉ xs) : xs.dropWhile (· ≠ c) = [] :=
  List.dropWhile_eq_nil_iff.mpr (forall_ne_of_notMem h)

/-- What stands before the first occurrence of a character is determined by the whole, and so is
what stands behind it. -/
theorem append_cons_inj_left (h : c ∉ xs) (h' : c ∉ xs') (e : xs ++ c :: ys = xs' ++ c :: ys') :
    xs = xs' ∧ ys = ys' := by
  have hfirst := congrArg (List.takeWhile (· ≠ c)) e
  rw [takeWhile_ne_append_cons h, takeWhile_ne_append_cons h'] at hfirst
  subst hfirst
  exact ⟨rfl, (List.cons.inj (List.append_cancel_left e)).2⟩

/-- The same from the end: what stands behind the last occurrence of a character. -/
theorem append_cons_inj_right (h : c ∉ ys) (h' : c ∉ ys') (e : xs ++ c :: ys = xs' ++ c :: ys') :
    xs = xs' ∧ ys = ys' := by
  have hrev : ys.reverse ++ c :: xs.reverse = ys'.reverse ++ c :: xs'.reverse := by
    simpa using congrArg List.reverse e
  obtain ⟨hys, hxs⟩ := append_cons_inj_left (by simpa using h) (by simpa using h') hrev
  exact ⟨List.reverse_inj.mp hxs, List.reverse_inj.mp hys⟩

end FleetConsole
