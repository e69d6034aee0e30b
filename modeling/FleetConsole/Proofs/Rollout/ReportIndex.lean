import FleetConsole.Proofs.Json.Lookup
import FleetConsole.Rollout.ReportIndex

/-!
# The last report counts

The index is built by overwriting, one report after the other. `get?_ofReports` says what that comes
to: a key finds the last report that carries it.
-/

namespace FleetConsole

/-- The last item of a list with a property. -/
def IsLast {α : Type} (p : α → Prop) (x : α) (xs : List α) : Prop :=
  p x ∧ ∃ before after, xs = before ++ x :: after ∧ ∀ y ∈ after, ¬p y

/-- Searching from the end finds the last item with a property. -/
theorem find?_reverse_eq_some_iff {α : Type} {p : α → Prop} [DecidablePred p] {x : α}
    {xs : List α} : xs.reverse.find? (p ·) = some x ↔ IsLast p x xs := by
  rw [List.find?_eq_some_iff_append]
  constructor
  · rintro ⟨hx, as, bs, heq, has⟩
    refine ⟨of_decide_eq_true hx, bs.reverse, as.reverse, ?_, fun y hy => ?_⟩
    · rw [← List.reverse_reverse xs, heq]
      simp
    · simpa using has y (List.mem_reverse.mp hy)
  · rintro ⟨hx, before, after, rfl, hafter⟩
    refine ⟨decide_eq_true hx, after.reverse, before.reverse, by simp, fun y hy => ?_⟩
    simpa using hafter y (List.mem_reverse.mp hy)

/-- If an item has a property, then one is the last to have it. -/
theorem exists_isLast {α : Type} {p : α → Prop} [DecidablePred p] {x : α} {xs : List α}
    (hx : x ∈ xs) (hp : p x) : ∃ y, IsLast p y xs := by
  have hsome : (xs.reverse.find? (p ·)).isSome :=
    List.find?_isSome.mpr ⟨x, List.mem_reverse.mpr hx, decide_eq_true hp⟩
  obtain ⟨y, hy⟩ := Option.isSome_iff_exists.mp hsome
  exact ⟨y, find?_reverse_eq_some_iff.mp hy⟩

/-- The last item with a property is one of the items. -/
theorem IsLast.mem {α : Type} {p : α → Prop} {x : α} {xs : List α} (h : IsLast p x xs) :
    x ∈ xs := by
  obtain ⟨-, before, after, rfl, -⟩ := h
  simp

/-- What is the last item with a property, if there is one, is none if there is none. -/
theorem eq_none_of_isLast {α : Type} {p : α → Prop} {o : Option α} {xs : List α}
    (h : ∀ x, o = some x ↔ IsLast p x xs) (hnone : ∀ x ∈ xs, ¬ p x) : o = none := by
  rw [Option.eq_none_iff_forall_ne_some]
  intro x hx
  have hlast := (h x).mp hx
  exact hnone x hlast.mem hlast.1

namespace ReportIndex

/-- Setting an entry changes what its key finds, and nothing else. -/
theorem lookup_setEntry (key k : String) (report : StatusReport)
    (entries : List (String × StatusReport)) :
    (setEntry key report entries).lookup k =
      if k = key then some report else entries.lookup k := by
  induction entries with
  | nil => exact lookup_cons_if k key report []
  | cons entry rest ih =>
    obtain ⟨k', r⟩ := entry
    unfold setEntry
    split
    · next h =>
      subst h
      rw [lookup_cons_if, lookup_cons_if]
      split <;> rfl
    · next h =>
      rw [lookup_cons_if, lookup_cons_if, ih]
      by_cases hk : k = k'
      · rw [if_pos hk, if_pos hk, if_neg fun e => h (e.symm.trans hk)]
      · rw [if_neg hk, if_neg hk]

/-- One more report is found under its key. -/
theorem get?_insert (index : ReportIndex) (report : StatusReport) (key : String) :
    (index.insert report).get? key =
      if key = report.key then some report else index.get? key :=
  lookup_setEntry report.key key report index.entries

/-- More reports, taken in one by one, are searched from the end. -/
theorem get?_foldl_insert (reports : List StatusReport) (index : ReportIndex) (key : String) :
    (reports.foldl insert index).get? key =
      (reports.reverse.find? (·.key = key)).or (index.get? key) := by
  induction reports generalizing index with
  | nil => rfl
  | cons report rest ih =>
    rw [List.foldl_cons, ih, get?_insert, List.reverse_cons, List.find?_append, Option.or_assoc]
    congr 1
    by_cases h : key = report.key
    · simp [h]
    · simp [h, Ne.symm h]

/-- A key finds the last report that carries it. -/
theorem get?_ofReports (reports : List StatusReport) (key : String) :
    (ofReports reports).get? key = reports.reverse.find? (·.key = key) :=
  (get?_foldl_insert reports {} key).trans Option.or_none

end ReportIndex

end FleetConsole
