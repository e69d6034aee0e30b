import FleetConsole.Json.Basic

/-!
# Looking up entries

What a key finds in a list of entries, and in an object, entry by entry. In a list the first entry
of a key counts, in an object the last one.
-/

namespace FleetConsole

/-- What a key finds in a list of entries, entry by entry. -/
theorem lookup_cons_if {β : Type} (k k' : String) (v : β) (entries : List (String × β)) :
    ((k', v) :: entries).lookup k = if k = k' then some v else entries.lookup k := by
  rw [List.lookup_cons]
  by_cases h : k = k'
  · rw [if_pos h, beq_iff_eq.mpr h]
  · rw [if_neg h, beq_eq_false_iff_ne.mpr h]

namespace Json

/-- The last entry of an object decides about its own key only. -/
theorem get?_obj_concat (key : String) (entries : List (String × Json)) (e : String × Json) :
    (obj (entries ++ [e])).get? key = if key = e.1 then some e.2 else (obj entries).get? key := by
  simp only [get?, List.reverse_append, List.reverse_singleton, List.singleton_append]
  exact lookup_cons_if key e.1 e.2 entries.reverse

/-- An object has entries. -/
theorem exists_entries {j : Json} (h : j.isObject) : ∃ entries, j = obj entries := by
  cases j with
  | obj entries => exact ⟨entries, rfl⟩
  | _ => cases h

/-- What a key finds in an object is the value of an entry. -/
theorem mem_of_get? {key : String} {entries : List (String × Json)} {j : Json}
    (h : (obj entries).get? key = some j) : (key, j) ∈ entries := by
  obtain ⟨before, after, hsplit, -⟩ := List.lookup_eq_some_iff.mp h
  exact List.mem_reverse.mp (by simp [hsplit])

end Json

end FleetConsole
