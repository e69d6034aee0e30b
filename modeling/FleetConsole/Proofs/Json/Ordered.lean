import FleetConsole.Proofs.Json.Lookup
import Mathlib.Data.List.Sort
import Mathlib.Data.String.Basic

/-!
# Ordered trees

A tree is ordered if the entries of every object in it stand in the order of their keys and no key
occurs twice. `Json.ofEntries` builds such an object of any entries with ordered values, and entries
that are in order stay as they are.
-/

namespace FleetConsole.Json

mutual

/-- Are the entries of every object in a tree in the order of their keys, without a repetition? -/
def isOrdered : Json → Bool
  | arr xs => areOrdered xs
  | obj es => entriesOrdered es
  | _ => true

/-- Are all items ordered? -/
def areOrdered : List Json → Bool
  | [] => true
  | x :: xs => isOrdered x && areOrdered xs

/-- Are the entries in the order of their keys, and their values ordered? -/
def entriesOrdered : List (String × Json) → Bool
  | [] => true
  | (k, x) :: es => es.all (fun e => k < e.1) && isOrdered x && entriesOrdered es

end

/-- The order of entries by their keys. -/
def Before {β : Type} (a b : String × β) : Prop := a.1 < b.1

/-- Entries are in order if their keys are. -/
theorem pairwise_before_iff {β : Type} {es : List (String × β)} :
    es.Pairwise Before ↔ (es.map (·.1)).Pairwise (· < ·) := by
  rw [List.pairwise_map]
  rfl

/-- A list is ordered if its items are. -/
theorem isOrdered_arr {xs : List Json} : (arr xs).isOrdered ↔ ∀ x ∈ xs, x.isOrdered := by
  rw [isOrdered]
  induction xs with
  | nil => simp [areOrdered]
  | cons x xs ih => simp [areOrdered, ih]

/-- An object is ordered if its entries are in order and their values are ordered. -/
theorem isOrdered_obj {es : List (String × Json)} :
    (obj es).isOrdered ↔ es.Pairwise Before ∧ ∀ e ∈ es, e.2.isOrdered := by
  rw [isOrdered]
  induction es with
  | nil => simp [entriesOrdered]
  | cons e es ih =>
    simp only [entriesOrdered, Bool.and_eq_true, ih, List.all_eq_true, decide_eq_true_eq,
      List.pairwise_cons, List.forall_mem_cons, Before]
    tauto

/-- What an ordered object has under a key is ordered. -/
theorem isOrdered_of_get? {j x : Json} {key : String} (hj : j.isOrdered)
    (h : j.get? key = some x) : x.isOrdered := by
  cases j with
  | obj es => exact (isOrdered_obj.mp hj).2 _ (mem_of_get? h)
  | _ => cases h

/-- A new key is one more entry. -/
theorem insertEntry_perm {key : String} {value : Json} {es : List (String × Json)}
    (h : ∀ e ∈ es, e.1 ≠ key) : (insertEntry key value es).Perm ((key, value) :: es) := by
  induction es with
  | nil => exact .refl _
  | cons e es ih =>
    obtain ⟨k, v⟩ := e
    obtain ⟨hk, hes⟩ := List.forall_mem_cons.mp h
    unfold insertEntry
    split
    · exact .refl _
    · rw [if_neg (Ne.symm hk)]
      exact ((ih hes).cons (k, v)).trans (.swap _ _ _)

/-- Where an entry is set, the entries before all others stay before it and them. -/
theorem forall_mem_insertEntry {P : String × Json → Prop} {key : String} {value : Json}
    {es : List (String × Json)} (hnew : P (key, value)) (h : ∀ e ∈ es, P e) :
    ∀ e ∈ insertEntry key value es, P e := by
  induction es with
  | nil => simpa [insertEntry] using hnew
  | cons e es ih =>
    obtain ⟨hfirst, hrest⟩ := List.forall_mem_cons.mp h
    unfold insertEntry
    split
    · exact List.forall_mem_cons.mpr ⟨hnew, h⟩
    · split
      · exact List.forall_mem_cons.mpr ⟨hnew, hrest⟩
      · exact List.forall_mem_cons.mpr ⟨hfirst, ih hrest⟩

/-- Setting an entry keeps the order. -/
theorem insertEntry_pairwise {key : String} {value : Json} {es : List (String × Json)}
    (h : es.Pairwise Before) : (insertEntry key value es).Pairwise Before := by
  induction es with
  | nil => simp [insertEntry]
  | cons e es ih =>
    obtain ⟨k, v⟩ := e
    obtain ⟨hfirst, hrest⟩ := List.pairwise_cons.mp h
    unfold insertEntry
    split
    · next hlt =>
      refine List.pairwise_cons.mpr ⟨List.forall_mem_cons.mpr ⟨hlt, fun e he => ?_⟩, h⟩
      exact lt_trans hlt (hfirst e he)
    · next hge =>
      split
      · next heq =>
        subst heq
        exact List.pairwise_cons.mpr ⟨hfirst, hrest⟩
      · next hne =>
        have hlt : k < key := lt_of_le_of_ne (not_lt.mp hge) (Ne.symm hne)
        exact List.pairwise_cons.mpr ⟨forall_mem_insertEntry hlt hfirst, ih hrest⟩

/-- The object of entries with ordered values is ordered, whatever the order of the entries. -/
theorem ofEntries_isOrdered {es : List (String × Json)} (h : ∀ e ∈ es, e.2.isOrdered) :
    (ofEntries es).isOrdered := by
  suffices ∀ acc : List (String × Json), (acc.Pairwise Before ∧ ∀ e ∈ acc, e.2.isOrdered) →
      (es.foldl (fun acc e => insertEntry e.1 e.2 acc) acc).Pairwise Before ∧
        ∀ e ∈ es.foldl (fun acc e => insertEntry e.1 e.2 acc) acc, e.2.isOrdered from
    isOrdered_obj.mpr (this [] ⟨.nil, nofun⟩)
  induction es with
  | nil => exact fun acc hacc => hacc
  | cons e es ih =>
    obtain ⟨hfirst, hrest⟩ := List.forall_mem_cons.mp h
    rintro acc ⟨hpairwise, hvalues⟩
    exact ih hrest _ ⟨insertEntry_pairwise hpairwise, forall_mem_insertEntry hfirst hvalues⟩

/-- The object of entries without a repeated key has the same entries, in order. -/
theorem exists_ofEntries {es : List (String × Json)} (h : (es.map (·.1)).Nodup) :
    ∃ es', ofEntries es = obj es' ∧ es'.Perm es ∧ es'.Pairwise Before := by
  -- The entries set so far are in order, and none of the others has a key of theirs.
  suffices ∀ acc : List (String × Json), acc.Pairwise Before → ((acc ++ es).map (·.1)).Nodup →
      (es.foldl (fun acc e => insertEntry e.1 e.2 acc) acc).Perm (acc ++ es) ∧
        (es.foldl (fun acc e => insertEntry e.1 e.2 acc) acc).Pairwise Before by
    obtain ⟨hperm, hpairwise⟩ := this [] .nil h
    exact ⟨_, rfl, hperm, hpairwise⟩
  clear h
  induction es with
  | nil => exact fun acc hacc _ => ⟨by simp, hacc⟩
  | cons e es ih =>
    intro acc hacc hnodup
    have hnew : ∀ a ∈ acc, a.1 ≠ e.1 := by
      intro a ha heq
      rw [List.map_append, List.map_cons] at hnodup
      exact (List.disjoint_of_nodup_append hnodup) (List.mem_map_of_mem ha) (by simp [heq])
    have hperm : (insertEntry e.1 e.2 acc).Perm (e :: acc) := insertEntry_perm hnew
    have hmove : (insertEntry e.1 e.2 acc ++ es).Perm (acc ++ e :: es) :=
      (hperm.append_right es).trans List.perm_middle.symm
    obtain ⟨hall, hsorted⟩ := ih (insertEntry e.1 e.2 acc) (insertEntry_pairwise hacc)
      (((hmove.map (·.1)).nodup_iff).mpr hnodup)
    exact ⟨hall.trans hmove, hsorted⟩

/-- Keys that are in order are different. -/
theorem nodup_of_pairwise {β : Type} {es : List (String × β)} (h : es.Pairwise Before) :
    (es.map (·.1)).Nodup :=
  (pairwise_before_iff.mp h).imp ne_of_lt

/-- Entries that are in order stay as they are. -/
theorem ofEntries_of_pairwise {es : List (String × Json)} (h : es.Pairwise Before) :
    ofEntries es = obj es := by
  obtain ⟨es', hof, hperm, hpairwise⟩ := exists_ofEntries (nodup_of_pairwise h)
  -- There is only one way to put entries in order.
  have hasymm : ∀ a b, a ∈ es' → b ∈ es → Before a b → Before b a → a = b :=
    fun a b _ _ hab hba => absurd hab (lt_asymm hba)
  rw [hof, hperm.eq_of_pairwise hasymm hpairwise h]

/-- A key finds the value of the only entry that has it. -/
theorem lookup_eq_some_iff {β : Type} {es : List (String × β)} (h : (es.map (·.1)).Nodup)
    {key : String} {value : β} : es.lookup key = some value ↔ (key, value) ∈ es := by
  induction es with
  | nil => simp
  | cons e es ih =>
    obtain ⟨k, v⟩ := e
    obtain ⟨hk, hes⟩ := List.nodup_cons.mp h
    rw [lookup_cons_if, List.mem_cons, Prod.mk.injEq]
    by_cases heq : key = k
    · -- No other entry has the key.
      have hno : (key, value) ∉ es := fun hmem => hk (List.mem_map.mpr ⟨_, hmem, heq⟩)
      rw [if_pos heq, Option.some.injEq]
      exact ⟨fun hv => .inl ⟨heq, hv.symm⟩, fun hor => (hor.resolve_right hno).2.symm⟩
    · rw [if_neg heq, ih hes]
      exact ⟨.inr, fun hor => hor.resolve_left fun hk => heq hk.1⟩

/-- In an ordered object a key finds the value of the only entry that has it. -/
theorem get?_eq_some_iff {es : List (String × Json)} (h : (obj es).isOrdered) {key : String}
    {value : Json} : (obj es).get? key = some value ↔ (key, value) ∈ es := by
  have hnodup : (es.reverse.map (·.1)).Nodup := by
    rw [List.map_reverse, List.nodup_reverse]
    exact nodup_of_pairwise (isOrdered_obj.mp h).1
  rw [get?, lookup_eq_some_iff hnodup, List.mem_reverse]

/-- The object of entries without a repeated key finds the value of each. -/
theorem get?_ofEntries {es : List (String × Json)} (h : (es.map (·.1)).Nodup) {key : String}
    {value : Json} : (ofEntries es).get? key = some value ↔ (key, value) ∈ es := by
  obtain ⟨es', hof, hperm, -⟩ := exists_ofEntries h
  have hreverse := (List.reverse_perm es').trans hperm
  rw [hof, get?, lookup_eq_some_iff (((hreverse.map (·.1)).nodup_iff).mpr h), hreverse.mem_iff]

end FleetConsole.Json
