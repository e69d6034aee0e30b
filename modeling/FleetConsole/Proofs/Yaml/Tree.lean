import FleetConsole.Proofs.Json.Ordered
import FleetConsole.Proofs.Record.Outcome
import FleetConsole.Proofs.Yaml.Typed
import FleetConsole.Yaml.Tree

/-!
# Every tree of a document is ordered

A scalar becomes a tree without entries, and a mapping an object whose entries are put in order. So
the trees of the documents of a text are ordered (`isOrdered_of_trees?`), through aliases too.
-/

namespace FleetConsole.Yaml

variable {α β : Type}

/-- The tree of a float has no entries. -/
theorem floatTree_isOrdered (x : Binary64) : (floatTree x).isOrdered := by
  cases x <;> rfl

/-- The tree of an integer has no entries. -/
theorem isOrdered_of_integerTree? {cs : List Char} {j : Json}
    (h : integerTree? cs = some (some j)) : j.isOrdered := by
  unfold integerTree? at h
  repeat' split at h
  all_goals cases h
  rfl

/-- The tree of a plain scalar has no entries. -/
theorem isOrdered_of_plainTree? {s : String} {j : Json} (h : plainTree? s = some j) :
    j.isOrdered := by
  unfold plainTree? at h
  extract_lets cs at h
  split at h
  · cases h
    rfl
  · split at h
    · cases h
      rfl
    · split at h
      · next hinteger => exact isOrdered_of_integerTree? (hinteger.trans (congrArg some h))
      · split at h
        · cases h
          rfl
        · split at h <;> cases h
          · exact floatTree_isOrdered _
          · rfl

/-- The tree of a scalar with a tag has no entries. -/
theorem isOrdered_of_taggedTree? {tag s : String} {j : Json} (h : taggedTree? tag s = some j) :
    j.isOrdered := by
  unfold taggedTree? at h
  split at h
  · obtain ⟨b, -, rfl⟩ := Option.map_eq_some_iff.mp h
    rfl
  · split at h
    · exact isOrdered_of_integerTree? (Option.join_eq_some_iff.mp h)
    · split at h
      · obtain ⟨x, -, rfl⟩ := Option.map_eq_some_iff.mp h
        exact floatTree_isOrdered x
      · repeat' split at h
        all_goals cases h
        all_goals rfl

/-- What an optional conversion of a list gives: what the conversion of each item gives. -/
theorem forall₂_of_mapM {f : α → Option β} {xs : List α} {ys : List β} (h : xs.mapM f = some ys) :
    List.Forall₂ (fun x y => f x = some y) xs ys := by
  induction xs generalizing ys with
  | nil =>
    rw [List.mapM_nil] at h
    cases h
    exact .nil
  | cons x xs ih =>
    rw [List.mapM_cons] at h
    obtain ⟨y, hy, hrest⟩ := Option.bind_eq_some_iff.mp h
    obtain ⟨ys, hys, heq⟩ := Option.bind_eq_some_iff.mp hrest
    cases heq
    exact .cons hy (ih hys)

open Follow

namespace Document

variable {d : Document}

/-- The tree of a scalar is ordered. -/
theorem isOrdered_of_scalarTree {tag : Option String} {text : String} {style : ScalarStyle}
    {j : Json} (h : (scalarTree tag text style).ComesTo j) : j.isOrdered := by
  unfold scalarTree at h
  split at h
  · exact isOrdered_of_taggedTree? (eq_some_of_comesTo_lift h)
  · split at h
    · exact isOrdered_of_plainTree? (eq_some_of_comesTo_lift h)
    · rw [eq_of_comesTo_pure h]
      rfl

/-- The tree of a node is ordered, however deep its collections nest. -/
theorem isOrdered_of_treeOf {depth : Nat} {n : Node} {j : Json}
    (h : (d.treeOf depth n).ComesTo j) : j.isOrdered := by
  -- By induction on the depth that is left; an alias leads to another node at the same depth.
  induction depth generalizing n j with
  | zero =>
    unfold treeOf at h
    obtain ⟨m, -, h⟩ := h.exists_of_bind
    cases m with
    | scalar tag text style => exact isOrdered_of_scalarTree h
    | _ => exact absurd h not_comesTo_failure
  | succ depth ih =>
    unfold treeOf at h
    obtain ⟨m, -, h⟩ := h.exists_of_bind
    cases m with
    | scalar tag text style => exact isOrdered_of_scalarTree h
    | sequence tag items =>
      dsimp only at h
      split at h
      · exact absurd h not_comesTo_failure
      · obtain ⟨xs, hxs, rfl⟩ := h.exists_of_map
        refine Json.isOrdered_arr.mpr fun x hx => ?_
        obtain ⟨item, -, hitem⟩ := exists_of_forall₂ hxs.forall₂_of_mapM hx
        exact ih hitem
    | mapping tag entries =>
      dsimp only at h
      split at h
      · exact absurd h not_comesTo_failure
      · obtain ⟨es, hes, rfl⟩ := h.exists_of_map
        refine Json.ofEntries_isOrdered fun e he => ?_
        obtain ⟨entry, -, hentry⟩ := exists_of_forall₂ hes.forall₂_of_mapM he
        obtain ⟨key, -, hvalue⟩ := hentry.exists_of_bind
        obtain ⟨x, hx, rfl⟩ := hvalue.exists_of_map
        exact ih hx
    | _ => exact absurd h not_comesTo_failure

/-- The tree of a document is ordered. -/
theorem isOrdered_of_tree? {j : Json} (h : d.tree? = some j) : j.isOrdered := by
  obtain ⟨⟨x, followed⟩, hrun, rfl⟩ := Option.map_eq_some_iff.mp h
  exact isOrdered_of_treeOf ⟨0, followed, hrun⟩

end Document

/-- The trees of the documents of a text are ordered. -/
theorem isOrdered_of_trees? {text : String} {js : List Json} (h : trees? text = some js) :
    ∀ j ∈ js, j.isOrdered := by
  obtain ⟨ds, -, hjs⟩ := Option.bind_eq_some_iff.mp h
  intro j hj
  obtain ⟨d, -, hd⟩ := exists_of_forall₂ (forall₂_of_mapM hjs) hj
  exact Document.isOrdered_of_tree? hd

end FleetConsole.Yaml
