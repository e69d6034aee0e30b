import FleetConsole.Table.Text
import Mathlib.Order.Bounds.Basic

/-!
# The widths of columns

A column is as wide as its longest cell (`isGreatest_of_columnWidths`). The widths are found line by
line, each cell raising the width under the number of its column; as there are as many widths as the
longest line has cells, none is ever missing, and `measured?_eq` says that the widths found in this
way are those of the columns. The order of the lines does not matter, because the greater of two
widths is taken in each column on its own (`getElem?_widen`).
-/

namespace FleetConsole.Table

open columnWidths (widen)

variable {lines : List (List String)} {line : List String} {widths : List Nat} {j w : Nat}

/-! ## The greater width in each column -/

/-- A column has the greater of its two widths, or the only one. -/
theorem getElem?_widen (vs ws : List Nat) (j : Nat) :
    (widen vs ws)[j]? = Option.merge max vs[j]? ws[j]? := by
  induction vs generalizing ws j with
  | nil =>
    rw [widen]
    cases ws[j]? <;> rfl
  | cons v vs ih =>
    cases ws with
    | nil =>
      rw [widen]
      · cases (v :: vs)[j]? <;> rfl
      · exact nofun
    | cons w ws =>
      rw [widen]
      cases j with
      | zero => rfl
      | succ j => exact ih ws j

/-- There are as many columns as in the longer of two lines. -/
theorem length_widen (vs ws : List Nat) :
    (widen vs ws).length = max vs.length ws.length := by
  induction vs generalizing ws with
  | nil => rw [widen, List.length_nil, Nat.zero_max]
  | cons v vs ih =>
    cases ws with
    | nil =>
      rw [widen]
      · rw [List.length_nil, Nat.max_zero]
      · exact nofun
    | cons w ws =>
      rw [widen, List.length_cons, ih, List.length_cons, List.length_cons, Nat.succ_max_succ]

/-- Widths can be raised to two lines in either order. -/
theorem widen_widen (us vs ws : List Nat) : widen us (widen vs ws) = widen (widen vs us) ws := by
  refine List.ext_getElem? fun j => ?_
  simp only [getElem?_widen]
  calc Option.merge max us[j]? (Option.merge max vs[j]? ws[j]?)
    _ = Option.merge max (Option.merge max us[j]? vs[j]?) ws[j]? :=
      (Std.Associative.assoc us[j]? vs[j]? ws[j]?).symm
    _ = Option.merge max (Option.merge max vs[j]? us[j]?) ws[j]? :=
      congrArg (Option.merge max · ws[j]?) (Std.Commutative.comm us[j]? vs[j]?)

/-- Widths of zero do not count, as long as there are not more of them. -/
theorem widen_replicate_zero (ws : List Nat) : widen ws (List.replicate ws.length 0) = ws := by
  refine List.ext_getElem? fun j => ?_
  rw [getElem?_widen, List.getElem?_replicate]
  split
  · next hlt => simp [List.getElem?_eq_getElem hlt, Option.merge]
  · next hge => simp [List.getElem?_eq_none (Nat.le_of_not_lt hge), Option.merge]

/-! ## The longest cell of a column -/

/-- The lengths of the cells in a column. -/
def lengthsAt (lines : List (List String)) (j : Nat) : Set Nat :=
  {n | ∃ cells ∈ lines, ∃ cell, cells[j]? = some cell ∧ cell.length = n}

/-- There are as many columns as the longest line has cells. -/
theorem length_columnWidths (lines : List (List String)) :
    (columnWidths lines).length = columnCount lines := by
  induction lines with
  | nil => rfl
  | cons line rest ih =>
    rw [columnWidths, length_widen, List.length_map, ih]
    rfl

/-- No line has more cells than there are columns. -/
theorem length_le_columnCount (h : line ∈ lines) : line.length ≤ columnCount lines := by
  induction lines with
  | nil => cases h
  | cons first rest ih =>
    have hcount : columnCount (first :: rest) = max first.length (columnCount rest) := rfl
    rw [hcount]
    obtain rfl | hrest := List.mem_cons.mp h
    · exact Nat.le_max_left _ _
    · exact Nat.le_trans (ih hrest) (Nat.le_max_right _ _)

/-- A number that no column has belongs to no cell. -/
theorem lengthsAt_eq_empty (h : (columnWidths lines)[j]? = none) : lengthsAt lines j = ∅ := by
  refine Set.eq_empty_of_forall_notMem ?_
  rintro n ⟨line, hline, cell, hcell, -⟩
  have hlt := (List.getElem?_eq_some_iff.mp hcell).1
  have hcount := List.getElem?_eq_none_iff.mp h
  rw [length_columnWidths] at hcount
  have hle := length_le_columnCount hline
  omega

/-- A column is as wide as its longest cell. -/
theorem isGreatest_of_columnWidths (h : (columnWidths lines)[j]? = some w) :
    IsGreatest (lengthsAt lines j) w := by
  induction lines generalizing w with
  | nil => cases h
  | cons cells rest ih =>
    have hsplit : lengthsAt (cells :: rest) j =
        {n | ∃ cell, cells[j]? = some cell ∧ cell.length = n} ∪ lengthsAt rest j := by
      ext n
      simp [lengthsAt]
    rw [columnWidths, getElem?_widen, List.getElem?_map] at h
    rw [hsplit]
    cases hcell : cells[j]? with
    | none =>
      rw [hcell] at h
      have hrest := ih (w := w) (by rwa [Option.map_none, Option.merge_none_left] at h)
      simpa using hrest
    | some cell =>
      have hone : {n | ∃ c, some cell = some c ∧ c.length = n} = {cell.length} := by
        ext n
        simp [eq_comm]
      rw [hcell, Option.map_some] at h
      rw [hone]
      cases hwidth : (columnWidths rest)[j]? with
      | none =>
        rw [hwidth, Option.merge_none_right] at h
        obtain rfl := Option.some.inj h
        rw [lengthsAt_eq_empty hwidth, Set.union_empty]
        exact isGreatest_singleton
      | some width =>
        rw [hwidth] at h
        obtain rfl : max cell.length width = w := Option.some.inj h
        exact isGreatest_singleton.union (ih hwidth)

/-! ## Widths found line by line -/

/-- Raising widths to a line keeps the columns before the line and takes the greater width in those
behind, if there are enough of them. -/
theorem raised?_append (cells : List String) (before after : List Nat)
    (h : cells.length ≤ after.length) :
    raised? (before ++ after) before.length cells =
      some (before ++ widen (cells.map String.length) after) := by
  induction cells generalizing before after with
  | nil => rfl
  | cons cell cells ih =>
    cases after with
    | nil => cases h
    | cons width after =>
      have hfound : (before ++ width :: after)[before.length]? = some width := by simp
      have hraised : (before ++ width :: after).set before.length (max width cell.length) =
          (before ++ [max cell.length width]) ++ after := by
        simp [Nat.max_comm]
      -- The column that was raised now stands before the others.
      have hrest := ih (before ++ [max cell.length width]) after (Nat.le_of_succ_le_succ h)
      rw [List.length_append, List.length_singleton] at hrest
      rw [raised?, hfound, Option.bind_eq_bind, Option.bind_some, hraised, hrest, List.map_cons,
        widen, List.append_assoc, List.singleton_append]

/-- Widths can be raised to lines that are no longer than there are widths. -/
theorem foldlM_raised? (h : ∀ line ∈ lines, line.length ≤ widths.length) :
    lines.foldlM (raised? · 0 ·) widths = some (widen (columnWidths lines) widths) := by
  induction lines generalizing widths with
  | nil => rfl
  | cons line rest ih =>
    have hline : line.length ≤ widths.length := h line List.mem_cons_self
    have hrest : ∀ l ∈ rest, l.length ≤ (widen (line.map String.length) widths).length := by
      intro l hl
      rw [length_widen, List.length_map, Nat.max_eq_right hline]
      exact h l (List.mem_cons_of_mem _ hl)
    have hraised : raised? widths 0 line = some (widen (line.map String.length) widths) :=
      raised?_append line [] widths hline
    -- The first line is raised first, but comes last in the widths of all lines.
    rw [List.foldlM_cons, hraised, Option.bind_eq_bind, Option.bind_some, ih hrest, columnWidths,
      widen_widen]

/-- The widths of all columns are found. -/
theorem measured?_eq (lines : List (List String)) :
    measured? lines = some (columnWidths lines) := by
  have hroom (line : List String) (hline : line ∈ lines) :
      line.length ≤ (List.replicate (columnCount lines) 0).length := by
    rw [List.length_replicate]
    exact length_le_columnCount hline
  rw [measured?, foldlM_raised? hroom, ← length_columnWidths, widen_replicate_zero]

end FleetConsole.Table
