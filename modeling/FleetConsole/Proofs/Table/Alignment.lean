import FleetConsole.Proofs.Table.Widths
import FleetConsole.Proofs.Text.Trim
import Mathlib.Algebra.GroupWithZero.Nat
import Mathlib.Data.List.Forall2
import Mathlib.Data.List.Induction

/-!
# Aligned columns

A table can always be laid out: every width is found, and no cell is wider than its column, because
the column is as wide as its longest cell (`exists_spread?_columnWidths`). In every line that is
laid out, the cell of a column begins at the same place, behind the widths of the columns before it
and the gaps between them (`aligned_of_spread?`). What is printed are these lines, each without the
blanks at its end and with a line break behind it (`text_aligned`).
-/

namespace FleetConsole.Table

variable {lines : List (List String)} {widths : List Nat} {column width : Nat}
  {cell : String} {cells xs ys : List String} {line : List Char}

/-! ## Laying out a line -/

/-- A cell and the blanks that fill it up to a width. -/
def filled (width : Nat) (cell : String) : List Char :=
  cell.toList ++ List.replicate (width - cell.length) ' '

/-- The gap before a column. There is none before the first one. -/
def gapBefore (column : Nat) : List Char := if column = 0 then [] else columnGap

/-- A cell is filled up if it is not wider. -/
theorem padded?_eq_some_iff :
    padded? width cell = some line ↔ cell.length ≤ width ∧ line = filled width cell := by
  rw [padded?, Text.room?]
  split
  · next h => simp [h, filled, eq_comm]
  · next h => simp [h]

/-- A cell and those behind it are laid out if the cell has a column that is wide enough, and so
have those behind it. -/
theorem spread?_cons_eq_some_iff :
    spread? widths column (cell :: cells) = some line ↔
      ∃ width rest, widths[column]? = some width ∧ cell.length ≤ width ∧
        spread? widths (column + 1) cells = some rest ∧
        line = gapBefore column ++ filled width cell ++ rest := by
  simp only [spread?, Option.bind_eq_bind, Option.pure_def, Option.bind_eq_some_iff,
    padded?_eq_some_iff, Option.some.injEq]
  constructor
  · rintro ⟨width, hwidth, -, ⟨hfits, rfl⟩, rest, hrest, rfl⟩
    exact ⟨width, rest, hwidth, hfits, hrest, rfl⟩
  · rintro ⟨width, rest, hwidth, hfits, hrest, rfl⟩
    exact ⟨width, hwidth, _, ⟨hfits, rfl⟩, rest, hrest, rfl⟩

/-- The cells of a line are laid out one part after another. -/
theorem spread?_append_eq_some_iff :
    spread? widths column (xs ++ ys) = some line ↔
      ∃ front back, spread? widths column xs = some front ∧
        spread? widths (column + xs.length) ys = some back ∧ line = front ++ back := by
  induction xs generalizing column line with
  | nil => simp [spread?, eq_comm]
  | cons cell xs ih =>
    have hcolumn : column + 1 + xs.length = column + (cell :: xs).length := by
      rw [List.length_cons]
      omega
    simp only [List.cons_append, spread?_cons_eq_some_iff, ih, hcolumn]
    constructor
    · rintro ⟨width, -, hwidth, hfits, ⟨front, back, hfront, hback, rfl⟩, rfl⟩
      exact ⟨_, back, ⟨width, front, hwidth, hfits, hfront, rfl⟩, hback, by simp⟩
    · rintro ⟨-, back, ⟨width, front, hwidth, hfits, hfront, rfl⟩, hback, rfl⟩
      exact ⟨width, _, hwidth, hfits, ⟨front, back, hfront, hback, rfl⟩, by simp⟩

/-- Cells that have columns which are wide enough can be laid out. -/
theorem exists_spread? (h : ∀ j cell, cells[j]? = some cell →
      ∃ width, widths[column + j]? = some width ∧ cell.length ≤ width) :
    ∃ line, spread? widths column cells = some line := by
  induction cells generalizing column with
  | nil => exact ⟨[], rfl⟩
  | cons cell cells ih =>
    obtain ⟨width, hwidth, hfits⟩ := h 0 cell rfl
    obtain ⟨rest, hrest⟩ : ∃ rest, spread? widths (column + 1) cells = some rest := by
      refine ih fun j c hc => ?_
      have hbehind := h (j + 1) c hc
      rwa [show column + (j + 1) = column + 1 + j by omega] at hbehind
    exact ⟨_, spread?_cons_eq_some_iff.mpr ⟨width, rest, hwidth, hfits, hrest, rfl⟩⟩

/-! ## Where cells begin -/

/-- Where a column begins: behind the widths of those before it, each with a gap. -/
def start (widths : List Nat) (column : Nat) : Nat := ((widths.take column).map (· + 3)).sum

/-- A column begins behind the one before it and a gap. -/
theorem start_succ (h : widths[column]? = some width) :
    start widths (column + 1) = start widths column + (width + 3) := by
  simp [start, List.take_add_one, h]

/-- The cells before a column end where it begins, but for the gap. -/
theorem length_of_spread? (h : spread? widths 0 xs = some line) :
    (line ++ gapBefore xs.length).length = start widths xs.length := by
  induction xs using List.reverseRecOn generalizing line with
  | nil =>
    obtain rfl := Option.some.inj h
    rfl
  | append_singleton xs cell ih =>
    -- From the end, because the last cell is the one whose place the hypothesis tells.
    obtain ⟨front, back, hfront, hback, rfl⟩ := spread?_append_eq_some_iff.mp h
    rw [Nat.zero_add] at hback
    obtain ⟨width, rest, hwidth, hfits, hrest, rfl⟩ := spread?_cons_eq_some_iff.mp hback
    obtain rfl := Option.some.inj hrest
    have hgap : (gapBefore (xs.length + 1)).length = 3 := rfl
    have hfilled : (filled width cell).length = width := by
      rw [filled, List.length_append, List.length_replicate, String.length_toList]
      omega
    have hfront := ih hfront
    rw [List.length_append] at hfront
    simp only [List.length_append, List.length_singleton, List.length_nil, hgap, hfilled,
      start_succ hwidth]
    omega

/-- A line shows cells in columns: every cell begins where its column does, is no wider, and is
filled up with blanks. Behind it there is a gap, or nothing if it is the last one. -/
structure Aligned (widths : List Nat) (cells : List String) (line : List Char) : Prop where
  cell : ∀ j cell, cells[j]? = some cell →
    ∃ width before after, widths[j]? = some width ∧ cell.length ≤ width ∧
      line = before ++ cell.toList ++ List.replicate (width - cell.length) ' ' ++ after ∧
      before.length = start widths j ∧
      (j + 1 < cells.length → columnGap <+: after) ∧ (j + 1 = cells.length → after = [])
  nothing : cells = [] → line = []

/-- A line that is laid out shows its cells in columns. -/
theorem aligned_of_spread? (h : spread? widths 0 cells = some line) :
    Aligned widths cells line := by
  refine ⟨fun j cell hcell => ?_, ?_⟩
  · obtain ⟨hj, rfl⟩ := List.getElem?_eq_some_iff.mp hcell
    have hcut : cells = cells.take j ++ cells[j] :: cells.drop (j + 1) := by simp
    have hlength : (cells.take j).length = j := by
      rw [List.length_take]
      omega
    -- The line is what is laid out of the cells before this one, the cell, and those behind it.
    rw [hcut] at h
    obtain ⟨front, back, hfront, hback, rfl⟩ := spread?_append_eq_some_iff.mp h
    rw [Nat.zero_add, hlength] at hback
    obtain ⟨width, rest, hwidth, hfits, hrest, rfl⟩ := spread?_cons_eq_some_iff.mp hback
    have hbegin := length_of_spread? hfront
    rw [hlength] at hbegin
    refine ⟨width, front ++ gapBefore j, rest, hwidth, hfits, by simp [filled], hbegin,
      fun hmore => ?_, fun hlast => ?_⟩
    · rw [List.drop_eq_getElem_cons hmore] at hrest
      obtain ⟨-, behind, -, -, -, rfl⟩ := spread?_cons_eq_some_iff.mp hrest
      exact ⟨_, (List.append_assoc _ _ _).symm⟩
    · rw [List.drop_eq_nil_of_le (Nat.le_of_eq hlast.symm)] at hrest
      exact (Option.some.inj hrest).symm
  · rintro rfl
    exact (Option.some.inj h).symm

/-! ## Laying out a table -/

/-- Every line of a table can be laid out in the columns of the table. -/
theorem exists_spread?_columnWidths {cells : List String} (h : cells ∈ lines) :
    ∃ line, spread? (columnWidths lines) 0 cells = some line := by
  refine exists_spread? fun j cell hcell => ?_
  have hj : j < (columnWidths lines).length := by
    rw [length_columnWidths]
    exact Nat.lt_of_lt_of_le (List.getElem?_eq_some_iff.mp hcell).1 (length_le_columnCount h)
  have hwidth := List.getElem?_eq_getElem hj
  rw [Nat.zero_add]
  exact ⟨_, hwidth, (isGreatest_of_columnWidths hwidth).2 ⟨cells, h, cell, hcell, rfl⟩⟩

/-- Results that there are one by one make a list of results. -/
theorem mapM_of_forall₂ {α β : Type} {f : α → Option β} {as : List α} {bs : List β}
    (h : List.Forall₂ (fun a b => f a = some b) as bs) : as.mapM f = some bs := by
  induction h with
  | nil => rfl
  | cons hfirst _ ih =>
    rw [List.mapM_cons, hfirst, ih]
    rfl

/-- The lines of a table are laid out, and what is printed are these lines, each without the blanks
at its end and with a line break behind it. -/
theorem exists_laid (t : Table) (now : Instant) :
    ∃ laid,
      List.Forall₂ (spread? (columnWidths (t.lines now)) 0 · = some ·) (t.lines now) laid ∧
      t.text? now = some (t.text now) ∧
      (t.text now).toList = (laid.map Text.trimEnd).flatMap (· ++ ['\n']) := by
  generalize hwidths : columnWidths (t.lines now) = widths
  have hlaid : ∃ laid, List.Forall₂ (spread? widths 0 · = some ·) (t.lines now) laid := by
    -- The empty line stands in where a line could not be laid out, which does not happen.
    refine ⟨(t.lines now).map fun cells => (spread? widths 0 cells).getD [], ?_⟩
    rw [List.forall₂_map_right_iff, List.forall₂_same]
    intro cells hcells
    obtain ⟨line, hline⟩ := exists_spread?_columnWidths hcells
    rw [← hwidths, hline, Option.getD_some]
  obtain ⟨laid, hlaid⟩ := hlaid
  have hprinted : (t.lines now).mapM (lineText? widths) = some (laid.map Text.trimEnd) := by
    refine mapM_of_forall₂ (List.forall₂_map_right_iff.mpr (hlaid.imp ?_))
    intro cells line hline
    rw [lineText?, hline, Option.map_some]
  have htext : t.text? now =
      some (String.ofList ((laid.map Text.trimEnd).flatMap (· ++ ['\n']))) := by
    rw [text?, measured?_eq, hwidths, Option.bind_eq_bind, Option.bind_some, hprinted]
    rfl
  refine ⟨laid, hlaid, ?_, ?_⟩
  · rw [text, htext, Option.getD_some]
  · rw [text, htext, Option.getD_some, String.toList_ofList]

/-- What is printed of a line: its cells in columns, without the blanks at the end. -/
def Printed (widths : List Nat) (cells : List String) (shown : List Char) : Prop :=
  ∃ line lost, Aligned widths cells line ∧ line = shown ++ lost ∧
    (∀ c ∈ lost, Text.isBlank c) ∧ ∀ c, shown.getLast? = some c → ¬ Text.isBlank c

/-- A table of any form is laid out as a text: every width that is looked up is found, and no cell
is longer than its column. The text has a line for the header and one for each row, and each ends
with a line break. Its cells stand in columns, and only the blanks at its end are lost. A column is
as wide as its longest cell, the name in the header included. -/
theorem text_aligned (t : Table) (now : Instant) :
    let lines : List (List String) := t.header.map (·.name) :: t.rows.map (·.display now)
    let widths := columnWidths lines
    (∀ j width, widths[j]? = some width → IsGreatest (lengthsAt lines j) width) ∧
      (∀ line ∈ lines, line.length ≤ widths.length) ∧
      t.text? now = some (t.text now) ∧
      ∃ shown, List.Forall₂ (Printed widths) lines shown ∧
        (t.text now).toList = shown.flatMap (· ++ ['\n']) := by
  intro lines widths
  obtain ⟨laid, hlaid, htext, hprinted⟩ := exists_laid t now
  refine ⟨fun j width hwidth => isGreatest_of_columnWidths hwidth, fun line hline => ?_, htext,
    laid.map Text.trimEnd, ?_, hprinted⟩
  · rw [length_columnWidths]
    exact length_le_columnCount hline
  · refine List.forall₂_map_right_iff.mpr (hlaid.imp fun cells line hline => ?_)
    obtain ⟨lost, hcut, hblank, hend⟩ := Text.exists_trimEnd_append line
    exact ⟨line, lost, aligned_of_spread? hline, hcut, hblank, hend⟩

end FleetConsole.Table
