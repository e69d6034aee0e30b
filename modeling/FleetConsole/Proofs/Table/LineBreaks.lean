import FleetConsole.Proofs.Record.Outcome
import FleetConsole.Proofs.Table.Alignment
import FleetConsole.Proofs.Table.Words
import FleetConsole.Service
import FleetConsole.Store.Snapshot

/-!
# Line breaks in tables

A printed table has a line for the header and one for each row, as long as no cell has a line break.
Nothing takes a line break out of what a row quotes from its object, so each one that an object
brings along ends a line where the row goes on. `Service.table_line_breaks` counts them: a text has
one line break for each line, and one for each line break in a cell.

None is lost at the end of a line, where blanks are left out, because the last cell of every row is
a word (`count_trimEnd_of_isWord`).
-/

namespace FleetConsole

namespace Table

open Text

variable {widths : List Nat} {column : Nat} {cells front : List String} {last : String}
  {line : List Char}

/-- The line breaks in the cells of a line. -/
def lineBreaks (cells : List String) : Nat := (cells.map (·.toList.count '\n')).sum

/-- Gaps have no line breaks. -/
theorem count_gapBefore (column : Nat) : (gapBefore column).count '\n' = 0 := by
  unfold gapBefore
  split <;> rfl

/-- Filling up a cell adds no line break. -/
theorem count_filled (width : Nat) (cell : String) :
    (filled width cell).count '\n' = cell.toList.count '\n' := by
  rw [filled, List.count_append, List.count_replicate]
  rfl

/-- A line that is laid out has the line breaks of its cells. -/
theorem count_of_spread? (h : spread? widths column cells = some line) :
    line.count '\n' = lineBreaks cells := by
  induction cells generalizing column line with
  | nil =>
    obtain rfl := Option.some.inj h
    rfl
  | cons cell cells ih =>
    obtain ⟨width, rest, -, -, hrest, rfl⟩ := spread?_cons_eq_some_iff.mp h
    rw [List.count_append, List.count_append, count_gapBefore, count_filled, ih hrest, Nat.zero_add]
    rfl

/-- No line break is lost at the end of a line if the last cell is a word. -/
theorem count_trimEnd_of_isWord (h : spread? widths 0 (front ++ [last]) = some line)
    (hlast : IsWord last) : (trimEnd line).count '\n' = lineBreaks (front ++ [last]) := by
  obtain ⟨before, back, hbefore, hback, rfl⟩ := spread?_append_eq_some_iff.mp h
  obtain ⟨width, rest, -, -, hrest, rfl⟩ := spread?_cons_eq_some_iff.mp hback
  obtain rfl := Option.some.inj hrest
  have hblank : ∀ c ∈ List.replicate (width - last.length) ' ', isBlank c := by
    intro c hc
    obtain rfl := List.eq_of_mem_replicate hc
    decide
  -- Only the blanks that fill up the last cell are lost.
  have htrim : trimEnd (before ++ (gapBefore (0 + front.length) ++ filled width last ++ [])) =
      before ++ gapBefore (0 + front.length) ++ last.toList := by
    rw [filled, List.append_nil, ← List.append_assoc, ← List.append_assoc,
      trimEnd_append_blank hblank, hlast.trimEnd_append]
  rw [htrim, List.count_append, List.count_append, count_of_spread? hbefore, count_gapBefore]
  simp [lineBreaks]

/-- What is printed of laid out lines that end in words has a line break for each line, and those of
the cells. -/
theorem count_printed {lines : List (List String)} {laid : List (List Char)}
    (h : List.Forall₂ (spread? widths 0 · = some ·) lines laid)
    (hwords : ∀ cells ∈ lines, ∃ front last, cells = front ++ [last] ∧ IsWord last) :
    ((laid.map trimEnd).flatMap (· ++ ['\n'])).count '\n' =
      (lines.map lineBreaks).sum + lines.length := by
  induction h with
  | nil => rfl
  | @cons cells line lines laid hline _ ih =>
    obtain ⟨front, last, rfl, hlast⟩ := hwords cells List.mem_cons_self
    have hrest := ih fun cells hcells => hwords cells (List.mem_cons_of_mem _ hcells)
    have hend : ['\n'].count '\n' = 1 := rfl
    rw [List.map_cons, List.flatMap_cons, List.count_append, List.count_append,
      count_trimEnd_of_isWord hline hlast, hend, hrest, List.map_cons, List.sum_cons,
      List.length_cons]
    omega

/-- The text of a table whose lines end in words has a line break for each line, and those of the
cells. -/
theorem count_text (t : Table) (now : Instant)
    (hwords : ∀ cells ∈ t.lines now, ∃ front last, cells = front ++ [last] ∧ IsWord last) :
    (t.text now).toList.count '\n' =
      ((t.lines now).map lineBreaks).sum + (t.lines now).length := by
  obtain ⟨laid, hlaid, -, htext⟩ := exists_laid t now
  rw [htext, count_printed hlaid hwords]

/-- Cells have no line breaks altogether exactly if none of them has one. -/
theorem lineBreaks_eq_zero_iff : lineBreaks cells = 0 ↔ ∀ cell ∈ cells, '\n' ∉ cell.toList := by
  simp only [lineBreaks, List.sum_eq_zero_iff_forall_eq_nat, List.forall_mem_map,
    List.count_eq_zero]

end Table

/-- A word has no line break. -/
theorem Text.IsWord.newline_notMem {s : String} (h : IsWord s) : '\n' ∉ s.toList :=
  fun hmem => h.2 '\n' hmem (by decide)

namespace Layout

variable {σ : Type} {l : Layout σ} {quoting : List String}

/-- The last cell of a row is a word. -/
theorem Quotes.exists_last_cell (h : l.Quotes quoting) (x : σ) (now : Instant) :
    ∃ front last, (l.row x).display now = front ++ [last] ∧ Text.IsWord last := by
  obtain ⟨front, column, hheader, hcolumn⟩ := h.last
  -- Cells and columns are matched from the end, where the last column is known.
  have hcells := List.forall₂_reverse_iff.mpr (h.cells x now)
  rw [hheader, List.reverse_append, List.reverse_singleton, List.singleton_append,
    List.forall₂_cons_left_iff] at hcells
  obtain ⟨cell, cells, hcell, -, hreverse⟩ := hcells
  have heq : (l.row x).cells = cells.reverse ++ [cell] := by
    rw [← List.reverse_reverse (l.row x).cells, hreverse, List.reverse_cons]
  refine ⟨cells.reverse.map (·.display now), cell.display now, ?_, hcell.resolve_left hcolumn⟩
  rw [Row.display, heq, List.map_append]
  rfl

/-- Every line of a table ends in a word. -/
theorem Quotes.exists_last (h : l.Quotes quoting) (items : List σ) (now : Instant) :
    ∀ cells ∈ (l.table items).lines now,
      ∃ front last, cells = front ++ [last] ∧ Text.IsWord last := by
  intro cells hcells
  obtain rfl | hcells := List.mem_cons.mp hcells
  · obtain ⟨front, column, hheader, -⟩ := h.last
    have hword : Text.IsWord column.name := h.names column (by simp [hheader])
    exact ⟨front.map (·.name), column.name, by simp [table, hheader], hword⟩
  · obtain ⟨row, hrow, rfl⟩ := List.mem_map.mp hcells
    obtain ⟨x, -, rfl⟩ := List.mem_map.mp hrow
    exact h.exists_last_cell x now

/-- The text of a table has a line break for each line, and those of the cells in its rows. -/
theorem Quotes.count_text (h : l.Quotes quoting) (items : List σ) (now : Instant) :
    ((l.table items).text now).toList.count '\n' =
      (l.table items).rows.length + 1 +
        ((l.table items).rows.map fun row => Table.lineBreaks (row.display now)).sum := by
  have hheader : Table.lineBreaks ((l.table items).header.map (·.name)) = 0 := by
    rw [Table.lineBreaks_eq_zero_iff]
    intro name hname
    obtain ⟨column, hcolumn, rfl⟩ := List.mem_map.mp hname
    exact (h.names column hcolumn).newline_notMem
  rw [Table.count_text _ now (h.exists_last items now), Table.lines, List.map_cons, List.sum_cons,
    hheader, List.map_map, List.length_cons, List.length_map]
  have hrows : (Table.lineBreaks ∘ fun row : Row => row.display now) =
      fun row => Table.lineBreaks (row.display now) := rfl
  rw [hrows]
  omega

end Layout

/-- A table that a service answers with is laid out for its view. -/
theorem Service.exists_layout {s : Service} {board : Signals} {ctx : RequestContext} {view : View}
    {table : Table} (h : s.table board ctx view = .ok table) :
    ∃ (σ : Type) (l : Layout σ) (items : List σ),
      l.Quotes view.quoting ∧ table = l.table items := by
  have laidOut {σ : Type} {l : Layout σ} {answer : Except FleetError (List σ)}
      (hquotes : l.Quotes view.quoting) (htable : answer.map l.table = .ok table) :
      ∃ (σ : Type) (l : Layout σ) (items : List σ),
        l.Quotes view.quoting ∧ table = l.table items := by
    obtain ⟨items, -, rfl⟩ := map_eq_ok_iff.mp htable
    exact ⟨σ, l, items, hquotes, rfl⟩
  cases view with
  | applications => exact laidOut (Layout.quotes_applications s.clustersWidth) h
  | applicationStatus => exact laidOut Layout.quotes_clusterViews h
  | manifests => exact laidOut Layout.quotes_manifestViews h
  | clusters => exact laidOut Layout.quotes_clusters h
  | manifestWorks => exact laidOut Layout.quotes_manifestWorks h

/-- The text of a table that a service answers with has a line break for the header, one for each
row, and one more for each line break in a cell. So it has one line for each row exactly if no cell
has a line break. Only a column that quotes its objects can have one: every other cell is a word. -/
theorem Service.table_line_breaks (s : Service) (board : Signals) (ctx : RequestContext)
    (view : View) (now : Instant) (table : Table) (h : s.table board ctx view = .ok table) :
    (table.text now).toList.count '\n' = table.rows.length + 1 +
        (table.rows.map fun row => Table.lineBreaks (row.display now)).sum ∧
      ((table.text now).toList.count '\n' = table.rows.length + 1 ↔
        ∀ row ∈ table.rows, ∀ cell ∈ row.display now, '\n' ∉ cell.toList) ∧
      ∀ row ∈ table.rows, List.Forall₂
        (fun column cell => column.name ∈ view.quoting ∨ Text.IsWord (cell.display now))
        table.header row.cells := by
  obtain ⟨σ, l, items, hquotes, rfl⟩ := s.exists_layout h
  have hcount := hquotes.count_text items now
  refine ⟨hcount, ?_, fun row hrow => ?_⟩
  · rw [hcount, Nat.add_eq_left, List.sum_eq_zero_iff_forall_eq_nat]
    simp only [List.forall_mem_map, Table.lineBreaks_eq_zero_iff]
  · obtain ⟨x, -, rfl⟩ := List.mem_map.mp hrow
    exact hquotes.cells x now

/-- The document of an application that is provisioned for a reason. -/
def provisionedFor (name reason : String) : Json :=
  .obj [("kind", .str "Application"),
    ("metadata", .obj [("name", .str name), ("namespace", .str "shop")]),
    ("status", .obj
      [("conditions", .arr [.obj [("reason", .str reason), ("type", .str "Provisioned")]])])]

/-- A reason with a tab, a carriage return and a line separator is printed in one line. -/
theorem Service.table_line_breaks_separators :
    let now : Instant := ⟨19844, 43200, 0⟩
    let docs := [provisionedFor "store" "Not\tyet\r\u2028provisioned"]
    let service : Service := { store := Snapshot.store ⟨"fleet.yaml", docs⟩ }
    ∃ table, service.table {} {} .applications = .ok table ∧ table.rows.length = 1 ∧
      (table.text now).toList.count '\n' = 2 := by
  intro now docs service
  have hanswer : (service.table {} {} .applications).map (fun table =>
      (table.rows.length, table.rows.all fun row =>
        (row.display now).all fun cell => !cell.toList.contains '\n')) = .ok (1, true) := by
    decide +kernel
  obtain ⟨table, htable, hrows⟩ := map_eq_ok_iff.mp hanswer
  obtain ⟨hone, hwhole⟩ := Prod.mk.inj hrows
  have hlines := (service.table_line_breaks {} {} .applications now table htable).2.1
  refine ⟨table, htable, hone, ?_⟩
  rw [hlines.mpr (by simpa using hwhole), hone]

/-- A reason with a line break is printed in two lines, and the second one looks like a row of an
application that there is not. -/
theorem Service.table_line_forged :
    let now : Instant := ⟨19844, 43200, 0⟩
    let docs :=
      [provisionedFor "store" "Pending\nshop        ghost   ApplicationProvisioned"]
    let service : Service := { store := Snapshot.store ⟨"fleet.yaml", docs⟩ }
    (service.table {} {} .applications).map
        (fun table => (table.rows.length, (table.text now).toList.count '\n', table.text now)) =
      .ok (1, 3,
        "NAMESPACE   NAME    PROVISIONED                                          " ++
          "CLUSTERS   AGE\n" ++
        "shop        store   Pending\n" ++
        "shop        ghost   ApplicationProvisioned              <unknown>\n") := by
  decide +kernel

end FleetConsole
