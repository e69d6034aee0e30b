import FleetConsole.Proofs.Table.Widths
import FleetConsole.Screen.Body

/-!
# What columns ask for

On the screen a column asks for the length of its longest text, the name in the header included, as
a 16-bit number: of the length only what is left after multiples of 65536 counts (`exists_asks`). Up
to 65535 characters that is the length itself, and a longer cell makes no column narrower. It can
where the longest text passes a multiple of 65536, and only there (`Asks.narrower`); at the multiple
nothing is left, and every cell can be made so long (`Asks.exists_vanishing`).
-/

namespace FleetConsole

namespace Table

variable {t : Table} {now : Instant} {cell old : Cell} {i j k m n : Nat}

/-! ## The cells of a table -/

/-- The cell of a row in a column, if the row has one there. -/
def cell? (t : Table) (row column : Nat) : Option Cell := t.rows[row]?.bind (·.cells[column]?)

/-- The table with another cell in a place. -/
def replaceCell (t : Table) (row column : Nat) (cell : Cell) : Table :=
  { t with rows := t.rows.modify row fun r => { r with cells := r.cells.set column cell } }

/-- In its place there is the other cell. -/
theorem cell?_replaceCell_self (cell : Cell) (h : t.cell? i j = some old) :
    (t.replaceCell i j cell).cell? i j = some cell := by
  obtain ⟨row, hrow, hold⟩ := Option.bind_eq_some_iff.mp h
  have hlt := (List.getElem?_eq_some_iff.mp hold).1
  simp [cell?, replaceCell, hrow, hlt]

/-- In every other place there is the cell that was there. -/
theorem cell?_replaceCell_of_ne (cell : Cell) (h : ¬ (i = m ∧ k = j)) :
    (t.replaceCell i k cell).cell? m j = t.cell? m j := by
  simp only [cell?, replaceCell, List.getElem?_modify]
  cases t.rows[m]? with
  | none => rfl
  | some row =>
    by_cases hrow : i = m
    · have hcolumn : k ≠ j := fun heq => h ⟨hrow, heq⟩
      simp [hrow, hcolumn]
    · simp [hrow]

/-- The texts in a column are the name in the header and what the cells show. -/
theorem mem_lengthsAt_iff :
    n ∈ lengthsAt (t.lines now) j ↔ (∃ c, t.header[j]? = some c ∧ c.name.length = n) ∨
      ∃ i cell, t.cell? i j = some cell ∧ (cell.display now).length = n := by
  have hname : (∃ text, (t.header.map (·.name))[j]? = some text ∧ text.length = n) ↔
      ∃ c, t.header[j]? = some c ∧ c.name.length = n := by
    simp
  have hcells : (∃ row ∈ t.rows, ∃ text, (row.display now)[j]? = some text ∧ text.length = n) ↔
      ∃ i cell, t.cell? i j = some cell ∧ (cell.display now).length = n := by
    simp only [cell?, Row.display, List.getElem?_map, Option.map_eq_some_iff,
      Option.bind_eq_some_iff, List.mem_iff_getElem?]
    constructor
    · rintro ⟨row, ⟨i, hrow⟩, -, ⟨cell, hcell, rfl⟩, hlength⟩
      exact ⟨i, cell, ⟨row, hrow, hcell⟩, hlength⟩
    · rintro ⟨i, cell, ⟨row, hrow, hcell⟩, hlength⟩
      exact ⟨row, ⟨i, hrow⟩, _, ⟨cell, hcell, rfl⟩, hlength⟩
  rw [← hname, ← hcells]
  simp [lengthsAt, lines]

/-- A longer cell leaves no column without a text that is as long as one it had. -/
theorem isCofinalFor_replaceCell (hold : t.cell? i k = some old)
    (hlonger : (old.display now).length ≤ (cell.display now).length) :
    IsCofinalFor (lengthsAt (t.lines now) j)
      (lengthsAt ((t.replaceCell i k cell).lines now) j) := by
  intro n hn
  obtain hname | ⟨m, shown, hshown, rfl⟩ := mem_lengthsAt_iff.mp hn
  · exact ⟨n, mem_lengthsAt_iff.mpr (.inl hname), le_rfl⟩
  · by_cases hplace : i = m ∧ k = j
    · obtain ⟨rfl, rfl⟩ := hplace
      obtain rfl := Option.some.inj (hold.symm.trans hshown)
      have hput := cell?_replaceCell_self cell hold
      exact ⟨_, mem_lengthsAt_iff.mpr (.inr ⟨i, cell, hput, rfl⟩), hlonger⟩
    · rw [← cell?_replaceCell_of_ne cell hplace] at hshown
      exact ⟨_, mem_lengthsAt_iff.mpr (.inr ⟨m, shown, hshown, rfl⟩), le_rfl⟩

/-- A cell that is as long as every text of a column is the longest once it is put there. -/
theorem isGreatest_replaceCell (hold : t.cell? i j = some old)
    (hlongest : ∀ n ∈ lengthsAt (t.lines now) j, n ≤ (cell.display now).length) :
    IsGreatest (lengthsAt ((t.replaceCell i j cell).lines now) j) (cell.display now).length := by
  have hput := cell?_replaceCell_self cell hold
  refine ⟨mem_lengthsAt_iff.mpr (.inr ⟨i, cell, hput, rfl⟩), fun n hn => ?_⟩
  obtain hname | ⟨m, shown, hshown, rfl⟩ := mem_lengthsAt_iff.mp hn
  · exact hlongest n (mem_lengthsAt_iff.mpr (.inl hname))
  · by_cases hrow : i = m
    · obtain rfl := hrow
      obtain rfl := Option.some.inj (hput.symm.trans hshown)
      exact le_rfl
    · rw [cell?_replaceCell_of_ne cell fun hplace => hrow hplace.1] at hshown
      exact hlongest _ (mem_lengthsAt_iff.mpr (.inr ⟨m, shown, hshown, rfl⟩))

end Table

namespace Screen

variable {t t' : Table} {now now' : Instant} {cell old : Cell} {i j : Nat}
  {longest longest' wish wish' : Nat}

/-! ## The width of a column -/

/-- The 16-bit number that comes nearest to a length. -/
def nearestWidth (length : Nat) : Nat := min length 65535

/-- A column asks for a width: what is left of the length of its longest text after multiples of
65536. -/
structure Asks (t : Table) (now : Instant) (j longest wish : Nat) : Prop where
  /-- The name in the header is one of the texts, and a row need not reach the column. -/
  isGreatest : IsGreatest (Table.lengthsAt (t.lines now) j) longest
  asked : (columnWishes t now)[j]? = some wish
  wrapped : wish = longest % 65536

/-- There is a width for every name in the header. -/
theorem length_columnWishes (t : Table) (now : Instant) :
    (columnWishes t now).length = t.header.length := by
  have hheader : t.header.map (·.name) ∈ t.lines now := List.mem_cons_self
  have hcount := Table.length_le_columnCount hheader
  rw [List.length_map] at hcount
  rw [columnWishes, List.length_map, List.length_take, Table.length_columnWidths,
    Nat.min_eq_left hcount]

/-- A column that has a name asks for what is left of the length of its longest text. -/
theorem exists_asks (now : Instant) (hj : j < t.header.length) :
    ∃ longest, Asks t now j longest (longest % 65536) := by
  have hlt : j < (columnWishes t now).length := by rwa [length_columnWishes]
  obtain ⟨wish, hwish⟩ : ∃ wish, (columnWishes t now)[j]? = some wish :=
    ⟨_, List.getElem?_eq_getElem hlt⟩
  have hwidth := hwish
  rw [columnWishes, List.getElem?_map, List.getElem?_take_of_lt hj] at hwidth
  obtain ⟨longest, hlongest, rfl⟩ := Option.map_eq_some_iff.mp hwidth
  exact ⟨longest, Table.isGreatest_of_columnWidths hlongest, hwish, rfl⟩

/-- A column that has a name asks by whatever text of it is the longest. -/
theorem asks_of_isGreatest (hj : j < t.header.length)
    (h : IsGreatest (Table.lengthsAt (t.lines now) j) longest) :
    Asks t now j longest (longest % 65536) := by
  obtain ⟨longest', hasks⟩ := exists_asks now hj
  obtain rfl := h.unique hasks.isGreatest
  exact hasks

/-- The nearest width is asked for if the length is a 16-bit number, or else by chance. -/
theorem Asks.eq_nearestWidth_iff (h : Asks t now j longest wish) :
    wish = nearestWidth longest ↔ longest < 65536 ∨ wish = 65535 := by
  rw [h.wrapped, nearestWidth]
  omega

/-- If a column has for every text of another column one that is as long, its longest text is as
long, and it asks for less only if a multiple of 65536 lies between them. -/
theorem Asks.narrower (h : Asks t now j longest wish) (h' : Asks t' now' j longest' wish')
    (hlonger : IsCofinalFor (Table.lengthsAt (t.lines now) j)
      (Table.lengthsAt (t'.lines now') j)) :
    longest ≤ longest' ∧ (wish' < wish → longest / 65536 < longest' / 65536) := by
  obtain ⟨n, hn, hle⟩ := hlonger h.isGreatest.1
  have hlongest : longest ≤ longest' := hle.trans (h'.isGreatest.2 hn)
  refine ⟨hlongest, fun hless => ?_⟩
  rw [h.wrapped, h'.wrapped] at hless
  omega

/-- A text of so many letters. -/
def letters (n : Nat) : String := String.ofList (List.replicate n 'a')

/-- It is as long as it has letters. -/
theorem length_letters (n : Nat) : (letters n).length = n := by
  rw [letters, String.length_ofList, List.length_replicate]

/-- In the place of every cell a longer one can be put with which its column asks for nothing. -/
theorem Asks.exists_vanishing (h : Asks t now j longest wish) (hj : j < t.header.length)
    (hold : t.cell? i j = some old) :
    ∃ text : String, (old.display now).length < text.length ∧
      Asks (t.replaceCell i j (.text text)) now j text.length 0 := by
  -- The first multiple of 65536 that no text of the column reaches.
  let text := letters ((longest / 65536 + 1) * 65536)
  have hlength : text.length = (longest / 65536 + 1) * 65536 := length_letters _
  have hlong : longest < text.length := by omega
  have hmember : (old.display now).length ≤ longest :=
    h.isGreatest.2 (Table.mem_lengthsAt_iff.mpr (.inr ⟨i, old, hold, rfl⟩))
  have hgreatest : IsGreatest (Table.lengthsAt ((t.replaceCell i j (.text text)).lines now) j)
      text.length :=
    Table.isGreatest_replaceCell hold fun n hn => (h.isGreatest.2 hn).trans hlong.le
  have hasks := asks_of_isGreatest (t := t.replaceCell i j (.text text)) hj hgreatest
  have hnothing : text.length % 65536 = 0 := by omega
  rw [hnothing] at hasks
  exact ⟨text, hmember.trans_lt hlong, hasks⟩

/-- On the screen there is a width for every name in the header: what is left of the length of the
longest text in the column after multiples of 65536. It is the nearest width that there is exactly
if the length is a 16-bit number, or happens to leave the greatest one. A longer cell, in whatever
column, makes a column narrower only if its longest text passes a multiple of 65536, but in every
row that has a cell in the column there can be one that leaves it nothing. -/
theorem wishes_wrapped (t : Table) (now : Instant) :
    (columnWishes t now).length = t.header.length ∧
      ∀ j, j < t.header.length → ∃ longest wish, Asks t now j longest wish ∧
        (wish = nearestWidth longest ↔ longest < 65536 ∨ wish = 65535) ∧
        (∀ i k old cell, t.cell? i k = some old →
          (old.display now).length ≤ (cell.display now).length →
          ∃ longest' wish', Asks (t.replaceCell i k cell) now j longest' wish' ∧
            longest ≤ longest' ∧ (wish' < wish → longest / 65536 < longest' / 65536)) ∧
        ∀ i old, t.cell? i j = some old →
          ∃ text : String, (old.display now).length < text.length ∧
            Asks (t.replaceCell i j (.text text)) now j text.length 0 := by
  refine ⟨length_columnWishes t now, fun j hj => ?_⟩
  obtain ⟨longest, hasks⟩ := exists_asks now hj
  refine ⟨longest, _, hasks, hasks.eq_nearestWidth_iff, ?_, ?_⟩
  · intro i k old cell hold hlonger
    obtain ⟨longest', hasks'⟩ := exists_asks (t := t.replaceCell i k cell) now hj
    exact ⟨longest', _, hasks',
      hasks.narrower hasks' (Table.isCofinalFor_replaceCell hold hlonger)⟩
  · intro i old hold
    exact hasks.exists_vanishing hj hold

/-- A column of ages, which one row does not reach, gets wider with a longer cell, and there is one
that leaves it nothing. -/
theorem wishes_wrapped_ragged :
    let now : Instant := ⟨19844, 43200, 0⟩
    let t : Table :=
      { header := [⟨"NAME", false⟩, .age]
        rows := [⟨"-/web", [.text "web"], .nominal⟩,
          ⟨"-/batch", [.text "batch", .age none], .nominal⟩] }
    let longer := t.replaceCell 1 1 (.text "since yesterday")
    1 < t.header.length ∧ t.cell? 0 1 = none ∧ t.cell? 1 1 = some (.age none) ∧
      (∃ longest longest', Asks t now 1 longest 9 ∧ Asks longer now 1 longest' 15 ∧
        longest ≤ longest') ∧
      ∃ text : String, 9 < text.length ∧
        Asks (t.replaceCell 1 1 (.text text)) now 1 text.length 0 := by
  intro now t longer
  have hcolumn : 1 < t.header.length := by decide
  have hold : t.cell? 1 1 = some (.age none) := rfl
  have hlength : ((Cell.age none).display now).length = 9 := by decide
  have hlonger : 9 ≤ ((Cell.text "since yesterday").display now).length := by decide
  have hwish : (columnWishes t now)[1]? = some 9 := by decide
  have hwish' : (columnWishes longer now)[1]? = some 15 := by decide
  obtain ⟨longest, wish, hasks, -, hreplaced, hvanishing⟩ := (wishes_wrapped t now).2 1 hcolumn
  obtain ⟨longest', wish', hasks', hle, -⟩ := hreplaced 1 1 _ _ hold (hlength.trans_le hlonger)
  obtain rfl := Option.some.inj (hwish.symm.trans hasks.asked)
  obtain rfl := Option.some.inj (hwish'.symm.trans hasks'.asked)
  exact ⟨hcolumn, rfl, hold, ⟨longest, longest', hasks, hasks', hle⟩,
    hlength ▸ hvanishing 1 _ hold⟩

/-- A table of one column with one cell, which has so many letters. -/
def lettered (n : Nat) : Table :=
  { header := [⟨"NAME", false⟩], rows := [⟨"ns/a", [.text (letters n)], .nominal⟩] }

/-- A cell with no fewer letters than the name of its column is the longest text there. -/
theorem asks_lettered (now : Instant) {n : Nat} (h : 4 ≤ n) :
    Asks (lettered n) now 0 n (n % 65536) := by
  have hone : 0 < (lettered n).header.length := Nat.one_pos
  refine asks_of_isGreatest hone ⟨?_, fun m hm => ?_⟩
  · exact Table.mem_lengthsAt_iff.mpr (.inr ⟨0, _, rfl, length_letters n⟩)
  · obtain ⟨name, hname, rfl⟩ | ⟨i, cell, hcell, rfl⟩ := Table.mem_lengthsAt_iff.mp hm
    · obtain rfl := Option.some.inj hname
      exact h
    · cases i with
      | zero =>
        obtain rfl := Option.some.inj hcell
        exact (length_letters n).le
      | succ i => cases hcell

/-- With 65535 letters a cell makes its column ask for the greatest width that there is, and with
one letter more for nothing. -/
theorem wishes_narrowed :
    let now : Instant := ⟨19844, 43200, 0⟩
    let t := lettered 65535
    let longer := t.replaceCell 0 0 (.text (letters 65536))
    (letters 65535).length < (letters 65536).length ∧
      Asks t now 0 65535 65535 ∧ Asks longer now 0 65536 0 ∧
      (columnWishes longer now)[0]? ≠ some (nearestWidth 65536) := by
  intro now t longer
  have hreplaced : longer = lettered 65536 := rfl
  have hgreatest : Asks t now 0 65535 65535 := asks_lettered now (by decide)
  have hnothing : Asks longer now 0 65536 0 := by
    rw [hreplaced]
    exact asks_lettered now (by decide)
  have hlonger : (letters 65535).length < (letters 65536).length := by
    rw [length_letters, length_letters]
    decide
  refine ⟨hlonger, hgreatest, hnothing, ?_⟩
  rw [hnothing.asked]
  decide

end Screen

end FleetConsole
