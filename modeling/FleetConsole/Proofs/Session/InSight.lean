import FleetConsole.Proofs.Session.Selection
import FleetConsole.Screen.Body

/-!
# The selected row in sight

Drawing the screen moves the first row shown after the selection: down if fewer than two rows below
it are in sight, and then up if fewer than two above it are. With room for five rows both are kept
(`Scroll.rows_around_follow`). With less room the second move undoes the first one, and the first
row shown is the second above the selected one, wherever it was before (`Scroll.follow_cramped`).

So with room for one or two rows the selected row is not shown, unless it is among the first ones of
the table. `drawn_follows` says this of every session with rows to show, and that to draw once more
changes nothing.
-/

namespace FleetConsole

namespace Scroll

variable {offset selected height : Nat}

/-- With room for at most four rows, the first row shown is the second above the selected one. -/
theorem follow_cramped (h : height ≤ 4) : follow offset selected height margin = selected - 2 := by
  unfold follow margin
  by_cases hbelow : offset + (height - 2) ≤ selected
  · -- The first row shown is moved down to the selected one or the one above, and so up again.
    have hback : selected < selected - (height - (2 + 1)) + 2 := by omega
    simp only [if_pos hbelow, if_pos hback]
  · have habove : selected < offset + 2 := by omega
    simp only [if_neg hbelow, if_pos habove]

/-- With room for five rows or more, two rows above the selected one are in sight, as far as there
are any, and two below. -/
theorem rows_around_follow (offset selected : Nat) (h : 5 ≤ height) :
    follow offset selected height margin ≤ selected - 2 ∧
      selected + 2 < follow offset selected height margin + height := by
  unfold follow margin
  by_cases hbelow : offset + (height - 2) ≤ selected
  · have hstays : ¬ selected < selected - (height - (2 + 1)) + 2 := by omega
    simp only [if_pos hbelow, if_neg hstays]
    omega
  · by_cases habove : selected < offset + 2
    · simp only [if_neg hbelow, if_pos habove]
      omega
    · simp only [if_neg hbelow, if_neg habove]
      omega

/-- The first row shown stays if two rows above and below the selected one are in sight. -/
theorem follow_eq_self (habove : offset ≤ selected - 2) (hbelow : selected + 2 < offset + height) :
    follow offset selected height margin = offset := by
  unfold follow margin
  have hlow : ¬ offset + (height - 2) ≤ selected := by omega
  simp only [if_neg hlow]
  by_cases hhigh : selected < offset + 2
  · rw [if_pos hhigh]
    omega
  · rw [if_neg hhigh]

/-- To follow once more changes nothing. -/
theorem follow_follow :
    follow (follow offset selected height margin) selected height margin =
      follow offset selected height margin := by
  rcases Nat.lt_or_ge 4 height with hroom | hcramped
  · obtain ⟨habove, hbelow⟩ := rows_around_follow offset selected hroom
    exact follow_eq_self habove hbelow
  · rw [follow_cramped hcramped, follow_cramped hcramped]

/-- The selected row is in sight if there is room for three rows or if it is one of the first, as
many as there is room for. -/
theorem selected_in_sight_iff (h : 0 < height) :
    follow offset selected height margin ≤ selected ∧
        selected < follow offset selected height margin + height ↔
      3 ≤ height ∨ selected < height := by
  rcases Nat.lt_or_ge 4 height with hroom | hcramped
  · obtain ⟨habove, hbelow⟩ := rows_around_follow offset selected hroom
    omega
  · rw [follow_cramped hcramped]
    omega

end Scroll

namespace Session

/-- Is a place of the table within the lines that there is room for? -/
def InSight (s : Session) (height n : Nat) : Prop :=
  s.scroll ≤ n ∧ n < s.scroll + Scroll.visibleRows height

/-- The rows that are shown are those in sight. -/
theorem mem_shownRows_iff (s : Session) (t : Table) (height n : Nat) (row : Row) :
    (row, n) ∈ s.shownRows t height ↔ t.rows[n]? = some row ∧ s.InSight height n := by
  unfold shownRows InSight
  rw [List.mem_iff_getElem?]
  simp only [List.getElem?_take, List.getElem?_drop, List.getElem?_zipIdx]
  constructor
  · rintro ⟨i, hi⟩
    split at hi
    · next hlt =>
      obtain ⟨r, hr, heq⟩ := Option.map_eq_some_iff.mp hi
      obtain ⟨rfl, rfl⟩ := Prod.mk.inj heq
      rw [Nat.zero_add]
      exact ⟨hr, by omega⟩
    · cases hi
  · rintro ⟨hrow, habove, hbelow⟩
    refine ⟨n - s.scroll, ?_⟩
    have hplace : s.scroll + (n - s.scroll) = n := by omega
    rw [if_pos (by omega), hplace, hrow, Option.map_some, Nat.zero_add]

/-- Drawing moves the first row shown after the selection, if there are rows. -/
theorem scroll_fit {s : Session} {t : Table} (ht : s.table = some t) (hrows : t.rows ≠ [])
    (height : Nat) :
    (s.fit height).scroll =
      Scroll.follow s.scroll s.location.selected (Scroll.visibleRows height) Scroll.margin := by
  have hcount : s.rowCount ≠ 0 := by
    rw [rowCount_of_table ht]
    exact fun hzero => hrows (List.eq_nil_of_length_eq_zero hzero)
  exact if_neg hcount

/-- To draw once more changes nothing. -/
theorem fit_fit {s : Session} {t : Table} (ht : s.table = some t) (hrows : t.rows ≠ [])
    (height : Nat) : (s.fit height).fit height = s.fit height := by
  have hscroll : ((s.fit height).fit height).scroll = (s.fit height).scroll := by
    have hdrawn : (s.fit height).table = some t := ht
    rw [scroll_fit hdrawn hrows, scroll_fit ht hrows]
    exact Scroll.follow_follow
  calc (s.fit height).fit height
    _ = { s.fit height with scroll := ((s.fit height).fit height).scroll } := rfl
    _ = s.fit height := by rw [hscroll]

/-- How a session that was drawn with so many lines for the table follows the selection. -/
structure Follows (s drawn : Session) (t : Table) (height : Nat) : Prop where
  /-- The selected row is in sight if there is room for three rows or if it is one of the first. -/
  in_sight_iff : drawn.InSight height s.location.selected ↔
    6 ≤ height ∨ s.location.selected < Scroll.visibleRows height
  /-- It is among the rows that are shown exactly if it is in sight. -/
  shown_iff : ∃ row, s.selectedRow? = some row ∧
    ((row, s.location.selected) ∈ drawn.shownRows t height ↔
      drawn.InSight height s.location.selected)
  /-- With room for five rows, two rows above and below it are in sight as well. -/
  roomy : 8 ≤ height → drawn.scroll ≤ s.location.selected - 2 ∧
    s.location.selected + 2 < drawn.scroll + Scroll.visibleRows height
  /-- With less room the first row shown is the second above it. -/
  cramped : height < 8 → drawn.scroll = s.location.selected - 2
  /-- To draw once more changes nothing. -/
  again : drawn.fit height = drawn

/-- Whatever has become of a session and wherever its first row shown was, drawing it with room for
a row brings the selected row in sight exactly if there is room for three or if it is one of the
first, and drawing it again shows the same rows. -/
theorem drawn_follows (profile : Profile) (acts : List Act) (offset height : Nat) (t : Table)
    (ht : (course profile acts).table = some t) (hrows : t.rows ≠ []) (hheight : 4 ≤ height) :
    Follows (course profile acts)
      ({ course profile acts with scroll := offset }.fit height) t height := by
  have hwithin := within_course profile acts
  generalize course profile acts = s at ht hwithin
  obtain ⟨room, rfl⟩ : ∃ room, height = room + 3 := ⟨height - 3, by omega⟩
  have hvisible : Scroll.visibleRows (room + 3) = room := rfl
  let before : Session := { s with scroll := offset }
  have hbefore : before.table = some t := ht
  have hscroll : (before.fit (room + 3)).scroll =
      Scroll.follow offset s.location.selected room Scroll.margin :=
    scroll_fit hbefore hrows (room + 3)
  refine ⟨?_, ?_, fun hroomy => ?_, fun hcramped => ?_, fit_fit hbefore hrows (room + 3)⟩
  · have hsix : 6 ≤ room + 3 ↔ 3 ≤ room := by omega
    rw [InSight, hscroll, hvisible, hsix]
    exact Scroll.selected_in_sight_iff (by omega)
  · obtain ⟨row, -, hrow⟩ := hwithin.exists_row ht hrows
    obtain ⟨t', ht', hget⟩ := selectedRow?_eq_some_iff.mp hrow
    obtain rfl := Option.some.inj (ht.symm.trans ht')
    refine ⟨row, hrow, ?_⟩
    rw [mem_shownRows_iff]
    exact and_iff_right hget
  · rw [hscroll, hvisible]
    exact Scroll.rows_around_follow _ _ (by omega)
  · rw [hscroll]
    exact Scroll.follow_cramped (by omega)

/-- The last of three rows is selected, and with room for three it is shown. -/
theorem drawn_follows_last :
    let row (id : String) : Row := ⟨id, [], .nominal⟩
    let t : Table := { rows := [row "shop/web", row "shop/api", row "jobs/batch"] }
    let s := course { context := "hub", source := "hub" }
      [.table t, .event (.press ⟨.bottom, false⟩)]
    let drawn := { s with scroll := 7 }.fit 6
    s.table = some t ∧ t.rows ≠ [] ∧ drawn.InSight 6 2 ∧
      (row "jobs/batch", 2) ∈ drawn.shownRows t 6 := by
  intro row t s drawn
  have ht : s.table = some t := rfl
  have hrows : t.rows ≠ [] := List.cons_ne_nil _ _
  have h := drawn_follows _ _ 7 6 t ht hrows (by decide)
  have hsight : drawn.InSight 6 2 := h.in_sight_iff.mpr (.inl (by decide))
  obtain ⟨selected, hselected, hshown⟩ := h.shown_iff
  obtain rfl : row "jobs/batch" = selected := Option.some.inj hselected
  exact ⟨ht, hrows, hsight, hshown.mpr hsight⟩

/-- Of two rows the second is selected, and with room for one it is the first that is shown. -/
theorem drawn_astray :
    let row (id : String) : Row := ⟨id, [], .nominal⟩
    let t : Table := { rows := [row "shop/web", row "jobs/batch"] }
    let drawn := course { context := "hub", source := "hub" }
      [.table t, .event (.press ⟨.down, false⟩), .event (.draw 4)]
    drawn.selectedRow? = some (row "jobs/batch") ∧ ¬ drawn.InSight 4 drawn.location.selected ∧
      drawn.shownRows t 4 = [(row "shop/web", 0)] := by
  intro row t drawn
  refine ⟨rfl, fun hsight => ?_, rfl⟩
  have hselected : drawn.location.selected = 1 := rfl
  have hscroll : drawn.scroll = 0 := rfl
  have hroom : Scroll.visibleRows 4 = 1 := rfl
  rw [InSight, hselected, hscroll, hroom] at hsight
  omega

end Session

end FleetConsole
