import FleetConsole.Proofs.Session.Run

/-!
# The selected row

The selection is a number. Six commands move it, the way back brings back the one of a place that
was left, and the table that it points into comes and goes. `selectionAfter` says what a command
makes of it, unless it leads to another place, where no table is shown yet (`perform_selects`).

The invariant of all courses of a session is that the selection lies within the table that is shown
(`within_course`). `course_selects` reads off what that means for the selected row and for the views
that are opened for it. `course_steered` says which way the selection moves: never down by a command
that moves up, and never up by one that moves down, as long as a table is shown. While none is, the
commands that go by the number of rows lose the selection.
-/

namespace FleetConsole

/-- What can be done to a session: something happens to it, or whoever holds it hands it a table,
the outcome of a fetch or a message. -/
inductive Act where
  | event (event : Event)
  | table (table : Table)
  | outcome (result : Except FleetError Table)
  | message (notice : Notice)

namespace Command

/-- Is the command there to move the selection up? -/
def movesUp : Command → Bool
  | selectPrevious | pageUp | selectFirst => true
  | _ => false

/-- Is the command there to move the selection down? -/
def movesDown : Command → Bool
  | selectNext | pageDown | selectLast => true
  | _ => false

end Command

namespace Session

/-- The session after an act. -/
def acted (s : Session) : Act → Session
  | .event event => s.after event
  | .table table => s.showTable table
  | .outcome result => s.absorb result
  | .message notice => s.notify notice

/-- The session that a profile opens, after acts, the first one first. -/
def course (profile : Profile) (acts : List Act) : Session := acts.foldl acted (opened profile)

/-! ## What a command makes of the selection -/

/-- A command leads to another place, where nothing is shown, or it moves the selection and leaves
the table as it is. -/
theorem perform_selects (s : Session) (c : Command) :
    (s.perform c).table = none ∨
      (s.perform c).table = s.table ∧ (s.perform c).location.selected = s.selectionAfter c := by
  rcases s.perform_cases c with hl | heq
  · exact .inl hl.table
  · rw [heq]
    exact .inr ⟨rfl, rfl⟩

/-- The commands that are there to move the selection lead nowhere else. -/
theorem selected_perform (s : Session) {c : Command}
    (hc : c.movesUp = true ∨ c.movesDown = true) :
    (s.perform c).location.selected = s.selectionAfter c := by
  cases c with
  | selectNext =>
    simp only [perform, selectNext, selectionAfter]
    split
    · rfl
    · rfl
  | selectPrevious | selectFirst | selectLast | pageDown | pageUp => rfl
  | quit | dismiss | openView | switchTo | refresh | toggleHelp =>
    rcases hc with hc | hc
    · cases hc
    · cases hc

/-- The rows that are counted are those of the table that is shown. -/
theorem rowCount_of_table {s : Session} {t : Table} (ht : s.table = some t) :
    s.rowCount = t.rows.length := by
  rw [rowCount, ht, Option.elim_some]

/-! ## The invariant -/

/-- The selection lies within the table that is shown, if one is: on one of its rows or, if it has
none, on the first place. -/
def Within (s : Session) : Prop :=
  ∀ t, s.table = some t → s.location.selected ≤ t.rows.length - 1

/-- Where no table is shown, none is left. -/
theorem within_of_no_table {s : Session} (h : s.table = none) : s.Within := by
  intro t ht
  rw [h] at ht
  cases ht

/-- No command moves the selection out of the table. -/
theorem Within.selectionAfter_le {s : Session} (h : s.Within) {t : Table} (ht : s.table = some t)
    (c : Command) : s.selectionAfter c ≤ t.rows.length - 1 := by
  have hselected := h t ht
  have hcount := rowCount_of_table ht
  cases c with
  | selectNext =>
    simp only [selectionAfter, hcount]
    split <;> omega
  | selectPrevious | pageUp =>
    show s.location.selected - _ ≤ _
    omega
  | selectFirst => exact Nat.zero_le _
  | selectLast =>
    show s.rowCount - 1 ≤ _
    omega
  | pageDown =>
    show min _ (s.rowCount - 1) ≤ _
    omega
  | quit | dismiss | openView | switchTo | refresh | toggleHelp => exact hselected

/-- A key leaves the selection within the table. -/
theorem Within.press {s : Session} (h : s.Within) (press : KeyPress) : (s.press press).Within := by
  unfold Session.press
  cases press.command? with
  | none => exact h
  | some c =>
    show (s.perform c).Within
    rcases s.perform_selects c with hnone | ⟨htable, hselected⟩
    · exact within_of_no_table hnone
    · intro t ht
      rw [hselected]
      exact h.selectionAfter_le (htable.symm.trans ht) c

/-- A table that is shown takes the selection in, whatever it was before. -/
theorem within_showTable (s : Session) (table : Table) : (s.showTable table).Within := by
  rintro t ⟨⟩
  exact Nat.min_le_right _ _

/-- The outcome of a fetch leaves the selection within the table. -/
theorem Within.absorb {s : Session} (h : s.Within) (result : Except FleetError Table) :
    (s.absorb result).Within := by
  unfold Session.absorb
  split
  · exact within_showTable _ _
  · exact h
  · exact h

/-- Every event leaves the selection within the table. -/
theorem Within.after {s : Session} (h : s.Within) (event : Event) : (s.after event).Within := by
  cases event with
  | press press => exact h.press press
  | tick now =>
    rw [Session.after]
    rcases s.startFetch_cases now with ⟨-, heq⟩ | ⟨-, -, f, -, -, -, heq⟩
    · rw [heq]
      exact h
    · rw [heq]
      exact h
  | draw height => exact h
  | answer number result | lose number =>
    rw [Session.after]
    rcases s.settle_cases number _ with ⟨p, -, -, -, heq⟩ | ⟨-, heq⟩
    · rw [heq]
      exact h
    · rw [heq]
      exact h
  | poll =>
    rw [Session.after]
    rcases s.poll_cases with ⟨-, heq⟩ | ⟨p, result, -, -, heq⟩
    · rw [heq]
      exact h
    · have hretired : s.retire.Within := h
      rw [heq]
      split
      · exact hretired.absorb result
      · exact hretired

/-- Every act keeps the selection within the table. -/
theorem Within.acted {s : Session} (h : s.Within) (act : Act) : (s.acted act).Within := by
  cases act with
  | event event => exact h.after event
  | table table => exact s.within_showTable table
  | outcome result => exact h.absorb result
  | message notice => exact h

/-- Every course keeps the selection within the table. -/
theorem within_course (profile : Profile) (acts : List Act) : (course profile acts).Within := by
  have hfoldl (s : Session) (h : s.Within) : (acts.foldl Session.acted s).Within := by
    induction acts generalizing s with
    | nil => exact h
    | cons act acts ih => exact ih _ (h.acted act)
  exact hfoldl _ (within_of_no_table rfl)

/-! ## The selected row -/

/-- The keys that open a view of an application, with the view. -/
def openingKeys : List (Key × View) :=
  [(.enter, .manifests), (.char 'm', .manifests), (.char 's', .applicationStatus)]

/-- What can be relied on by whoever looks at the selected row or opens it. -/
structure Selects (s : Session) : Prop where
  /-- The selection is less than the number of rows that are shown, or zero if there are none. -/
  in_table : ∀ t, s.table = some t →
    s.location.selected < t.rows.length ∨ t.rows = [] ∧ s.location.selected = 0
  /-- A row is selected exactly if a table with rows is shown. -/
  isSome_iff : s.selectedRow?.isSome ↔ ∃ t, s.table = some t ∧ t.rows ≠ []
  /-- In the collection of applications a view is opened for the application of a shown row. -/
  opens : s.view = .applications → ∀ t, s.table = some t → t.rows ≠ [] →
    ∃ row ∈ t.rows, s.selectedRow? = some row ∧ ∀ opening ∈ openingKeys, ∀ control,
      (s.press ⟨opening.1, control⟩).location = ⟨opening.2, some row.id, 0⟩ ∧
        (s.press ⟨opening.1, control⟩).history = s.location :: s.history
  /-- There no view is opened if no row is shown. -/
  stays : s.view = .applications → (∀ t, s.table = some t → t.rows = []) →
    ∀ opening ∈ openingKeys, ∀ control, s.press ⟨opening.1, control⟩ = s

/-- The command of a key that opens a view. -/
theorem press_opening (s : Session) {opening : Key × View} (h : opening ∈ openingKeys)
    (control : Bool) : s.press ⟨opening.1, control⟩ = s.openView opening.2 := by
  rcases List.mem_cons.mp h with rfl | h
  · cases control <;> rfl
  · rcases List.mem_cons.mp h with rfl | h
    · cases control <;> rfl
    · obtain rfl := List.mem_singleton.mp h
      cases control <;> rfl

/-- The views that keys open are those of an application. -/
theorem applications_ne_opening {opening : Key × View} (h : opening ∈ openingKeys) :
    View.applications ≠ opening.2 := by
  revert opening
  decide

/-- A row is selected if it stands in the table at the place of the selection. -/
theorem selectedRow?_eq_some_iff {s : Session} {row : Row} :
    s.selectedRow? = some row ↔
      ∃ t, s.table = some t ∧ t.rows[s.location.selected]? = some row :=
  Option.bind_eq_some_iff

/-- A selection within a table with rows selects one of them. -/
theorem Within.exists_row {s : Session} (h : s.Within) {t : Table} (ht : s.table = some t)
    (hrows : t.rows ≠ []) : ∃ row ∈ t.rows, s.selectedRow? = some row := by
  have hpos : 0 < t.rows.length := List.length_pos_iff.mpr hrows
  have hlt : s.location.selected < t.rows.length := by
    have hle := h t ht
    omega
  refine ⟨t.rows[s.location.selected], List.getElem_mem hlt, ?_⟩
  exact selectedRow?_eq_some_iff.mpr ⟨t, ht, List.getElem?_eq_getElem hlt⟩

/-- Without rows, no row is selected. -/
theorem selectedRow?_eq_none {s : Session} (h : ∀ t, s.table = some t → t.rows = []) :
    s.selectedRow? = none := by
  refine Option.eq_none_iff_forall_ne_some.mpr fun row hrow => ?_
  obtain ⟨t, ht, hget⟩ := selectedRow?_eq_some_iff.mp hrow
  rw [h t ht] at hget
  cases hget

/-- In the collection of applications a view is opened for the selected row. -/
theorem press_opens {s : Session} {row : Row} (hview : s.view = .applications)
    (hrow : s.selectedRow? = some row) {opening : Key × View} (h : opening ∈ openingKeys)
    (control : Bool) :
    (s.press ⟨opening.1, control⟩).location = ⟨opening.2, some row.id, 0⟩ ∧
      (s.press ⟨opening.1, control⟩).history = s.location :: s.history := by
  have hsubject : s.subject? = some row.id := by
    rw [subject?, hview, hrow]
    rfl
  rw [s.press_opening h, openView, hsubject, hview]
  simp only [if_neg (applications_ne_opening h)]
  exact ⟨rfl, rfl⟩

/-- There no view is opened if no row is selected. -/
theorem press_stays {s : Session} (hview : s.view = .applications) (hrow : s.selectedRow? = none)
    {opening : Key × View} (h : opening ∈ openingKeys) (control : Bool) :
    s.press ⟨opening.1, control⟩ = s := by
  have hsubject : s.subject? = none := by
    rw [subject?, hview, hrow]
    rfl
  rw [s.press_opening h, openView, hsubject]

/-- Whatever tables replace each other, and whatever is done in between, the selection stays within
the one that is shown, and a view is opened for one of its rows. -/
theorem course_selects (profile : Profile) (acts : List Act) : (course profile acts).Selects := by
  have h := within_course profile acts
  generalize course profile acts = s at h
  refine ⟨fun t ht => ?_, ⟨fun hsome => ?_, fun ⟨t, ht, hrows⟩ => ?_⟩, ?_, ?_⟩
  · have hle := h t ht
    cases hrows : t.rows with
    | nil =>
      rw [hrows] at hle
      exact .inr ⟨rfl, Nat.le_zero.mp hle⟩
    | cons row rows =>
      rw [hrows] at hle
      exact .inl (Nat.lt_succ_of_le hle)
  · obtain ⟨row, hrow⟩ := Option.isSome_iff_exists.mp hsome
    obtain ⟨t, ht, hget⟩ := selectedRow?_eq_some_iff.mp hrow
    refine ⟨t, ht, fun hempty => ?_⟩
    rw [hempty] at hget
    cases hget
  · obtain ⟨row, -, hrow⟩ := h.exists_row ht hrows
    rw [hrow, Option.isSome_some]
  · intro hview t ht hrows
    obtain ⟨row, hmem, hrow⟩ := h.exists_row ht hrows
    exact ⟨row, hmem, hrow, fun opening hopening control => press_opens hview hrow hopening control⟩
  · intro hview hempty opening hopening control
    exact press_stays hview (selectedRow?_eq_none hempty) hopening control

/-! ## Which way the selection moves -/

/-- Up is never down. -/
theorem selectionAfter_le (s : Session) {c : Command} (hc : c.movesUp = true) :
    s.selectionAfter c ≤ s.location.selected := by
  cases c with
  | selectPrevious | pageUp => exact Nat.sub_le _ _
  | selectFirst => exact Nat.zero_le _
  | _ => cases hc

/-- To select the next row is never to go up. -/
theorem le_selectionAfter_selectNext (s : Session) :
    s.location.selected ≤ s.selectionAfter .selectNext := by
  simp only [selectionAfter]
  split <;> omega

/-- Down is never up, within a table. -/
theorem Within.le_selectionAfter {s : Session} (h : s.Within) {t : Table} (ht : s.table = some t)
    {c : Command} (hc : c.movesDown = true) : s.location.selected ≤ s.selectionAfter c := by
  have hselected := h t ht
  have hcount := rowCount_of_table ht
  cases c with
  | selectNext => exact s.le_selectionAfter_selectNext
  | selectLast =>
    show _ ≤ s.rowCount - 1
    omega
  | pageDown =>
    show _ ≤ min _ (s.rowCount - 1)
    omega
  | _ => cases hc

/-- Which way key presses move the selection. -/
structure Steered (s : Session) : Prop where
  /-- Key presses that mean to move the selection up never move it down. -/
  up : ∀ (press : KeyPress) (c : Command), press.command? = some c → c.movesUp = true →
    (s.press press).location.selected ≤ s.location.selected
  /-- Key presses that mean to select the next row never move the selection up. -/
  next : ∀ press : KeyPress, press.command? = some .selectNext →
    s.location.selected ≤ (s.press press).location.selected
  /-- As long as a table is shown, nor do the other ones that mean to move it down. -/
  down : s.table.isSome = true → ∀ (press : KeyPress) (c : Command), press.command? = some c →
    c.movesDown = true → s.location.selected ≤ (s.press press).location.selected
  /-- While no table is shown, those that go by the number of rows select the first place. -/
  loses : s.table = none → ∀ press : KeyPress,
    press.command? = some .pageDown ∨ press.command? = some .selectLast →
      (s.press press).location.selected = 0

/-- The selection after a key press that means to move it. -/
theorem selected_press (s : Session) {press : KeyPress} {c : Command}
    (hpress : press.command? = some c) (hc : c.movesUp = true ∨ c.movesDown = true) :
    (s.press press).location.selected = s.selectionAfter c := by
  rw [Session.press, hpress]
  exact s.selected_perform hc

/-- Keys that move the selection up never move it down. Keys that move it down never move it up as
long as a table is shown; while none is, only the one that selects the next row leaves it where it
is. -/
theorem course_steered (profile : Profile) (acts : List Act) : (course profile acts).Steered := by
  have h := within_course profile acts
  generalize course profile acts = s at h
  refine ⟨fun press c hpress hc => ?_, fun press hpress => ?_,
    fun hsome press c hpress hc => ?_, fun hnone press hpress => ?_⟩
  · rw [s.selected_press hpress (.inl hc)]
    exact s.selectionAfter_le hc
  · rw [s.selected_press hpress (.inr rfl)]
    exact s.le_selectionAfter_selectNext
  · obtain ⟨t, ht⟩ := Option.isSome_iff_exists.mp hsome
    rw [s.selected_press hpress (.inr hc)]
    exact h.le_selectionAfter ht hc
  · have hcount : s.rowCount = 0 := by rw [rowCount, hnone, Option.elim_none]
    rcases hpress with hpress | hpress
    · rw [s.selected_press hpress (.inr rfl), selectionAfter, hcount]
      exact Nat.min_zero _
    · rw [s.selected_press hpress (.inr rfl), selectionAfter, hcount]

/-- The way back brings back the second row, and before the table has arrived a page down or the way
to the end leads to the first. -/
theorem course_unsteered :
    let row (id : String) : Row := ⟨id, [], .nominal⟩
    let s := course { context := "hub", source := "hub" }
      [.table { rows := [row "shop/web", row "jobs/batch"] }, .event (.press ⟨.down, false⟩),
       .event (.press ⟨.enter, false⟩), .event (.press ⟨.escape, false⟩)]
    s.table = none ∧ s.location.selected = 1 ∧
      (s.press ⟨.pageDown, false⟩).location.selected = 0 ∧
      (s.press ⟨.bottom, false⟩).location.selected = 0 :=
  ⟨rfl, rfl, rfl, rfl⟩

end Session

end FleetConsole
