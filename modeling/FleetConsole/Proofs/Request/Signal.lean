import FleetConsole.Request.Signal

/-!
# What happens to one signal

Each operation on the board is told by what it does to the state of every single signal: issuing
adds one at the end, and using or dropping a handle touches the signal of that handle only. A
cancelled signal stays cancelled.
-/

namespace FleetConsole.Signals

/-- A new signal comes at the end. -/
theorem states_issue (board : Signals) (n : Nat) :
    board.issue.states[n]? = if n = board.next then some {} else board.states[n]? := by
  by_cases h : n = board.next
  · rw [if_pos h, h]
    exact List.getElem?_concat_length
  · rw [if_neg h]
    unfold next at h
    rcases Nat.lt_or_gt_of_ne h with hlt | hgt
    · exact List.getElem?_append_left hlt
    · rw [List.getElem?_eq_none (by simp [issue]; omega), List.getElem?_eq_none (by omega)]

/-- Using a handle changes the signal of that handle. -/
theorem states_cancel (board : Signals) (n m : Nat) :
    (board.cancel n).states[m]? = if n = m
      then board.states[m]?.map fun s => if s.held then { s with cancelled := true } else s
      else board.states[m]? := by
  simp only [cancel, List.getElem?_modify]
  split <;> simp

/-- Dropping a handle changes the signal of that handle. -/
theorem states_drop (board : Signals) (n m : Nat) :
    (board.drop n).states[m]? = if n = m
      then board.states[m]?.map fun s => { s with held := false }
      else board.states[m]? := by
  simp only [drop, List.getElem?_modify]
  split <;> simp

@[simp] theorem next_issue (board : Signals) : board.issue.next = board.next + 1 := by
  simp [issue, next]

@[simp] theorem next_cancel (board : Signals) (n : Nat) : (board.cancel n).next = board.next := by
  simp [cancel, next]

@[simp] theorem next_drop (board : Signals) (n : Nat) : (board.drop n).next = board.next := by
  simp [drop, next]

/-- Issuing a signal cancels none and revives none. -/
theorem isCancelled_issue (board : Signals) (n : Nat) :
    board.issue.isCancelled n = board.isCancelled n := by
  simp only [isCancelled, states_issue]
  split
  · next h =>
    have hnone : board.states[n]? = none := List.getElem?_eq_none (by simp [h, next])
    rw [hnone]
    rfl
  · rfl

/-- Using a handle cancels its signal if the handle is still there, and no other one. -/
theorem isCancelled_cancel_iff (board : Signals) (n m : Nat) :
    (board.cancel n).isCancelled m ↔ board.isCancelled m ∨ n = m ∧ board.isHeld m := by
  simp only [isCancelled, isHeld, states_cancel]
  by_cases h : n = m
  · rw [if_pos h]
    cases board.states[m]? with
    | none => simp
    | some s => cases hh : s.held <;> simp [h, hh]
  · simp [h]

/-- Using a handle leaves a cancelled signal cancelled. -/
theorem isCancelled_cancel (board : Signals) (n m : Nat) (h : board.isCancelled m) :
    (board.cancel n).isCancelled m :=
  (board.isCancelled_cancel_iff n m).mpr (.inl h)

/-- Dropping a handle changes nothing about who is cancelled. -/
theorem isCancelled_drop (board : Signals) (n m : Nat) :
    (board.drop n).isCancelled m = board.isCancelled m := by
  simp only [isCancelled, states_drop]
  split
  · cases board.states[m]? <;> rfl
  · rfl

/-- A new signal comes with its handle. -/
theorem isHeld_issue_iff (board : Signals) (n : Nat) :
    board.issue.isHeld n ↔ n = board.next ∨ board.isHeld n := by
  simp only [isHeld, states_issue]
  by_cases h : n = board.next <;> simp [h]

/-- Using a handle is not to drop it. -/
theorem isHeld_cancel (board : Signals) (n m : Nat) :
    (board.cancel n).isHeld m = board.isHeld m := by
  simp only [isHeld, states_cancel]
  split
  · cases board.states[m]? with
    | none => rfl
    | some s => cases hh : s.held <;> simp [hh]
  · rfl

/-- Dropping a handle leaves the others where they are. -/
theorem isHeld_drop_iff (board : Signals) (n m : Nat) :
    (board.drop n).isHeld m ↔ board.isHeld m ∧ n ≠ m := by
  simp only [isHeld, states_drop]
  by_cases h : n = m
  · rw [if_pos h]
    cases board.states[m]? <;> simp [h]
  · simp [h]

end FleetConsole.Signals
