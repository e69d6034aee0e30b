import FleetConsole.Proofs.Request.Signal
import FleetConsole.Session.Key
import FleetConsole.Session.Scroll

/-!
# Runs of a session

What can happen to a session, in any order: keys are pressed, the clock is read, the screen is
drawn, answers arrive or get lost, and what has arrived is taken in. `after` is one step and `run`
is any number of them.

The proofs about runs rest on what one step can do. Whatever key is pressed, the session either
stays on its trail, with the same table and the same pending fetch (`Stays`), or it has left for
another place, where nothing is shown yet and nothing is pending (`Left`): `press_stays_or_left`.
-/

namespace FleetConsole

/-- What can happen to a session. -/
inductive Event where
  | press (press : KeyPress)
  /-- The clock is read, and a fetch begins if it is time. -/
  | tick (now : Nat)
  /-- The screen is drawn, with so many lines for the table. -/
  | draw (height : Nat)
  | answer (number : Nat) (result : Except FleetError Table)
  /-- Nobody is left who could answer. -/
  | lose (number : Nat)
  /-- What has arrived is taken in. -/
  | poll

/-- What a location is about: a view and, for the views of an application, which one. -/
def Location.spot (l : Location) : View × Option String := (l.view, l.path)

/-- What a fetch asks for: a view and the path in its context. -/
def Fetch.spot (f : Fetch) : View × Option String :=
  (f.view, f.context.value? RequestContext.pathKey)

/-- The control key gives no key a meaning, other than to quit. -/
theorem KeyPress.command?_of_ne_quit {press : KeyPress} {c : Command}
    (h : press.command? = some c) (hc : c ≠ .quit) : press.key.command? = some c := by
  unfold KeyPress.command? at h
  split at h
  · exact absurd (Option.some.inj h).symm hc
  · exact h

namespace Session

/-- The session that a profile opens. -/
def opened (profile : Profile) : Session := { profile }

/-- The session after an event. -/
def after (s : Session) : Event → Session
  | .press press => s.press press
  | .tick now => (s.startFetch now).2
  | .draw height => s.fit height
  | .answer number result => s.settle number (.arrived result)
  | .lose number => s.settle number .lost
  | .poll => s.poll.2

/-- The session after events, the first one first. -/
def run (s : Session) (events : List Event) : Session := events.foldl after s

/-- What a session is about and the way back from there. To navigate is to change the trail. -/
def trail (s : Session) : (View × Option String) × List Location := (s.location.spot, s.history)

/-- The number of the pending fetch. -/
def awaited? (s : Session) : Option Nat := s.pending.map (·.number)

/-! ## Giving up and retiring -/

@[simp] theorem retire_table (s : Session) : s.retire.table = s.table := rfl

/-- Retiring the pending fetch drops the handle of its signal. -/
theorem retire_states (s : Session) (n : Nat) :
    s.retire.signals.states[n]? = if s.awaited? = some n
      then s.signals.states[n]?.map fun signal => { signal with held := false }
      else s.signals.states[n]? := by
  unfold retire awaited?
  cases s.pending <;> simp [Signals.states_drop]

/-- Giving up the pending fetch uses the handle of its signal and then drops it. -/
theorem abandon_states (s : Session) (n : Nat) :
    s.abandon.signals.states[n]? = if s.awaited? = some n
      then s.signals.states[n]?.map fun signal => ⟨signal.cancelled || signal.held, false⟩
      else s.signals.states[n]? := by
  unfold abandon
  rw [retire_states]
  unfold awaited?
  cases s.pending with
  | none => simp
  | some p =>
    by_cases h : p.number = n
    · cases hs : s.signals.states[n]? with
      | none => simp [h, hs, Signals.states_cancel]
      | some signal => cases hh : signal.held <;> simp [h, hs, hh, Signals.states_cancel]
    · simp [h, Signals.states_cancel]

@[simp] theorem retire_next (s : Session) : s.retire.signals.next = s.signals.next := by
  unfold retire
  cases s.pending <;> simp

@[simp] theorem abandon_next (s : Session) : s.abandon.signals.next = s.signals.next := by
  unfold abandon
  rw [retire_next]
  cases s.pending <;> simp

/-- Retiring the pending fetch cancels nothing. -/
theorem isCancelled_retire (s : Session) (n : Nat) :
    s.retire.signals.isCancelled n = s.signals.isCancelled n := by
  unfold retire
  cases s.pending with
  | none => rfl
  | some p => exact Signals.isCancelled_drop _ _ _

/-- Giving up the pending fetch leaves cancelled what was. -/
theorem isCancelled_abandon (s : Session) {n : Nat} (h : s.signals.isCancelled n) :
    s.abandon.signals.isCancelled n := by
  unfold abandon
  rw [isCancelled_retire]
  cases s.pending with
  | none => exact h
  | some p => exact Signals.isCancelled_cancel _ _ _ h

/-! ## Staying and leaving -/

/-- The session stays on its trail: what it shows, what it waits for and when it last fetched is the
same, and there is no new message of a failure. -/
structure Stays (s t : Session) : Prop where
  trail : t.trail = s.trail
  table : t.table = s.table
  pending : t.pending = s.pending
  signals : t.signals = s.signals
  lastFetch : t.lastFetch = s.lastFetch
  profile : t.profile = s.profile
  notice : t.notice = s.notice ∨ t.notice.all (!·.isError)

/-- The session has left for another place: its fetch is given up, nothing is shown, and nothing was
fetched there yet. -/
structure Left (s t : Session) : Prop where
  trail : t.trail ≠ s.trail
  table : t.table = none
  pending : t.pending = none
  signals : t.signals = s.abandon.signals
  lastFetch : t.lastFetch = none
  refreshWanted : t.refreshWanted = true
  profile : t.profile = s.profile
  notice : t.notice = none

/-- To do nothing is to stay. -/
theorem Stays.refl (s : Session) : s.Stays s := ⟨rfl, rfl, rfl, rfl, rfl, rfl, .inl rfl⟩

/-- To draw the screen is to stay. -/
theorem stays_fit (s : Session) (height : Nat) : s.Stays (s.fit height) :=
  ⟨rfl, rfl, rfl, rfl, rfl, rfl, .inl rfl⟩

/-- Going back leaves, if there is a way back. -/
theorem goBack_eq_or_left (s : Session) : s.goBack.2 = s ∨ s.Left s.goBack.2 := by
  unfold goBack
  cases h : s.history with
  | nil => exact .inl rfl
  | cons place rest =>
    -- The way back gets shorter, so the trail is another one.
    refine .inr ⟨fun e => ?_, rfl, rfl, rfl, rfl, rfl, rfl, rfl⟩
    have hrest : rest = s.history := congrArg Prod.snd e
    exact List.cons_ne_self place rest (by rw [← h, ← hrest])

/-- Opening a view of an application leaves, if an application is at hand that is not shown so. -/
theorem openView_eq_or_left (s : Session) (view : View) :
    s.openView view = s ∨ s.Left (s.openView view) := by
  unfold openView
  cases s.subject? with
  | none => exact .inl rfl
  | some path =>
    by_cases h : s.view = view
    · exact .inl (if_pos h)
    · simp only [h, if_false]
      -- The way back gets longer, so the trail is another one.
      refine .inr ⟨fun e => ?_, rfl, rfl, rfl, rfl, rfl, rfl, rfl⟩
      exact List.cons_ne_self s.location s.history (congrArg Prod.snd e)

/-- Switching to a collection leaves, unless the session is there and there is no way back. -/
theorem switchTo_eq_or_left (s : Session) (view : View) :
    s.switchTo view = s ∨ s.Left (s.switchTo view) := by
  unfold switchTo
  split
  · exact .inl rfl
  · next h =>
    -- The same trail means that the session is there already and that no way leads back.
    refine .inr ⟨fun e => h ?_, rfl, rfl, rfl, rfl, rfl, rfl, rfl⟩
    have hview : view = s.view := congrArg (·.1.1) e
    have hhistory : [] = s.history := congrArg Prod.snd e
    simp [hview, ← hhistory]

/-- The selection after a command that leads nowhere else. -/
def selectionAfter (s : Session) : Command → Nat
  | .selectNext =>
    if s.location.selected + 1 < s.rowCount then s.location.selected + 1 else s.location.selected
  | .selectPrevious => s.location.selected - 1
  | .selectFirst => 0
  | .selectLast => s.rowCount - 1
  | .pageDown => min (s.location.selected + max s.pageSize 1) (s.rowCount - 1)
  | .pageUp => s.location.selected - max s.pageSize 1
  | _ => s.location.selected

/-- The message after a command that leads nowhere else. -/
def noticeAfter (s : Session) : Command → Option Notice
  | .refresh => some ⟨"Refreshing " ++ s.view.title, false⟩
  | .dismiss => none
  | _ => s.notice

/-- The session after a command that leads nowhere else. -/
def stayed (s : Session) (c : Command) : Session :=
  { s.select (s.selectionAfter c) with
    notice := s.noticeAfter c
    refreshWanted := decide (c = .refresh) || s.refreshWanted
    helpShown := if c = .toggleHelp then !s.helpShown else s.helpShown }

/-- All that a command can do: it leads to another place, or the session stays. -/
theorem perform_cases (s : Session) (c : Command) :
    s.Left (s.perform c) ∨ s.perform c = s.stayed c := by
  cases c with
  | dismiss =>
    show s.Left s.dismiss ∨ s.dismiss = { s with notice := none }
    unfold dismiss
    cases hnotice : s.notice with
    | some notice => exact .inr rfl
    | none =>
      have hsame : { s with notice := none } = s := by rw [← hnotice]
      rw [hsame]
      exact s.goBack_eq_or_left.symm
  | openView view => exact (s.openView_eq_or_left view).symm
  | switchTo view => exact (s.switchTo_eq_or_left view).symm
  | selectNext =>
    refine .inr ?_
    show s.selectNext = s.select (s.selectionAfter .selectNext)
    unfold selectNext selectionAfter
    split
    · rfl
    · rfl
  | quit | refresh | toggleHelp | selectPrevious | selectFirst | selectLast | pageDown | pageUp =>
    exact .inr rfl

/-- A command keeps the session where it is or makes it leave. -/
theorem perform_stays_or_left (s : Session) (c : Command) :
    s.Stays (s.perform c) ∨ s.Left (s.perform c) := by
  rcases s.perform_cases c with hl | heq
  · exact .inr hl
  · have hnotice : s.noticeAfter c = s.notice ∨ (s.noticeAfter c).all (!·.isError) := by
      unfold noticeAfter
      split
      · exact .inr rfl
      · exact .inr rfl
      · exact .inl rfl
    rw [heq]
    exact .inl ⟨rfl, rfl, rfl, rfl, rfl, rfl, hnotice⟩

/-- A key press keeps the session where it is or makes it leave. -/
theorem press_stays_or_left (s : Session) (press : KeyPress) :
    s.Stays (s.press press) ∨ s.Left (s.press press) := by
  unfold Session.press
  cases press.command? with
  | none => exact .inl (.refl s)
  | some c => exact s.perform_stays_or_left c

/-! ## Fetching -/

/-- The path in the context of a request is the path of the location. -/
theorem value?_requestContext (s : Session) :
    s.requestContext.value? RequestContext.pathKey = s.location.path := by
  unfold requestContext
  cases s.location.path <;> cases s.profile.labels <;> rfl

/-- A fetch begins if it is time, and then nothing was pending. It asks for what the session is
about, under the next number and with the signal of that number. -/
theorem startFetch_cases (s : Session) (now : Nat) :
    (s.refreshDue now = false ∧ s.startFetch now = (none, s)) ∨
      (s.refreshDue now = true ∧ s.pending = none ∧ ∃ f, f.number = s.signals.next ∧
        f.spot = s.location.spot ∧ f.context.signal = some s.signals.next ∧
        s.startFetch now = (some f,
          { s with
            pending := some { location := s.location, number := s.signals.next }
            signals := s.signals.issue
            lastFetch := some now
            refreshWanted := false })) := by
  unfold startFetch
  cases h : s.refreshDue now with
  | false => exact .inl ⟨rfl, rfl⟩
  | true =>
    have hnone : s.pending = none := by
      simp only [refreshDue, Bool.and_eq_true, Option.isNone_iff_eq_none] at h
      exact h.1
    refine .inr ⟨rfl, hnone, _, rfl, ?_, rfl, rfl⟩
    exact Prod.ext rfl s.value?_requestContext

/-- An outcome reaches the session if it waits for it, and otherwise goes nowhere. -/
theorem settle_cases (s : Session) (number : Nat) (reply : Reply) :
    (∃ p, s.pending = some p ∧ p.number = number ∧ p.reply = .waiting ∧
        s.settle number reply = { s with pending := some { p with reply } }) ∨
      ((∀ p, s.pending = some p → p.number = number → p.reply ≠ .waiting) ∧
        s.settle number reply = s) := by
  unfold settle awaits
  cases hp : s.pending with
  | none => exact .inr ⟨nofun, rfl⟩
  | some p =>
    obtain ⟨location, n, r⟩ := p
    cases r with
    | waiting =>
      by_cases h : n = number
      · exact .inl ⟨_, rfl, h, rfl, by simp [h]⟩
      · refine .inr ⟨?_, by simp [h]⟩
        rintro p ⟨⟩ hn
        exact absurd hn h
    | arrived result => exact .inr ⟨by rintro p ⟨⟩ _; exact nofun, rfl⟩
    | lost => exact .inr ⟨by rintro p ⟨⟩ _; exact nofun, rfl⟩

/-- Taking in an outcome keeps the trail. -/
@[simp] theorem absorb_trail (s : Session) (result : Except FleetError Table) :
    (s.absorb result).trail = s.trail := by
  unfold absorb
  split <;> rfl

@[simp] theorem absorb_pending (s : Session) (result : Except FleetError Table) :
    (s.absorb result).pending = s.pending := by
  unfold absorb
  split <;> rfl

@[simp] theorem absorb_signals (s : Session) (result : Except FleetError Table) :
    (s.absorb result).signals = s.signals := by
  unfold absorb
  split <;> rfl

/-- The table shown after an outcome is the one that it brings, or else the one before. -/
theorem absorb_table (s : Session) (result : Except FleetError Table) :
    (s.absorb result).table = result.toOption.or s.table := by
  unfold absorb
  split <;> rfl

/-- A failure shown after an outcome is the one that it brings, or else the one before. -/
theorem absorb_notice {s : Session} {result : Except FleetError Table} {text : String}
    (h : (s.absorb result).notice = some ⟨text, true⟩) :
    s.notice = some ⟨text, true⟩ ∨ ∃ error, result = .error error ∧ error ≠ .cancelled ∧
      text = s.view.title ++ ": " ++ error.message := by
  unfold absorb at h
  split at h
  · next table =>
    obtain ⟨-, hfalse⟩ := Option.filter_eq_some_iff.mp h
    simp at hfalse
  · exact .inl h
  · next error herror =>
    refine .inr ⟨error, rfl, fun e => herror (by rw [e]), ?_⟩
    exact (congrArg Notice.text (Option.some.inj h)).symm

/-- A poll takes in what has become of the pending fetch, if anything has and if it is about the
place where the session is. -/
theorem poll_cases (s : Session) :
    ((∀ p, s.pending = some p → p.reply = .waiting) ∧ s.poll = (false, s)) ∨
      ∃ p result, s.pending = some p ∧
        (p.reply = .arrived result ∨ p.reply = .lost ∧ result = .error .cancelled) ∧
        s.poll = if p.location.spot = s.location.spot then (true, s.retire.absorb result)
          else (false, s.retire) := by
  have hspot (l : Location) :
      l.spot = s.location.spot ↔ l.view = s.retire.view ∧ l.path = s.retire.location.path :=
    Prod.ext_iff
  unfold poll absorbFor
  cases hp : s.pending with
  | none => exact .inl ⟨nofun, rfl⟩
  | some p =>
    obtain ⟨location, n, reply⟩ := p
    cases reply with
    | waiting => exact .inl ⟨by rintro p ⟨⟩; rfl, rfl⟩
    | arrived result => exact .inr ⟨_, result, rfl, .inl rfl, by simp only [hspot]⟩
    | lost => exact .inr ⟨_, _, rfl, .inr ⟨rfl, rfl⟩, by simp only [hspot]⟩

/-! ## Cancelled signals -/

/-- A cancelled signal stays cancelled, whatever happens. -/
theorem isCancelled_after (s : Session) (event : Event) {n : Nat} (h : s.signals.isCancelled n) :
    (s.after event).signals.isCancelled n := by
  cases event with
  | press press =>
    rcases s.press_stays_or_left press with hs | hl
    · rw [after, hs.signals]
      exact h
    · rw [after, hl.signals]
      exact s.isCancelled_abandon h
  | tick now =>
    rcases s.startFetch_cases now with ⟨-, heq⟩ | ⟨-, -, f, -, -, -, heq⟩
    · rw [after, heq]
      exact h
    · rw [after, heq]
      exact (Signals.isCancelled_issue _ _).trans h
  | draw height => exact h
  | answer number result | lose number =>
    rw [after]
    rcases s.settle_cases number _ with ⟨p, -, -, -, heq⟩ | ⟨-, heq⟩
    · rw [heq]
      exact h
    · rw [heq]
      exact h
  | poll =>
    rw [after]
    rcases s.poll_cases with ⟨-, heq⟩ | ⟨p, result, -, -, heq⟩
    · rw [heq]
      exact h
    · rw [heq]
      split
      · rw [absorb_signals, isCancelled_retire]
        exact h
      · rw [isCancelled_retire]
        exact h

/-- What was cancelled stays so along a run. -/
theorem isCancelled_run (s : Session) (events : List Event) {n : Nat}
    (h : s.signals.isCancelled n) : (s.run events).signals.isCancelled n := by
  induction events generalizing s with
  | nil => exact h
  | cons event events ih => exact ih _ (s.isCancelled_after event h)

end Session

end FleetConsole
