import FleetConsole.Proofs.Session.Chronicle
import FleetConsole.Proofs.Session.WayBack

/-!
# When fetches begin

A timetable watches a session from outside and notes when each fetch began since the session came to
the present place, and whether fresh data was asked for since the last one. It is not told what the
session itself remembers, a time and a flag; the invariant `Timetable.Sound` ties the two together.

`run_punctual` says what follows for every run, whatever the clock shows: at most one fetch is in
flight; the next one begins exactly if none is and the place is new, fresh data was asked for, or
the interval of the view has passed; so no such request is lost, and without one two fetches for a
place begin an interval apart, whatever became of the first.
-/

namespace FleetConsole

/-- The `r` key asks for fresh data, and no other key does. -/
theorem KeyPress.command?_eq_refresh_iff (press : KeyPress) :
    press.command? = some .refresh ↔ press.key = .char 'r' := by
  obtain ⟨key, control⟩ := press
  constructor
  · intro h
    have hkey : key.command? = some .refresh := command?_of_ne_quit h nofun
    unfold Key.command? at hkey
    split at hkey <;> cases hkey
    rfl
  · rintro rfl
    cases control <;> rfl

/-- Is fresh data asked for? -/
def Event.asksForFreshData : Event → Bool
  | .press pressed => pressed.key = .char 'r'
  | _ => false

namespace Session

/-- When a fetch begins with an event, if one does. -/
def beginsAt (s : Session) : Event → Option Nat
  | .tick now => if (s.startFetch now).1.isSome then some now else none
  | _ => none

/-- Milliseconds between two fetches for a place. -/
def interval (s : Session) : Nat := 1000 * s.refreshInterval

end Session

/-- The beginning of a fetch. -/
structure Beginning where
  time : Nat
  /-- Was fresh data asked for since the fetch before it began? -/
  asked : Bool

/-- A session and when its fetches began. -/
structure Timetable where
  session : Session
  /-- The fetches that began since the session came to the present place, the latest first. -/
  begun : List Beginning := []
  /-- Was fresh data asked for since the last fetch began, here or elsewhere? -/
  asked : Bool := false

namespace Timetable

/-- The timetable of a session that has just been opened. -/
def opened (profile : Profile) : Timetable := { session := .opened profile }

/-- The timetable after an event. -/
def after (t : Timetable) (event : Event) : Timetable :=
  match t.session.beginsAt event with
  | some now =>
    { session := t.session.after event, begun := ⟨now, t.asked⟩ :: t.begun, asked := false }
  | none =>
    { session := t.session.after event
      begun := if (t.session.after event).trail = t.session.trail then t.begun else []
      asked := t.asked || event.asksForFreshData }

/-- The timetable after events, the first one first. -/
def run (t : Timetable) (events : List Event) : Timetable := events.foldl after t

@[simp] theorem run_concat (t : Timetable) (events : List Event) (event : Event) :
    t.run (events ++ [event]) = (t.run events).after event := by
  simp [run]

@[simp] theorem after_session (t : Timetable) (event : Event) :
    (t.after event).session = t.session.after event := by
  unfold after
  split <;> rfl

/-- A timetable only watches. -/
@[simp] theorem session_run (t : Timetable) (events : List Event) :
    (t.run events).session = t.session.run events := by
  induction events using List.reverseRecOn with
  | nil => rfl
  | append_singleton events event ih => rw [run_concat, after_session, ih, Session.run_concat]

end Timetable

/-! ## What events do to the memory of the session -/

namespace Session

/-- Unless a command asks for fresh data or leads to a new place, it is wanted as before. -/
theorem perform_refreshWanted (s : Session) (c : Command) :
    (s.perform c).refreshWanted = (s.refreshWanted || decide (c = .refresh)) ∨
      (s.perform c).refreshWanted = true ∧ (s.perform c).lastFetch = none := by
  rcases s.perform_cases c with hl | heq
  · exact .inr ⟨hl.refreshWanted, hl.lastFetch⟩
  · rw [heq]
    exact .inl (Bool.or_comm _ _)

/-- A key press other than `r` that does not lead to a new place leaves it as it was whether fresh
data is wanted. -/
theorem press_refreshWanted (s : Session) (press : KeyPress) :
    (s.press press).refreshWanted = (s.refreshWanted || (Event.press press).asksForFreshData) ∨
      (s.press press).refreshWanted = true ∧ (s.press press).lastFetch = none := by
  have hasks : (Event.press press).asksForFreshData =
      decide (press.command? = some .refresh) := by
    rw [decide_eq_decide.mpr press.command?_eq_refresh_iff]
    rfl
  rw [hasks]
  unfold Session.press
  cases press.command? with
  | none => exact .inl (by simp)
  | some c => simpa using s.perform_refreshWanted c

/-- What an event does that neither moves the session nor makes it fetch: it remembers the same. -/
structure Remembers (s t : Session) : Prop where
  trail : t.trail = s.trail
  profile : t.profile = s.profile
  lastFetch : t.lastFetch = s.lastFetch
  refreshWanted : t.refreshWanted = s.refreshWanted

/-- A reply that is kept is no reason to fetch again. -/
theorem settle_remembers (s : Session) (number : Nat) (reply : Reply) :
    s.Remembers (s.settle number reply) := by
  rcases s.settle_cases number reply with ⟨p, -, -, -, heq⟩ | ⟨-, heq⟩
  · rw [heq]
    exact ⟨rfl, rfl, rfl, rfl⟩
  · rw [heq]
    exact ⟨rfl, rfl, rfl, rfl⟩

/-- The outcome of a fetch is no reason to fetch again. -/
theorem absorb_remembers (s : Session) (result : Except FleetError Table) :
    s.Remembers (s.absorb result) := by
  unfold absorb
  split <;> exact ⟨rfl, rfl, rfl, rfl⟩

/-- Whatever became of a fetch, taking it in is no reason to fetch again. -/
theorem poll_remembers (s : Session) : s.Remembers s.poll.2 := by
  rcases s.poll_cases with ⟨-, heq⟩ | ⟨p, result, -, -, heq⟩
  · rw [heq]
    exact ⟨rfl, rfl, rfl, rfl⟩
  · rw [heq]
    split
    · obtain ⟨htrail, hprofile, hlast, hwanted⟩ := s.retire.absorb_remembers result
      exact ⟨htrail, hprofile, hlast, hwanted⟩
    · exact ⟨rfl, rfl, rfl, rfl⟩

end Session

namespace Timetable

/-! ## The invariant -/

/-- The invariant of all runs: what the session remembers is what the timetable has noted. -/
structure Sound (t : Timetable) : Prop where
  lastFetch : t.session.lastFetch = t.begun.head?.map (·.time)
  refreshWanted : t.session.refreshWanted = (t.asked || t.begun.isEmpty)
  spaced : t.begun.IsChain fun later earlier =>
    later.asked = false → earlier.time + t.session.interval ≤ later.time

/-- The timetable of a session that was just opened is sound. -/
theorem sound_opened (profile : Profile) : (opened profile).Sound := ⟨rfl, rfl, .nil⟩

/-- It is time to fetch if nothing is pending and the place is new, fresh data was asked for, or the
interval has passed. -/
theorem Sound.refreshDue_iff {t : Timetable} (h : t.Sound) (now : Nat) :
    t.session.refreshDue now = true ↔ t.session.pending = none ∧
      (t.begun = [] ∨ t.asked = true ∨
        ∃ last, t.begun.head? = some last ∧ last.time + t.session.interval ≤ now) := by
  have hpositive : 1 ≤ t.session.refreshInterval := Nat.le_max_right _ _
  rw [Session.refreshDue, Bool.and_eq_true, Option.isNone_iff_eq_none, h.lastFetch,
    h.refreshWanted]
  refine and_congr_right fun _ => ?_
  cases t.begun with
  | nil => simp
  | cons last before =>
    -- An interval is never empty, so what is left of the time since then counts.
    have hpassed : t.session.refreshInterval * 1000 ≤ now - last.time ↔
        last.time + t.session.interval ≤ now := by
      unfold Session.interval
      omega
    simp [hpassed]

/-- The interval of a place is the same for as long as the session stays there. -/
theorem interval_eq {s s' : Session} (htrail : s'.trail = s.trail)
    (hprofile : s'.profile = s.profile) : s'.interval = s.interval := by
  have hview : s'.view = s.view := congrArg (·.1.1) htrail
  rw [Session.interval, Session.interval, Session.refreshInterval, Session.refreshInterval, hview,
    hprofile]

/-- The timetable after an event with which no fetch begins. -/
theorem after_of_quiet {t : Timetable} {event : Event} (h : t.session.beginsAt event = none) :
    t.after event =
      { session := t.session.after event
        begun := if (t.session.after event).trail = t.session.trail then t.begun else []
        asked := t.asked || event.asksForFreshData } := by
  unfold after
  rw [h]

/-- An event that neither moves the session nor makes it fetch keeps the invariant. -/
theorem Sound.of_remembers {t : Timetable} (h : t.Sound) {event : Event}
    (hbegins : t.session.beginsAt event = none) (hasks : event.asksForFreshData = false)
    (hsame : t.session.Remembers (t.session.after event)) : (t.after event).Sound := by
  rw [after_of_quiet hbegins, if_pos hsame.trail, hasks, Bool.or_false]
  exact ⟨hsame.lastFetch.trans h.lastFetch, hsame.refreshWanted.trans h.refreshWanted,
    by rw [interval_eq hsame.trail hsame.profile]; exact h.spaced⟩

/-- A key press keeps the invariant. -/
theorem Sound.press {t : Timetable} (h : t.Sound) (press : KeyPress) :
    (t.after (.press press)).Sound := by
  have hwanted := t.session.press_refreshWanted press
  rw [after_of_quiet rfl]
  change Sound ⟨t.session.press press,
    if (t.session.press press).trail = t.session.trail then t.begun else [], _⟩
  -- A key that leads to a new place starts over: nothing was fetched there yet.
  rcases t.session.press_stays_or_left press with hs | hl
  · rw [if_pos hs.trail]
    refine ⟨hs.lastFetch.trans h.lastFetch, ?_, ?_⟩
    · rcases hwanted with hsame | ⟨htrue, hnone⟩
      · rw [hsame, h.refreshWanted]
        exact Bool.or_right_comm _ _ _
      · -- The place is the same, and nothing was fetched here yet.
        rw [hs.lastFetch, h.lastFetch] at hnone
        have hempty : t.begun = [] := by simpa using hnone
        rw [htrue, hempty]
        simp
    · show t.begun.IsChain _
      rw [interval_eq hs.trail hs.profile]
      exact h.spaced
  · rw [if_neg hl.trail]
    exact ⟨hl.lastFetch, by simp [hl.refreshWanted], .nil⟩

/-- Reading the clock keeps the invariant. -/
theorem Sound.tick {t : Timetable} (h : t.Sound) (now : Nat) : (t.after (.tick now)).Sound := by
  rcases t.session.startFetch_cases now with ⟨-, heq⟩ | ⟨hdue, -, f, -, -, -, heq⟩
  · refine h.of_remembers (by simp [Session.beginsAt, heq]) rfl ?_
    rw [show t.session.after (.tick now) = t.session from congrArg Prod.snd heq]
    exact ⟨rfl, rfl, rfl, rfl⟩
  · have hbegins : t.session.beginsAt (.tick now) = some now := by simp [Session.beginsAt, heq]
    have hs := congrArg Prod.snd heq
    have hafter : t.after (.tick now) =
        ⟨t.session.after (.tick now), ⟨now, t.asked⟩ :: t.begun, false⟩ := by
      unfold after
      rw [hbegins]
    rw [hafter, Session.after, hs]
    refine ⟨rfl, rfl, ?_⟩
    -- It was time, for one of the three reasons.
    change (⟨now, t.asked⟩ :: t.begun).IsChain fun later earlier =>
      later.asked = false → earlier.time + t.session.interval ≤ later.time
    have hreason := ((h.refreshDue_iff now).mp hdue).2
    have hspaced := h.spaced
    cases hbegun : t.begun with
    | nil => exact .singleton _
    | cons last before =>
      rw [hbegun] at hreason hspaced
      refine List.isChain_cons_cons.mpr ⟨fun hasked => ?_, hspaced⟩
      rcases hreason with hnil | hwas | ⟨last', hlast, hpassed⟩
      · cases hnil
      · exact absurd (hasked.symm.trans hwas) Bool.false_ne_true
      · obtain rfl : last = last' := Option.some.inj hlast
        exact hpassed

/-- Every event keeps the invariant. -/
theorem Sound.after {t : Timetable} (h : t.Sound) (event : Event) : (t.after event).Sound := by
  cases event with
  | press press => exact h.press press
  | tick now => exact h.tick now
  | draw height => exact h.of_remembers rfl rfl ⟨rfl, rfl, rfl, rfl⟩
  | answer number result => exact h.of_remembers rfl rfl (t.session.settle_remembers number _)
  | lose number => exact h.of_remembers rfl rfl (t.session.settle_remembers number _)
  | poll => exact h.of_remembers rfl rfl t.session.poll_remembers

/-- Every run keeps the invariant. -/
theorem sound_run (profile : Profile) (events : List Event) :
    ((opened profile).run events).Sound := by
  induction events using List.reverseRecOn with
  | nil => exact sound_opened profile
  | append_singleton events event ih =>
    rw [run_concat]
    exact ih.after event

/-- What was asked for stays so until a fetch begins. -/
theorem asked_of_quiet {t : Timetable} {event : Event} (hquiet : t.session.beginsAt event = none)
    (h : t.asked = true ∨ event.asksForFreshData = true) : (t.after event).asked = true := by
  rw [after_of_quiet hquiet]
  simpa using h

end Timetable

/-! ## Fetches in flight -/

namespace Chronicle

/-- An errand is in flight from when it is handed out until its outcome is taken in or it is
cancelled. -/
structure InFlight (c : Chronicle) (e : Errand) : Prop where
  mem : e ∈ c.errands
  not_taken : e.taken = 0
  not_cancelled : ¬c.HasCancelled e

/-- The errand in flight is the pending one. -/
theorem Sound.inFlight_iff {c : Chronicle} (h : c.Sound) {n : Nat} {e : Errand}
    (hn : c.errands[n]? = some e) : c.InFlight e ↔ c.session.awaited? = some n := by
  obtain ⟨signal, hsignal, hfate⟩ := h.fate n e hn
  have hopen : c.InFlight e ↔ e.taken = 0 ∧ ¬c.HasCancelled e :=
    ⟨fun hf => ⟨hf.not_taken, hf.not_cancelled⟩, fun hf => ⟨List.mem_of_getElem? hn, hf.1, hf.2⟩⟩
  rw [hopen, h.hasCancelled_iff hn, Signals.isCancelled, hsignal]
  generalize e.taken = taken at hfate ⊢
  cases hfate with
  | pending ha => simp [ha]
  | takenIn ha => simp [ha]
  | cancelled ha => simp [ha]

/-- There is an errand in flight exactly while the session waits for one. -/
theorem Sound.exists_inFlight_iff {c : Chronicle} (h : c.Sound) :
    (∃ e, c.InFlight e) ↔ c.session.pending ≠ none := by
  constructor
  · rintro ⟨e, he⟩ hnone
    obtain ⟨n, hn⟩ := List.getElem?_of_mem he.mem
    have hawaited := (h.inFlight_iff hn).mp he
    rw [Session.awaited?, hnone] at hawaited
    cases hawaited
  · intro hne
    obtain ⟨p, hp⟩ := Option.ne_none_iff_exists'.mp hne
    obtain ⟨-, e, hn, -, -⟩ := h.pending p hp
    refine ⟨e, (h.inFlight_iff hn).mpr ?_⟩
    rw [Session.awaited?, hp]
    rfl

/-- At most one errand is in flight. -/
theorem Sound.inFlight_unique {c : Chronicle} (h : c.Sound) {e e' : Errand} (he : c.InFlight e)
    (he' : c.InFlight e') : e = e' := by
  obtain ⟨n, hn⟩ := List.getElem?_of_mem he.mem
  obtain ⟨n', hn'⟩ := List.getElem?_of_mem he'.mem
  have hawaited := (h.inFlight_iff hn).mp he
  obtain rfl : n = n' := Option.some.inj (hawaited.symm.trans ((h.inFlight_iff hn').mp he'))
  exact Option.some.inj (hn.symm.trans hn')

end Chronicle

/-! ## What a user can rely on -/

/-- What a user can rely on about when a run fetches. -/
structure Punctual (profile : Profile) (events : List Event) : Prop where
  /-- At most one fetch is in flight. -/
  one_in_flight : ∀ e e', ((Chronicle.opened profile).run events).InFlight e →
    ((Chronicle.opened profile).run events).InFlight e' → e = e'
  /-- A fetch begins exactly if none is in flight and none has begun since the session came to the
  present place, or fresh data was asked for since the last one began, or the interval has passed
  since then. -/
  begins_iff : ∀ now, ((Session.opened profile).run events).beginsAt (.tick now) = some now ↔
    (¬∃ e, ((Chronicle.opened profile).run events).InFlight e) ∧
      (((Timetable.opened profile).run events).begun = [] ∨
        ((Timetable.opened profile).run events).asked = true ∨
        ∃ last, ((Timetable.opened profile).run events).begun.head? = some last ∧
          last.time + ((Session.opened profile).run events).interval ≤ now)
  /-- The interval is the one that the settings give for the view, and at least a second. -/
  interval_eq : ((Session.opened profile).run events).interval =
    1000 * max 1 (if ((Session.opened profile).run events).view = .manifests
      then profile.display.manifestRefreshSeconds.toNat else profile.display.refreshSeconds.toNat)
  /-- Of two fetches that begin one after the other without leaving, the later one was asked for, or
  it begins at least an interval after the other. -/
  spaced : ((Timetable.opened profile).run events).begun.IsChain fun later earlier =>
    later.asked = false →
      earlier.time + ((Session.opened profile).run events).interval ≤ later.time
  /-- Once fresh data was asked for, and no fetch has begun since, one begins as soon as none is in
  flight. -/
  none_lost : ∀ before press later, events = before ++ .press press :: later →
    press.key = .char 'r' →
    (∀ early event, early ++ [event] <+: later →
      ((Session.opened profile).run (before ++ .press press :: early)).beginsAt event = none) →
    (¬∃ e, ((Chronicle.opened profile).run events).InFlight e) →
    ∀ now, ((Session.opened profile).run events).beginsAt (.tick now) = some now

/-- Reading the clock makes a fetch begin exactly if it is time. -/
theorem Session.beginsAt_tick_iff (s : Session) (now : Nat) :
    s.beginsAt (.tick now) = some now ↔ s.refreshDue now = true := by
  rcases s.startFetch_cases now with ⟨hdue, heq⟩ | ⟨hdue, -, f, -, -, -, heq⟩
  · simp [beginsAt, heq, hdue]
  · simp [beginsAt, heq, hdue]

/-- The profile of a session never changes. -/
theorem Session.after_profile (s : Session) (event : Event) :
    (s.after event).profile = s.profile := by
  cases event with
  | press press =>
    rcases s.press_stays_or_left press with hs | hl
    · exact hs.profile
    · exact hl.profile
  | tick now =>
    rcases s.startFetch_cases now with ⟨-, heq⟩ | ⟨-, -, f, -, -, -, heq⟩
    · exact congrArg (·.2.profile) heq
    · exact congrArg (·.2.profile) heq
  | draw height => rfl
  | answer number result | lose number => exact (s.settle_remembers number _).profile
  | poll => exact s.poll_remembers.profile

/-- A session is left with the profile that it was opened with. -/
theorem Session.run_profile (s : Session) (events : List Event) :
    (s.run events).profile = s.profile := by
  induction events using List.reverseRecOn with
  | nil => rfl
  | append_singleton events event ih => rw [Session.run_concat, Session.after_profile, ih]

/-- What was asked for stays so along a run in which no fetch begins. -/
theorem Timetable.asked_run (profile : Profile) (before : List Event) {press : KeyPress}
    (hpress : press.key = .char 'r') {later : List Event}
    (hquiet : ∀ early event, early ++ [event] <+: later →
      ((Session.opened profile).run (before ++ .press press :: early)).beginsAt event = none) :
    ((opened profile).run (before ++ .press press :: later)).asked = true := by
  -- By induction on what came after the key, of which no event made a fetch begin.
  induction later using List.reverseRecOn with
  | nil =>
    rw [run_concat]
    exact asked_of_quiet rfl (.inr (decide_eq_true hpress))
  | append_singleton later event ih =>
    rw [← List.cons_append, ← List.append_assoc, run_concat]
    have hnow : ((opened profile).run (before ++ .press press :: later)).session.beginsAt event =
        none := by
      rw [session_run]
      exact hquiet later event (List.prefix_refl _)
    refine asked_of_quiet hnow (.inl (ih fun early event' h => hquiet early event' ?_))
    exact h.trans (List.prefix_append later [event])

/-- Whatever happens to a session, a user can rely on when it fetches. -/
theorem run_punctual (profile : Profile) (events : List Event) : Punctual profile events := by
  have hchronicle := (Chronicle.sound_opened profile).run events
  have htimes := Timetable.sound_run profile events
  have hpending : (¬∃ e, ((Chronicle.opened profile).run events).InFlight e) ↔
      ((Session.opened profile).run events).pending = none := by
    rw [hchronicle.exists_inFlight_iff, not_not, Chronicle.session_run]
    rfl
  have hsession : ((Timetable.opened profile).run events).session =
      (Session.opened profile).run events := Timetable.session_run _ events
  have hbegins (now : Nat) := htimes.refreshDue_iff now
  rw [hsession] at hbegins
  refine ⟨fun e e' he he' => hchronicle.inFlight_unique he he', fun now => ?_, ?_, ?_, ?_⟩
  · rw [Session.beginsAt_tick_iff, hbegins, hpending]
  · have hprofile : ((Session.opened profile).run events).profile = profile :=
      Session.run_profile _ events
    rw [Session.interval, Session.refreshInterval, hprofile, Nat.max_comm]
    generalize ((Session.opened profile).run events).view = view
    cases view with
    | manifests => rfl
    | applications | applicationStatus | clusters | manifestWorks => rfl
  · have hspaced := htimes.spaced
    rw [hsession] at hspaced
    exact hspaced
  · rintro before press later rfl hpress hquiet hnone now
    rw [Session.beginsAt_tick_iff, hbegins]
    exact ⟨hpending.mp hnone, .inr (.inl (Timetable.asked_run profile before hpress hquiet))⟩

end FleetConsole
