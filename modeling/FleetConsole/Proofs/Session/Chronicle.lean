import FleetConsole.Proofs.Session.Run

/-!
# What becomes of a fetch

A chronicle watches a session from outside, through any run. For every fetch that the session hands
out it notes where the session was, what was answered first and how often the outcome was taken in;
it never changes what the session does (`session_run`).

The invariant is `Sound`. It ties the pending fetch to the errand of its number and to the place of
the session, what is shown to an answered errand of the same visit, and every errand to its signal:
an errand is pending, taken in or cancelled (`Fate`), and its signal tells which. Each event keeps
it (`Sound.after`), by what a step can do to a session. `run_faithful` reads off what a user can
rely on: whatever the order of events, what is shown answers a fetch for the place where the session
is, no outcome is taken in twice or after its cancellation, and no fetch is left behind uncancelled.
-/

namespace FleetConsole

/-- A fetch that was handed out, as it is known from outside. -/
structure Errand where
  fetch : Fetch
  /-- How often the session had left for another place before. -/
  visit : Nat
  /-- What was answered first. -/
  reply : Reply := .waiting
  /-- How often the outcome was taken in. -/
  taken : Nat := 0

namespace Errand

/-- The errand with an answer. Whoever has answered cannot answer again. -/
def answered (e : Errand) (reply : Reply) : Errand :=
  match e.reply with
  | .waiting => { e with reply }
  | _ => e

/-- The errand with its outcome taken in once more. -/
def takeIn (e : Errand) : Errand := { e with taken := e.taken + 1 }

/-- The same errand at a later time: what was answered stays answered. -/
structure Becomes (e e' : Errand) : Prop where
  fetch : e'.fetch = e.fetch
  visit : e'.visit = e.visit
  reply : e.reply ≠ .waiting → e'.reply = e.reply

/-- A fetch may stay as it is. -/
theorem Becomes.refl (e : Errand) : e.Becomes e := ⟨rfl, rfl, fun _ => rfl⟩

/-- What becomes of a fetch in two steps becomes of it. -/
theorem Becomes.trans {e e' e'' : Errand} (h : e.Becomes e') (h' : e'.Becomes e'') :
    e.Becomes e'' where
  fetch := h'.fetch.trans h.fetch
  visit := h'.visit.trans h.visit
  reply hr := by rw [h'.reply (by rw [h.reply hr]; exact hr), h.reply hr]

/-- An answer changes nothing but a reply that is waited for. -/
theorem becomes_answered (e : Errand) (reply : Reply) : e.Becomes (e.answered reply) := by
  unfold answered
  split
  · next h => exact ⟨rfl, rfl, fun hr => absurd h hr⟩
  · exact .refl e

/-- Taking in a fetch only counts. -/
theorem becomes_takeIn (e : Errand) : e.Becomes e.takeIn := ⟨rfl, rfl, fun _ => rfl⟩

@[simp] theorem answered_fetch (e : Errand) (reply : Reply) :
    (e.answered reply).fetch = e.fetch := (e.becomes_answered reply).fetch

@[simp] theorem answered_taken (e : Errand) (reply : Reply) :
    (e.answered reply).taken = e.taken := by
  unfold answered
  split <;> rfl

/-- A fetch that is waited for gets the answer. -/
theorem answered_reply (e : Errand) (reply : Reply) (h : e.reply = .waiting) :
    (e.answered reply).reply = reply := by
  simp only [answered, h]

end Errand

/-- A session and the fetches that it has handed out. -/
structure Chronicle where
  session : Session
  /-- How often the session has left for another place. -/
  visit : Nat := 0
  /-- The fetches by their numbers. -/
  errands : List Errand := []

namespace Chronicle

/-- The chronicle of a session that has just been opened. -/
def opened (profile : Profile) : Chronicle := { session := .opened profile }

/-- The number of the fetch whose outcome a poll takes in. -/
def taken? (c : Chronicle) : Option Nat :=
  if c.session.poll.1 then c.session.pending.map (·.number) else none

/-- The errands after an event. -/
def errandsAfter (c : Chronicle) : Event → List Errand
  | .press _ | .draw _ => c.errands
  | .tick now =>
    c.errands ++ (c.session.startFetch now).1.toList.map fun fetch => { fetch, visit := c.visit }
  | .answer number result => c.errands.modify number (·.answered (.arrived result))
  | .lose number => c.errands.modify number (·.answered .lost)
  | .poll => c.taken?.elim c.errands (c.errands.modify · Errand.takeIn)

/-- The chronicle after an event. -/
def after (c : Chronicle) (event : Event) : Chronicle where
  session := c.session.after event
  visit := if (c.session.after event).trail = c.session.trail then c.visit else c.visit + 1
  errands := c.errandsAfter event

/-- The chronicle after events, the first one first. -/
def run (c : Chronicle) (events : List Event) : Chronicle := events.foldl after c

@[simp] theorem after_session (c : Chronicle) (event : Event) :
    (c.after event).session = c.session.after event := rfl

@[simp] theorem after_errands (c : Chronicle) (event : Event) :
    (c.after event).errands = c.errandsAfter event := rfl

/-- A chronicle only watches. -/
theorem session_run (c : Chronicle) (events : List Event) :
    (c.run events).session = c.session.run events := by
  induction events generalizing c with
  | nil => rfl
  | cons event events ih => exact ih (c.after event)

/-- Is the request of an errand cancelled? -/
def HasCancelled (c : Chronicle) (e : Errand) : Prop :=
  e.fetch.context.isCancelled c.session.signals = true

/-- An errand for the place where the session is, run since the session came there. -/
structure Concerns (c : Chronicle) (e : Errand) : Prop where
  mem : e ∈ c.errands
  visit : e.visit = c.visit
  spot : e.fetch.spot = c.session.location.spot

/-- What a user can rely on. -/
structure Faithful (c : Chronicle) : Prop where
  /-- The pending fetch is for the place where the session is. -/
  pending_here : ∀ p, c.session.pending = some p → p.location.spot = c.session.location.spot
  /-- What has become of the pending fetch is never out of date: a poll takes it in. -/
  never_stale : ∀ p, c.session.pending = some p → p.reply ≠ .waiting → c.session.poll.1 = true
  /-- A table that is shown is the answer to an errand for the place. -/
  table_answers : ∀ t, c.session.table = some t →
    ∃ e, c.Concerns e ∧ e.reply = .arrived (.ok t)
  /-- A failure that is shown is the answer to an errand for the place. -/
  failure_answers : ∀ text, c.session.notice = some ⟨text, true⟩ →
    ∃ e error, c.Concerns e ∧ e.reply = .arrived (.error error) ∧
      text = c.session.view.title ++ ": " ++ error.message
  /-- No outcome is taken in twice. -/
  taken_once : ∀ e ∈ c.errands, e.taken ≤ 1
  /-- The outcome of a cancelled errand is not taken in, whatever happens from now on. -/
  cancelled_for_good : ∀ (n : Nat) (e : Errand), c.errands[n]? = some e → c.HasCancelled e →
    ∀ events, ∃ e' : Errand,
      (c.run events).errands[n]? = some e' ∧ e'.fetch = e.fetch ∧ e'.taken = 0
  /-- What is neither pending nor taken in has been cancelled. -/
  none_left_behind : ∀ e ∈ c.errands,
    c.session.awaited? = some e.fetch.number ∨ e.taken = 1 ∨ c.HasCancelled e

/-! ## What a tick and a poll do -/

/-- A tick makes a fetch begin: the session, which waited for none, waits for it, and it is the last
errand. -/
structure Begins (c : Chronicle) (now : Nat) (f : Fetch) : Prop where
  idle : c.session.pending = none
  number : f.number = c.session.signals.next
  spot : f.spot = c.session.location.spot
  signal : f.context.signal = some c.session.signals.next
  session : c.session.after (.tick now) = { c.session with
    pending := some { location := c.session.location, number := c.session.signals.next }
    signals := c.session.signals.issue
    lastFetch := some now
    refreshWanted := false }
  errands : c.errandsAfter (.tick now) = c.errands ++ [{ fetch := f, visit := c.visit }]

/-- A tick changes nothing, or a fetch begins. -/
theorem tick_cases (c : Chronicle) (now : Nat) :
    c.session.after (.tick now) = c.session ∧ c.errandsAfter (.tick now) = c.errands ∨
      ∃ f, c.Begins now f := by
  rcases c.session.startFetch_cases now with ⟨-, hnot⟩ | ⟨-, hnone, f, hf, hspot, hsignal, hstart⟩
  · exact .inl ⟨congrArg Prod.snd hnot, by simp [errandsAfter, hnot]⟩
  · exact .inr ⟨f, hnone, hf, hspot, hsignal, congrArg Prod.snd hstart,
      by simp [errandsAfter, hstart]⟩

/-- The session stays where it is when a fetch begins. -/
theorem Begins.trail {c : Chronicle} {now : Nat} {f : Fetch} (h : c.Begins now f) :
    (c.session.after (.tick now)).trail = c.session.trail := by
  rw [h.session]
  rfl

/-- A poll takes in the outcome of the pending fetch, and notes so with its errand. -/
structure TakesIn (c : Chronicle) (p : Pending) (result : Except FleetError Table) : Prop where
  pending : c.session.pending = some p
  /-- A lost answer counts as cancelled. -/
  reply : p.reply = .arrived result ∨ p.reply = .lost ∧ result = .error .cancelled
  session : c.session.after .poll = c.session.retire.absorb result
  errands : c.errandsAfter .poll = c.errands.modify p.number Errand.takeIn

/-- A poll changes nothing, or it takes in the outcome of the pending fetch, if that is for the
place where the session is. -/
theorem poll_cases {c : Chronicle}
    (hspot : ∀ p, c.session.pending = some p → p.location.spot = c.session.location.spot) :
    c.session.after .poll = c.session ∧ c.errandsAfter .poll = c.errands ∨
      ∃ p result, c.TakesIn p result := by
  rcases c.session.poll_cases with ⟨-, hnot⟩ | ⟨p, result, hp, hreply, hpoll⟩
  · exact .inl ⟨congrArg Prod.snd hnot, by simp [errandsAfter, taken?, hnot]⟩
  · rw [if_pos (hspot p hp)] at hpoll
    exact .inr ⟨p, result, hp, hreply, congrArg Prod.snd hpoll,
      by simp [errandsAfter, taken?, hpoll, hp]⟩

/-- The session stays where it is when an outcome is taken in. -/
theorem TakesIn.trail {c : Chronicle} {p : Pending} {result : Except FleetError Table}
    (h : c.TakesIn p result) : (c.session.after .poll).trail = c.session.trail := by
  rw [h.session, Session.absorb_trail]
  rfl

/-- The session waited for what is taken in. -/
theorem TakesIn.awaited {c : Chronicle} {p : Pending} {result : Except FleetError Table}
    (h : c.TakesIn p result) : c.session.awaited? = some p.number := by
  rw [Session.awaited?, h.pending]
  rfl

/-! ## Errands in the course of events -/

/-- The errands after an event are the errands before it, answered or taken in, and perhaps a new
one. -/
theorem errandsAfter_becomes (c : Chronicle) (event : Event) {n : Nat} {e : Errand}
    (h : c.errands[n]? = some e) :
    ∃ e' : Errand, (c.errandsAfter event)[n]? = some e' ∧ e.Becomes e' := by
  have modified (m : Nat) (f : Errand → Errand) (hf : ∀ e : Errand, e.Becomes (f e)) :
      ∃ e' : Errand, (c.errands.modify m f)[n]? = some e' ∧ e.Becomes e' := by
    rw [List.getElem?_modify, h]
    by_cases hm : m = n
    · exact ⟨f e, by simp [hm], hf e⟩
    · exact ⟨e, by simp [hm], .refl e⟩
  cases event with
  | press _ | draw _ => exact ⟨e, h, .refl e⟩
  | tick now =>
    refine ⟨e, ?_, .refl e⟩
    obtain ⟨hlt, -⟩ := List.getElem?_eq_some_iff.mp h
    exact (List.getElem?_append_left hlt).trans h
  | answer number result => exact modified number _ fun e => e.becomes_answered _
  | lose number => exact modified number _ fun e => e.becomes_answered _
  | poll =>
    simp only [errandsAfter]
    cases c.taken? with
    | none => exact ⟨e, h, .refl e⟩
    | some m => exact modified m _ Errand.becomes_takeIn

/-- An errand with an answer, for the place where the session is. -/
def Got (c : Chronicle) (reply : Reply) : Prop := ∃ e, c.Concerns e ∧ e.reply = reply

/-- An errand for the place stays one for as long as the session stays on its trail. -/
theorem Concerns.after {c : Chronicle} {event : Event} {n : Nat} {e e' : Errand}
    (h : c.Concerns e) (htrail : (c.session.after event).trail = c.session.trail)
    (hn : (c.errandsAfter event)[n]? = some e') (hb : e.Becomes e') :
    (c.after event).Concerns e' where
  mem := List.mem_of_getElem? hn
  visit := by
    rw [hb.visit, h.visit]
    exact (if_pos htrail).symm
  spot := by
    rw [hb.fetch, h.spot]
    exact (congrArg Prod.fst htrail).symm

/-- What was answered for a place stays answered for as long as the session stays there. -/
theorem Got.after {c : Chronicle} {reply : Reply} (h : c.Got reply) (hr : reply ≠ .waiting)
    (event : Event) (htrail : (c.session.after event).trail = c.session.trail) :
    (c.after event).Got reply := by
  obtain ⟨e, he, rfl⟩ := h
  obtain ⟨n, hn⟩ := List.getElem?_of_mem he.mem
  obtain ⟨e', hn', hb⟩ := c.errandsAfter_becomes event hn
  exact ⟨e', he.after htrail hn' hb, hb.reply hr⟩

/-! ## The invariant -/

/-- What can have become of an errand: it is pending, it was taken in, or it was cancelled. The
signal tells which. -/
inductive Fate (awaited : Prop) : Nat → Signal → Prop where
  | pending (h : awaited) : Fate awaited 0 {}
  | takenIn (h : ¬awaited) : Fate awaited 1 ⟨false, false⟩
  | cancelled (h : ¬awaited) : Fate awaited 0 ⟨true, false⟩

/-- The invariant of all runs. -/
structure Sound (c : Chronicle) : Prop where
  /-- A signal is issued with every errand. -/
  count : c.errands.length = c.session.signals.next
  numbered : ∀ (n : Nat) (e : Errand), c.errands[n]? = some e →
    e.fetch.number = n ∧ e.fetch.context.signal = some n
  fate : ∀ (n : Nat) (e : Errand), c.errands[n]? = some e →
    ∃ signal, c.session.signals.states[n]? = some signal ∧
      Fate (c.session.awaited? = some n) e.taken signal
  /-- The pending fetch is an errand for the place, and whoever runs it has answered to the
  session. -/
  pending : ∀ p, c.session.pending = some p → p.location.spot = c.session.location.spot ∧
    ∃ e, c.errands[p.number]? = some e ∧ c.Concerns e ∧ e.reply = p.reply
  table : ∀ t, c.session.table = some t → c.Got (.arrived (.ok t))
  notice : ∀ text, c.session.notice = some ⟨text, true⟩ →
    ∃ error, c.Got (.arrived (.error error)) ∧
      text = c.session.view.title ++ ": " ++ error.message

/-- A session that has just been opened. -/
theorem sound_opened (profile : Profile) : (opened profile).Sound where
  count := rfl
  numbered := nofun
  fate := nofun
  pending := nofun
  table := nofun
  notice := nofun

/-- While the session stays on its trail, what it showed before the event is accounted for after it.
-/
theorem Sound.shown_before {c : Chronicle} (h : c.Sound) (event : Event)
    (htrail : (c.session.after event).trail = c.session.trail) :
    (∀ t, c.session.table = some t → (c.after event).Got (.arrived (.ok t))) ∧
      ∀ text, c.session.notice = some ⟨text, true⟩ →
        ∃ error, (c.after event).Got (.arrived (.error error)) ∧
          text = (c.session.after event).view.title ++ ": " ++ error.message := by
  have hview : (c.session.after event).view = c.session.view := congrArg (·.1.1) htrail
  refine ⟨fun t ht => (h.table t ht).after nofun event htrail, fun text ht => ?_⟩
  obtain ⟨error, hgot, htext⟩ := h.notice text ht
  exact ⟨error, hgot.after nofun event htrail, by rw [hview]; exact htext⟩

/-- An event that changes no errand and keeps the session where it is. -/
theorem Sound.of_stays {c : Chronicle} (h : c.Sound) {event : Event}
    (hs : c.session.Stays (c.session.after event)) (he : c.errandsAfter event = c.errands) :
    (c.after event).Sound := by
  obtain ⟨htable, hnotice⟩ := h.shown_before event hs.trail
  refine ⟨?_, ?_, ?_, ?_, ?_, ?_⟩
  · rw [after_errands, after_session, he, hs.signals]
    exact h.count
  · intro n e hn
    exact h.numbered n e (he ▸ hn)
  · intro n e hn
    rw [after_session, Session.awaited?, hs.signals, hs.pending]
    exact h.fate n e (he ▸ hn)
  · intro p hp
    obtain ⟨hp₁, e, hn, hc, hr⟩ := h.pending p (hs.pending ▸ hp)
    rw [← he] at hn
    exact ⟨hp₁.trans (congrArg Prod.fst hs.trail).symm, e, hn, hc.after hs.trail hn (.refl e), hr⟩
  · intro t ht
    exact htable t (hs.table ▸ ht)
  · intro text ht
    rcases hs.notice with hsame | hnone
    · exact hnotice text (hsame ▸ ht)
    · rw [show (c.session.after event).notice = some ⟨text, true⟩ from ht] at hnone
      simp at hnone

/-- An event that changes no errand and makes the session leave: the pending errand is cancelled. -/
theorem Sound.of_left {c : Chronicle} (h : c.Sound) {event : Event}
    (hl : c.session.Left (c.session.after event)) (he : c.errandsAfter event = c.errands) :
    (c.after event).Sound := by
  have hnone (n : Nat) : (c.after event).session.awaited? ≠ some n := by
    rw [after_session, Session.awaited?, hl.pending]
    nofun
  refine ⟨?_, ?_, ?_, ?_, ?_, ?_⟩
  · rw [after_errands, after_session, he, hl.signals, Session.abandon_next]
    exact h.count
  · intro n e hn
    exact h.numbered n e (he ▸ hn)
  · intro n e hn
    obtain ⟨signal, hsignal, hfate⟩ := h.fate n e (he ▸ hn)
    -- The signal of the pending errand is cancelled, and every other one is as it was.
    generalize e.taken = taken at hfate ⊢
    rw [after_session, hl.signals, Session.abandon_states, hsignal]
    cases hfate with
    | pending ha => exact ⟨_, if_pos ha, .cancelled (hnone n)⟩
    | takenIn ha => exact ⟨_, if_neg ha, .takenIn (hnone n)⟩
    | cancelled ha => exact ⟨_, if_neg ha, .cancelled (hnone n)⟩
  · intro p hp
    rw [after_session, hl.pending] at hp
    exact nomatch hp
  · intro t ht
    rw [after_session, hl.table] at ht
    exact nomatch ht
  · intro text ht
    rw [after_session, hl.notice] at ht
    exact nomatch ht

/-- When a fetch begins, every errand is an old one, which nobody waits for, or the new one. -/
theorem Sound.errand_of_begins {c : Chronicle} (h : c.Sound) {now : Nat} {f : Fetch}
    (hb : c.Begins now f) {n : Nat} {e : Errand} (hn : (c.errandsAfter (.tick now))[n]? = some e) :
    c.errands[n]? = some e ∧ n ≠ c.session.signals.next ∨
      n = c.session.signals.next ∧ e = { fetch := f, visit := c.visit } := by
  rw [hb.errands] at hn
  rcases Nat.lt_or_ge n c.errands.length with hlt | hge
  · rw [List.getElem?_append_left hlt] at hn
    exact .inl ⟨hn, by rw [← h.count]; omega⟩
  · obtain ⟨hlt, hget⟩ := List.getElem?_eq_some_iff.mp hn
    have hlast : n = c.errands.length := by simp at hlt; omega
    subst hlast
    exact .inr ⟨h.count, by simpa using hget.symm⟩

/-- A fetch begins: its errand is pending, and what has become of the others is settled. -/
theorem Sound.of_begins {c : Chronicle} (h : c.Sound) {now : Nat} {f : Fetch}
    (hb : c.Begins now f) : (c.after (.tick now)).Sound := by
  have hs := hb.session
  obtain ⟨htable, hnotice⟩ := h.shown_before (.tick now) hb.trail
  have hawaited : (c.session.after (.tick now)).awaited? = some c.session.signals.next := by
    rw [hs]
    rfl
  refine ⟨?_, ?_, ?_, ?_, ?_, ?_⟩
  · rw [after_errands, after_session, hb.errands, hs]
    simp [h.count]
  · intro n e hn
    rcases h.errand_of_begins hb hn with ⟨hold, -⟩ | ⟨rfl, rfl⟩
    · exact h.numbered n e hold
    · exact ⟨hb.number, hb.signal⟩
  · intro n e hn
    rw [after_session, hawaited, hs, Signals.states_issue]
    rcases h.errand_of_begins hb hn with ⟨hold, hne⟩ | ⟨rfl, rfl⟩
    · obtain ⟨signal, hsignal, hfate⟩ := h.fate n e hold
      -- Nothing was pending, so the fate of an old errand is settled.
      rw [Session.awaited?, hb.idle] at hfate
      refine ⟨signal, (if_neg hne).trans hsignal, ?_⟩
      generalize e.taken = taken at hfate ⊢
      have hnot : some c.session.signals.next ≠ some n := fun h => hne (Option.some.inj h).symm
      cases hfate with
      | takenIn => exact .takenIn hnot
      | cancelled => exact .cancelled hnot
      | pending ha => exact nomatch ha
    · exact ⟨{}, if_pos rfl, .pending rfl⟩
  · intro p hp
    -- The new fetch is the pending one, and its errand is of this visit.
    rw [after_session, hs] at hp
    cases hp
    have hmem : (c.errandsAfter (.tick now))[c.session.signals.next]? =
        some { fetch := f, visit := c.visit } := by
      rw [hb.errands, ← h.count]
      exact List.getElem?_concat_length
    refine ⟨by rw [after_session, hs], _, hmem, ⟨List.mem_of_getElem? hmem, ?_, ?_⟩, rfl⟩
    · exact (if_pos hb.trail).symm
    · rw [after_session, hs]
      exact hb.spot
  · intro t ht
    rw [after_session, hs] at ht
    exact htable t ht
  · intro text ht
    rw [after_session, hs] at ht
    exact hnotice text ht

/-- A fetch begins, or it is not time. -/
theorem Sound.tick {c : Chronicle} (h : c.Sound) (now : Nat) : (c.after (.tick now)).Sound := by
  rcases c.tick_cases now with ⟨hs, he⟩ | ⟨f, hb⟩
  · exact h.of_stays (hs.symm ▸ .refl _) he
  · exact h.of_begins hb

/-- An errand in a list of which one item was changed is the changed item or an old one. -/
theorem getElem?_modified {errands : List Errand} {m n : Nat} {f : Errand → Errand} {e' : Errand}
    (h : (errands.modify m f)[n]? = some e') :
    ∃ e, errands[n]? = some e ∧ (m = n ∧ e' = f e ∨ m ≠ n ∧ e' = e) := by
  rw [List.getElem?_modify] at h
  obtain ⟨e, he, heq⟩ := Option.map_eq_some_iff.mp h
  refine ⟨e, he, ?_⟩
  by_cases hm : m = n
  · exact .inl ⟨hm, by rw [← heq, if_pos hm]⟩
  · exact .inr ⟨hm, by rw [← heq, if_neg hm]⟩

/-- Someone answers, or is lost: the errand notes it, and the session does if it still waits. -/
theorem Sound.reply {c : Chronicle} (h : c.Sound) {event : Event} {number : Nat} {reply : Reply}
    (hs : c.session.after event = c.session.settle number reply)
    (he : c.errandsAfter event = c.errands.modify number (·.answered reply)) :
    (c.after event).Sound := by
  -- The session and the errand are either both answered or both answered already.
  obtain ⟨htrail, htable, hnotice, hsignals, hawaited, hpending⟩ :
      (c.session.after event).trail = c.session.trail ∧
      (c.session.after event).table = c.session.table ∧
      (c.session.after event).notice = c.session.notice ∧
      (c.session.after event).signals = c.session.signals ∧
      (c.session.after event).awaited? = c.session.awaited? ∧
      ∀ p', (c.session.after event).pending = some p' → p'.location.spot = c.session.location.spot ∧
        ∃ e, c.errands[p'.number]? = some e ∧ c.Concerns e ∧
          (p'.number = number → (e.answered reply).reply = p'.reply) ∧
          (p'.number ≠ number → e.reply = p'.reply) := by
    rw [hs]
    rcases c.session.settle_cases number reply with ⟨p, hp, hn, hw, heq⟩ | ⟨hnot, heq⟩
    · rw [heq]
      refine ⟨rfl, rfl, rfl, rfl, by rw [Session.awaited?, Session.awaited?, hp]; rfl, ?_⟩
      rintro p' ⟨⟩
      obtain ⟨hspot, e, hget, hc, hr⟩ := h.pending p hp
      exact ⟨hspot, e, hget, hc, fun _ => e.answered_reply reply (hr.trans hw),
        fun hne => absurd hn hne⟩
    · rw [heq]
      refine ⟨rfl, rfl, rfl, rfl, rfl, fun p hp => ?_⟩
      obtain ⟨hspot, e, hget, hc, hr⟩ := h.pending p hp
      refine ⟨hspot, e, hget, hc, fun hn => ?_, fun _ => hr⟩
      rw [(e.becomes_answered reply).reply (by rw [hr]; exact hnot p hp hn), hr]
  obtain ⟨htable', hnotice'⟩ := h.shown_before event htrail
  have horigin (n : Nat) (e' : Errand) (hn : (c.errandsAfter event)[n]? = some e') :
      ∃ e, c.errands[n]? = some e ∧
        (number = n ∧ e' = e.answered reply ∨ number ≠ n ∧ e' = e) := by
    rw [he] at hn
    exact getElem?_modified hn
  refine ⟨?_, ?_, ?_, ?_, ?_, ?_⟩
  · rw [after_errands, after_session, he, hsignals, List.length_modify]
    exact h.count
  · intro n e' hn
    obtain ⟨e, hget, ⟨-, rfl⟩ | ⟨-, rfl⟩⟩ := horigin n e' hn
    · rw [Errand.answered_fetch]
      exact h.numbered n e hget
    · exact h.numbered n e' hget
  · intro n e' hn
    rw [after_session, hawaited, hsignals]
    obtain ⟨e, hget, ⟨-, rfl⟩ | ⟨-, rfl⟩⟩ := horigin n e' hn
    · rw [Errand.answered_taken]
      exact h.fate n e hget
    · exact h.fate n e' hget
  · intro p' hp'
    -- The errand with the number of the pending fetch has the same origin before the event.
    obtain ⟨hspot, e, hget, hc, hsame, hother⟩ := hpending p' hp'
    obtain ⟨e', hget', hb⟩ := c.errandsAfter_becomes event hget
    refine ⟨hspot.trans (congrArg Prod.fst htrail).symm, e', hget', hc.after htrail hget' hb, ?_⟩
    obtain ⟨e₀, hget₀, hcase⟩ := horigin _ _ hget'
    obtain rfl : e = e₀ := Option.some.inj (hget.symm.trans hget₀)
    rcases hcase with ⟨hn, rfl⟩ | ⟨hn, rfl⟩
    · exact hsame hn.symm
    · exact hother (Ne.symm hn)
  · intro t ht
    exact htable' t (htable ▸ ht)
  · intro text ht
    exact hnotice' text (hnotice ▸ ht)

/-- The outcome of the pending fetch is taken in: what arrived was the answer to an errand for the
place. -/
theorem Sound.of_takesIn {c : Chronicle} (h : c.Sound) {p : Pending}
    {result : Except FleetError Table} (ht : c.TakesIn p result) : (c.after .poll).Sound := by
  have hs := ht.session
  have htrail := ht.trail
  have hnone (n : Nat) : (c.session.after .poll).awaited? ≠ some n := by
    rw [hs, Session.awaited?, Session.absorb_pending]
    nofun
  obtain ⟨htable, hnotice⟩ := h.shown_before .poll htrail
  have hgot (hr : p.reply = .arrived result) : (c.after .poll).Got (.arrived result) := by
    obtain ⟨-, e, -, hc, heq⟩ := h.pending p ht.pending
    exact Got.after ⟨e, hc, heq.trans hr⟩ nofun .poll htrail
  have horigin (n : Nat) (e' : Errand) (hn : (c.errandsAfter .poll)[n]? = some e') :
      ∃ e, c.errands[n]? = some e ∧ (p.number = n ∧ e' = e.takeIn ∨ p.number ≠ n ∧ e' = e) := by
    rw [ht.errands] at hn
    exact getElem?_modified hn
  refine ⟨?_, ?_, ?_, ?_, ?_, ?_⟩
  · rw [after_errands, after_session, ht.errands, hs, Session.absorb_signals, Session.retire_next,
      List.length_modify]
    exact h.count
  · intro n e' hn
    obtain ⟨e, hget, ⟨-, rfl⟩ | ⟨-, rfl⟩⟩ := horigin n e' hn
    · exact h.numbered n e hget
    · exact h.numbered n e' hget
  · intro n e' hn
    obtain ⟨e, hget, hcase⟩ := horigin n e' hn
    obtain ⟨signal, hsignal, hfate⟩ := h.fate n e hget
    -- Only the pending errand is taken in, which it never was before; its signal loses its handle.
    rw [ht.awaited] at hfate
    rw [after_session, hs, Session.absorb_signals, Session.retire_states, ht.awaited, hsignal, ← hs]
    rcases hcase with ⟨rfl, rfl⟩ | ⟨hne, rfl⟩
    · show ∃ signal, _ ∧ Fate _ (e.taken + 1) signal
      generalize e.taken = taken at hfate ⊢
      cases hfate with
      | pending => exact ⟨_, if_pos rfl, .takenIn (hnone _)⟩
      | takenIn ha => exact absurd rfl ha
      | cancelled ha => exact absurd rfl ha
    · have hne' : some p.number ≠ some n := fun h => hne (Option.some.inj h)
      generalize e'.taken = taken at hfate ⊢
      cases hfate with
      | pending ha => exact absurd ha hne'
      | takenIn => exact ⟨_, if_neg hne', .takenIn (hnone n)⟩
      | cancelled => exact ⟨_, if_neg hne', .cancelled (hnone n)⟩
  · intro p' hp'
    rw [after_session, hs, Session.absorb_pending] at hp'
    exact nomatch hp'
  · intro t hshown
    -- What is shown is the table that has arrived, or still the table of before.
    rw [after_session, hs, Session.absorb_table, Session.retire_table] at hshown
    cases result with
    | ok t' =>
      obtain rfl : t' = t := Option.some.inj hshown
      rcases ht.reply with hr | ⟨-, hr⟩
      · exact hgot hr
      · exact nomatch hr
    | error error => exact htable t hshown
  · intro text hshown
    rw [after_session, hs] at hshown
    rcases Session.absorb_notice hshown with hold | ⟨error, rfl, hne, htext⟩
    · exact hnotice text hold
    · -- A lost answer counts as cancelled, so a failure that is shown has arrived.
      have hview : (c.session.after .poll).view = c.session.view := congrArg (·.1.1) htrail
      refine ⟨error, ?_, by rw [after_session, hview]; exact htext⟩
      rcases ht.reply with hr | ⟨-, hr⟩
      · exact hgot hr
      · exact absurd (Except.error.inj hr) hne

/-- A poll takes in the outcome of the pending fetch, or there is none yet. -/
theorem Sound.poll {c : Chronicle} (h : c.Sound) : (c.after .poll).Sound := by
  rcases poll_cases fun p hp => (h.pending p hp).1 with ⟨hs, he⟩ | ⟨p, result, ht⟩
  · exact h.of_stays (hs.symm ▸ .refl _) he
  · exact h.of_takesIn ht

/-- Every event keeps the invariant. -/
theorem Sound.after {c : Chronicle} (h : c.Sound) (event : Event) : (c.after event).Sound := by
  cases event with
  | press press =>
    rcases c.session.press_stays_or_left press with hs | hl
    · exact h.of_stays hs rfl
    · exact h.of_left hl rfl
  | tick now => exact h.tick now
  | draw height => exact h.of_stays (c.session.stays_fit height) rfl
  | answer number result => exact h.reply rfl rfl
  | lose number => exact h.reply rfl rfl
  | poll => exact h.poll

/-- Every run keeps the invariant. -/
theorem Sound.run {c : Chronicle} (h : c.Sound) (events : List Event) : (c.run events).Sound := by
  induction events generalizing c with
  | nil => exact h
  | cons event events ih => exact ih (h.after event)

/-! ## What a user can rely on -/

/-- An errand is cancelled when the signal of its number is. -/
theorem Sound.hasCancelled_iff {c : Chronicle} (h : c.Sound) {n : Nat} {e : Errand}
    (hn : c.errands[n]? = some e) :
    c.HasCancelled e ↔ c.session.signals.isCancelled n = true := by
  rw [HasCancelled, RequestContext.isCancelled, (h.numbered n e hn).2]
  rfl

/-- An errand that the invariant holds of is taken in at most once, and never if it is cancelled. -/
theorem Sound.taken_le {c : Chronicle} (h : c.Sound) {n : Nat} {e : Errand}
    (hn : c.errands[n]? = some e) : e.taken ≤ 1 ∧ (c.HasCancelled e → e.taken = 0) := by
  obtain ⟨signal, hsignal, hfate⟩ := h.fate n e hn
  rw [h.hasCancelled_iff hn, Signals.isCancelled, hsignal]
  -- Only the signal of a cancelled errand says so, and that errand was not taken in.
  generalize e.taken = taken at hfate ⊢
  cases hfate with
  | pending | cancelled => exact ⟨Nat.zero_le 1, fun _ => rfl⟩
  | takenIn =>
    refine ⟨Nat.le_refl 1, fun hcancelled => ?_⟩
    cases hcancelled

/-- Errands outlive every run. -/
theorem run_becomes (c : Chronicle) (events : List Event) {n : Nat} {e : Errand}
    (h : c.errands[n]? = some e) :
    ∃ e' : Errand, (c.run events).errands[n]? = some e' ∧ e.Becomes e' := by
  induction events generalizing c e with
  | nil => exact ⟨e, h, .refl e⟩
  | cons event events ih =>
    obtain ⟨e', h', hb⟩ := c.errandsAfter_becomes event h
    obtain ⟨e'', h'', hb'⟩ := ih (c.after event) h'
    exact ⟨e'', h'', hb.trans hb'⟩

/-- The invariant is enough for what a user can rely on. -/
theorem Sound.faithful {c : Chronicle} (h : c.Sound) : c.Faithful where
  pending_here p hp := (h.pending p hp).1
  never_stale p hp hr := by
    rcases c.session.poll_cases with ⟨hnot, -⟩ | ⟨q, result, hq, -, hpoll⟩
    · exact absurd (hnot p hp) hr
    · rw [hpoll, if_pos (h.pending q hq).1]
  table_answers := h.table
  failure_answers text ht := by
    obtain ⟨error, ⟨e, hc, hr⟩, htext⟩ := h.notice text ht
    exact ⟨e, error, hc, hr, htext⟩
  taken_once e he := by
    obtain ⟨n, hn⟩ := List.getElem?_of_mem he
    exact (h.taken_le hn).1
  cancelled_for_good n e hn hc events := by
    -- The signal stays cancelled along the run, and the invariant holds at its end.
    obtain ⟨e', hn', hb⟩ := c.run_becomes events hn
    have h' := h.run events
    refine ⟨e', hn', hb.fetch, (h'.taken_le hn').2 ?_⟩
    rw [h'.hasCancelled_iff hn', session_run]
    exact c.session.isCancelled_run events ((h.hasCancelled_iff hn).mp hc)
  none_left_behind e he := by
    obtain ⟨n, hn⟩ := List.getElem?_of_mem he
    obtain ⟨signal, hsignal, hfate⟩ := h.fate n e hn
    rw [h.hasCancelled_iff hn, Signals.isCancelled, hsignal, (h.numbered n e hn).1]
    generalize e.taken = taken at hfate ⊢
    cases hfate with
    | pending ha => exact .inl ha
    | takenIn => exact .inr (.inl rfl)
    | cancelled => exact .inr (.inr rfl)

/-- Whatever happens to a session, in whatever order, a user can rely on what it shows and on what
becomes of its fetches. -/
theorem run_faithful (profile : Profile) (events : List Event) :
    ((opened profile).run events).Faithful :=
  ((sound_opened profile).run events).faithful

/-- An answer that comes after the session has left goes nowhere. -/
example (profile : Profile) (table : Table) :
    let c := (opened profile).run
      [.tick 0, .press { key := .char 'c' }, .answer 0 (.ok table), .poll]
    c.session.view = .clusters ∧ c.session.table = none := ⟨rfl, rfl⟩

end Chronicle

end FleetConsole
