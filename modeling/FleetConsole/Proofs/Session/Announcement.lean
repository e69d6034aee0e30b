import FleetConsole.Proofs.Session.Timetable

/-!
# The announcement of a refresh

Who asks for fresh data is told that the view is being refreshed. `run_announces` says how long the
status line goes on saying so: until the session leaves, escape is pressed or a failure is taken in
(`Silences`), and no longer. What the announcement is about makes no difference to it. In particular
it outlives the fetch that was asked for, if that fetch brings a table, and then the next escape is
spent on it.

The proof goes by single events (`Session.says_after_iff`). What a command does to the message is
read off all that a command can do, and a failure that is pending is never about another place.
-/

namespace FleetConsole

/-- The message that a view is being refreshed. -/
def Notice.refreshing (view : View) : Notice := ⟨"Refreshing " ++ view.title, false⟩

/-- The escape key dismisses or goes back, and no other key does. -/
theorem KeyPress.command?_eq_dismiss_iff (press : KeyPress) :
    press.command? = some .dismiss ↔ press.key = .escape := by
  obtain ⟨key, control⟩ := press
  constructor
  · intro h
    have hkey : key.command? = some .dismiss := command?_of_ne_quit h nofun
    unfold Key.command? at hkey
    split at hkey <;> cases hkey
    rfl
  · rintro rfl
    cases control <;> rfl

namespace Session

/-- The status line says that the current view is being refreshed. -/
def SaysRefreshing (s : Session) : Prop := s.notice = some (.refreshing s.view)

/-- An event that puts an end to the announcement of a refresh. -/
inductive Silences (s : Session) : Event → Prop where
  | leaves {event : Event} (other : (s.after event).trail ≠ s.trail) : s.Silences event
  | dismisses {press : KeyPress} (escape : press.key = .escape) : s.Silences (.press press)
  /-- A fetch that was not cancelled but failed is taken in. -/
  | fails {p : Pending} {error : FleetError} (pending : s.pending = some p)
      (arrived : p.reply = .arrived (.error error)) (real : error ≠ .cancelled) : s.Silences .poll

/-- A key press puts an end to the announcement if it makes the session leave, or dismisses it. -/
theorem silences_press_iff (s : Session) (press : KeyPress) : s.Silences (.press press) ↔
    (s.press press).trail ≠ s.trail ∨ press.command? = some .dismiss := by
  rw [press.command?_eq_dismiss_iff]
  constructor
  · rintro (hleaves | hescape)
    · exact .inl hleaves
    · exact .inr hescape
  · rintro (hleaves | hescape)
    · exact .leaves hleaves
    · exact .dismisses hescape

/-- A poll puts an end to the announcement if it takes in a failure. -/
theorem silences_poll_iff (s : Session) : s.Silences .poll ↔ ∃ p error, s.pending = some p ∧
    p.reply = .arrived (.error error) ∧ error ≠ .cancelled := by
  constructor
  · rintro (hleaves | _ | ⟨hp, harrived, hreal⟩)
    · exact absurd s.poll_trail hleaves
    · exact ⟨_, _, hp, harrived, hreal⟩
  · rintro ⟨p, error, hp, harrived, hreal⟩
    exact .fails hp harrived hreal

/-- Any other event puts an end to the announcement only if it makes the session leave. -/
theorem not_silences {s : Session} {event : Event} (htrail : (s.after event).trail = s.trail)
    (hpress : ∀ press, event ≠ .press press) (hpoll : event ≠ .poll) : ¬s.Silences event := by
  rintro (hleaves | _ | _)
  · exact hleaves htrail
  · exact hpress _ rfl
  · exact hpoll rfl

/-- A run in which fresh data was asked for, and nothing put an end to the announcement since. -/
def Announced (start : Session) (events : List Event) : Prop :=
  ∃ before press later, events = before ++ .press press :: later ∧ press.key = .char 'r' ∧
    ∀ early event, early ++ [event] <+: later →
      ¬(start.run (before ++ .press press :: early)).Silences event

/-- The last event of a run asks for fresh data, or else it does not put an end to the announcement
made before. -/
theorem announced_concat_iff (start : Session) (events : List Event) (event : Event) :
    Announced start (events ++ [event]) ↔ event.asksForFreshData = true ∨
      Announced start events ∧ ¬(start.run events).Silences event := by
  constructor
  · rintro ⟨before, press, later, heq, hpress, hkept⟩
    rcases List.eq_nil_or_concat later with rfl | ⟨later, last, rfl⟩
    · have hlast : [event] = [.press press] := List.append_inj_right' heq rfl
      obtain rfl : event = .press press := (List.cons.inj hlast).1
      exact .inl (decide_eq_true hpress)
    · rw [List.concat_eq_append, ← List.cons_append, ← List.append_assoc] at heq
      obtain ⟨rfl, hlast⟩ := List.append_inj' heq rfl
      obtain rfl : event = last := (List.cons.inj hlast).1
      rw [List.concat_eq_append] at hkept
      refine .inr ⟨⟨before, press, later, rfl, hpress, fun early event' hearly => ?_⟩, ?_⟩
      · exact hkept early event' (hearly.trans (List.prefix_append later [event]))
      · exact hkept later event (List.prefix_refl _)
  · rintro (hasks | ⟨⟨before, press, later, rfl, hpress, hkept⟩, hevent⟩)
    · cases event with
      | press press =>
        refine ⟨events, press, [], rfl, of_decide_eq_true hasks, fun early event hearly => ?_⟩
        simp at hearly
      | tick | draw | answer | lose | poll => cases hasks
    · refine ⟨before, press, later ++ [event], by simp, hpress, fun early event' hearly => ?_⟩
      rcases List.prefix_concat_iff.mp hearly with heq | hshort
      · obtain ⟨rfl, hsame⟩ := List.append_inj' heq rfl
        obtain rfl : event' = event := (List.cons.inj hsame).1
        exact hevent
      · exact hkept early event' hshort

/-! ## What an event does to the message -/

/-- A session that has left says nothing. -/
theorem Left.not_saying {s t : Session} (h : s.Left t) : ¬t.SaysRefreshing := by
  intro hannounced
  have hnone := h.notice
  rw [hannounced] at hnone
  cases hnone

/-- A session with the same message in the same view says the same. -/
theorem says_congr {s t : Session} (htrail : t.trail = s.trail) (hnotice : t.notice = s.notice) :
    t.SaysRefreshing ↔ s.SaysRefreshing := by
  have hview : t.view = s.view := congrArg (·.1.1) htrail
  rw [SaysRefreshing, SaysRefreshing, hview, hnotice]

/-- A command that leads nowhere else announces a refresh, or it leaves the announcement as it is
unless it dismisses it. -/
theorem says_stayed_iff (s : Session) (c : Command) :
    (s.stayed c).SaysRefreshing ↔ c = .refresh ∨ s.SaysRefreshing ∧ c ≠ .dismiss := by
  show s.noticeAfter c = some (.refreshing s.view) ↔ _
  cases c with
  | refresh => exact iff_of_true rfl (.inl rfl)
  | dismiss => simp [noticeAfter]
  | quit | openView | switchTo | toggleHelp | selectNext | selectPrevious | selectFirst | selectLast
  | pageDown | pageUp => simp [noticeAfter, SaysRefreshing]

/-- A key press announces a refresh, or it leaves the announcement as it is unless it puts an end to
it. -/
theorem says_press_iff (s : Session) (press : KeyPress) :
    (s.press press).SaysRefreshing ↔
      press.key = .char 'r' ∨ s.SaysRefreshing ∧ ¬s.Silences (.press press) := by
  rw [← press.command?_eq_refresh_iff, silences_press_iff]
  unfold Session.press
  cases press.command? with
  | none => simp
  | some c =>
    rw [Option.elim_some]
    rcases s.perform_cases c with hl | heq
    · have hother : c ≠ .refresh := by
        rintro rfl
        exact hl.trail rfl
      simp [hl.not_saying, hl.trail, hother]
    · have htrail : (s.stayed c).trail = s.trail := rfl
      rw [heq, says_stayed_iff]
      simp [htrail]

/-- A failure shows its message. -/
theorem absorb_failure (s : Session) {error : FleetError} (h : error ≠ .cancelled) :
    s.absorb (.error error) = s.notify ⟨s.view.title ++ ": " ++ error.message, true⟩ := by
  unfold absorb
  split
  · next heq => cases heq
  · next heq => exact absurd (Except.error.inj heq) h
  · next heq =>
    cases heq
    rfl

/-- A table leaves the announcement as it is, since it only puts an end to the message of a failure.
So does a cancelled fetch, and any other failure takes its place. -/
theorem says_absorb_iff (s : Session) (result : Except FleetError Table) :
    (s.absorb result).SaysRefreshing ↔
      s.SaysRefreshing ∧ ∀ error, result = .error error → error = .cancelled := by
  have hview : (s.absorb result).view = s.view := congrArg (·.1.1) (s.absorb_trail result)
  unfold SaysRefreshing
  rw [hview]
  cases result with
  | ok table =>
    have hnotice : (s.absorb (.ok table)).notice = s.notice.filter (!·.isError) := rfl
    rw [hnotice, Option.filter_eq_some_iff]
    exact and_congr_right fun _ => iff_of_true rfl nofun
  | error error =>
    by_cases herror : error = .cancelled
    · subst herror
      exact (and_iff_left fun _ h => (Except.error.inj h).symm).symm
    · rw [s.absorb_failure herror]
      -- The message of a failure is never taken for an announcement.
      refine iff_of_false (fun hannounced => ?_) fun h => herror (h.2 error rfl)
      cases congrArg Notice.isError (Option.some.inj hannounced)

/-- A poll takes the announcement away exactly if it takes in a failure. -/
theorem says_poll_iff {s : Session}
    (hspot : ∀ p, s.pending = some p → p.location.spot = s.location.spot) :
    (s.after .poll).SaysRefreshing ↔ s.SaysRefreshing ∧ ¬s.Silences .poll := by
  rw [silences_poll_iff]
  rcases s.poll_cases with ⟨hwaiting, hnot⟩ | ⟨p, result, hp, hreply, hpoll⟩
  · have hs : s.after .poll = s := congrArg Prod.snd hnot
    rw [hs]
    refine (and_iff_left ?_).symm
    rintro ⟨p, error, hp, harrived, -⟩
    cases (hwaiting p hp).symm.trans harrived
  · rw [if_pos (hspot p hp)] at hpoll
    have hs : s.after .poll = s.retire.absorb result := congrArg Prod.snd hpoll
    have hretired : s.retire.SaysRefreshing ↔ s.SaysRefreshing := says_congr rfl rfl
    rw [hs, says_absorb_iff, hretired]
    refine and_congr_right fun _ => ?_
    constructor
    · rintro hcancelled ⟨p', error, hp', harrived, hreal⟩
      obtain rfl : p = p' := Option.some.inj (hp.symm.trans hp')
      rcases hreply with hbrought | ⟨hlost, -⟩
      · have hresult : result = .error error := Reply.arrived.inj (hbrought.symm.trans harrived)
        exact hreal (hcancelled error hresult)
      · cases hlost.symm.trans harrived
    · intro hnone error herror
      rcases hreply with hbrought | ⟨-, hresult⟩
      · by_contra hreal
        exact hnone ⟨p, error, hp, herror ▸ hbrought, hreal⟩
      · exact Except.error.inj (herror.symm.trans hresult)

/-- Whatever happens to a session that waits for no other place, a refresh is announced afterwards
if the event asks for one, or if it was announced and the event does not put an end to that. -/
theorem says_after_iff {s : Session}
    (hspot : ∀ p, s.pending = some p → p.location.spot = s.location.spot) (event : Event) :
    (s.after event).SaysRefreshing ↔
      event.asksForFreshData = true ∨ s.SaysRefreshing ∧ ¬s.Silences event := by
  -- An event that changes neither the place nor the message is no matter for the announcement.
  have hkept (htrail : (s.after event).trail = s.trail)
      (hnotice : (s.after event).notice = s.notice) (hasks : event.asksForFreshData = false)
      (hsilent : ¬s.Silences event) : (s.after event).SaysRefreshing ↔
        event.asksForFreshData = true ∨ s.SaysRefreshing ∧ ¬s.Silences event := by
    rw [says_congr htrail hnotice, hasks]
    simp [hsilent]
  cases event with
  | press press =>
    rw [Event.asksForFreshData, decide_eq_true_iff]
    exact s.says_press_iff press
  | tick now =>
    have htrail : (s.after (.tick now)).trail = s.trail := s.startFetch_trail now
    have hnotice : (s.after (.tick now)).notice = s.notice := by
      rcases s.startFetch_cases now with ⟨-, heq⟩ | ⟨-, -, f, -, -, -, heq⟩ <;> rw [after, heq]
    exact hkept htrail hnotice rfl (not_silences htrail (by simp) (by simp))
  | draw height => exact hkept rfl rfl rfl (not_silences rfl (by simp) (by simp))
  | answer number result | lose number =>
    have hnotice (reply : Reply) : (s.settle number reply).notice = s.notice := by
      rcases s.settle_cases number reply with ⟨p, -, -, -, heq⟩ | ⟨-, heq⟩ <;> rw [heq]
    have htrail (reply : Reply) : (s.settle number reply).trail = s.trail :=
      s.settle_trail number reply
    exact hkept (htrail _) (hnotice _) rfl (not_silences (htrail _) (by simp) (by simp))
  | poll =>
    have hpoll := says_poll_iff hspot
    simpa [Event.asksForFreshData] using hpoll

end Session

/-! ## Along a run -/

/-- The fetch that a session waits for is about the place where the session is. -/
theorem Session.run_pending_spot (profile : Profile) (events : List Event) {p : Pending}
    (hp : ((opened profile).run events).pending = some p) :
    p.location.spot = ((opened profile).run events).location.spot := by
  have hsound := (Chronicle.sound_opened profile).run events
  have hsession : ((Chronicle.opened profile).run events).session = (opened profile).run events :=
    Chronicle.session_run _ events
  rw [← hsession] at hp ⊢
  exact (hsound.pending p hp).1

/-- What a user can rely on about the announcement of a refresh. -/
structure Announces (s : Session) (announced : Prop) : Prop where
  /-- The status line says that the view is being refreshed exactly while that is announced. -/
  says_iff : s.SaysRefreshing ↔ announced
  /-- A table that is taken in leaves the announcement in place. -/
  outlasts : announced → ∀ table, (s.absorb (.ok table)).SaysRefreshing
  /-- The next escape is spent on the announcement. -/
  escape : announced → ∀ control, s.press ⟨.escape, control⟩ = { s with notice := none }

/-- Whatever happens to a session, a refresh is announced from when it was asked for until the
session leaves, the message is dismissed or a failure is taken in. -/
theorem run_announces (profile : Profile) (events : List Event) :
    Announces ((Session.opened profile).run events)
      (Session.Announced (Session.opened profile) events) := by
  have hannounced : ((Session.opened profile).run events).SaysRefreshing ↔
      Session.Announced (Session.opened profile) events := by
    -- By induction on the run, from its end.
    induction events using List.reverseRecOn with
    | nil =>
      refine iff_of_false nofun ?_
      rintro ⟨before, press, later, heq, -⟩
      simp at heq
    | append_singleton events event ih =>
      rw [Session.run_concat, Session.announced_concat_iff, ← ih]
      exact Session.says_after_iff (fun p => Session.run_pending_spot profile events) event
  refine ⟨hannounced, fun h table => ?_, fun h control => ?_⟩
  · exact (Session.says_absorb_iff _ _).mpr ⟨hannounced.mpr h, nofun⟩
  · have hsome : ((Session.opened profile).run events).notice.isSome = true := by
      rw [show _ = some _ from hannounced.mpr h]
      rfl
    rw [Session.press_escape, if_pos hsome]

/-- The manifests of an application are fetched at the wish of the user. The fetch has brought a
table and none is wanted any more, and yet the status line says that the view is being refreshed.
Escape takes that back instead of going back. -/
theorem announced_after_table :
    let row : Row := ⟨"shop/web", [], .nominal⟩
    let s := (Session.opened { context := "hub", source := "hub" }).run
      [.tick 0, .answer 0 (.ok { rows := [row] }), .poll, .press ⟨.enter, false⟩,
       .press ⟨.char 'r', false⟩, .tick 0, .answer 1 (.ok {}), .poll]
    s.pending.isNone = true ∧ s.refreshWanted = false ∧ s.SaysRefreshing ∧
      (s.press ⟨.escape, false⟩).view = .manifests ∧
      (s.press ⟨.escape, false⟩).notice.isNone = true :=
  ⟨rfl, rfl, rfl, rfl, rfl⟩

end FleetConsole
