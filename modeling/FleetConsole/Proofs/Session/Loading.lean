import FleetConsole.Proofs.Session.Timetable

/-!
# Nothing to show yet

While no table is shown, a session says that it is loading. `run_loading_iff` says how far that is
true. Either a fetch is in flight or it is time for one, except after fetches for the place that all
came to an end without a table: then the session waits for the interval of the view, as if there
were data that could stay fresh, and nothing is loaded until it has passed or fresh data is asked
for.

The chronicle knows every fetch. What it says of those of the present visit is the invariant
`Chronicle.Current`: such a fetch is pending, or it was taken in and has brought a table that is
shown, or it has failed. The timetable knows when the last one began.
-/

namespace FleetConsole

/-- The fetch came to an end without a table: with an error, or nobody was left who could answer. -/
def Errand.Failed (e : Errand) : Prop :=
  e.reply = .lost ∨ ∃ error, e.reply = .arrived (.error error)

/-- What has failed stays so. -/
theorem Errand.Failed.becomes {e e' : Errand} (h : e.Failed) (hb : e.Becomes e') : e'.Failed := by
  have hended : e.reply ≠ .waiting := by
    intro hwaiting
    rcases h with hlost | ⟨error, herror⟩
    · rw [hwaiting] at hlost
      cases hlost
    · rw [hwaiting] at herror
      cases herror
  unfold Errand.Failed
  rw [hb.reply hended]
  exact h

namespace Chronicle

/-! ## The present visit -/

/-- The invariant about the errands of the present visit. -/
structure Current (c : Chronicle) : Prop where
  /-- No errand is of a visit to come. -/
  visit_le : ∀ e ∈ c.errands, e.visit ≤ c.visit
  /-- The errands of this visit are for the place where the session is. -/
  spot : ∀ e ∈ c.errands, e.visit = c.visit → e.fetch.spot = c.session.location.spot
  /-- The session remembers when a fetch began if there is an errand of this visit. -/
  tried : c.session.lastFetch.isSome = true ↔ ∃ e ∈ c.errands, e.visit = c.visit
  /-- An errand of this visit is pending, or it was taken in. If nothing is shown, it has failed. -/
  ended : ∀ e ∈ c.errands, e.visit = c.visit → c.session.awaited? = some e.fetch.number ∨
    e.taken = 1 ∧ (c.session.table.isSome = true ∨ e.Failed)

/-- The errands of this visit are those that concern the session. -/
theorem Current.concerns_iff {c : Chronicle} (h : c.Current) {e : Errand} :
    c.Concerns e ↔ e ∈ c.errands ∧ e.visit = c.visit :=
  ⟨fun he => ⟨he.mem, he.visit⟩, fun ⟨hmem, hvisit⟩ => ⟨hmem, hvisit, h.spot e hmem hvisit⟩⟩

/-- Nothing was fetched yet. -/
theorem current_opened (profile : Profile) : (opened profile).Current where
  visit_le _ hmem := absurd hmem List.not_mem_nil
  spot _ hmem := absurd hmem List.not_mem_nil
  tried := by simp [opened, Session.opened]
  ended _ hmem := absurd hmem List.not_mem_nil

/-- An event that leaves the session where it is and makes no fetch begin: the errands are the ones
before it, so that only what has become of them has to be looked at. -/
theorem Current.of_becomes {c : Chronicle} (h : c.Current) {event : Event}
    (htrail : (c.session.after event).trail = c.session.trail)
    (hlast : (c.session.after event).lastFetch = c.session.lastFetch)
    (horigin : ∀ e' ∈ c.errandsAfter event, ∃ e ∈ c.errands, e.Becomes e')
    (hended : ∀ e' ∈ c.errandsAfter event, e'.visit = c.visit →
      (c.session.after event).awaited? = some e'.fetch.number ∨
        e'.taken = 1 ∧ ((c.session.after event).table.isSome = true ∨ e'.Failed)) :
    (c.after event).Current := by
  have hvisit : (c.after event).visit = c.visit := if_pos htrail
  have hspot : (c.session.after event).location.spot = c.session.location.spot :=
    congrArg Prod.fst htrail
  refine ⟨?_, ?_, ?_, fun e' he' hnow => hended e' he' (hnow.trans hvisit)⟩
  · intro e' he'
    obtain ⟨e, he, hb⟩ := horigin e' he'
    rw [hvisit, hb.visit]
    exact h.visit_le e he
  · intro e' he' hnow
    obtain ⟨e, he, hb⟩ := horigin e' he'
    rw [after_session, hspot, hb.fetch]
    exact h.spot e he (by rw [← hb.visit, hnow, hvisit])
  · rw [after_session, hlast, h.tried, hvisit]
    constructor
    · rintro ⟨e, he, hnow⟩
      obtain ⟨n, hn⟩ := List.getElem?_of_mem he
      obtain ⟨e', hn', hb⟩ := c.errandsAfter_becomes event hn
      exact ⟨e', List.mem_of_getElem? hn', hb.visit.trans hnow⟩
    · rintro ⟨e', he', hnow⟩
      obtain ⟨e, he, hb⟩ := horigin e' he'
      exact ⟨e, he, hb.visit.symm.trans hnow⟩

/-- An event with which no errand is taken in, and that leaves the session where it is, with what it
shows and what it waits for. -/
theorem Current.of_kept {c : Chronicle} (h : c.Current) {event : Event}
    (htrail : (c.session.after event).trail = c.session.trail)
    (hlast : (c.session.after event).lastFetch = c.session.lastFetch)
    (hawaited : (c.session.after event).awaited? = c.session.awaited?)
    (htable : (c.session.after event).table = c.session.table)
    (horigin : ∀ e' ∈ c.errandsAfter event,
      ∃ e ∈ c.errands, e.Becomes e' ∧ e'.taken = e.taken) : (c.after event).Current := by
  refine h.of_becomes htrail hlast (fun e' he' => ?_) fun e' he' hnow => ?_
  · obtain ⟨e, he, hb, -⟩ := horigin e' he'
    exact ⟨e, he, hb⟩
  · obtain ⟨e, he, hb, htaken⟩ := horigin e' he'
    rw [hawaited, htable, hb.fetch, htaken]
    rcases h.ended e he (hb.visit.symm.trans hnow) with hpending | ⟨hone, hshown | hfailed⟩
    · exact .inl hpending
    · exact .inr ⟨hone, .inl hshown⟩
    · exact .inr ⟨hone, .inr (hfailed.becomes hb)⟩

/-- An event that changes no errand and keeps the session where it is. -/
theorem Current.of_stays {c : Chronicle} (h : c.Current) {event : Event}
    (hs : c.session.Stays (c.session.after event)) (he : c.errandsAfter event = c.errands) :
    (c.after event).Current := by
  refine h.of_kept hs.trail hs.lastFetch ?_ hs.table fun e' he' => ⟨e', he ▸ he', .refl e', rfl⟩
  rw [Session.awaited?, Session.awaited?, hs.pending]

/-- An event that makes the session leave: no errand is of the visit that begins. -/
theorem Current.of_left {c : Chronicle} (h : c.Current) {event : Event}
    (hl : c.session.Left (c.session.after event)) (he : c.errandsAfter event = c.errands) :
    (c.after event).Current := by
  have hvisit : (c.after event).visit = c.visit + 1 := if_neg hl.trail
  have hold : ∀ e ∈ c.errandsAfter event, e.visit ≠ (c.after event).visit := by
    intro e hmem
    have hle := h.visit_le e (he ▸ hmem)
    omega
  refine ⟨fun e hmem => ?_, fun e hmem hnow => absurd hnow (hold e hmem), ?_,
    fun e hmem hnow => absurd hnow (hold e hmem)⟩
  · have hle := h.visit_le e (he ▸ hmem)
    omega
  · rw [after_session, hl.lastFetch]
    exact iff_of_false nofun fun ⟨e, hmem, hnow⟩ => hold e hmem hnow

/-- A fetch begins: its errand is of this visit, and pending. -/
theorem Current.of_begins {c : Chronicle} (h : c.Current) {now : Nat} {f : Fetch}
    (hb : c.Begins now f) : (c.after (.tick now)).Current := by
  have hs := hb.session
  have hvisit : (c.after (.tick now)).visit = c.visit := if_pos hb.trail
  -- Every errand is an old one or the new one, which is of this visit.
  have hcases : ∀ e ∈ (c.after (.tick now)).errands,
      e ∈ c.errands ∨ e = { fetch := f, visit := c.visit } := by
    intro e hmem
    rw [after_errands, hb.errands] at hmem
    simpa using hmem
  refine ⟨fun e hmem => ?_, fun e hmem hnow => ?_, ?_, fun e hmem hnow => ?_⟩
  · rw [hvisit]
    rcases hcases e hmem with hold | rfl
    · exact h.visit_le e hold
    · exact le_rfl
  · rw [after_session, hs]
    rcases hcases e hmem with hold | rfl
    · exact h.spot e hold (hnow.trans hvisit)
    · exact hb.spot
  · rw [after_session, hs, after_errands, hb.errands, hvisit]
    exact iff_of_true rfl ⟨{ fetch := f, visit := c.visit }, by simp, rfl⟩
  · rw [after_session, hs]
    rcases hcases e hmem with hold | rfl
    · -- Nothing was pending, so an old errand of this visit was taken in.
      rcases h.ended e hold (hnow.trans hvisit) with hpending | htaken
      · rw [Session.awaited?, hb.idle] at hpending
        cases hpending
      · exact .inr htaken
    · exact .inl (congrArg some hb.number.symm)

/-- A fetch begins, or it is not time. -/
theorem Current.tick {c : Chronicle} (h : c.Current) (now : Nat) :
    (c.after (.tick now)).Current := by
  rcases c.tick_cases now with ⟨hs, he⟩ | ⟨f, hb⟩
  · exact h.of_stays (hs.symm ▸ .refl _) he
  · exact h.of_begins hb

/-- Someone answers, or is lost: nothing is taken in yet. -/
theorem Current.reply {c : Chronicle} (h : c.Current) {event : Event} {number : Nat} {reply : Reply}
    (hs : c.session.after event = c.session.settle number reply)
    (he : c.errandsAfter event = c.errands.modify number (·.answered reply)) :
    (c.after event).Current := by
  have horigin : ∀ e' ∈ c.errandsAfter event,
      ∃ e ∈ c.errands, e.Becomes e' ∧ e'.taken = e.taken := by
    intro e' he'
    obtain ⟨n, hn⟩ := List.getElem?_of_mem he'
    rw [he] at hn
    obtain ⟨e, hget, ⟨-, rfl⟩ | ⟨-, rfl⟩⟩ := getElem?_modified hn
    · exact ⟨e, List.mem_of_getElem? hget, e.becomes_answered reply, e.answered_taken reply⟩
    · exact ⟨e', List.mem_of_getElem? hget, .refl e', rfl⟩
  rcases c.session.settle_cases number reply with ⟨p, hp, -, -, heq⟩ | ⟨-, heq⟩
  · rw [heq] at hs
    refine h.of_kept (by rw [hs]; rfl) (by rw [hs]) ?_ (by rw [hs]) horigin
    rw [hs, Session.awaited?, Session.awaited?, hp]
    rfl
  · rw [heq] at hs
    exact h.of_kept (by rw [hs]) (by rw [hs]) (by rw [hs]) (by rw [hs]) horigin

/-- The pending errand was not taken in before. -/
theorem Sound.taken_eq_zero {c : Chronicle} (h : c.Sound) {n : Nat} {e : Errand}
    (hn : c.errands[n]? = some e) (hawaited : c.session.awaited? = some n) : e.taken = 0 := by
  obtain ⟨signal, -, hfate⟩ := h.fate n e hn
  generalize e.taken = taken at hfate ⊢
  cases hfate with
  | pending ha => rfl
  | takenIn ha => exact absurd hawaited ha
  | cancelled ha => rfl

/-- The outcome of the pending fetch is taken in: its errand has brought a table, or it has failed.
-/
theorem Current.of_takesIn {c : Chronicle} (h : c.Current) (hsound : c.Sound) {p : Pending}
    {result : Except FleetError Table} (ht : c.TakesIn p result) : (c.after .poll).Current := by
  have htable : (c.session.after .poll).table = result.toOption.or c.session.table := by
    rw [ht.session, Session.absorb_table, Session.retire_table]
  have horigin (e' : Errand) (hmem : e' ∈ c.errandsAfter .poll) :
      ∃ n e, c.errands[n]? = some e ∧ (p.number = n ∧ e' = e.takeIn ∨ p.number ≠ n ∧ e' = e) := by
    obtain ⟨n, hn⟩ := List.getElem?_of_mem hmem
    rw [ht.errands] at hn
    obtain ⟨e, hget, hcase⟩ := getElem?_modified hn
    exact ⟨n, e, hget, hcase⟩
  refine h.of_becomes ht.trail c.session.poll_remembers.lastFetch (fun e' hmem => ?_)
    fun e' hmem hnow => ?_
  · obtain ⟨n, e, hget, ⟨-, rfl⟩ | ⟨-, rfl⟩⟩ := horigin e' hmem
    · exact ⟨e, List.mem_of_getElem? hget, e.becomes_takeIn⟩
    · exact ⟨e', List.mem_of_getElem? hget, .refl e'⟩
  · rw [htable]
    obtain ⟨n, e, hget, ⟨rfl, rfl⟩ | ⟨hne, rfl⟩⟩ := horigin e' hmem
    · -- The errand that was pending until now.
      obtain ⟨-, e₀, hget₀, -, hsame⟩ := hsound.pending p ht.pending
      obtain rfl : e₀ = e := Option.some.inj (hget₀.symm.trans hget)
      refine .inr ⟨congrArg (· + 1) (hsound.taken_eq_zero hget ht.awaited), ?_⟩
      cases result with
      | ok table => exact .inl rfl
      | error error =>
        rcases ht.reply with harrived | ⟨hlost, -⟩
        · exact .inr (.inr ⟨error, hsame.trans harrived⟩)
        · exact .inr (.inl (hsame.trans hlost))
    · -- Any other errand of this visit was taken in before, and a table only gives way to another.
      have hnumber : e'.fetch.number = n := (hsound.numbered n e' hget).1
      have hother : c.session.awaited? ≠ some e'.fetch.number := by
        rw [ht.awaited, hnumber]
        exact fun heq => hne (Option.some.inj heq)
      rcases h.ended e' (List.mem_of_getElem? hget) hnow with hpending | ⟨hone, hshown | hfailed⟩
      · exact absurd hpending hother
      · refine .inr ⟨hone, .inl ?_⟩
        cases result with
        | ok table => rfl
        | error error => exact hshown
      · exact .inr ⟨hone, .inr hfailed⟩

/-- A poll takes in the outcome of the pending fetch, or there is none yet. -/
theorem Current.poll {c : Chronicle} (h : c.Current) (hsound : c.Sound) :
    (c.after .poll).Current := by
  rcases poll_cases fun p hp => (hsound.pending p hp).1 with ⟨hs, he⟩ | ⟨p, result, ht⟩
  · exact h.of_stays (hs.symm ▸ .refl _) he
  · exact h.of_takesIn hsound ht

/-- Every event keeps the invariant. -/
theorem Current.after {c : Chronicle} (h : c.Current) (hsound : c.Sound) (event : Event) :
    (c.after event).Current := by
  cases event with
  | press press =>
    rcases c.session.press_stays_or_left press with hs | hl
    · exact h.of_stays hs rfl
    · exact h.of_left hl rfl
  | tick now => exact h.tick now
  | draw height => exact h.of_stays (c.session.stays_fit height) rfl
  | answer number result => exact h.reply rfl rfl
  | lose number => exact h.reply rfl rfl
  | poll => exact h.poll hsound

/-- Every run keeps the invariant. -/
theorem Current.run {c : Chronicle} (h : c.Current) (hsound : c.Sound) (events : List Event) :
    (c.run events).Current := by
  induction events generalizing c with
  | nil => exact h
  | cons event events ih => exact ih (h.after hsound event) (hsound.after event)

/-! ## Fetches in vain -/

/-- Fetches were made since the session came to the present place, and all of them came to an end
without a table. -/
structure InVain (c : Chronicle) : Prop where
  tried : ∃ e, c.Concerns e
  failed : ∀ e, c.Concerns e → e.taken = 1 ∧ e.Failed

/-- A fetch in flight is not in vain yet. -/
theorem Sound.not_inVain {c : Chronicle} (h : c.Sound) {e : Errand} (he : c.InFlight e) :
    ¬c.InVain := by
  intro hvain
  obtain ⟨n, hn⟩ := List.getElem?_of_mem he.mem
  have hawaited := (h.inFlight_iff hn).mp he
  obtain ⟨p, hp, rfl⟩ := Option.map_eq_some_iff.mp hawaited
  obtain ⟨-, e', hn', hconcerns, -⟩ := h.pending p hp
  have hone := (hvain.failed e' hconcerns).1
  rw [h.taken_eq_zero hn' hawaited] at hone
  cases hone

/-- If nothing is shown and nothing is pending, all that was fetched for the place was in vain. -/
theorem Current.inVain_iff {c : Chronicle} (h : c.Current) (hnone : c.session.table = none)
    (hidle : c.session.pending = none) : c.InVain ↔ c.session.lastFetch.isSome = true := by
  rw [h.tried]
  constructor
  · rintro ⟨⟨e, he⟩, -⟩
    exact ⟨e, he.mem, he.visit⟩
  · rintro ⟨e, hmem, hvisit⟩
    refine ⟨⟨e, h.concerns_iff.mpr ⟨hmem, hvisit⟩⟩, fun e' he' => ?_⟩
    rcases h.ended e' he'.mem he'.visit with hpending | ⟨hone, hshown | hfailed⟩
    · rw [Session.awaited?, hidle] at hpending
      cases hpending
    · rw [hnone] at hshown
      cases hshown
    · exact ⟨hone, hfailed⟩

end Chronicle

/-- As long as no table is shown, a fetch is in flight or it is time for one from a clock's time on,
exactly unless every fetch for the place was in vain, no fresh data was asked for since the last one
began, and the interval has not passed since then. -/
theorem run_loading_iff (profile : Profile) (events : List Event) (clock : Nat)
    (hnone : ((Session.opened profile).run events).table = none) :
    ((∃ e, ((Chronicle.opened profile).run events).InFlight e) ∨
        ∀ now, clock ≤ now → ((Session.opened profile).run events).refreshDue now = true) ↔
      ¬(((Chronicle.opened profile).run events).InVain ∧
        ((Timetable.opened profile).run events).asked = false ∧
        ∃ last, ((Timetable.opened profile).run events).begun.head? = some last ∧
          clock < last.time + ((Session.opened profile).run events).interval) := by
  have hsound := (Chronicle.sound_opened profile).run events
  have hcurrent := (Chronicle.current_opened profile).run (Chronicle.sound_opened profile) events
  have hsession : ((Chronicle.opened profile).run events).session =
      (Session.opened profile).run events := Chronicle.session_run _ events
  have htimes := Timetable.sound_run profile events
  have hwatched : ((Timetable.opened profile).run events).session =
      (Session.opened profile).run events := Timetable.session_run _ events
  have hdue (now : Nat) := htimes.refreshDue_iff now
  have hlast := htimes.lastFetch
  rw [hwatched] at hdue hlast
  generalize (Session.opened profile).run events = s at *
  generalize (Timetable.opened profile).run events = t at *
  generalize (Chronicle.opened profile).run events = c at *
  subst hsession
  by_cases hflight : ∃ e, c.InFlight e
  · obtain ⟨e, he⟩ := hflight
    exact iff_of_true (.inl ⟨e, he⟩) fun ⟨hvain, _⟩ => hsound.not_inVain he hvain
  · have hidle : c.session.pending = none := by
      by_contra hpending
      exact hflight (hsound.exists_inFlight_iff.mpr hpending)
    have hvain := hcurrent.inVain_iff hnone hidle
    rw [hlast] at hvain
    simp only [hflight, false_or, hdue, hidle, true_and]
    -- What is left is when it is time to fetch: the session idles exactly until then.
    cases hbegun : t.begun with
    | nil =>
      rw [hbegun] at hvain
      refine iff_of_true (fun now _ => .inl rfl) fun ⟨hin, _⟩ => ?_
      cases hvain.mp hin
    | cons last before =>
      have hin : c.InVain := hvain.mpr (by rw [hbegun]; rfl)
      cases hasked : t.asked with
      | true => exact iff_of_true (fun now _ => .inr (.inl rfl)) fun h => Bool.noConfusion h.2.1
      | false =>
        simp only [hin, true_and, List.head?_cons, Option.some.injEq, exists_eq_left', reduceCtorEq,
          Bool.false_eq_true, false_or, not_lt]
        exact ⟨fun h => h clock le_rfl, fun h now hnow => h.trans hnow⟩

/-- The only fetch is lost, and for the rest of the interval nothing is shown and nothing loaded. -/
theorem run_loading_iff_lost :
    let profile : Profile := { context := "hub", source := "hub" }
    let events : List Event := [.tick 0, .lose 0, .poll]
    ((Session.opened profile).run events).table = none ∧
      ¬((∃ e, ((Chronicle.opened profile).run events).InFlight e) ∨
        ∀ now, 1999 ≤ now → ((Session.opened profile).run events).refreshDue now = true) := by
  intro profile events
  have hnone : ((Session.opened profile).run events).table = none := rfl
  refine ⟨hnone, fun hloading => (run_loading_iff profile events 1999 hnone).mp hloading ?_⟩
  let fetch : Fetch := ⟨0, .applications, { signal := some 0 }⟩
  let e : Errand := { fetch, visit := 0, reply := .lost, taken := 1 }
  have herrands : ((Chronicle.opened profile).run events).errands = [e] := rfl
  refine ⟨⟨⟨e, by rw [herrands]; exact List.mem_singleton_self e, rfl, rfl⟩, fun e' he' => ?_⟩, rfl,
    ⟨0, false⟩, rfl, by decide⟩
  have hmem := he'.mem
  rw [herrands] at hmem
  obtain rfl := List.mem_singleton.mp hmem
  exact ⟨rfl, .inl rfl⟩

/-- The manifests of an application cannot be fetched. For almost ten minutes nothing is shown and
nothing is loaded, although it is said to be. -/
theorem run_loading_in_vain :
    let applications : Table :=
      { header := [⟨"NAME", false⟩], rows := [⟨"shop/web", [.text "web"], .nominal⟩] }
    let s := (Session.opened { context := "hub", source := "hub" }).run
      [.tick 0, .answer 0 (.ok applications), .poll, .press ⟨.enter, false⟩, .tick 0,
       .answer 1 (.error (.undecodable "Application" "no status")), .poll]
    s.view = .manifests ∧ s.table = none ∧ s.pending.isNone = true ∧
      s.refreshDue 0 = false ∧ s.refreshDue 599999 = false :=
  ⟨rfl, rfl, rfl, by decide +kernel, by decide +kernel⟩

end FleetConsole
