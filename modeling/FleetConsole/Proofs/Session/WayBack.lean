import FleetConsole.Proofs.Session.Run
import Mathlib.Data.List.Infix
import Mathlib.Logic.Basic

/-!
# The way back

Wherever a session is, its history is the way that led there. There are two shapes: a collection,
with no way back, and a view of an application, from which the way leads back through views of the
same application, no two alike next to each other, to the collection of applications
(`InCollection`, `InApplication`).

What a single event can do to the place and to the way back is said once (`Moves`, `after_moves`).
From this follows the invariant of all runs, `OnTrack`: the shape, and that every place on the way
back is one that the run really left, as it was then (`Departed`). Pressing escape walks the way
back place by place (`OnTrack.walks_back`), up to the collection of applications
(`OnTrack.walks_home`). `run_retraceable` puts these together: from any depth, as many escapes as
there are places on the way lead to the collection, as it was left.
-/

namespace FleetConsole

/-- A key opens views of an application only. -/
theorem KeyPress.needsPath_of_openView {press : KeyPress} {view : View}
    (h : press.command? = some (.openView view)) : view.needsPath = true := by
  have hkey := command?_of_ne_quit h nofun
  unfold Key.command? at hkey
  split at hkey <;> cases hkey <;> rfl

namespace Session

/-! ## What an event can do to the place -/

/-- What an event can do to the place of a session and to the way back from there. -/
inductive Moves (s t : Session) : Prop where
  | stays (trail : t.trail = s.trail)
  /-- A view of an application is opened, and the way back leads to the place that was left. -/
  | opens (view : View) (path : String) (application : view.needsPath = true)
      (subject : s.subject? = some path) (other : s.view ≠ view)
      (location : t.location = ⟨view, some path, 0⟩) (history : t.history = s.location :: s.history)
  | goesBack (place : Location) (rest : List Location) (left : s.history = place :: rest)
      (location : t.location = place) (history : t.history = rest)
  | switches (view : View) (collection : view.needsPath = false)
      (location : t.location = ⟨view, none, 0⟩) (history : t.history = [])

/-- Going back moves to the last place on the way back, if there is one. -/
theorem goBack_moves (s : Session) : s.Moves s.goBack.2 := by
  unfold goBack
  cases h : s.history with
  | nil => exact .stays rfl
  | cons place rest => exact .goesBack place rest h rfl rfl

/-- Opening a view of an application moves there, unless it is shown or there is nothing to open. -/
theorem openView_moves (s : Session) {view : View} (hview : view.needsPath = true) :
    s.Moves (s.openView view) := by
  unfold openView
  cases hsubject : s.subject? with
  | none => exact .stays rfl
  | some path =>
    by_cases h : s.view = view
    · simp only [h, if_true]
      exact .stays rfl
    · simp only [h, if_false]
      exact .opens view path hview hsubject h rfl rfl

/-- Switching to a collection moves there, unless it is shown. -/
theorem switchTo_moves (s : Session) (view : View) : s.Moves (s.switchTo view) := by
  unfold switchTo
  split
  · exact .stays rfl
  · next h =>
    have hcollection : view.needsPath = false := by
      simp only [Bool.or_eq_true, not_or, Bool.not_eq_true] at h
      exact h.1
    exact .switches view hcollection rfl rfl

/-- A key press opens a view of an application, goes back, switches to a collection or stays. -/
theorem press_moves (s : Session) (press : KeyPress) : s.Moves (s.press press) := by
  unfold Session.press
  cases hcommand : press.command? with
  | none => exact .stays rfl
  | some command =>
    cases command with
    | dismiss =>
      simp only [Option.elim, perform, dismiss]
      split
      · exact .stays rfl
      · exact s.goBack_moves
    | openView view => exact s.openView_moves (KeyPress.needsPath_of_openView hcommand)
    | switchTo view => exact s.switchTo_moves view
    | selectNext =>
      simp only [Option.elim, perform, selectNext]
      split <;> exact .stays rfl
    | quit | refresh | toggleHelp | selectPrevious | selectFirst | selectLast | pageDown
    | pageUp => exact .stays rfl

/-- What has become of a fetch does not move the session. -/
theorem settle_trail (s : Session) (number : Nat) (reply : Reply) :
    (s.settle number reply).trail = s.trail := by
  rcases s.settle_cases number reply with ⟨p, -, -, -, heq⟩ | ⟨-, heq⟩
  · rw [heq]
    rfl
  · rw [heq]

/-- Taking in what has become of a fetch does not move the session. -/
theorem poll_trail (s : Session) : s.poll.2.trail = s.trail := by
  rcases s.poll_cases with ⟨-, heq⟩ | ⟨p, result, -, -, heq⟩
  · rw [heq]
  · rw [heq]
    split
    · exact s.retire.absorb_trail result
    · rfl

/-- Beginning a fetch does not move the session. -/
theorem startFetch_trail (s : Session) (now : Nat) : (s.startFetch now).2.trail = s.trail := by
  rcases s.startFetch_cases now with ⟨-, heq⟩ | ⟨-, -, f, -, -, -, heq⟩
  · rw [heq]
  · rw [heq]
    rfl

/-- Only keys move a session. -/
theorem after_moves (s : Session) (event : Event) : s.Moves (s.after event) := by
  cases event with
  | press press => exact s.press_moves press
  | tick now => exact .stays (s.startFetch_trail now)
  | draw height => exact .stays rfl
  | answer number result => exact .stays (s.settle_trail number _)
  | lose number => exact .stays (s.settle_trail number _)
  | poll => exact .stays s.poll_trail

/-! ## The shape of the way back -/

/-- The session is in a collection, and there is no way back. -/
structure InCollection (s : Session) : Prop where
  history : s.history = []
  view : s.view ∈ [View.applications, .clusters, .manifestWorks]
  path : s.location.path = none

/-- The session is in a view of an application. The way back leads through views of the same
application, no two alike next to each other, to the collection of applications. -/
structure InApplication (s : Session) (path : String) (visited : List Location) (list : Location) :
    Prop where
  history : s.history = visited ++ [list]
  list_view : list.view = .applications
  list_path : list.path = none
  /-- The places in between and the present one are about the application. -/
  about : ∀ spot ∈ s.location.spot :: visited.map (·.spot),
    spot.1 ∈ [View.manifests, .applicationStatus] ∧ spot.2 = some path
  neighbours : (s.view :: s.history.map (·.view)).IsChain (· ≠ ·)

/-- A collection is not a view of an application. -/
theorem InCollection.not_inApplication {s : Session} (h : s.InCollection) {path : String}
    {visited : List Location} {list : Location} : ¬s.InApplication path visited list := by
  intro happ
  have hempty : visited ++ [list] = [] := happ.history.symm.trans h.history
  exact List.append_ne_nil_of_right_ne_nil visited (List.cons_ne_nil list []) hempty

/-- To stay on a trail is to stay in the collection. -/
theorem InCollection.of_trail {s t : Session} (h : s.InCollection) (htrail : t.trail = s.trail) :
    t.InCollection where
  history := (congrArg Prod.snd htrail).trans h.history
  view := by
    rw [show t.view = s.view from congrArg (·.1.1) htrail]
    exact h.view
  path := (congrArg (·.1.2) htrail).trans h.path

/-- To stay on a trail is to stay in the view of the application. -/
theorem InApplication.of_trail {s t : Session} {path : String} {visited : List Location}
    {list : Location} (h : s.InApplication path visited list) (htrail : t.trail = s.trail) :
    t.InApplication path visited list where
  history := (congrArg Prod.snd htrail).trans h.history
  list_view := h.list_view
  list_path := h.list_path
  about := by
    rw [show t.location.spot = s.location.spot from congrArg Prod.fst htrail]
    exact h.about
  neighbours := by
    rw [show t.view = s.view from congrArg (·.1.1) htrail,
      show t.history = s.history from congrArg Prod.snd htrail]
    exact h.neighbours

/-- The views of an application. -/
theorem mem_of_needsPath {view : View} (h : view.needsPath = true) :
    view ∈ [View.manifests, .applicationStatus] := by
  cases view with
  | manifests | applicationStatus => decide
  | applications | clusters | manifestWorks => cases h

/-- From a collection a view of an application is opened for the selected row of the list of
applications. -/
theorem InCollection.of_subject {s : Session} (h : s.InCollection) {path : String}
    (hsubject : s.subject? = some path) :
    s.view = .applications ∧ s.selectedRow?.map (·.id) = some path := by
  have hview := h.view
  unfold subject? at hsubject
  cases hs : s.view with
  | applications =>
    rw [hs] at hsubject
    exact ⟨rfl, hsubject⟩
  | clusters | manifestWorks =>
    rw [hs] at hsubject
    cases hsubject
  | manifests | applicationStatus =>
    rw [hs] at hview
    simp at hview

/-- From the collection of applications a view of the selected one is opened. -/
theorem InCollection.opened {s t : Session} (h : s.InCollection) {view : View} {path : String}
    (hview : view.needsPath = true) (hsubject : s.subject? = some path) (hother : s.view ≠ view)
    (hlocation : t.location = ⟨view, some path, 0⟩)
    (hhistory : t.history = s.location :: s.history) :
    t.InApplication path [] s.location where
  history := by rw [hhistory, h.history, List.nil_append]
  list_view := (h.of_subject hsubject).1
  list_path := h.path
  about := by
    rw [hlocation, List.map_nil, List.forall_mem_singleton]
    exact ⟨mem_of_needsPath hview, rfl⟩
  neighbours := by
    rw [hhistory, h.history, Session.view, hlocation]
    exact List.isChain_cons_cons.mpr ⟨Ne.symm hother, .singleton _⟩

/-- From a view of an application the other view of the same application is opened. -/
theorem InApplication.opened {s t : Session} {path : String} {visited : List Location}
    {list : Location} (h : s.InApplication path visited list) {view : View} {path' : String}
    (hview : view.needsPath = true) (hsubject : s.subject? = some path') (hother : s.view ≠ view)
    (hlocation : t.location = ⟨view, some path', 0⟩)
    (hhistory : t.history = s.location :: s.history) :
    t.InApplication path (s.location :: visited) list := by
  obtain ⟨⟨hmem, hpath⟩, -⟩ := List.forall_mem_cons.mp h.about
  -- The application at hand is the one that the view is about, whatever row is selected.
  have hsame : path' = path := by
    have hs : s.view ∈ [View.manifests, .applicationStatus] := hmem
    have hlocal : s.location.path = some path' := by
      unfold subject? at hsubject
      cases hv : s.view with
      | manifests | applicationStatus =>
        rw [hv] at hsubject
        exact hsubject
      | applications | clusters | manifestWorks =>
        rw [hv] at hs
        simp at hs
    exact Option.some.inj (hlocal.symm.trans hpath)
  subst hsame
  refine ⟨by rw [hhistory, h.history, List.cons_append], h.list_view, h.list_path, ?_, ?_⟩
  · rw [hlocation, List.map_cons]
    exact List.forall_mem_cons.mpr ⟨⟨mem_of_needsPath hview, rfl⟩, h.about⟩
  · rw [hhistory, Session.view, hlocation, List.map_cons]
    exact List.isChain_cons_cons.mpr ⟨Ne.symm hother, h.neighbours⟩

/-- From a view of an application the way back leads to the other view of it or to the collection of
applications. -/
theorem InApplication.back {s t : Session} {path : String} {visited : List Location}
    {list : Location} (h : s.InApplication path visited list) {place : Location}
    {rest : List Location} (hleft : s.history = place :: rest) (hlocation : t.location = place)
    (hhistory : t.history = rest) :
    t.InCollection ∨ ∃ visited', t.InApplication path visited' list := by
  have hsplit : visited ++ [list] = place :: rest := h.history.symm.trans hleft
  -- The way back leads through another view of the application, or it ends here.
  cases visited with
  | nil =>
    obtain ⟨rfl, rfl⟩ := List.cons.inj hsplit
    refine .inl ⟨hhistory, ?_, ?_⟩
    · rw [Session.view, hlocation, h.list_view]
      decide
    · rw [hlocation]
      exact h.list_path
  | cons first visited =>
    obtain ⟨rfl, rfl⟩ := List.cons.inj hsplit
    refine .inr ⟨visited, hhistory, h.list_view, h.list_path, ?_, ?_⟩
    · rw [hlocation]
      exact (List.forall_mem_cons.mp h.about).2
    · have hchain := h.neighbours
      rw [hleft, List.map_cons] at hchain
      rw [Session.view, hlocation, hhistory]
      exact (List.isChain_cons_cons.mp hchain).2

/-- Switching leads to a collection, with no way back. -/
theorem inCollection_of_switch {t : Session} {view : View} (hview : view.needsPath = false)
    (hlocation : t.location = ⟨view, none, 0⟩) (hhistory : t.history = []) : t.InCollection where
  history := hhistory
  view := by
    rw [Session.view, hlocation]
    cases view with
    | applications | clusters | manifestWorks => decide
    | manifests | applicationStatus => cases hview
  path := by rw [hlocation]

/-- From a view of an application a session moves along the views of that application, or to a
collection. -/
theorem InApplication.moves {s t : Session} {path : String} {visited : List Location}
    {list : Location} (h : s.InApplication path visited list) (hmoves : s.Moves t) :
    t.InCollection ∨ ∃ visited', t.InApplication path visited' list := by
  cases hmoves with
  | stays htrail => exact .inr ⟨visited, h.of_trail htrail⟩
  | opens view path' hview hsubject hother hlocation hhistory =>
    exact .inr ⟨_, h.opened hview hsubject hother hlocation hhistory⟩
  | goesBack place rest hleft hlocation hhistory => exact h.back hleft hlocation hhistory
  | switches view hview hlocation hhistory =>
    exact .inl (inCollection_of_switch hview hlocation hhistory)

/-! ## Places that were left -/

@[simp] theorem run_concat (s : Session) (events : List Event) (event : Event) :
    s.run (events ++ [event]) = (s.run events).after event := by
  simp [run]

/-- The run was once in the session `s` and left its place, and ever since the way back leads
through that place and along the way back of then. -/
def Departed (start : Session) (events : List Event) (s : Session) : Prop :=
  ∃ before departure since, events = before ++ departure :: since ∧ s = start.run before ∧
    ∀ early, early <+: since →
      s.location :: s.history <:+ (start.run (before ++ departure :: early)).history

/-- What was left stays left for as long as the way back leads there. -/
theorem Departed.concat {start s : Session} {events : List Event} (h : Departed start events s)
    {event : Event}
    (hway : s.location :: s.history <:+ (start.run (events ++ [event])).history) :
    Departed start (events ++ [event]) s := by
  obtain ⟨before, departure, since, rfl, hs, hsince⟩ := h
  refine ⟨before, departure, since ++ [event], by simp, hs, fun early hearly => ?_⟩
  -- Until the last event the way back has led there already.
  rcases List.prefix_concat_iff.mp hearly with rfl | hprefix
  · simpa using hway
  · exact hsince early hprefix

/-- What has just been left. -/
theorem departed_concat {start : Session} {events : List Event} {event : Event}
    (hway : (start.run events).location :: (start.run events).history <:+
      (start.run (events ++ [event])).history) :
    Departed start (events ++ [event]) (start.run events) := by
  refine ⟨events, event, [], rfl, rfl, fun early hearly => ?_⟩
  rw [List.prefix_nil.mp hearly]
  exact hway

/-- A place on the way back was there before, or it is the one that has just been left. -/
theorem Moves.suffix {s t : Session} (h : s.Moves t) {place : Location} {rest : List Location}
    (hway : place :: rest <:+ t.history) :
    place :: rest <:+ s.history ∨ place = s.location ∧ rest = s.history := by
  cases h with
  | stays htrail =>
    rw [show t.history = s.history from congrArg Prod.snd htrail] at hway
    exact .inl hway
  | opens view path _ _ _ _ hhistory =>
    rw [hhistory] at hway
    rcases List.suffix_cons_iff.mp hway with heq | hsuffix
    · exact .inr (List.cons.inj heq)
    · exact .inl hsuffix
  | goesBack place' rest' hleft _ hhistory =>
    rw [hhistory] at hway
    rw [hleft]
    exact .inl (hway.trans (List.suffix_cons place' rest'))
  | switches view _ _ hhistory =>
    rw [hhistory] at hway
    exact absurd (List.suffix_nil.mp hway) (List.cons_ne_nil place rest)

/-! ## The invariant of all runs -/

/-- The view of an application that the session is in was opened for the row that was selected when
the collection of applications was left. -/
def OpenedFromRow (start : Session) (events : List Event) : Prop :=
  ∃ s path visited, Departed start events s ∧
    (start.run events).InApplication path visited s.location ∧
      s.history = [] ∧ s.selectedRow?.map (·.id) = some path

/-- The invariant of all runs. -/
structure OnTrack (start : Session) (events : List Event) : Prop where
  shape : (start.run events).InCollection ∨ OpenedFromRow start events
  departed : ∀ place rest, place :: rest <:+ (start.run events).history →
    ∃ s, Departed start events s ∧ s.location = place ∧ s.history = rest

/-- A session that has just been opened is in the collection of applications. -/
theorem onTrack_opened (profile : Profile) : OnTrack (opened profile) [] where
  shape := .inl ⟨rfl, List.mem_cons_self, rfl⟩
  departed place rest h := absurd (List.suffix_nil.mp h) (List.cons_ne_nil place rest)

/-- Every event keeps the shape. -/
theorem OnTrack.shape_concat {start : Session} {events : List Event} (h : OnTrack start events)
    (event : Event) :
    (start.run (events ++ [event])).InCollection ∨ OpenedFromRow start (events ++ [event]) := by
  have hmoves := (start.run events).after_moves event
  rw [← run_concat] at hmoves
  rcases h.shape with hcollection | ⟨s, path, visited, hdeparted, happ, hbottom, hrow⟩
  · -- Only opening a view leads out of the collections, and then the row was selected just now.
    cases hmoves with
    | stays htrail => exact .inl (hcollection.of_trail htrail)
    | opens view path hview hsubject hother hlocation hhistory =>
      have hnow : Departed start (events ++ [event]) (start.run events) :=
        departed_concat (hhistory ▸ List.suffix_refl _)
      exact .inr ⟨_, path, [], hnow, hcollection.opened hview hsubject hother hlocation hhistory,
        hcollection.history, (hcollection.of_subject hsubject).2⟩
    | goesBack place rest hleft =>
      rw [hcollection.history] at hleft
      cases hleft
    | switches view hview hlocation hhistory =>
      exact .inl (inCollection_of_switch hview hlocation hhistory)
  · rcases happ.moves hmoves with hcollection | ⟨visited', happ'⟩
    · exact .inl hcollection
    · -- The collection of applications is still at the end of the way back.
      have hway : s.location :: s.history <:+ (start.run (events ++ [event])).history := by
        rw [hbottom, happ'.history]
        exact List.suffix_append visited' [s.location]
      exact .inr ⟨s, path, visited', hdeparted.concat hway, happ', hbottom, hrow⟩

/-- Every event keeps the invariant. -/
theorem OnTrack.concat {start : Session} {events : List Event} (h : OnTrack start events)
    (event : Event) : OnTrack start (events ++ [event]) where
  shape := h.shape_concat event
  departed place rest hway := by
    have hmoves := (start.run events).after_moves event
    rw [← run_concat] at hmoves
    rcases hmoves.suffix hway with hold | ⟨rfl, rfl⟩
    · obtain ⟨s, hdeparted, rfl, rfl⟩ := h.departed place rest hold
      exact ⟨s, hdeparted.concat hway, rfl, rfl⟩
    · exact ⟨_, departed_concat hway, rfl, rfl⟩

/-- Every run keeps the invariant. -/
theorem onTrack_run (profile : Profile) (events : List Event) :
    OnTrack (opened profile) events := by
  induction events using List.reverseRecOn with
  | nil => exact onTrack_opened profile
  | append_singleton events event ih => exact ih.concat event

/-! ## Walking back -/

/-- The session after escapes, each with the control key or without. -/
def escaped (s : Session) (escapes : List Bool) : Session :=
  s.run (escapes.map fun control => .press { key := .escape, control })

/-- Escape dismisses the message, or else goes back. -/
theorem press_escape (s : Session) (control : Bool) :
    s.press { key := .escape, control } =
      if s.notice.isSome then { s with notice := none } else s.goBack.2 := by
  cases control <;> rfl

/-- Without a message every escape leads one place back. -/
theorem escaped_of_no_notice {s : Session} (hnotice : s.notice = none) {escapes : List Bool}
    (hlength : escapes.length ≤ s.history.length) :
    (s.escaped escapes).location :: (s.escaped escapes).history =
      (s.location :: s.history).drop escapes.length := by
  induction escapes generalizing s with
  | nil => rfl
  | cons control escapes ih =>
    cases hs : s.history with
    | nil => simp [hs] at hlength
    | cons place rest =>
      let t := { s with history := rest }.enter place
      have hback : s.press { key := .escape, control } = t := by
        rw [press_escape, hnotice, goBack, hs]
        rfl
      -- Nothing is shown in the place that is entered, so the next escape leads on.
      have hnotice' : t.notice = none := rfl
      have hlength' : escapes.length ≤ t.history.length := by
        rw [hs] at hlength
        exact Nat.le_of_succ_le_succ hlength
      calc (s.escaped (control :: escapes)).location :: (s.escaped (control :: escapes)).history
        _ = (t.escaped escapes).location :: (t.escaped escapes).history := by
          rw [← hback]
          rfl
        _ = (place :: rest).drop escapes.length := ih hnotice' hlength'

/-- Escapes lead back place by place, after one that dismisses a message if there is any. -/
theorem escaped_eq_drop (s : Session) {escapes : List Bool} {n : Nat} (hn : n ≤ s.history.length)
    (hlength : escapes.length = if s.notice.isSome then n + 1 else n) :
    (s.escaped escapes).location :: (s.escaped escapes).history =
      (s.location :: s.history).drop n := by
  cases hnotice : s.notice with
  | none =>
    obtain rfl : escapes.length = n := by simpa [hnotice] using hlength
    exact escaped_of_no_notice hnotice hn
  | some notice =>
    cases escapes with
    | nil => simp [hnotice] at hlength
    | cons control escapes =>
      obtain rfl : escapes.length = n := by simpa [hnotice] using hlength
      let t := { s with notice := none }
      have hdismiss : s.press { key := .escape, control } = t := by
        rw [press_escape, hnotice]
        rfl
      have hnotice' : t.notice = none := rfl
      calc (s.escaped (control :: escapes)).location :: (s.escaped (control :: escapes)).history
        _ = (t.escaped escapes).location :: (t.escaped escapes).history := by
          rw [← hdismiss]
          rfl
        _ = (s.location :: s.history).drop escapes.length := escaped_of_no_notice hnotice' hn

/-! ## What a user can rely on -/

/-- What a user who presses escape can rely on after a run. -/
structure Retraceable (start : Session) (events : List Event) : Prop where
  /-- The session is in a collection, with no way back, or in a view of the application that was
  selected when the collection of applications was left; and never both. -/
  shape : Xor (start.run events).InCollection (OpenedFromRow start events)
  /-- So many escapes as there are places on the way, after one that dismisses a message, lead back
  by so many places; and the place reached is one that was left, with its selection of then. -/
  walks_back : ∀ n escapes, 0 < n → n ≤ (start.run events).history.length →
    escapes.length = (if (start.run events).notice.isSome then n + 1 else n) →
      ∃ s, Departed start events s ∧ s.history.length + n = (start.run events).history.length ∧
        ((start.run events).escaped escapes).location = s.location ∧
        ((start.run events).escaped escapes).history = s.history
  /-- The last of them leads to the collection of applications, as it was left. -/
  walks_home : ∀ escapes, (start.run events).history ≠ [] →
    escapes.length = (start.run events).history.length +
      (if (start.run events).notice.isSome then 1 else 0) →
      ∃ s, Departed start events s ∧ s.view = .applications ∧ s.location.path = none ∧
        ((start.run events).escaped escapes).location = s.location ∧
        ((start.run events).escaped escapes).history = []

/-- The way back of a session on track is one that can be walked. -/
theorem OnTrack.walks_back {start : Session} {events : List Event} (h : OnTrack start events)
    {n : Nat} {escapes : List Bool} (hpos : 0 < n) (hn : n ≤ (start.run events).history.length)
    (hlength : escapes.length = if (start.run events).notice.isSome then n + 1 else n) :
    ∃ s, Departed start events s ∧ s.history.length + n = (start.run events).history.length ∧
      ((start.run events).escaped escapes).location = s.location ∧
      ((start.run events).escaped escapes).history = s.history := by
  have hdrop := (start.run events).escaped_eq_drop hn hlength
  generalize (start.run events).escaped escapes = t at hdrop ⊢
  obtain ⟨m, rfl⟩ : ∃ m, n = m + 1 := ⟨n - 1, by omega⟩
  rw [List.drop_succ_cons] at hdrop
  obtain ⟨s, hdeparted, hlocation, hhistory⟩ :=
    h.departed t.location t.history (hdrop ▸ List.drop_suffix m _)
  refine ⟨s, hdeparted, ?_, hlocation.symm, hhistory.symm⟩
  have hcount := congrArg List.length hdrop
  rw [List.length_cons, List.length_drop, ← hhistory] at hcount
  omega

/-- The way back of a session on track ends in the collection of applications. -/
theorem OnTrack.walks_home {start : Session} {events : List Event} (h : OnTrack start events)
    {escapes : List Bool} (hne : (start.run events).history ≠ [])
    (hlength : escapes.length = (start.run events).history.length +
      (if (start.run events).notice.isSome then 1 else 0)) :
    ∃ s, Departed start events s ∧ s.view = .applications ∧ s.location.path = none ∧
      ((start.run events).escaped escapes).location = s.location ∧
      ((start.run events).escaped escapes).history = [] := by
  rcases h.shape with hcollection | ⟨s, path, visited, hdeparted, happ, -, -⟩
  · exact absurd hcollection.history hne
  · refine ⟨s, hdeparted, happ.list_view, happ.list_path, ?_⟩
    have hcount : escapes.length = if (start.run events).notice.isSome
        then (start.run events).history.length + 1 else (start.run events).history.length := by
      rw [hlength]
      split <;> rfl
    have hdrop := (start.run events).escaped_eq_drop (Nat.le_refl _) hcount
    rw [happ.history, ← List.cons_append, List.drop_left' (by simp)] at hdrop
    exact List.cons.inj hdrop

/-- Whatever happens to a session, escape leads back the way that it came. -/
theorem run_retraceable (profile : Profile) (events : List Event) :
    Retraceable (opened profile) events where
  shape := by
    have h := onTrack_run profile events
    rcases h.shape with hcollection | hopened
    · exact .inl ⟨hcollection, fun ⟨_, _, _, _, happ, _⟩ => hcollection.not_inApplication happ⟩
    · refine .inr ⟨hopened, fun hcollection => ?_⟩
      obtain ⟨_, _, _, _, happ, _⟩ := hopened
      exact hcollection.not_inApplication happ
  walks_back _ _ hpos hn hlength := (onTrack_run profile events).walks_back hpos hn hlength
  walks_home _ hne hlength := (onTrack_run profile events).walks_home hne hlength

end Session

end FleetConsole
