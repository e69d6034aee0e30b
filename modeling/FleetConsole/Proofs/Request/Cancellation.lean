import FleetConsole.Proofs.Request.Signal
import FleetConsole.Request.Context
import Mathlib.Logic.Function.Basic

/-!
# Who is cancelled

Contexts are given signals, cloned and changed, and the handles of the signals are used and dropped,
in any order (`Deed`). What follows from it for a context is told by the history of deeds alone,
with no word about boards and numbers kept in contexts: the context is cancelled exactly if the
signal attached last, to it or to the context it was cloned from, was cancelled while its handle was
there (`deeds_governed`).

A call is made by polls: each asks the signal first and then the future that is waited for
(`RequestContext.drive`). A call that answers at once and one that never does are the two shortest
cases.
-/

namespace FleetConsole

/-! ## Deeds -/

/-- What is done with contexts, which stand at places, and with the handles of their signals. -/
inductive Deed where
  /-- A new signal is attached to the context at a place. -/
  | attach (place : Nat)
  | cancel (number : Nat)
  | drop (number : Nat)
  /-- The context at one place is cloned to another one. -/
  | clone (source target : Nat)
  /-- The context at a place gets a value, such as a path or labels. -/
  | setValue (place : Nat) (key value : String)
  | setScope (place : Nat) (scope : Scope)
deriving DecidableEq

/-- The contexts and the board of their signals. -/
structure Desk where
  board : Signals := {}
  contexts : Nat → RequestContext := fun _ => {}

namespace Desk

/-- The desk with another context at a place. -/
def put (d : Desk) (place : Nat) (c : RequestContext) : Desk :=
  { d with contexts := Function.update d.contexts place c }

/-- The desk after a deed. -/
def act (d : Desk) : Deed → Desk
  | .attach place =>
    { d.put place { d.contexts place with signal := some d.board.next } with
      board := d.board.issue }
  | .cancel number => { d with board := d.board.cancel number }
  | .drop number => { d with board := d.board.drop number }
  | .clone source target => d.put target (d.contexts source)
  | .setValue place key value => d.put place ((d.contexts place).withValue key value)
  | .setScope place scope => d.put place { d.contexts place with scope }

/-- The desk after deeds, the latest one first. All contexts are blank at the beginning. -/
def after : List Deed → Desk
  | [] => {}
  | deed :: before => (after before).act deed

end Desk

/-! ## What the history says

Histories have the latest deed first. -/

/-- The number of signals attached in a history, which is also the number that the next one gets. -/
def issued (deeds : List Deed) : Nat := deeds.countP fun deed => deed matches .attach _

/-- A signal was attached, and its handle was not dropped since. -/
def Held (deeds : List Deed) (number : Nat) : Prop :=
  ∃ since place before, deeds = since ++ .attach place :: before ∧ issued before = number ∧
    .drop number ∉ since

/-- The handle of a signal was used before it was dropped. -/
def Cancelled (deeds : List Deed) (number : Nat) : Prop :=
  ∃ since before, deeds = since ++ .cancel number :: before ∧ Held before number

/-- The signal attached last to the context at a place, or to the one that it was cloned from. -/
inductive Carries : List Deed → Nat → Nat → Prop where
  | attached {before : List Deed} {place : Nat} :
    Carries (.attach place :: before) place (issued before)
  | cloned {before : List Deed} {source target number : Nat} (h : Carries before source number) :
    Carries (.clone source target :: before) target number
  /-- Whatever else is done, also to other contexts, the signal is kept. -/
  | kept {before : List Deed} {deed : Deed} {place number : Nat} (h : Carries before place number)
    (not_attached : deed ≠ .attach place) (not_cloned : ∀ source, deed ≠ .clone source place) :
    Carries (deed :: before) place number

/-- The signal that the context at a place carries after a history is cancelled in a longer one. -/
def Revoked (deeds : List Deed) (place : Nat) (history : List Deed) : Prop :=
  ∃ number, Carries deeds place number ∧ Cancelled history number

/-- The handle of a signal is there after a deed if the deed attaches the signal, or if it was there
before and the deed does not drop it. -/
theorem held_cons_iff (deed : Deed) (before : List Deed) (number : Nat) :
    Held (deed :: before) number ↔
      (∃ place, deed = .attach place) ∧ issued before = number ∨
        Held before number ∧ deed ≠ .drop number := by
  constructor
  · rintro ⟨since, place, earlier, heq, hnumber, hkept⟩
    rcases List.cons_eq_append_iff.mp heq with ⟨rfl, hlast⟩ | ⟨since', rfl, rfl⟩
    · cases hlast
      exact .inl ⟨⟨place, rfl⟩, hnumber⟩
    · rw [List.mem_cons, not_or] at hkept
      exact .inr ⟨⟨since', place, earlier, rfl, hnumber, hkept.2⟩, fun h => hkept.1 h.symm⟩
  · rintro (⟨⟨place, rfl⟩, hnumber⟩ | ⟨⟨since, place, earlier, rfl, hnumber, hkept⟩, hdeed⟩)
    · exact ⟨[], place, before, rfl, hnumber, List.not_mem_nil⟩
    · refine ⟨deed :: since, place, earlier, rfl, hnumber, ?_⟩
      rw [List.mem_cons, not_or]
      exact ⟨fun h => hdeed h.symm, hkept⟩

/-- A signal is cancelled after a deed if it was before, or if the deed uses a handle that
is there. -/
theorem cancelled_cons_iff (deed : Deed) (before : List Deed) (number : Nat) :
    Cancelled (deed :: before) number ↔
      Cancelled before number ∨ deed = .cancel number ∧ Held before number := by
  constructor
  · rintro ⟨since, earlier, heq, hheld⟩
    rcases List.cons_eq_append_iff.mp heq with ⟨rfl, hlast⟩ | ⟨since', rfl, rfl⟩
    · cases hlast
      exact .inr ⟨rfl, hheld⟩
    · exact .inl ⟨since', earlier, rfl, hheld⟩
  · rintro (⟨since, earlier, rfl, hheld⟩ | ⟨rfl, hheld⟩)
    · exact ⟨deed :: since, earlier, rfl, hheld⟩
    · exact ⟨[], before, rfl, hheld⟩

/-- What is cancelled stays so, whatever is done. -/
theorem Cancelled.append {deeds : List Deed} {number : Nat} (h : Cancelled deeds number)
    (more : List Deed) : Cancelled (more ++ deeds) number := by
  obtain ⟨since, before, rfl, hheld⟩ := h
  exact ⟨more ++ since, before, by simp, hheld⟩

/-- A new signal is carried at the place where it is attached. -/
theorem carries_attach_iff (place : Nat) (before : List Deed) (other number : Nat) :
    Carries (.attach place :: before) other number ↔
      if other = place then issued before = number else Carries before other number := by
  by_cases h : other = place
  · subst h
    rw [if_pos rfl]
    constructor
    · intro hc
      cases hc with
      | attached => rfl
      | kept _ not_attached _ => exact absurd rfl not_attached
    · rintro rfl
      exact .attached
  · rw [if_neg h]
    constructor
    · intro hc
      cases hc with
      | attached => exact absurd rfl h
      | kept hc _ _ => exact hc
    · intro hc
      exact .kept hc (fun heq => h (Deed.attach.inj heq).symm) nofun

/-- What is cloned carries the signal of the context it is cloned from. -/
theorem carries_clone_iff (source target : Nat) (before : List Deed) (other number : Nat) :
    Carries (.clone source target :: before) other number ↔
      Carries before (if other = target then source else other) number := by
  by_cases h : other = target
  · subst h
    rw [if_pos rfl]
    constructor
    · intro hc
      cases hc with
      | cloned hc => exact hc
      | kept _ _ not_cloned => exact absurd rfl (not_cloned source)
    · exact .cloned
  · rw [if_neg h]
    constructor
    · intro hc
      cases hc with
      | cloned => exact absurd rfl h
      | kept hc _ _ => exact hc
    · intro hc
      exact .kept hc nofun fun _ heq => h (Deed.clone.inj heq).2.symm

/-- A deed that neither attaches nor clones leaves every signal where it is. -/
theorem carries_cons_iff (deed : Deed) (hattach : ∀ place, deed ≠ .attach place)
    (hclone : ∀ source target, deed ≠ .clone source target) (before : List Deed)
    (place number : Nat) : Carries (deed :: before) place number ↔ Carries before place number := by
  constructor
  · intro hc
    cases hc with
    | attached => exact absurd rfl (hattach place)
    | cloned => exact absurd rfl (hclone _ place)
    | kept hc _ _ => exact hc
  · intro hc
    exact .kept hc (hattach place) fun source => hclone source place

/-! ## What the desk makes of it -/

namespace Desk

/-- The invariant: the desk is as its history says. -/
structure Faithful (d : Desk) (deeds : List Deed) : Prop where
  next : d.board.next = issued deeds
  held : ∀ number, d.board.isHeld number ↔ Held deeds number
  cancelled : ∀ number, d.board.isCancelled number ↔ Cancelled deeds number
  signal : ∀ place number, (d.contexts place).signal = some number ↔ Carries deeds place number

/-- Before any deed there are no signals. -/
theorem faithful_nil : (after []).Faithful [] where
  next := rfl
  held number := by
    refine iff_of_false nofun ?_
    rintro ⟨since, place, before, heq, -⟩
    simp at heq
  cancelled number := by
    refine iff_of_false nofun ?_
    rintro ⟨since, before, heq, -⟩
    simp at heq
  signal place number := iff_of_false nofun nofun

/-- A context that is put somewhere is found there, and the others stay. -/
theorem put_contexts (d : Desk) (place : Nat) (c : RequestContext) (other : Nat) :
    (d.put place c).contexts other = if other = place then c else d.contexts other :=
  Function.update_apply d.contexts place c other

/-- Only attaching a signal and using or dropping a handle touch the signals. -/
theorem act_board (d : Desk) (deed : Deed) :
    (d.act deed).board =
      match deed with
      | .attach _ => d.board.issue
      | .cancel number => d.board.cancel number
      | .drop number => d.board.drop number
      | .clone _ _ | .setValue _ _ _ | .setScope _ _ => d.board := by
  cases deed <;> rfl

variable {d : Desk} {deeds : List Deed}

/-- Every deed issues the signals that its history counts. -/
theorem Faithful.next_act (h : d.Faithful deeds) (deed : Deed) :
    (d.act deed).board.next = issued (deed :: deeds) := by
  rw [act_board]
  cases deed with
  | attach place => simp [issued, h.next]
  | cancel m => simpa [issued] using h.next
  | drop m => simpa [issued] using h.next
  | clone | setValue | setScope => exact h.next

/-- Every deed leaves the handles that its history tells of. -/
theorem Faithful.held_act (h : d.Faithful deeds) (deed : Deed) (number : Nat) :
    (d.act deed).board.isHeld number ↔ Held (deed :: deeds) number := by
  rw [held_cons_iff, ← h.held, ← h.next, act_board]
  cases deed with
  | attach place => simp [Signals.isHeld_issue_iff, @eq_comm _ number]
  | cancel m => simp [Signals.isHeld_cancel]
  | drop m => simp [Signals.isHeld_drop_iff]
  | clone | setValue | setScope => simp

/-- Every deed cancels the signals that its history tells of. -/
theorem Faithful.cancelled_act (h : d.Faithful deeds) (deed : Deed) (number : Nat) :
    (d.act deed).board.isCancelled number ↔ Cancelled (deed :: deeds) number := by
  rw [cancelled_cons_iff, ← h.cancelled, ← h.held, act_board]
  cases deed with
  | attach place => simp [Signals.isCancelled_issue]
  | cancel m => simp [Signals.isCancelled_cancel_iff]
  | drop m => simp [Signals.isCancelled_drop]
  | clone | setValue | setScope => simp

/-- Every deed attaches the signals that its history tells of. -/
theorem Faithful.signal_act (h : d.Faithful deeds) (deed : Deed) (place number : Nat) :
    ((d.act deed).contexts place).signal = some number ↔ Carries (deed :: deeds) place number := by
  cases deed with
  | attach i =>
    have hcontexts : (d.act (.attach i)).contexts place =
        if place = i then { d.contexts i with signal := some d.board.next } else d.contexts place :=
      d.put_contexts i _ place
    rw [carries_attach_iff, ← h.next, ← h.signal, hcontexts]
    split <;> simp
  | clone source target =>
    have hcontexts : (d.act (.clone source target)).contexts place =
        d.contexts (if place = target then source else place) :=
      (d.put_contexts target _ place).trans (apply_ite d.contexts _ _ _).symm
    rw [carries_clone_iff, ← h.signal, hcontexts]
  | cancel m =>
    exact (h.signal place number).trans (carries_cons_iff (.cancel m) nofun nofun _ _ _).symm
  | drop m =>
    exact (h.signal place number).trans (carries_cons_iff (.drop m) nofun nofun _ _ _).symm
  | setValue i key value =>
    rw [carries_cons_iff (.setValue i key value) nofun nofun, ← h.signal]
    show ((d.put i ((d.contexts i).withValue key value)).contexts place).signal = _ ↔ _
    rw [put_contexts]
    split
    · next heq => rw [heq]; rfl
    · rfl
  | setScope i scope =>
    rw [carries_cons_iff (.setScope i scope) nofun nofun, ← h.signal]
    show ((d.put i { d.contexts i with scope }).contexts place).signal = _ ↔ _
    rw [put_contexts]
    split
    · next heq => rw [heq]
    · rfl

/-- The desk is always as its history says. -/
theorem faithful_after (deeds : List Deed) : (after deeds).Faithful deeds := by
  induction deeds with
  | nil => exact faithful_nil
  | cons deed before ih =>
    exact ⟨ih.next_act deed, ih.held_act deed, ih.cancelled_act deed, ih.signal_act deed⟩

/-- A context is cancelled if its signal is. -/
theorem isCancelled_after_iff (c : RequestContext) (deeds : List Deed) :
    c.isCancelled (after deeds).board ↔
      ∃ number, c.signal = some number ∧ Cancelled deeds number := by
  rw [RequestContext.isCancelled, Option.any_eq_true]
  exact exists_congr fun number => and_congr_right fun _ => (faithful_after deeds).cancelled number

/-- The context that stands at a place after a history is cancelled later if its signal is. -/
theorem isCancelled_contexts_iff (deeds history : List Deed) (place : Nat) :
    ((after deeds).contexts place).isCancelled (after history).board ↔
      Revoked deeds place history := by
  rw [isCancelled_after_iff]
  exact exists_congr fun number =>
    and_congr_left fun _ => (faithful_after deeds).signal place number

end Desk

/-! ## Calls -/

namespace RequestContext

variable {α : Type}

/-- Drives a call by polls, each with the board as it then is and with what the future then answers,
if it does. The signal is asked before the future. -/
def drive (c : RequestContext) :
    List (Signals × Option (Except FleetError α)) → Option (Except FleetError α)
  | [] => none
  | (board, reply) :: later =>
    if c.isCancelled board then some (.error .cancelled) else reply.or (c.drive later)

/-- A call that answers at once: the signal is asked, and then it is polled for the first time. -/
theorem drive_ready (c : RequestContext) (board : Signals) (call : Except FleetError α) :
    c.drive [(board, none), (board, some call)] = some (c.run board call) := by
  unfold run
  cases hcancelled : c.isCancelled board <;> simp [drive, hcancelled]

/-- A call that never answers is polled again when something has happened to the signals. -/
theorem drive_pending (c : RequestContext) (board later : Signals) :
    c.drive (α := α) [(board, none), (later, none)] = (c.runPending board later).map .error := by
  unfold runPending
  cases hnow : c.isCancelled board <;> cases hlater : c.isCancelled later <;>
    simp [drive, hnow, hlater]

end RequestContext

/-! ## Calls along a history -/

section Calls

variable {α : Type}

/-- A poll of a future: the deeds since the poll before, and what the future answers, if it does. -/
abbrev Wait (α : Type) : Type := List Deed × Option (Except FleetError α)

/-- The history after waits. -/
def passed (deeds : List Deed) (waits : List (Wait α)) : List Deed :=
  waits.foldl (fun history wait => wait.1 ++ history) deeds

/-- The polls of waits that begin after a history. -/
def polls (deeds : List Deed) :
    List (Wait α) → List (Signals × Option (Except FleetError α))
  | [] => []
  | (more, reply) :: later =>
    ((Desk.after (more ++ deeds)).board, reply) :: polls (more ++ deeds) later

/-- What comes of a call that is made after a history for the context at a place. Before the future
is polled for the first time, the signal is asked. -/
def outcome? (deeds : List Deed) (place : Nat) (waits : List (Wait α)) :
    Option (Except FleetError α) :=
  ((Desk.after deeds).contexts place).drive (polls deeds (([], none) :: waits))

/-- Nothing is taken back while a call waits. -/
theorem exists_passed_eq (deeds : List Deed) (waits : List (Wait α)) :
    ∃ more, passed deeds waits = more ++ deeds := by
  induction waits generalizing deeds with
  | nil => exact ⟨[], rfl⟩
  | cons wait waits ih =>
    obtain ⟨more, hmore⟩ := ih (wait.1 ++ deeds)
    exact ⟨more ++ wait.1, by rw [List.append_assoc]; exact hmore⟩

/-- A context that is not cancelled after waits was not cancelled before them. -/
theorem not_isCancelled_of_passed {c : RequestContext} {deeds : List Deed} (waits : List (Wait α))
    (h : ¬c.isCancelled (Desk.after (passed deeds waits)).board) :
    ¬c.isCancelled (Desk.after deeds).board := by
  obtain ⟨more, hmore⟩ := exists_passed_eq deeds waits
  rw [hmore, Desk.isCancelled_after_iff] at h
  rw [Desk.isCancelled_after_iff]
  rintro ⟨number, hsignal, hcancelled⟩
  exact h ⟨number, hsignal, hcancelled.append more⟩

/-- As long as the context is not cancelled and the future does not answer, the call is as good as
made later. -/
theorem drive_polls_append {c : RequestContext} {deeds : List Deed} {waits : List (Wait α)}
    (hsilent : ∀ wait ∈ waits, wait.2 = none)
    (hlive : ¬c.isCancelled (Desk.after (passed deeds waits)).board) (later : List (Wait α)) :
    c.drive (polls deeds (waits ++ later)) = c.drive (polls (passed deeds waits) later) := by
  induction waits generalizing deeds with
  | nil => rfl
  | cons wait waits ih =>
    obtain ⟨more, reply⟩ := wait
    obtain rfl : reply = none := hsilent (more, reply) List.mem_cons_self
    have hnow : ¬c.isCancelled (Desk.after (more ++ deeds)).board :=
      not_isCancelled_of_passed waits hlive
    have hskip : c.drive (polls deeds ((more, none) :: (waits ++ later))) =
        c.drive (polls (more ++ deeds) (waits ++ later)) := by
      rw [polls, RequestContext.drive, if_neg hnow, Option.none_or]
    exact hskip.trans (ih (fun wait hwait => hsilent wait (List.mem_cons_of_mem _ hwait)) hlive)

/-- A call is given up if the context is cancelled before the future answers. -/
theorem drive_polls_of_isCancelled {c : RequestContext} {deeds : List Deed}
    {waits : List (Wait α)} (hsilent : ∀ wait ∈ waits, wait.2 = none) {more : List Deed}
    (hcancelled : c.isCancelled (Desk.after (more ++ passed deeds waits)).board)
    (reply : Option (Except FleetError α)) (later : List (Wait α)) :
    c.drive (polls deeds (waits ++ (more, reply) :: later)) = some (.error .cancelled) := by
  induction waits generalizing deeds with
  | nil => exact if_pos hcancelled
  | cons wait waits ih =>
    obtain ⟨earlier, reply'⟩ := wait
    obtain rfl : reply' = none := hsilent (earlier, reply') List.mem_cons_self
    rw [List.cons_append, polls, RequestContext.drive, Option.none_or]
    split
    · rfl
    · exact ih (fun wait hwait => hsilent wait (List.mem_cons_of_mem _ hwait)) hcancelled

variable {deeds : List Deed} {place : Nat} {waits : List (Wait α)}

/-- A call that waits is given up when the signal is cancelled before the future answers. -/
theorem outcome?_of_revoked (hsilent : ∀ wait ∈ waits, wait.2 = none) {more : List Deed}
    (h : Revoked deeds place (more ++ passed deeds waits)) (reply : Option (Except FleetError α))
    (later : List (Wait α)) :
    outcome? deeds place (waits ++ (more, reply) :: later) = some (.error .cancelled) := by
  have hcancelled := (Desk.isCancelled_contexts_iff deeds _ place).mpr h
  have hall : ∀ wait ∈ ([], none) :: waits, wait.2 = none :=
    List.forall_mem_cons.mpr ⟨rfl, hsilent⟩
  exact drive_polls_of_isCancelled hall hcancelled reply later

/-- As long as the signal is not cancelled and the future does not answer, the call waits. -/
theorem outcome?_of_not_revoked (hsilent : ∀ wait ∈ waits, wait.2 = none)
    (h : ¬Revoked deeds place (passed deeds waits)) (later : List (Wait α)) :
    outcome? deeds place (waits ++ later) =
      ((Desk.after deeds).contexts place).drive (polls (passed deeds waits) later) := by
  have hlive := mt (Desk.isCancelled_contexts_iff deeds _ place).mp h
  have hall : ∀ wait ∈ ([], none) :: waits, wait.2 = none :=
    List.forall_mem_cons.mpr ⟨rfl, hsilent⟩
  exact drive_polls_append hall hlive later

end Calls

/-- What the history of deeds means for the context at a place. -/
structure Governed (deeds : List Deed) (place : Nat) : Prop where
  /-- The context is cancelled exactly if the handle of the signal attached last was used before it
  was dropped. -/
  cancelled_iff : ((Desk.after deeds).contexts place).isCancelled (Desk.after deeds).board ↔
    ∃ number, Carries deeds place number ∧ Cancelled deeds number
  /-- From then on, whatever is done, every context that carries the signal is cancelled. -/
  lasting : ∀ number, Cancelled deeds number → ∀ more other, Carries (more ++ deeds) other number →
    ((Desk.after (more ++ deeds)).contexts other).isCancelled (Desk.after (more ++ deeds)).board
  /-- A call made for a cancelled context is refused, even if the future could answer at once. -/
  refused : Revoked deeds place deeds → ∀ α : Type,
    (∀ call : Except FleetError α,
      ((Desk.after deeds).contexts place).run (Desk.after deeds).board call = .error .cancelled) ∧
    ∀ waits : List (Wait α), outcome? deeds place waits = some (.error .cancelled)
  /-- Any other call is answered if the future can answer at once. -/
  answered : ¬Revoked deeds place deeds → ∀ (α : Type) (call : Except FleetError α),
    ((Desk.after deeds).contexts place).run (Desk.after deeds).board call = call
  /-- A call that waits is given up when the signal is cancelled before the future answers. -/
  given_up : ∀ (α : Type) (waits : List (Wait α)) (more : List Deed)
    (reply : Option (Except FleetError α)) (later : List (Wait α)),
    (∀ wait ∈ waits, wait.2 = none) → Revoked deeds place (more ++ passed deeds waits) →
    outcome? deeds place (waits ++ (more, reply) :: later) = some (.error .cancelled)
  /-- Otherwise the call comes to what the future answers, -/
  waited_for : ∀ (α : Type) (waits : List (Wait α)) (more : List Deed)
    (answer : Except FleetError α) (later : List (Wait α)),
    (∀ wait ∈ waits, wait.2 = none) → ¬Revoked deeds place (more ++ passed deeds waits) →
    outcome? deeds place (waits ++ (more, some answer) :: later) = some answer
  /-- and it waits for as long as the future does not answer. -/
  waiting : ∀ (α : Type) (waits : List (Wait α)), (∀ wait ∈ waits, wait.2 = none) →
    ¬Revoked deeds place (passed deeds waits) → outcome? deeds place waits = none
  /-- So a call that is never answered ends exactly if the signal is cancelled. -/
  interrupted : ∀ more, ((Desk.after deeds).contexts place).runPending (Desk.after deeds).board
    (Desk.after (more ++ deeds)).board = some .cancelled ↔ Revoked deeds place (more ++ deeds)

/-- Whatever is done with contexts and handles, the history says who is cancelled and which calls
are answered. -/
theorem deeds_governed (deeds : List Deed) (place : Nat) : Governed deeds place where
  cancelled_iff := Desk.isCancelled_contexts_iff deeds deeds place
  lasting number h more other hcarries :=
    (Desk.isCancelled_contexts_iff _ _ other).mpr ⟨number, hcarries, h.append more⟩
  refused h α := by
    have hcancelled := (Desk.isCancelled_contexts_iff deeds deeds place).mpr h
    exact ⟨fun call => if_pos hcancelled, fun waits => if_pos hcancelled⟩
  answered h α call := if_neg (mt (Desk.isCancelled_contexts_iff deeds deeds place).mp h)
  given_up α waits more reply later hsilent h := outcome?_of_revoked hsilent h reply later
  waited_for α waits more answer later hsilent h := by
    have hlive := mt (Desk.isCancelled_contexts_iff deeds _ place).mp h
    have hbefore : ¬Revoked deeds place (passed deeds waits) :=
      fun ⟨number, hcarries, hcancelled⟩ => h ⟨number, hcarries, hcancelled.append more⟩
    rw [outcome?_of_not_revoked hsilent hbefore, polls, RequestContext.drive, if_neg hlive]
    rfl
  waiting α waits hsilent h := by
    have hall := outcome?_of_not_revoked hsilent h []
    rw [List.append_nil] at hall
    exact hall
  interrupted more := by
    have hnow := Desk.isCancelled_contexts_iff deeds deeds place
    have hlater := Desk.isCancelled_contexts_iff deeds (more ++ deeds) place
    have hlasting : Revoked deeds place deeds → Revoked deeds place (more ++ deeds) :=
      fun ⟨number, hcarries, hcancelled⟩ => ⟨number, hcarries, hcancelled.append more⟩
    rw [RequestContext.runPending, ite_eq_left_iff, Bool.or_eq_true, hnow, hlater,
      or_iff_right_of_imp hlasting]
    simp only [reduceCtorEq, imp_false, not_not]

/-- A clone keeps the signal that was cancelled when a new one is attached to the original. -/
example :
    let desk := Desk.after [.attach 0, .drop 0, .cancel 0, .clone 0 1, .attach 0]
    (desk.contexts 0).isCancelled desk.board = false ∧
      (desk.contexts 1).isCancelled desk.board = true :=
  ⟨rfl, rfl⟩

end FleetConsole
