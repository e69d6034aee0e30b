import FleetConsole.Yaml.Typed
import Mathlib.Data.List.Forall2
import Mathlib.Data.List.Nodup

/-!
# What a typed record shows of a mapping

A record is read from a mapping entry by entry, and an entry whose key the record knows occurs at
most once. So what can be seen of the record in one place comes from the only entry of one key, or
from the blank record if there is no such entry (`Document.recordOf_shows`). How many aliases were
followed until then decides only whether there is a record at all.
-/

namespace FleetConsole.Yaml

variable {α β σ π : Type}

/-- A conversion comes to a value, after some number of aliases. -/
def Follow.ComesTo (x : Follow α) (a : α) : Prop :=
  ∃ followed followed', x.run followed = some (a, followed')

namespace Follow

/-- A conversion that ends at once comes to its value. -/
theorem eq_of_comesTo_pure {a b : α} (h : ComesTo (pure a) b) : b = a := by
  obtain ⟨n, n', hrun⟩ := h
  obtain ⟨rfl, -⟩ := Prod.mk.inj (Option.some.inj hrun)
  rfl

/-- A conversion that fails comes to nothing. -/
theorem not_comesTo_failure {a : α} : ¬ ComesTo failure a := by
  rintro ⟨n, n', hrun⟩
  cases hrun

/-- A sequence of two conversions comes to what the second makes of a value of the first. -/
theorem ComesTo.exists_of_bind {x : Follow α} {f : α → Follow β} {b : β} (h : (x >>= f).ComesTo b) :
    ∃ a, x.ComesTo a ∧ (f a).ComesTo b := by
  obtain ⟨n, n', hrun⟩ := h
  rw [StateT.run_bind] at hrun
  obtain ⟨⟨a, m⟩, hfirst, hsecond⟩ := Option.bind_eq_some_iff.mp hrun
  exact ⟨a, ⟨n, m, hfirst⟩, m, n', hsecond⟩

/-- What a conversion comes to that ends with a function of a value of another. -/
theorem ComesTo.exists_of_map {x : Follow α} {f : α → β} {b : β}
    (h : ComesTo (do return f (← x)) b) : ∃ a, x.ComesTo a ∧ b = f a := by
  obtain ⟨a, ha, hb⟩ := h.exists_of_bind
  exact ⟨a, ha, eq_of_comesTo_pure hb⟩

/-- A conversion that follows no alias comes to its value. -/
theorem eq_some_of_comesTo_lift {x : Option α} {a : α}
    (h : ComesTo (x : Follow α) a) : x = some a := by
  obtain ⟨n, n', hrun⟩ := h
  obtain ⟨b, hb, heq⟩ := Option.bind_eq_some_iff.mp hrun
  cases heq
  exact hb

/-- What a conversion of a list comes to: what the conversion of each item comes to. -/
theorem ComesTo.forall₂_of_mapM {f : α → Follow β} {xs : List α} {ys : List β}
    (h : (xs.mapM f).ComesTo ys) : List.Forall₂ (fun x y => (f x).ComesTo y) xs ys := by
  induction xs generalizing ys with
  | nil =>
    rw [List.mapM_nil] at h
    rw [eq_of_comesTo_pure h]
    exact .nil
  | cons x xs ih =>
    rw [List.mapM_cons] at h
    obtain ⟨y, hy, hrest⟩ := h.exists_of_bind
    obtain ⟨ys, hys, rfl⟩ := hrest.exists_of_map
    exact .cons hy (ih hys)

end Follow

open Follow

namespace Document

/-- The entries of a mapping under a key. -/
def entriesAt (key : String) (entries : List (String × Node)) : List (String × Node) :=
  entries.filter (·.1 = key)

/-- Reading an entry of a record: the entry changes the record if the record knows its key. -/
def readEntry (read : String → Option (Node → σ → Follow σ)) (s : σ) (e : String × Node) :
    Follow σ :=
  match read e.1 with
  | some f => f e.2 s
  | none => return s

/-- How a record is read shows one key in one place: the entry of the key makes the place what
`Seen` says of its node, and no other entry changes it. -/
structure Shows (read : String → Option (Node → σ → Follow σ)) (key : String) (view : σ → π)
    (Seen : Node → π → Prop) : Prop where
  own : ∃ f, read key = some f ∧ ∀ n s s', (f n s).ComesTo s' → Seen n (view s')
  others : ∀ k f, k ≠ key → read k = some f → ∀ n s s', (f n s).ComesTo s' → view s' = view s

variable {d : Document} {read : String → Option (Node → σ → Follow σ)} {key : String}
  {view : σ → π} {Seen : Node → π → Prop}

/-- An entry of another key leaves the place as it is. -/
theorem Shows.view_eq (h : Shows read key view Seen) {s s' : σ} {e : String × Node}
    (hkey : e.1 ≠ key) (hread : (readEntry read s e).ComesTo s') : view s' = view s := by
  unfold readEntry at hread
  split at hread
  · next f hf => exact h.others e.1 f hkey hf e.2 s s' hread
  · rw [eq_of_comesTo_pure hread]

/-- The entry of the key decides about the place. -/
theorem Shows.seen (h : Shows read key view Seen) {s s' : σ} {n : Node}
    (hread : (readEntry read s (key, n)).ComesTo s') : Seen n (view s') := by
  obtain ⟨f, hf, hown⟩ := h.own
  simp only [readEntry, hf] at hread
  exact hown n s s' hread

/-- Where the key occurs at most once, its only entry decides about the place, and without one it
stays as it was before all entries. -/
theorem Shows.fold (h : Shows read key view Seen) {entries : List (String × Node)} {s s' : σ}
    (honce : (entriesAt key entries).length ≤ 1)
    (hread : (entries.foldlM (readEntry read) s).ComesTo s') :
    (∃ n, entriesAt key entries = [(key, n)] ∧ Seen n (view s')) ∨
      (entriesAt key entries = [] ∧ view s' = view s) := by
  induction entries generalizing s with
  | nil =>
    rw [eq_of_comesTo_pure hread]
    exact .inr ⟨rfl, rfl⟩
  | cons e es ih =>
    obtain ⟨k, n⟩ := e
    rw [List.foldlM_cons] at hread
    obtain ⟨t, hfirst, hrest⟩ := hread.exists_of_bind
    -- Either this is the entry of the key, or the place is still as it was.
    by_cases hkey : k = key
    · -- No later entry has the key, so what this one shows is kept.
      subst hkey
      have hat : entriesAt k ((k, n) :: es) = (k, n) :: entriesAt k es := by simp [entriesAt]
      have hnone : entriesAt k es = [] := by
        rw [hat, List.length_cons] at honce
        exact List.length_eq_zero_iff.mp (by omega)
      obtain ⟨m, hm, -⟩ | ⟨-, hkept⟩ := ih (by simp [hnone]) hrest
      · rw [hnone] at hm
        cases hm
      · exact .inl ⟨n, by rw [hat, hnone], hkept ▸ h.seen hfirst⟩
    · have hat : entriesAt key ((k, n) :: es) = entriesAt key es := by simp [entriesAt, hkey]
      rw [hat] at honce ⊢
      rw [← h.view_eq hkey hfirst]
      exact ih honce hrest

/-- A key occurs at most once among entries whose known keys are all different. -/
theorem length_entriesAt_le {known : String → Bool} (hkey : known key = true)
    {entries : List (String × Node)} (hnodup : ((entries.map (·.1)).filter known).Nodup) :
    (entriesAt key entries).length ≤ 1 := by
  have hcount := List.nodup_iff_count_le_one.mp hnodup key
  rw [List.count_filter hkey] at hcount
  suffices (entriesAt key entries).length = (entries.map (·.1)).count key by omega
  rw [entriesAt, ← List.countP_eq_length_filter, List.count_eq_countP, List.countP_map]
  rfl

/-- What a record that is read shows in one place: what the only entry of a key says or, if there is
none, what the blank record shows. -/
theorem recordOf_shows (h : Shows read key view Seen) {blank s : σ} {n : Node}
    (hread : (d.recordOf read blank n).ComesTo s) :
    ∃ entries, (d.entriesOf n).ComesTo entries ∧
      ((∃ m, entriesAt key entries = [(key, m)] ∧ Seen m (view s)) ∨
        (entriesAt key entries = [] ∧ view s = view blank)) := by
  obtain ⟨entries, hentries, hrest⟩ := hread.exists_of_bind
  refine ⟨entries, hentries, ?_⟩
  by_cases hnodup : ((entries.map (·.1)).filter fun k => (read k).isSome).Nodup
  · simp only [hnodup, decide_true, Bool.not_true, Bool.false_eq_true, if_false] at hrest
    obtain ⟨f, hf, -⟩ := h.own
    exact h.fold (length_entriesAt_le (by simp [hf]) hnodup) hrest
  · simp only [hnodup, decide_false, Bool.not_false, if_true] at hrest
    exact absurd hrest not_comesTo_failure

/-- A node holds a text at the end of a path of keys, each of them the only one of its name in its
mapping. -/
def Holds (d : Document) : List String → Node → String → Prop
  | [], n, v => (d.textOf n).ComesTo v
  | key :: path, n, v =>
    ∃ entries m, (d.entriesOf n).ComesTo entries ∧ entriesAt key entries = [(key, m)] ∧
      d.Holds path m v

/-- A key on a path from a node is missing. -/
def Lacks (d : Document) : List String → Node → Prop
  | [], _ => False
  | key :: path, n =>
    ∃ entries, (d.entriesOf n).ComesTo entries ∧
      (entriesAt key entries = [] ∨
        ∃ m, entriesAt key entries = [(key, m)] ∧ d.Lacks path m)

/-- A node gives a value for a path, or lacks the path and a default stands in. -/
def Gives (d : Document) (path : List String) (default : String) (n : Node) (v : String) : Prop :=
  d.Holds path n v ∨ (d.Lacks path n ∧ v = default)

/-- What a record gives for a path whose first key it reads, if the rest of the path is what that
key's node gives. -/
theorem Shows.gives {view : σ → String} {path : List String} {default : String} {blank s : σ}
    {n : Node} (h : Shows read key view (d.Gives path default)) (hblank : view blank = default)
    (hread : (d.recordOf read blank n).ComesTo s) : d.Gives (key :: path) default n (view s) := by
  obtain ⟨entries, hentries, ⟨m, hm, hholds | ⟨hlacks, hv⟩⟩ | ⟨hnone, hv⟩⟩ := recordOf_shows h hread
  · exact .inl ⟨entries, m, hentries, hm, hholds⟩
  · exact .inr ⟨⟨entries, hentries, .inr ⟨m, hm, hlacks⟩⟩, hv⟩
  · exact .inr ⟨⟨entries, hentries, .inl hnone⟩, hv.trans hblank⟩

end Document

/-- The value of a text that is read as a single document. -/
theorem comesTo_of_typed? {text : String} {read : Document → Node → Follow α} {a : α}
    (h : typed? text read = some a) :
    ∃ d, documents? text = some [d] ∧ (read d d.root).ComesTo a := by
  obtain ⟨ds, hds, hrest⟩ := Option.bind_eq_some_iff.mp h
  split at hrest
  · next d =>
    obtain ⟨⟨b, followed⟩, hrun, rfl⟩ := Option.map_eq_some_iff.mp hrest
    exact ⟨d, hds, 0, followed, hrun⟩
  · cases hrest

end FleetConsole.Yaml
