import FleetConsole.Fleet.State
import FleetConsole.Proofs.Json.Ordered
import FleetConsole.Proofs.Record.Outcome
import FleetConsole.Proofs.Time.Instant

/-!
# Values that are read again

A value that was read from a tree is written, and what is written is read again. The law of a codec
(`Codec.Lawful`) says what the way through a tree cuts off the value: nothing, except that an
instant loses its fraction of a second. Writing what is left gives the same tree again.
-/

namespace FleetConsole

variable {α : Type}

namespace Codec

/-- A value is read from some tree. -/
def Reads (c : Codec α) (v : α) : Prop := ∃ j, j.isOrdered ∧ c.read j = .ok v

/-- A value that was read and is written is read again, less what `cut` takes off it. -/
structure Lawful (c : Codec α) (cut : α → α) : Prop where
  /-- What is written of a value that was read is read as the cut value. -/
  reread : ∀ v, c.Reads v → c.read (c.write v) = .ok (cut v)
  /-- What is written of a value that was read is in order. -/
  ordered : ∀ v, c.Reads v → (c.write v).isOrdered
  /-- What is cut off a value is not written. -/
  write_cut : ∀ v, c.write (cut v) = c.write v
  /-- Null is written only for what null was read as. -/
  write_ne_null : ∀ j v, j ≠ .null → c.read j = .ok v → c.write v ≠ .null

/-! ## Single values -/

/-- Trees are kept as they are. -/
theorem lawful_tree : tree.Lawful id where
  reread _ _ := rfl
  ordered v := by
    rintro ⟨j, hj, hread⟩
    exact Except.ok.inj hread ▸ hj
  write_cut _ := rfl
  write_ne_null _ _ hj hread := Except.ok.inj hread ▸ hj

/-- Texts are kept. -/
theorem lawful_string : string.Lawful id where
  reread _ _ := rfl
  ordered _ _ := rfl
  write_cut _ := rfl
  write_ne_null _ _ _ _ := nofun

/-- Truth values are kept. -/
theorem lawful_bool : bool.Lawful id where
  reread _ _ := rfl
  ordered _ _ := rfl
  write_cut _ := rfl
  write_ne_null _ _ _ _ := nofun

/-- Integers are kept, up to the edges of their range. -/
theorem lawful_intBetween (least greatest : Int) (name : String) :
    (intBetween least greatest name).Lawful id where
  reread n := by
    rintro ⟨j, -, hread⟩
    cases j with
    | int m =>
      simp only [intBetween] at hread ⊢
      split at hread
      · next hbounds =>
        obtain rfl := Except.ok.inj hread
        exact if_pos hbounds
      · cases hread
    | _ => cases hread
  ordered _ _ := rfl
  write_cut _ := rfl
  write_ne_null _ _ _ _ := nofun

/-- Integers of 64 bits are kept. -/
theorem lawful_int64 : int64.Lawful id := lawful_intBetween _ _ _

/-- Integers of 32 bits are kept. -/
theorem lawful_int32 : int32.Lawful id := lawful_intBetween _ _ _

/-- An instant is kept up to its fraction of a second. -/
theorem lawful_instant : instant.Lawful Instant.wholeSecond where
  reread t := by
    rintro ⟨j, -, hread⟩
    cases j with
    | str s =>
      simp only [instant] at hread ⊢
      cases hs : Instant.ofText s with
      | error e =>
        rw [hs] at hread
        cases hread
      | ok t' =>
        rw [hs] at hread
        obtain rfl := Except.ok.inj hread
        rw [Instant.ofText_wholeText hs]
    | _ => cases hread
  ordered _ _ := rfl
  write_cut t := congrArg Json.str t.wholeText_wholeSecond
  write_ne_null _ _ _ _ := nofun

/-- A reported state is kept, whether it is known or not, if the text of a state that is not known
is the one it was reported under. -/
theorem lawful_state {σ : Type} [ReportedState σ]
    (hother : ∀ s, ReportedState.text (ReportedState.other s : σ) = s) :
    (ReportedState.codec : Codec σ).Lawful id where
  reread state := by
    rintro ⟨j, -, hread⟩
    obtain ⟨s, -, rfl⟩ := map_eq_ok_iff.mp hread
    have htext : ReportedState.text (ReportedState.ofText s : σ) = s := by
      unfold ReportedState.ofText
      cases hknown : (ReportedState.known : List σ).find? (ReportedState.text · = s) with
      | none => exact hother s
      | some known => simpa using List.find?_some hknown
    simp only [ReportedState.codec, htext]
    rfl
  ordered _ _ := rfl
  write_cut _ := rfl
  write_ne_null _ _ _ _ := nofun

/-! ## Collections -/

variable {c : Codec α} {cut : α → α}

/-- What is written of several values that were read is read again. -/
theorem Lawful.reread_all (h : c.Lawful cut) {vs : List α} (hvs : ∀ v ∈ vs, c.Reads v) :
    (vs.map c.write).mapM c.read = .ok (vs.map cut) := by
  rw [mapM_eq_ok_iff, List.forall₂_map_left_iff, List.forall₂_map_right_iff, List.forall₂_same]
  exact fun v hv => h.reread v (hvs v hv)

/-- Each value of a list that was read was read. -/
theorem Reads.items {vs : List α} (h : (Codec.list c).Reads vs) : ∀ v ∈ vs, c.Reads v := by
  obtain ⟨j, hj, hread⟩ := h
  cases j with
  | arr xs =>
    intro v hv
    obtain ⟨x, hx, hxv⟩ := exists_of_forall₂ (mapM_eq_ok_iff.mp hread) hv
    exact ⟨x, Json.isOrdered_arr.mp hj x hx, hxv⟩
  | _ => cases hread

/-- A list of values is kept as far as the values are. -/
theorem Lawful.list (h : c.Lawful cut) : (Codec.list c).Lawful (List.map cut) where
  reread vs hvs := h.reread_all hvs.items
  ordered vs hvs := by
    refine Json.isOrdered_arr.mpr fun x hx => ?_
    obtain ⟨v, hv, rfl⟩ := List.mem_map.mp hx
    exact h.ordered v (hvs.items v hv)
  write_cut vs := by
    simp only [Codec.list, List.map_map]
    congr 2
    exact funext h.write_cut
  write_ne_null _ _ _ _ := nofun

/-- The values of a map, cut one by one. -/
def cutValues (cut : α → α) (entries : List (String × α)) : List (String × α) :=
  entries.map fun e => (e.1, cut e.2)

/-- A map that was read is in the order of its keys, and each of its values was read. -/
theorem Reads.entries {entries : List (String × α)} (h : (Codec.map c).Reads entries) :
    entries.Pairwise Json.Before ∧ ∀ e ∈ entries, c.Reads e.2 := by
  obtain ⟨j, hj, hread⟩ := h
  cases j with
  | obj es =>
    obtain ⟨hkeys, hvalues⟩ := Json.isOrdered_obj.mp hj
    have hall : List.Forall₂ (fun e e' => e.1 = e'.1 ∧ c.read e.2 = .ok e'.2) es entries := by
      refine (mapM_eq_ok_iff.mp hread).imp fun e e' he => ?_
      obtain ⟨v, hv, rfl⟩ := map_eq_ok_iff.mp he
      exact ⟨rfl, hv⟩
    have hsame : es.map (·.1) = entries.map (·.1) := by
      rw [← List.forall₂_eq_eq_eq, List.forall₂_map_left_iff, List.forall₂_map_right_iff]
      exact hall.imp fun _ _ h => h.1
    rw [Json.pairwise_before_iff, hsame] at hkeys
    refine ⟨Json.pairwise_before_iff.mpr hkeys, fun e he => ?_⟩
    obtain ⟨e', he', -, hvalue⟩ := exists_of_forall₂ hall he
    exact ⟨e'.2, hvalues e' he', hvalue⟩
  | _ => cases hread

/-- The entries of a map that was read are written in the order they have. -/
theorem Reads.write_map {entries : List (String × α)} (h : (Codec.map c).Reads entries) :
    (Codec.map c).write entries = .obj (entries.map fun e => (e.1, c.write e.2)) :=
  Json.ofEntries_of_pairwise (List.pairwise_map.mpr h.entries.1)

/-- A map of values is kept as far as the values are. -/
theorem Lawful.map (h : c.Lawful cut) : (Codec.map c).Lawful (cutValues cut) where
  reread entries hentries := by
    rw [hentries.write_map]
    refine mapM_eq_ok_iff.mpr ?_
    rw [cutValues, List.forall₂_map_left_iff, List.forall₂_map_right_iff, List.forall₂_same]
    intro e he
    rw [h.reread e.2 (hentries.entries.2 e he)]
    rfl
  ordered entries hentries := by
    obtain ⟨hkeys, hvalues⟩ := hentries.entries
    rw [hentries.write_map]
    refine Json.isOrdered_obj.mpr ⟨List.pairwise_map.mpr hkeys, fun e he => ?_⟩
    obtain ⟨e', he', rfl⟩ := List.mem_map.mp he
    exact h.ordered e'.2 (hvalues e' he')
  write_cut entries := by
    simp only [Codec.map, cutValues, List.map_map]
    congr 2
    exact funext fun e => Prod.ext rfl (h.write_cut e.2)
  write_ne_null _ _ _ _ := nofun

/-- A value for which null stands too was read itself, if the default could be. -/
theorem Reads.of_orNull {default v : α} (h : (Codec.orNull c default).Reads v)
    (hdefault : c.Reads default) : c.Reads v := by
  obtain ⟨j, hj, hread⟩ := h
  cases j with
  | null =>
    obtain rfl := Except.ok.inj hread
    exact hdefault
  | _ => exact ⟨_, hj, hread⟩

/-- A value for which null stands too is kept as far as the value is. -/
theorem Lawful.orNull {default : α} (h : c.Lawful cut) (hdefault : c.Reads default)
    (hnull : ∀ v, c.write v ≠ .null) : (Codec.orNull c default).Lawful cut where
  reread v hv := by
    have hreread := h.reread v (hv.of_orNull hdefault)
    simp only [Codec.orNull]
    split
    · next hwrite => exact absurd hwrite (hnull v)
    · exact hreread
  ordered v hv := h.ordered v (hv.of_orNull hdefault)
  write_cut := h.write_cut
  write_ne_null _ v _ _ := hnull v

/-- Where nothing is cut off the items, nothing is cut off a list. -/
theorem Lawful.list_id (h : c.Lawful id) : (Codec.list c).Lawful id := by
  have hlist := h.list
  rwa [List.map_id_fun] at hlist

/-- Where nothing is cut off the values, nothing is cut off a map. -/
theorem Lawful.map_id (h : c.Lawful id) : (Codec.map c).Lawful id := by
  have hmap := h.map
  have hcut : cutValues (id : α → α) = id := funext fun es => List.map_id es
  rwa [hcut] at hmap

end Codec

end FleetConsole
