import FleetConsole.Proofs.Record.Lawful
import FleetConsole.Record.Record
import Mathlib.Data.List.Pairwise

/-!
# Records that are read again

A field of a record stands for one part of it, a slot: reading the field sets the slot, and writing
it looks at nothing else. A slot is given by the function that moves it from one record to another,
so that the slots of a record type have one type whatever they hold. Where every field has a slot,
the slots are apart and make up the record, a record that was read and is written is read again as
far as its fields are (`Record.Slots.lawful`), in whatever order the entries stand.
-/

namespace FleetConsole

variable {σ β : Type}

/-! ## What a field reads and writes -/

/-- Reads and writes what a field holds. Some of it may not be written at all. -/
structure Field.Content (β : Type) where
  read : Json → Except Misfit β
  write : β → Option Json

namespace Field.Content

/-- A value that is always written. -/
def plain (c : Codec β) : Content β := ⟨c.read, fun v => some (c.write v)⟩

/-- A value that null leaves absent and that is not written while absent. -/
def optional (c : Codec β) : Content (Option β) where
  read
    | .null => .ok none
    | j => (c.read j).map some
  write v := v.map c.write

/-- What the content is in a blank record, or after a reading. -/
def Holds (content : Content β) (blank v : β) : Prop :=
  v = blank ∨ ∃ j, j.isOrdered ∧ content.read j = .ok v

/-- The content is read again from what is written of it, less what `cut` takes off it. What is not
written is the blank value. -/
structure Lawful (content : Content β) (blank : β) (cut : β → β) : Prop where
  reread : ∀ v, content.Holds blank v → ∀ j, content.write v = some j →
    content.read j = .ok (cut v)
  ordered : ∀ v, content.Holds blank v → ∀ j, content.write v = some j → j.isOrdered
  unwritten : ∀ v, content.Holds blank v → content.write v = none → cut v = blank
  write_cut : ∀ v, content.write (cut v) = content.write v

/-- What is always written was read, if the blank value can be. -/
theorem Holds.reads {c : Codec β} {blank v : β} (h : (plain c).Holds blank v)
    (hblank : c.Reads blank) : c.Reads v := by
  obtain rfl | hread := h
  · exact hblank
  · exact hread

/-- A value that is always written is kept as its codec keeps it, also the blank value if it can be
read. -/
theorem lawful_plain {c : Codec β} {cut : β → β} {blank : β} (h : c.Lawful cut)
    (hblank : c.Reads blank) : (plain c).Lawful blank cut where
  reread v hv j hj := by
    obtain rfl := Option.some.inj hj
    exact h.reread v (hv.reads hblank)
  ordered v hv j hj := by
    obtain rfl := Option.some.inj hj
    exact h.ordered v (hv.reads hblank)
  unwritten _ _ := nofun
  write_cut v := congrArg some (h.write_cut v)

/-- A value is present unless it is read from null. -/
theorem optional_read {c : Codec β} {j : Json} (h : j ≠ .null) :
    (optional c).read j = (c.read j).map some := by
  cases j with
  | null => exact absurd rfl h
  | _ => rfl

/-- A value that is present was read from another tree than null. -/
theorem Holds.exists_read {c : Codec β} {v : β} (h : (optional c).Holds none (some v)) :
    ∃ j, j ≠ .null ∧ j.isOrdered ∧ c.read j = .ok v := by
  obtain hblank | ⟨j, hj, hread⟩ := h
  · cases hblank
  have hne : j ≠ .null := by
    rintro rfl
    cases Except.ok.inj hread
  rw [optional_read hne] at hread
  obtain ⟨w, hw, hsome⟩ := map_eq_ok_iff.mp hread
  exact ⟨j, hne, hj, Option.some.inj hsome ▸ hw⟩

/-- A value that may be absent is kept as its codec keeps it. -/
theorem lawful_optional {c : Codec β} {cut : β → β} (h : c.Lawful cut) :
    (optional c).Lawful none (Option.map cut) where
  reread v hv j hj := by
    obtain ⟨w, rfl, rfl⟩ := Option.map_eq_some_iff.mp hj
    obtain ⟨i, hne, hi, hw⟩ := hv.exists_read
    -- The value was not read from null, so it is not written as null.
    rw [optional_read (h.write_ne_null i w hne hw), h.reread w ⟨i, hi, hw⟩]
    rfl
  ordered v hv j hj := by
    obtain ⟨w, rfl, rfl⟩ := Option.map_eq_some_iff.mp hj
    obtain ⟨i, -, hi, hw⟩ := hv.exists_read
    exact h.ordered w ⟨i, hi, hw⟩
  unwritten v _ hv := by
    cases v with
    | none => rfl
    | some w => cases hv
  write_cut v := by
    cases v with
    | none => rfl
    | some w => exact congrArg some (h.write_cut w)

end Field.Content

/-- A field with a content. -/
def Field.ofContent (key : String) (content : Content β) (get : σ → β) (set : β → σ → σ) :
    Field σ where
  key := key
  read j s := (content.read j).map fun v => set v s
  write s := content.write (get s)

/-- An optional field has an optional content. -/
theorem Field.optional_eq_ofContent (key : String) (c : Codec β) (get : σ → Option β)
    (set : Option β → σ → σ) :
    Field.optional key c get set = .ofContent key (.optional c) get set := by
  unfold Field.optional Field.ofContent
  congr 1
  funext j s
  cases j with
  | null => rfl
  | _ =>
    simp only [Content.optional]
    cases c.read _ <;> rfl

namespace Record

variable {r : Record σ}

/-! ## What a record writes -/

/-- A field is known by its key. -/
theorem field_eq_of_key (hkeys : (r.fields.map (·.key)).Nodup) {f g : Field σ} (hf : f ∈ r.fields)
    (hg : g ∈ r.fields) (h : f.key = g.key) : f = g :=
  List.inj_on_of_nodup_map hkeys hf hg h

/-- The keys of the entries that a record writes are keys of its fields, so they are different. -/
theorem nodup_entries (hkeys : (r.fields.map (·.key)).Nodup) (s : σ) :
    ((r.entries s).map (·.1)).Nodup := by
  refine hkeys.sublist ?_
  unfold Record.entries
  induction r.fields with
  | nil => exact .slnil
  | cons f fs ih =>
    cases hwrite : f.write s with
    | none => simpa [hwrite] using ih.cons f.key
    | some j => simpa [hwrite] using ih.cons_cons f.key

/-- What is written under the key of a field is what the field writes. -/
theorem mem_entries (hkeys : (r.fields.map (·.key)).Nodup) {f : Field σ} (hf : f ∈ r.fields) {s : σ}
    {j : Json} : (f.key, j) ∈ r.entries s ↔ f.write s = some j := by
  simp only [Record.entries, List.mem_filterMap, Option.map_eq_some_iff, Prod.mk.injEq]
  constructor
  · rintro ⟨g, hg, _, hwrite, hkey, rfl⟩
    rwa [field_eq_of_key hkeys hg hf hkey] at hwrite
  · exact fun hwrite => ⟨f, hf, j, hwrite, rfl, rfl⟩

/-- The key of a field finds what the field writes. -/
theorem get?_write (hkeys : (r.fields.map (·.key)).Nodup) {f : Field σ} (hf : f ∈ r.fields)
    (s : σ) : (r.write s).get? f.key = f.write s := by
  refine Option.ext fun j => ?_
  rw [write, Json.get?_ofEntries (nodup_entries hkeys s), mem_entries hkeys hf]

/-! ## Slots -/

/-- What a field holds in a record is read again from what is written of it, into its slot. -/
structure Kept (r : Record σ) (cut : σ → σ) (f : Field σ) (move : σ → σ → σ) (s : σ) : Prop where
  reread : ∀ j, f.write s = some j → ∀ t, f.read j t = .ok (move (cut s) t)
  ordered : ∀ j, f.write s = some j → j.isOrdered
  unwritten : f.write s = none → move (cut s) = move r.blank

/-- A field has a slot, which `move` moves from one record to another. -/
structure Slot (r : Record σ) (cut : σ → σ) (f : Field σ) (move : σ → σ → σ) : Prop where
  /-- A slot that was moved is the slot. -/
  move_move : ∀ s t, move (move s t) = move s
  /-- Reading the field sets the slot and nothing else. -/
  move_read : ∀ j s s', f.read j s = .ok s' → move s' s = s'
  /-- What is kept depends on the slot only. -/
  kept_congr : ∀ s s', move s = move s' → r.Kept cut f move s → r.Kept cut f move s'
  /-- What is cut off a record is not written. -/
  write_cut : ∀ s, f.write (cut s) = f.write s
  kept_blank : r.Kept cut f move r.blank
  kept_read : ∀ j s s', j.isOrdered → f.read j s = .ok s' → r.Kept cut f move s'

variable {cut : σ → σ}

/-- A field with a content has the slot that is got and set. -/
theorem Slot.ofContent {key : String} {content : Field.Content β} {get : σ → β} {set : β → σ → σ}
    {cutValue : β → β} (hcontent : content.Lawful (get r.blank) cutValue)
    (hset : ∀ v s, get (set v s) = v) (hcut : ∀ s, get (cut s) = cutValue (get s)) :
    r.Slot cut (.ofContent key content get set) fun s t => set (get s) t := by
  have hget {s s' : σ} (h : (fun t => set (get s) t) = fun t => set (get s') t) :
      get s = get s' := by
    rw [← hset (get s) s, congrFun h s, hset]
  have hkept {s : σ} (h : content.Holds (get r.blank) (get s)) :
      r.Kept cut (.ofContent key content get set) (fun s t => set (get s) t) s := by
    refine ⟨fun j hj t => ?_, hcontent.ordered _ h, fun hnone => ?_⟩
    · simp only [Field.ofContent, hcontent.reread _ h j hj, hcut]
      rfl
    · simp only [hcut, hcontent.unwritten _ h hnone]
  refine ⟨fun s t => by simp only [hset], fun j s s' hread => ?_, fun s s' hsame hs => ?_,
    fun s => ?_, hkept (.inl rfl), fun j s s' hj hread => ?_⟩
  · obtain ⟨v, -, rfl⟩ := map_eq_ok_iff.mp hread
    rw [hset]
  · have hsame' := hget hsame
    have hwrite : (Field.ofContent key content get set).write s' =
        (Field.ofContent key content get set).write s := congrArg content.write hsame'.symm
    refine ⟨fun j hj t => ?_, fun j hj => hs.ordered j (hwrite ▸ hj), fun hnone => ?_⟩
    · rw [hs.reread j (hwrite ▸ hj) t, hcut, hcut, hsame']
    · rw [← hs.unwritten (hwrite ▸ hnone)]
      simp only [hcut, hsame']
  · simp only [Field.ofContent, hcut, hcontent.write_cut]
  · obtain ⟨v, hv, rfl⟩ := map_eq_ok_iff.mp hread
    refine hkept (.inr ⟨j, hj, ?_⟩)
    rw [hset, hv]

/-- A field that is always written has a slot. -/
theorem Slot.plain {key : String} {c : Codec β} {get : σ → β} {set : β → σ → σ} {cutValue : β → β}
    (hc : c.Lawful cutValue) (hblank : c.Reads (get r.blank))
    (hset : (fun v s => get (set v s)) = fun v _ => v) (hcut : get ∘ cut = cutValue ∘ get) :
    r.Slot cut (.plain key c get set) fun s t => set (get s) t :=
  .ofContent (Field.Content.lawful_plain hc hblank) (fun v s => congrFun (congrFun hset v) s)
    (congrFun hcut)

/-- An optional field has a slot. -/
theorem Slot.optional {key : String} {c : Codec β} {get : σ → Option β} {set : Option β → σ → σ}
    {cutValue : β → β} (hc : c.Lawful cutValue) (hblank : get r.blank = none)
    (hset : (fun v s => get (set v s)) = fun v _ => v)
    (hcut : get ∘ cut = Option.map cutValue ∘ get) :
    r.Slot cut (.optional key c get set) fun s t => set (get s) t := by
  rw [Field.optional_eq_ofContent]
  exact .ofContent (hblank ▸ Field.Content.lawful_optional hc)
    (fun v s => congrFun (congrFun hset v) s) (congrFun hcut)

/-- An optional field of which nothing is cut off has a slot. -/
theorem Slot.optional_id {key : String} {c : Codec β} {get : σ → Option β}
    {set : Option β → σ → σ} (hc : c.Lawful id) (hblank : get r.blank = none)
    (hset : (fun v s => get (set v s)) = fun v _ => v) (hcut : get ∘ cut = get) :
    r.Slot cut (.optional key c get set) fun s t => set (get s) t :=
  .optional hc hblank hset (hcut.trans (by rw [Option.map_id, Function.id_comp]))

/-- Two slots are apart: moving one of them keeps the other. -/
def Apart (m m' : σ → σ → σ) : Prop := ∀ s t, m (m' s t) = m t ∧ m' (m s t) = m' t

/-- The fields of a record type have slots that are apart and make up the record. -/
structure Slots (r : Record σ) (cut : σ → σ) (slots : List (Field σ × (σ → σ → σ))) : Prop where
  fields : slots.map (·.1) = r.fields
  slot : ∀ p ∈ slots, r.Slot cut p.1 p.2
  keys : (r.fields.map (·.key)).Nodup
  apart : ∀ p ∈ slots, ∀ q ∈ slots, p.1.key ≠ q.1.key → ∀ s t, p.2 (q.2 s t) = p.2 t
  ext : ∀ s t, (∀ p ∈ slots, p.2 s = p.2 t) → s = t

namespace Slots

variable {slots : List (Field σ × (σ → σ → σ))}

/-- The slots of fields that are listed with them. A slot that moves keeps every other slot, and all
slots together move the record. -/
theorem of_forall₂ {moves : List (σ → σ → σ)} (hkeys : (r.fields.map (·.key)).Nodup)
    (hslots : List.Forall₂ (r.Slot cut) r.fields moves)
    (hapart : moves.Pairwise Apart)
    (hcover : ∀ s t, moves.foldl (fun t m => m s t) t = s) :
    r.Slots cut (r.fields.zip moves) where
  fields := List.map_fst_zip hslots.length_eq.le
  slot p hp := List.forall₂_zip hslots hp
  keys := hkeys
  apart p hp q hq hne s t := by
    have hpairs : (r.fields.zip moves).Pairwise fun p q => Apart p.2 q.2 := by
      rw [← List.map_snd_zip hslots.length_eq.ge, List.pairwise_map] at hapart
      exact hapart
    have hsymm : Std.Symm fun p q : Field σ × (σ → σ → σ) => Apart p.2 q.2 :=
      ⟨fun _ _ h s t => (h s t).symm⟩
    exact (hpairs.forall hp hq (fun heq => hne (heq ▸ rfl)) s t).1
  ext s t h := by
    have hmoves : ∀ m ∈ moves, m s = m t := by
      intro m hm
      rw [← List.map_snd_zip hslots.length_eq.ge] at hm
      obtain ⟨p, hp, rfl⟩ := List.mem_map.mp hm
      exact h p hp
    -- Slots that are all equal are moved to equal records.
    rw [← hcover s s, ← hcover t s]
    exact List.foldl_ext _ _ _ fun u m hm => congrFun (hmoves m hm) u

/-- The field of a slot is a field. -/
theorem mem_fields (h : r.Slots cut slots) {p : Field σ × (σ → σ → σ)} (hp : p ∈ slots) :
    p.1 ∈ r.fields :=
  h.fields ▸ List.mem_map_of_mem hp

/-- A field has a slot. -/
theorem exists_slot (h : r.Slots cut slots) {f : Field σ} (hf : f ∈ r.fields) :
    ∃ p ∈ slots, p.1 = f :=
  List.mem_map.mp (h.fields ▸ hf)

/-- A slot is known by its key. -/
theorem eq_of_key (h : r.Slots cut slots) {p q : Field σ × (σ → σ → σ)} (hp : p ∈ slots)
    (hq : q ∈ slots) (hkey : p.1.key = q.1.key) : p = q := by
  have hnodup : (slots.map fun p => p.1.key).Nodup := by
    have hkeys := h.keys
    rw [← h.fields, List.map_map] at hkeys
    exact hkeys
  exact List.inj_on_of_nodup_map hnodup hp hq hkey

/-- The key of a slot finds its field. -/
theorem find?_key (h : r.Slots cut slots) {p : Field σ × (σ → σ → σ)} (hp : p ∈ slots) :
    r.fields.find? (·.key = p.1.key) = some p.1 := by
  cases hfind : r.fields.find? (·.key = p.1.key) with
  | none => simpa using List.find?_eq_none.mp hfind p.1 (h.mem_fields hp)
  | some f =>
    obtain ⟨q, hq, rfl⟩ := h.exists_slot (List.mem_of_find?_eq_some hfind)
    rw [h.eq_of_key hq hp (by simpa using List.find?_some hfind)]

/-- Reading a field leaves the slots of the others as they are. -/
theorem slot_eq_of_read (h : r.Slots cut slots) {p q : Field σ × (σ → σ → σ)} (hp : p ∈ slots)
    (hq : q ∈ slots) (hne : p.1.key ≠ q.1.key) {j : Json} {s s' : σ}
    (hread : q.1.read j s = .ok s') : p.2 s' = p.2 s := by
  rw [← (h.slot q hq).move_read j s s' hread]
  exact h.apart p hp q hq hne s' s

/-- What a record holds is kept in all its slots. -/
def Kept (r : Record σ) (cut : σ → σ) (slots : List (Field σ × (σ → σ → σ))) (s : σ) : Prop :=
  ∀ p ∈ slots, r.Kept cut p.1 p.2 s

/-- What is kept in all slots is kept after one more field is read. -/
theorem Kept.read (h : r.Slots cut slots) {f : Field σ} (hf : f ∈ r.fields) {j : Json}
    (hj : j.isOrdered) {s s' : σ} (hs : Kept r cut slots s) (hread : f.read j s = .ok s') :
    Kept r cut slots s' := by
  obtain ⟨q, hq, rfl⟩ := h.exists_slot hf
  intro p hp
  by_cases hkey : p.1.key = q.1.key
  · obtain rfl := h.eq_of_key hp hq hkey
    exact (h.slot p hp).kept_read j s s' hj hread
  · exact (h.slot p hp).kept_congr s s' (h.slot_eq_of_read hp hq hkey hread).symm (hs p hp)

/-- What a record holds that was read from a tree is kept in all its slots. -/
theorem kept_of_read (h : r.Slots cut slots) {j : Json} (hj : j.isOrdered) {s : σ}
    (hread : r.read j = .ok s) : Kept r cut slots s := by
  have hblank : Kept r cut slots r.blank := fun p hp => (h.slot p hp).kept_blank
  -- An object is read entry by entry and a list item by item; each reads one field.
  cases j with
  | obj es =>
    have hvalues := (Json.isOrdered_obj.mp hj).2
    refine foldlM_preserves (fun e he s s' hs hentry => ?_) hblank hread
    unfold Record.readEntry at hentry
    split at hentry
    · next f hfind =>
      exact hs.read h (List.mem_of_find?_eq_some hfind) (hvalues e he) hentry
    · exact Except.ok.inj hentry ▸ hs
  | arr xs =>
    have hitems := Json.isOrdered_arr.mp hj
    simp only [Record.read] at hread
    split at hread
    · obtain ⟨s', hfold, hlength⟩ := bind_eq_ok_iff.mp hread
      split at hlength
      · cases hlength
      · obtain rfl := Except.ok.inj hlength
        refine foldlM_preserves (fun p hp s s' hs hfield => ?_) hblank hfold
        obtain ⟨hf, hx⟩ := List.of_mem_zip hp
        exact hs.read h hf (hitems p.2 hx) hfield
    · cases hread
  | _ => cases hread

/-- Reading entries that were written of a record sets the slots of their keys to those of the cut
record, and leaves the others. -/
theorem read_entries (h : r.Slots cut slots) {s : σ} (hs : Kept r cut slots s)
    {es : List (String × Json)} (hes : ∀ e ∈ es, e ∈ r.entries s) (t : σ) :
    ∃ t', es.foldlM r.readEntry t = .ok t' ∧
      ∀ p ∈ slots, p.2 t' = if p.1.key ∈ es.map (·.1) then p.2 (cut s) else p.2 t := by
  -- By induction on the entries, in any order: the first one moves one slot, and the others follow.
  induction es generalizing t with
  | nil => exact ⟨t, rfl, fun p _ => rfl⟩
  | cons e es ih =>
    obtain ⟨he, hrest⟩ := List.forall_mem_cons.mp hes
    obtain ⟨f, hf, hwrite⟩ := List.mem_filterMap.mp he
    obtain ⟨j, hj, rfl⟩ := Option.map_eq_some_iff.mp hwrite
    obtain ⟨q, hq, rfl⟩ := h.exists_slot hf
    have hentry : r.readEntry t (q.1.key, j) = .ok (q.2 (cut s) t) := by
      simp only [readEntry, h.find?_key hq]
      exact (hs q hq).reread j hj t
    obtain ⟨t', hfold, hslots⟩ := ih hrest (q.2 (cut s) t)
    refine ⟨t', ?_, fun p hp => ?_⟩
    · rw [List.foldlM_cons, hentry]
      exact hfold
    · rw [hslots p hp]
      by_cases hkey : p.1.key = q.1.key
      · -- A later entry of this key would move the slot to where it is already.
        obtain rfl := h.eq_of_key hp hq hkey
        rw [(h.slot p hp).move_move, ite_self, if_pos (by simp)]
      · have hmem : p.1.key ∈ ((q.1.key, j) :: es).map (·.1) ↔ p.1.key ∈ es.map (·.1) := by
          rw [List.map_cons, List.mem_cons, or_iff_right hkey]
        rw [h.apart p hp q hq hkey, if_congr hmem rfl rfl]

/-- A record that was read is kept as far as its fields are. -/
theorem lawful (h : r.Slots cut slots) : r.codec.Lawful cut where
  reread s := by
    rintro ⟨j, hj, hread⟩
    have hs := h.kept_of_read hj hread
    obtain ⟨es, hof, hperm, -⟩ := Json.exists_ofEntries (nodup_entries h.keys s)
    obtain ⟨t, hfold, hslots⟩ :=
      h.read_entries hs (fun e he => hperm.mem_iff.mp he) r.blank
    have hwrite : r.write s = .obj es := hof
    simp only [Record.codec, hwrite, Record.read, hfold]
    refine congrArg Except.ok (h.ext t (cut s) fun p hp => ?_)
    rw [hslots p hp]
    split
    · rfl
    · next hkey =>
      -- What is not written is blank in the cut record too.
      have hnone : p.1.write s = none := by
        refine Option.eq_none_iff_forall_ne_some.mpr fun j hj => hkey ?_
        have hentry := (mem_entries h.keys (h.mem_fields hp)).mpr hj
        exact List.mem_map.mpr ⟨_, hperm.mem_iff.mpr hentry, rfl⟩
      exact ((hs p hp).unwritten hnone).symm
  ordered s := by
    rintro ⟨j, hj, hread⟩
    have hs := h.kept_of_read hj hread
    obtain ⟨es, hof, hperm, hkeys⟩ := Json.exists_ofEntries (nodup_entries h.keys s)
    have hwrite : r.write s = .obj es := hof
    simp only [Record.codec, hwrite]
    refine Json.isOrdered_obj.mpr ⟨hkeys, fun e he => ?_⟩
    obtain ⟨f, hf, hmap⟩ := List.mem_filterMap.mp (hperm.mem_iff.mp he)
    obtain ⟨j, hj, rfl⟩ := Option.map_eq_some_iff.mp hmap
    obtain ⟨p, hp, rfl⟩ := h.exists_slot hf
    exact (hs p hp).ordered j hj
  write_cut s := by
    have hentries : r.entries (cut s) = r.entries s := by
      refine List.filterMap_congr fun f hf => ?_
      obtain ⟨p, hp, rfl⟩ := h.exists_slot hf
      rw [(h.slot p hp).write_cut]
    exact congrArg Json.ofEntries hentries
  write_ne_null _ _ _ _ := nofun

end Slots

end Record

/-! ## Readable blanks -/

namespace Codec

/-- Every text is read from some tree. -/
theorem reads_string (s : String) : string.Reads s := ⟨.str s, rfl, rfl⟩

/-- Every truth value is read from some tree. -/
theorem reads_bool (b : Bool) : bool.Reads b := ⟨.bool b, rfl, rfl⟩

/-- Null is read as a tree. -/
theorem reads_null : tree.Reads .null := ⟨.null, rfl, rfl⟩

/-- Zero is read as an integer of 64 bits. -/
theorem reads_int64 : int64.Reads 0 := ⟨.int 0, rfl, rfl⟩

/-- Zero is read as an integer of 32 bits. -/
theorem reads_int32 : int32.Reads 0 := ⟨.int 0, rfl, rfl⟩

/-- The empty list is read. -/
theorem reads_nil (c : Codec β) : (list c).Reads [] := ⟨.arr [], rfl, rfl⟩

/-- The empty map is read. -/
theorem reads_empty (c : Codec β) : (map c).Reads [] := ⟨.obj [], rfl, rfl⟩

/-- The blank record is read from the object without entries. -/
theorem reads_blank (r : Record σ) : r.codec.Reads r.blank := ⟨.obj [], rfl, rfl⟩

end Codec

end FleetConsole
