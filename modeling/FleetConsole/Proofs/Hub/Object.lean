import FleetConsole.Proofs.Fleet.Alike
import FleetConsole.Proofs.Store.Ordered

/-!
# Objects of the hub

The API server holds a document as an object and sends it as an item of a list, or alone. The type
of the object may be left out, since the collection has one type. `Hub.object_of_itemOf` says that
what becomes of an item is the document again, with a type and with its metadata written anew.
-/

namespace FleetConsole

/-- An item is sent for a document: it has the entries of the document, the two that say the type
together or not at all. -/
structure Hub.ItemOf (item doc : Json) : Prop where
  isObject : item.isObject
  types : (∀ key ∈ typeKeys, item.get? key = none) ∨
    ∀ key ∈ typeKeys, (item.get? key).isSome ∧ item.get? key = doc.get? key
  others : ∀ key ∉ typeKeys, item.get? key = doc.get? key

namespace Hub

variable {c : Coordinate} {item doc : Json}

/-- The entries that say the type of an item, with the collection's type in the place of what is
left out. -/
def types (c : Coordinate) (item : Json) : List (String × Json) :=
  let default (key value : String) : List (String × Json) :=
    if ((typeEntries item).lookup key).isSome then [] else [(key, .str value)]
  typeEntries item ++ default "apiVersion" c.apiVersionText ++ default "kind" c.kind.text

/-- A document says the kind of the collection, or none, so the entries that say the type of its
item are an API version and the collection's kind. -/
theorem types_perm (h : ItemOf item doc)
    (hkind : doc.get? "kind" = none ∨ doc.get? "kind" = some (.str c.kind.text)) :
    ∃ text, (types c item).Perm [("apiVersion", .str text), ("kind", .str c.kind.text)] := by
  unfold types typeEntries
  obtain hnone | hboth := h.types
  · -- The type is left out, so it is the collection's.
    have hversion := hnone "apiVersion" (by decide)
    have hnokind := hnone "kind" (by decide)
    rw [hversion, hnokind]
    exact ⟨c.apiVersionText, .refl _⟩
  · obtain ⟨hversion, -⟩ := hboth "apiVersion" (by decide)
    obtain ⟨hsome, hsame⟩ := hboth "kind" (by decide)
    have hstated : item.get? "kind" = some (.str c.kind.text) := by
      obtain hnone | hstated := hkind
      · rw [hsame, hnone] at hsome
        cases hsome
      · exact hsame.trans hstated
    obtain ⟨version, hversion⟩ := Option.isSome_iff_exists.mp hversion
    rw [hversion, hstated]
    -- An API version that is no text does not count, and is replaced.
    cases version with
    | str text => exact ⟨text, .refl _⟩
    | _ => exact ⟨c.apiVersionText, .swap _ _ _⟩

/-- The entries of an object: those of the item without its type and its metadata, the metadata
written anew, and the type. -/
def entries (c : Coordinate) (item : List (String × Json)) (metadata : Metadata) :
    List (String × Json) :=
  item.filter (fun e => !(["apiVersion", "kind", "metadata"].contains e.1)) ++
    ("metadata", Metadata.record.write metadata) :: types c (.obj item)

/-- An item with metadata that can be read is an object. -/
theorem object_eq_ok {item : List (String × Json)} {j : Json} {m : Metadata}
    (hj : (Json.obj item).get? "metadata" = some j) (hm : Metadata.record.read j = .ok m) :
    object c (.obj item) = .ok (.ofEntries (entries c item m)) := by
  simp only [object, hj, hm]
  refine congrArg (fun es => Except.ok (Json.ofEntries es)) ?_
  simp only [entries, types, List.append_assoc, List.cons_append]

section Entries

variable {es : List (String × Json)} {m : Metadata} {text : String}

/-- The entries of an object, by their keys. -/
theorem mem_entries (htypes : (types c (.obj es)).Perm
      [("apiVersion", .str text), ("kind", .str c.kind.text)]) {key : String} {value : Json} :
    (key, value) ∈ entries c es m ↔
      (key ∉ "metadata" :: typeKeys ∧ (key, value) ∈ es) ∨
      (key = "metadata" ∧ value = Metadata.record.write m) ∨
      (key = "apiVersion" ∧ value = .str text) ∨ (key = "kind" ∧ value = .str c.kind.text) := by
  have hrest : (!(["apiVersion", "kind", "metadata"].contains key)) = true ↔
      key ∉ "metadata" :: typeKeys := by
    simp only [typeKeys, Bool.not_eq_true', List.contains_eq_mem, decide_eq_false_iff_not,
      List.mem_cons, List.not_mem_nil, or_false]
    tauto
  simp only [entries, List.mem_append, List.mem_filter, List.mem_cons, htypes.mem_iff, hrest,
    List.not_mem_nil, or_false, Prod.mk.injEq]
  tauto

/-- The entries of an object have different keys, if those of the item have. -/
theorem nodup_entries (htypes : (types c (.obj es)).Perm
      [("apiVersion", .str text), ("kind", .str c.kind.text)]) (hes : (es.map (·.1)).Nodup) :
    ((entries c es m).map (·.1)).Nodup := by
  have htail : ((("metadata", Metadata.record.write m) :: types c (.obj es)).map (·.1)).Perm
      ("metadata" :: typeKeys) := by
    rw [List.map_cons]
    exact (htypes.map (·.1)).cons "metadata"
  rw [entries, List.map_append]
  refine List.Nodup.append ?_ (htail.nodup_iff.mpr (by decide)) ?_
  · exact hes.sublist ((List.filter_sublist).map _)
  · -- The keys that are written anew have been taken out of the item.
    intro key hkey htaken
    obtain ⟨e, he, rfl⟩ := List.mem_map.mp hkey
    have hout := (List.mem_filter.mp he).2
    have hin := htail.mem_iff.mp htaken
    simp only [typeKeys, List.mem_cons, List.not_mem_nil, or_false] at hin
    obtain hkey | hkey | hkey := hin <;> simp [hkey] at hout

end Entries

/-- What an ordered item of a document becomes is the document with a type and with its metadata
written anew. -/
theorem object_of_itemOf (h : ItemOf item doc) (hitem : item.isOrdered)
    (hkind : doc.get? "kind" = none ∨ doc.get? "kind" = some (.str c.kind.text)) {j : Json}
    {m : Metadata} (hj : doc.get? "metadata" = some j) (hm : Metadata.record.read j = .ok m) :
    ∃ doc', object c item = .ok doc' ∧ doc.IsRetyped c.kind doc' := by
  obtain ⟨es, rfl⟩ := Json.exists_entries h.isObject
  obtain ⟨text, htypes⟩ := types_perm h hkind
  have hmetadata : (Json.obj es).get? "metadata" = some j :=
    (h.others "metadata" (by decide)).trans hj
  have hobject : object c (.obj es) = .ok (.ofEntries (entries c es m)) := object_eq_ok hmetadata hm
  have hnodup : ((entries c es m).map (·.1)).Nodup :=
    nodup_entries htypes (Json.nodup_of_pairwise (Json.isOrdered_obj.mp hitem).1)
  have hget {key : String} {value : Json} :
      (Json.ofEntries (entries c es m)).get? key = some value ↔ (key, value) ∈ entries c es m :=
    Json.get?_ofEntries hnodup
  refine ⟨_, hobject, rfl, isOrdered_of_object hitem hobject, ⟨text, ?_⟩, ?_,
    ⟨j, m, Json.isOrdered_of_get? hitem hmetadata, hj, hm, ?_⟩, fun key hkey => ?_⟩
  · exact hget.mpr ((mem_entries htypes).mpr (.inr (.inr (.inl ⟨rfl, rfl⟩))))
  · exact hget.mpr ((mem_entries htypes).mpr (.inr (.inr (.inr ⟨rfl, rfl⟩))))
  · exact hget.mpr ((mem_entries htypes).mpr (.inr (.inl ⟨rfl, rfl⟩)))
  · rw [← h.others key (fun htype => hkey (.tail _ htype))]
    refine Option.ext fun value => ?_
    rw [hget, mem_entries htypes, Json.get?_eq_some_iff hitem]
    -- None of the keys that are written anew is the one that is looked up.
    have hnot : key ≠ "metadata" ∧ key ≠ "apiVersion" ∧ key ≠ "kind" := by
      simpa [typeKeys] using hkey
    simp [hkey, hnot]

end Hub

end FleetConsole
