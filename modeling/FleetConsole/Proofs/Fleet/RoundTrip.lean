import FleetConsole.Proofs.Fleet.Decode
import FleetConsole.Proofs.Fleet.Lawful
import FleetConsole.Proofs.Store.Ordered

/-!
# Decoding what was encoded

A record that was decoded from a document is encoded as a document of its kind, and that document is
decoded as the same record with its times in whole seconds (`Kind.decode_encode`). Apart from the
fields, which the law of the record type takes care of, a document has to be accepted as a whole: it
has the name of the first document, and it states the kind where the first one did.

Documents are ordered. This is no condition on where they come from: whatever a snapshot of a text
or the hub answers with makes the round trip.
-/

namespace FleetConsole

/-- A record type whose records state their kind, read under the key `kind` and nowhere else. -/
structure Record.StatesKind {σ : Type} (r : Record σ) (kindText : σ → Option String) : Prop where
  keys : (r.fields.map (·.key)).Nodup
  blank : kindText r.blank = none
  own : ∃ set, r.fields.find? (·.key = "kind") = some (.optional "kind" .string kindText set) ∧
    ∀ v s, kindText (set v s) = v
  others : ∀ f ∈ r.fields, f.key ≠ "kind" → f.Keeps kindText

/-- Applications state their kind. -/
theorem Application.statesKind : record.StatesKind (·.kind) where
  keys := by decide
  blank := rfl
  own := ⟨_, rfl, fun _ _ => rfl⟩
  others := by simp [record, Field.keeps_optional, Field.keeps_plain]

/-- Clusters state their kind. -/
theorem Cluster.statesKind : record.StatesKind (·.kind) where
  keys := by decide
  blank := rfl
  own := ⟨_, rfl, fun _ _ => rfl⟩
  others := by simp [record, Field.keeps_optional, Field.keeps_plain]

/-- Manifest works state their kind. -/
theorem ManifestWork.statesKind : record.StatesKind (·.kind) where
  keys := by decide
  blank := rfl
  own := ⟨_, rfl, fun _ _ => rfl⟩
  others := by simp [record, Field.keeps_optional, Field.keeps_plain]

variable {σ : Type}

namespace Record.StatesKind

variable {r : Record σ} {kindText : σ → Option String}

/-- The kind of a record that was read is the text under `kind`. -/
theorem kind_of_read (h : r.StatesKind kindText) {doc : Json} (hobject : doc.isObject) {s : σ}
    (hread : r.read doc = .ok s) : kindText s = (doc.get? "kind").bind Json.string? := by
  obtain ⟨set, hfind, hset⟩ := h.own
  have hshows : r.Shows "kind" kindText Json.string? := by
    refine ⟨⟨_, hfind, fun j s s' hfield => ?_⟩, h.others⟩
    obtain ⟨rfl, rfl⟩ | ⟨v, hv, rfl⟩ := Field.read_optional hfield
    · rw [hset]
      rfl
    · rw [hset]
      cases j with
      | str t =>
        obtain rfl := Except.ok.inj hv
        rfl
      | _ => cases hv
  cases doc with
  | obj entries =>
    rw [hshows.read hread, h.blank]
    cases (Json.obj entries).get? "kind" <;> rfl
  | _ => cases hobject

/-- A record writes its kind, if it has one. -/
theorem get?_write (h : r.StatesKind kindText) (s : σ) :
    (r.write s).get? "kind" = (kindText s).map .str := by
  obtain ⟨set, hfind, -⟩ := h.own
  exact Record.get?_write h.keys (List.mem_of_find?_eq_some hfind) s

end Record.StatesKind

namespace FleetRecord

variable [FleetRecord σ]

/-- A record that was decoded is encoded as an ordered document that is decoded again, less what is
cut off the record. -/
theorem redecode {cut : σ → σ} (hlawful : (record : Record σ).codec.Lawful cut)
    {kindText : σ → Option String} (hkind : (record : Record σ).StatesKind kindText)
    {metadata : σ → Metadata} (hmeta : (record : Record σ).HasMetadata metadata)
    (hname : ∀ s, (metadata (cut s)).name = (metadata s).name) {doc : Json} (hdoc : doc.isOrdered)
    {s : σ} (h : decode doc = .ok s) :
    (encode s).isOrdered ∧ decode (encode s) = .ok (cut s) ∧ encode (cut s) = encode s := by
  obtain ⟨hobject, hnamed, hcheck, hread⟩ := decode_eq_ok_iff.mp h
  have hreads : (record : Record σ).codec.Reads s := ⟨doc, hdoc, hread⟩
  have hreread : (record : Record σ).read (encode s) = .ok (cut s) := hlawful.reread s hreads
  refine ⟨hlawful.ordered s hreads, ?_, hlawful.write_cut s⟩
  refine decode_eq_ok_iff.mpr ⟨rfl, ?_, checkKind_eq_ok_iff.mpr ?_, hreread⟩
  · -- Both documents have the name of the record.
    have hfirst := hmeta.text_of_read Metadata.shows_name rfl hobject hread
    have hsecond := hmeta.text_of_read Metadata.shows_name rfl rfl hreread
    rw [hname, hfirst] at hsecond
    rw [Json.metadataName, ← hsecond]
    exact hnamed
  · -- The second document states the kind only if the first one did, and then the same.
    rw [encode, hkind.get?_write, hkind.kind_of_read hobject hread]
    obtain hnone | hstated := checkKind_eq_ok_iff.mp hcheck
    · simp [hnone]
    · simp [hstated, Json.string?]

end FleetRecord

namespace Kind

/-- The records of a kind. -/
def Resource : Kind → Type
  | application => Application
  | cluster => Cluster
  | manifestWork => ManifestWork

instance : (k : Kind) → FleetRecord k.Resource
  | application => inferInstanceAs (FleetRecord Application)
  | cluster => inferInstanceAs (FleetRecord Cluster)
  | manifestWork => inferInstanceAs (FleetRecord ManifestWork)

/-- A record of a kind with all its times in whole seconds. -/
def wholeSeconds : (k : Kind) → k.Resource → k.Resource
  | application => Application.wholeSeconds
  | cluster => Cluster.wholeSeconds
  | manifestWork => ManifestWork.wholeSeconds

open FleetRecord

/-- A record that was decoded from a document is encoded as a document of its kind. That document is
decoded as the same record with its times in whole seconds, and this record is encoded as the same
document again. -/
def Reencodes (k : Kind) (doc : Json) : Prop :=
  ∀ s : k.Resource, decode doc = .ok s →
    (encode s).isOrdered ∧ decode (encode s) = .ok (k.wholeSeconds s) ∧
      encode (k.wholeSeconds s) = encode s

/-- An ordered document makes the round trip. -/
theorem reencodes_of_isOrdered (k : Kind) {doc : Json} (hdoc : doc.isOrdered) :
    k.Reencodes doc := by
  intro s h
  cases k with
  | application =>
    exact redecode Application.lawful Application.statesKind
      Application.hasMetadata (fun _ => rfl) hdoc h
  | cluster =>
    exact redecode Cluster.lawful Cluster.statesKind Cluster.hasMetadata
      (fun _ => rfl) hdoc h
  | manifestWork =>
    exact redecode ManifestWork.lawful ManifestWork.statesKind
      ManifestWork.hasMetadata (fun _ => rfl) hdoc h

/-- For every kind, every ordered document makes the round trip, and so does every document that
a snapshot of a text or the hub answers with. -/
theorem decode_encode (k : Kind) :
    (∀ doc : Json, doc.isOrdered → k.Reencodes doc) ∧
      (∀ text origin s, Snapshot.ofText text origin = .ok s → s.store.AnswersWith k.Reencodes) ∧
      ∀ h : Hub, h.store.AnswersWith k.Reencodes := by
  refine ⟨fun _ => k.reencodes_of_isOrdered, fun text origin s hs => ?_, fun h => ?_⟩
  · exact (Snapshot.answersOrdered hs).imp fun _ => k.reencodes_of_isOrdered
  · exact h.answersOrdered.imp fun _ => k.reencodes_of_isOrdered

/-- A manifest work with an unknown state, a null and a label map, its status a list, a count at the
edge of its range, and a creation time with an offset in the middle of a leap second; and a snapshot
that holds a manifest work whose entries stand in no order. -/
theorem decode_encode_unusual :
    let doc : Json := .obj
      [("metadata", .obj
        [("creationTimestamp", .str "2024-02-29 23:59:60.5-05:30"),
         ("labels", .obj [("a", .str "1"), ("b", .str "")]),
         ("name", .str "w"), ("uid", .null)]),
       ("status", .arr [.int Json.maxInt64, .arr [.arr [.str "Ready"]], .str "Lost"])]
    let metadata : Metadata :=
      { name := some "w", labels := some [("a", "1"), ("b", "")]
        creation := some ⟨19783, 19799, 1500000000⟩ }
    let status : ManifestWorkStatus :=
      { observedGeneration := Json.maxInt64, conditions := [{ type := "Ready" }]
        state := some (.other "Lost") }
    let s : manifestWork.Resource := ({ metadata, status } : ManifestWork)
    let text := "metadata:\n  name: w\nkind: ManifestWork\n"
    let works : Snapshot :=
      ⟨"works.yaml",
        [.obj [("kind", .str "ManifestWork"), ("metadata", .obj [("name", .str "w")])]]⟩
    (decode doc = .ok s ∧ (encode s).isOrdered ∧
      decode (encode s) = .ok (manifestWork.wholeSeconds s) ∧
      encode (manifestWork.wholeSeconds s) = encode s) ∧
      Snapshot.ofText text "works.yaml" = .ok works ∧
      works.store.list ⟨⟨.standard, .manifestWork⟩, .all, .everything⟩ = .ok works.documents ∧
      works.store.AnswersWith manifestWork.Reencodes := by
  intro doc metadata status s text works
  have hread : decode doc = .ok s := rfl
  have hworks : Snapshot.ofText text "works.yaml" = .ok works := by decide +kernel
  obtain ⟨hordered, hsnapshots, -⟩ := decode_encode manifestWork
  exact ⟨⟨hread, hordered doc rfl s hread⟩, hworks, by decide +kernel,
    hsnapshots _ _ works hworks⟩

end Kind

end FleetConsole
