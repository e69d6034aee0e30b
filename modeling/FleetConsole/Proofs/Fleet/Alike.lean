import FleetConsole.Proofs.Fleet.RoundTrip
import FleetConsole.Proofs.Record.Parts

/-!
# Records that tell the same

A resource has metadata, and beside it what it declares and what is reported about it; the API
version and the kind only say which type it is of. Two records tell the same if they agree in all
but these two texts, up to fractions of seconds (`Kind.Alike`). `Kind.decode_alike` says which
changes of a document lead to such a record: the two texts are exchanged, and the metadata is
written anew.
-/

namespace FleetConsole

/-- The keys of the texts that say which type an object is of. -/
def typeKeys : List String := ["apiVersion", "kind"]

variable {σ α β : Type}

/-- A record type of resources: the type is given by texts that may be absent, and the metadata,
what is declared and what is reported are parts of their own. -/
structure Record.IsResource (r : Record σ) (metadata : σ → Metadata) (spec : σ → α)
    (status : σ → β) : Prop where
  uniform : ∀ f ∈ r.fields, f.Uniform
  typed : ∀ key ∈ typeKeys, ∃ get set,
    r.fields.find? (·.key = key) = some (.optional key .string get set)
  hasMetadata : r.HasMetadata metadata
  hasSpec : ∃ c, r.HasPart "spec" c spec
  hasStatus : ∃ c, r.HasPart "status" c status

/-- Applications are resources. -/
theorem Application.isResource : record.IsResource (·.metadata) (·.spec) (·.status) where
  uniform := by simp [record, Field.uniform_optional, Field.uniform_plain]
  typed := List.forall_mem_cons.mpr ⟨⟨_, _, rfl⟩, List.forall_mem_singleton.mpr ⟨_, _, rfl⟩⟩
  hasMetadata := hasMetadata
  hasSpec :=
    ⟨_, ⟨_, rfl, fun _ _ => rfl⟩, by simp [record, Field.keeps_optional, Field.keeps_plain]⟩
  hasStatus :=
    ⟨_, ⟨_, rfl, fun _ _ => rfl⟩, by simp [record, Field.keeps_optional, Field.keeps_plain]⟩

/-- Clusters are resources. -/
theorem Cluster.isResource : record.IsResource (·.metadata) (·.spec) (·.status) where
  uniform := by simp [record, Field.uniform_optional, Field.uniform_plain]
  typed := List.forall_mem_cons.mpr ⟨⟨_, _, rfl⟩, List.forall_mem_singleton.mpr ⟨_, _, rfl⟩⟩
  hasMetadata := hasMetadata
  hasSpec :=
    ⟨_, ⟨_, rfl, fun _ _ => rfl⟩, by simp [record, Field.keeps_optional, Field.keeps_plain]⟩
  hasStatus :=
    ⟨_, ⟨_, rfl, fun _ _ => rfl⟩, by simp [record, Field.keeps_optional, Field.keeps_plain]⟩

/-- Manifest works are resources. -/
theorem ManifestWork.isResource : record.IsResource (·.metadata) (·.spec) (·.status) where
  uniform := by simp [record, Field.uniform_optional, Field.uniform_plain]
  typed := List.forall_mem_cons.mpr ⟨⟨_, _, rfl⟩, List.forall_mem_singleton.mpr ⟨_, _, rfl⟩⟩
  hasMetadata := hasMetadata
  hasSpec :=
    ⟨_, ⟨_, rfl, fun _ _ => rfl⟩, by simp [record, Field.keeps_optional, Field.keeps_plain]⟩
  hasStatus :=
    ⟨_, ⟨_, rfl, fun _ _ => rfl⟩, by simp [record, Field.keeps_optional, Field.keeps_plain]⟩

namespace Record.IsResource

variable {r : Record σ} {metadata : σ → Metadata} {spec : σ → α} {status : σ → β}

/-- The metadata is a part of the record. -/
theorem metadata_part (h : r.IsResource metadata spec status) :
    r.HasPart "metadata" Metadata.record.codec metadata :=
  ⟨h.hasMetadata.own, h.hasMetadata.others⟩

/-- Any text is read as one that says which type an object is of. -/
theorem fits_text (h : r.IsResource metadata spec status) {key : String} (hkey : key ∈ typeKeys)
    (text : String) : r.Fits (key, .str text) := by
  obtain ⟨get, set, htyped⟩ := h.typed key hkey
  intro f hfind s
  rw [htyped] at hfind
  obtain rfl := Option.some.inj hfind
  exact ⟨set (some text) s, rfl⟩

/-- What can be read as metadata fits. -/
theorem fits_metadata (h : r.IsResource metadata spec status) {j : Json} {m : Metadata}
    (hj : Metadata.record.read j = .ok m) : r.Fits ("metadata", j) := by
  obtain ⟨set, hown, -⟩ := h.hasMetadata.own
  intro f hfind s
  rw [hown] at hfind
  obtain rfl := Option.some.inj hfind
  exact ⟨set m s, map_eq_ok_iff.mpr ⟨m, hj, rfl⟩⟩

variable {entries entries' : List (String × Json)} {s : σ}

/-- A document that gives an object other texts for its type and other metadata, and nothing else,
is read as a record that differs in these. -/
theorem read_of_retyped (h : r.IsResource metadata spec status)
    (hread : r.read (.obj entries) = .ok s) (hordered : (Json.obj entries').isOrdered)
    (htypes : ∀ key ∈ typeKeys, ∃ text, (Json.obj entries').get? key = some (.str text))
    {j : Json} (hmetadata : (Json.obj entries').get? "metadata" = some j) {m : Metadata}
    (hj : Metadata.record.read j = .ok m)
    (hsame : ∀ key ∉ "metadata" :: typeKeys,
      (Json.obj entries').get? key = (Json.obj entries).get? key) :
    ∃ s', r.read (.obj entries') = .ok s' ∧ metadata s' = m ∧ spec s' = spec s ∧
      status s' = status s := by
  have hfits := (Record.exists_read_iff h.uniform).mp ⟨s, hread⟩
  -- Every entry of the new document fits, since it is known or an entry of the old one.
  have hfits' : ∀ e ∈ entries', r.Fits e := by
    rintro ⟨key, value⟩ he
    have hvalue : (Json.obj entries').get? key = some value :=
      (Json.get?_eq_some_iff hordered).mpr he
    by_cases hkey : key ∈ "metadata" :: typeKeys
    · obtain rfl | hkey := List.mem_cons.mp hkey
      · obtain rfl : j = value := Option.some.inj (hmetadata.symm.trans hvalue)
        exact h.fits_metadata hj
      · obtain ⟨text, htext⟩ := htypes key hkey
        obtain rfl : .str text = value := Option.some.inj (htext.symm.trans hvalue)
        exact h.fits_text hkey text
    · exact hfits _ (Json.mem_of_get? ((hsame key hkey).symm.trans hvalue))
  obtain ⟨s', hread'⟩ := (Record.exists_read_iff h.uniform).mpr hfits'
  obtain ⟨_, hspec⟩ := h.hasSpec
  obtain ⟨_, hstatus⟩ := h.hasStatus
  refine ⟨s', hread', ?_, ?_, ?_⟩
  · have hpart := h.metadata_part.read_part h.uniform hread' hmetadata
    exact Except.ok.inj (hpart.symm.trans hj)
  · exact hspec.congr hread hread' (hsame "spec" (by decide))
  · exact hstatus.congr hread hread' (hsame "status" (by decide))

end Record.IsResource

/-- Two records of a resource tell the same, the second one with its times in whole seconds. -/
structure TellsSame (metadata : σ → Metadata) (spec : σ → α) (status : σ → β) (s s' : σ) :
    Prop where
  metadata : metadata s' = (metadata s).wholeSeconds
  spec : spec s' = spec s
  status : status s' = status s

/-- A document is another one with texts for its type and its metadata written anew. -/
structure Json.IsRetyped (kind : Kind) (doc doc' : Json) : Prop where
  isObject : doc'.isObject
  ordered : doc'.isOrdered
  apiVersion : ∃ text, doc'.get? "apiVersion" = some (.str text)
  kind : doc'.get? "kind" = some (.str kind.text)
  metadata : ∃ j m, j.isOrdered ∧ doc.get? "metadata" = some j ∧ Metadata.record.read j = .ok m ∧
    doc'.get? "metadata" = some (Metadata.record.write m)
  others : ∀ key ∉ "metadata" :: typeKeys, doc'.get? key = doc.get? key

namespace FleetRecord

variable [FleetRecord σ] {metadata : σ → Metadata} {spec : σ → α} {status : σ → β} {doc doc' : Json}
  {s : σ}

/-- A document that is decoded has metadata, and this is the metadata of the record. -/
theorem exists_metadata (h : (record : Record σ).IsResource metadata spec status)
    (hdecode : decode doc = .ok s) :
    ∃ j, doc.get? "metadata" = some j ∧ Metadata.record.read j = .ok (metadata s) := by
  obtain ⟨hobject, hnamed, -, hread⟩ := decode_eq_ok_iff.mp hdecode
  cases hj : doc.get? "metadata" with
  | none =>
    refine absurd ?_ hnamed
    simp [Json.metadataName, Json.stringAt, Json.stringAt?, Json.path?, hj]
  | some j =>
    cases doc with
    | obj entries => exact ⟨j, rfl, h.metadata_part.read_part h.uniform hread hj⟩
    | _ => cases hobject

/-- A document that is decoded is decoded with another type and its metadata written anew, as a
record that tells the same. -/
theorem decode_of_isRetyped (h : (record : Record σ).IsResource metadata spec status)
    (hretyped : doc.IsRetyped (kind σ) doc') (hdecode : decode doc = .ok s) :
    ∃ s', decode doc' = .ok s' ∧ TellsSame metadata spec status s s' := by
  obtain ⟨hobject, hnamed, -, hread⟩ := decode_eq_ok_iff.mp hdecode
  obtain ⟨entries, rfl⟩ := Json.exists_entries hobject
  obtain ⟨entries', rfl⟩ := Json.exists_entries hretyped.isObject
  obtain ⟨j, m, hj, hget, hm, hget'⟩ := hretyped.metadata
  obtain rfl : metadata s = m :=
    Except.ok.inj ((h.metadata_part.read_part h.uniform hread hget).symm.trans hm)
  have hreread : Metadata.record.read (Metadata.record.write (metadata s)) =
      .ok (metadata s).wholeSeconds :=
    Metadata.lawful.reread (metadata s) ⟨j, hj, hm⟩
  have htypes : ∀ key ∈ typeKeys, ∃ text, (Json.obj entries').get? key = some (.str text) :=
    List.forall_mem_cons.mpr
      ⟨hretyped.apiVersion, List.forall_mem_singleton.mpr ⟨_, hretyped.kind⟩⟩
  obtain ⟨s', hread', hmetadata, hspec, hstatus⟩ :=
    h.read_of_retyped hread hretyped.ordered htypes hget' hreread hretyped.others
  refine ⟨s', decode_eq_ok_iff.mpr ⟨rfl, ?_, ?_, hread'⟩, hmetadata, hspec, hstatus⟩
  · -- The name is in the metadata, and it is not a time.
    have hname := h.hasMetadata.text_of_read Metadata.shows_name rfl rfl hread
    have hname' := h.hasMetadata.text_of_read Metadata.shows_name rfl rfl hread'
    rw [hmetadata] at hname'
    rw [Json.metadataName, ← hname']
    exact hname ▸ hnamed
  · exact checkKind_eq_ok_iff.mpr (.inr hretyped.kind)

end FleetRecord

namespace Kind

/-- Two records of a kind tell the same. -/
def Alike : (k : Kind) → k.Resource → k.Resource → Prop
  | application => TellsSame Application.metadata Application.spec Application.status
  | cluster => TellsSame Cluster.metadata Cluster.spec Cluster.status
  | manifestWork => TellsSame ManifestWork.metadata ManifestWork.spec ManifestWork.status

open FleetRecord

/-- The records of a kind are of this kind. -/
theorem kind_resource (k : Kind) : FleetRecord.kind k.Resource = k := by
  cases k <;> rfl

/-- A document that is decoded as a record of a kind says no kind or this one. -/
theorem kind_of_decode (k : Kind) {doc : Json} {s : k.Resource} (hdecode : decode doc = .ok s) :
    doc.get? "kind" = none ∨ doc.get? "kind" = some (.str k.text) := by
  have hcheck := (decode_eq_ok_iff.mp hdecode).2.2.1
  rw [kind_resource] at hcheck
  exact checkKind_eq_ok_iff.mp hcheck

/-- What a document of a kind holds as metadata can be read, if the document can be decoded. -/
theorem exists_metadata (k : Kind) {doc : Json} {s : k.Resource} (hdecode : decode doc = .ok s) :
    ∃ j m, doc.get? "metadata" = some j ∧ Metadata.record.read j = .ok m := by
  cases k with
  | application =>
    obtain ⟨j, hj, hm⟩ := FleetRecord.exists_metadata Application.isResource hdecode
    exact ⟨j, _, hj, hm⟩
  | cluster =>
    obtain ⟨j, hj, hm⟩ := FleetRecord.exists_metadata Cluster.isResource hdecode
    exact ⟨j, _, hj, hm⟩
  | manifestWork =>
    obtain ⟨j, hj, hm⟩ := FleetRecord.exists_metadata ManifestWork.isResource hdecode
    exact ⟨j, _, hj, hm⟩

/-- A document of a kind with another type and its metadata written anew is decoded as a record that
tells the same. -/
theorem decode_alike (k : Kind) {doc doc' : Json} (hretyped : doc.IsRetyped k doc')
    {s : k.Resource} (hdecode : decode doc = .ok s) :
    ∃ s' : k.Resource, decode doc' = .ok s' ∧ k.Alike s s' := by
  cases k with
  | application => exact decode_of_isRetyped Application.isResource hretyped hdecode
  | cluster => exact decode_of_isRetyped Cluster.isResource hretyped hdecode
  | manifestWork => exact decode_of_isRetyped ManifestWork.isResource hretyped hdecode

end Kind

end FleetConsole
