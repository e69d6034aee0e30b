import FleetConsole.Fleet.Decode
import FleetConsole.Proofs.Record.Read

/-!
# What decoding a document keeps

The store reads the name, the namespace and the kind of a document where the document states them,
and a record has them from its fields. `FleetRecord.name_of_decode` and `FleetRecord.ns_of_decode`
say that both agree on every document that is decoded, and `FleetRecord.decode_error` that a
document which states its kind is never refused for it.
-/

namespace FleetConsole

/-- A text field shows the text of a tree. Null and an absent field count as the empty text. -/
theorem Metadata.read_text {key : String} {get : Metadata → Option String}
    {set : Option String → Metadata → Metadata} (hset : ∀ v s, get (set v s) = v) {j : Json}
    {s s' : Metadata} (hread : (Field.optional key .string get set).read j s = .ok s') :
    (get s').getD "" = j.string?.getD "" := by
  obtain ⟨rfl, rfl⟩ | ⟨v, hv, rfl⟩ := Field.read_optional hread
  · rw [hset]
    rfl
  · rw [hset]
    cases j with
    | str t =>
      obtain rfl : t = v := Except.ok.inj hv
      rfl
    | _ => cases hv

/-- Metadata shows the text under `name`. -/
theorem Metadata.shows_name :
    record.Shows "name" (·.name.getD "") fun j => j.string?.getD "" where
  own := ⟨_, rfl, fun _ _ _ => read_text fun _ _ => rfl⟩
  others := by simp [record, Field.keeps_optional]

/-- Metadata shows the text under `namespace`. -/
theorem Metadata.shows_ns :
    record.Shows "namespace" (·.ns.getD "") fun j => j.string?.getD "" where
  own := ⟨_, rfl, fun _ _ _ => read_text fun _ _ => rfl⟩
  others := by simp [record, Field.keeps_optional]

variable {σ : Type}

/-- A record type whose records have metadata, read under the key of metadata and nowhere else. -/
structure Record.HasMetadata (r : Record σ) (metadata : σ → Metadata) : Prop where
  blank : metadata r.blank = {}
  own : ∃ set, r.fields.find? (·.key = "metadata") =
    some (.plain "metadata" Metadata.record.codec metadata set) ∧
      ∀ v s, metadata (set v s) = v
  others : ∀ f ∈ r.fields, f.key ≠ "metadata" → f.Keeps metadata

/-- Applications have metadata. -/
theorem Application.hasMetadata : record.HasMetadata (·.metadata) where
  blank := rfl
  own := ⟨_, rfl, fun _ _ => rfl⟩
  others := by simp [record, Field.keeps_optional, Field.keeps_plain]

/-- Clusters have metadata. -/
theorem Cluster.hasMetadata : record.HasMetadata (·.metadata) where
  blank := rfl
  own := ⟨_, rfl, fun _ _ => rfl⟩
  others := by simp [record, Field.keeps_optional, Field.keeps_plain]

/-- Manifest works have metadata. -/
theorem ManifestWork.hasMetadata : record.HasMetadata (·.metadata) where
  blank := rfl
  own := ⟨_, rfl, fun _ _ => rfl⟩
  others := by simp [record, Field.keeps_optional, Field.keeps_plain]

/-- A text that metadata shows is the text at its path in the document. -/
theorem Record.HasMetadata.text_of_read {r : Record σ} {metadata : σ → Metadata}
    (h : r.HasMetadata metadata) {key : String} {text : Metadata → String}
    (hshows : Metadata.record.Shows key text fun j => j.string?.getD "")
    (hblank : text {} = "") {doc : Json} {s : σ} (hobject : doc.isObject)
    (hread : r.read doc = .ok s) : text (metadata s) = doc.stringAt ["metadata", key] := by
  obtain ⟨entries, rfl⟩ := Json.exists_entries hobject
  obtain ⟨set, hfind, hset⟩ := h.own
  have hsees := (hshows.of_part rfl hfind hset h.others).read hread
  have hempty : text Metadata.record.blank = "" := hblank
  simp only [Function.comp_apply, h.blank, hblank, hempty] at hsees
  rw [hsees]
  -- The path leads through the same two keys.
  simp only [Json.stringAt, Json.stringAt?, Json.path?]
  cases (Json.obj entries).get? "metadata" with
  | none => rfl
  | some m =>
    simp only [Option.map_some, Option.getD_some, Option.bind_some]
    cases m.get? key with
    | none => rfl
    | some j => rfl

/-- A reason that lies in what a document holds: it has no name, or one of its fields does not fit.
-/
def Undecodable.IsOfContent (doc : Json) (reason : Undecodable) : Prop :=
  (reason = .unnamed ∧ doc.metadataName = "") ∨
    ∃ m : Misfit, reason = .misfit doc.metadataName m.message

namespace FleetRecord

variable [FleetRecord σ]

/-- The kind check passes a document that states no kind or the expected one. -/
theorem checkKind_eq_ok_iff {kind : Kind} {name : String} {doc : Json} :
    checkKind kind name doc = .ok () ↔
      doc.get? "kind" = none ∨ doc.get? "kind" = some (.str kind.text) := by
  unfold checkKind
  cases doc.get? "kind" with
  | none => simp
  | some j =>
    cases j with
    | str k => by_cases hk : k = kind.text <;> simp [hk]
    | _ => simp

/-- A document is decoded if it is an object with a name that passes the kind check, and its record
type reads it. -/
theorem decode_eq_ok_iff {doc : Json} {s : σ} :
    decode doc = .ok s ↔ doc.isObject ∧ doc.metadataName ≠ "" ∧
      checkKind (kind σ) doc.metadataName doc = .ok () ∧ (record : Record σ).read doc = .ok s := by
  have hdecode : decode doc = .ok s ↔ (ofDocument doc : Except Undecodable σ) = .ok s := by
    unfold decode
    cases (ofDocument doc : Except Undecodable σ) <;> simp
  rw [hdecode, ofDocument]
  by_cases hobject : doc.isObject
  · by_cases hname : doc.metadataName = ""
    · simp [hobject, hname]
    · rw [if_neg (by simp [hobject]), if_neg hname, bind_eq_ok_iff]
      constructor
      · rintro ⟨⟨⟩, hcheck, hmatch⟩
        split at hmatch
        · next hread =>
          rw [Except.ok.inj hmatch] at hread
          exact ⟨hobject, hname, hcheck, hread⟩
        · cases hmatch
      · rintro ⟨-, -, hcheck, hread⟩
        exact ⟨(), hcheck, by rw [hread]⟩
  · simp [hobject]

/-- A document that is decoded is an object that its record type reads. -/
theorem read_of_decode {doc : Json} {s : σ} (h : decode doc = .ok s) :
    doc.isObject ∧ (record : Record σ).read doc = .ok s := by
  obtain ⟨hobject, -, -, hread⟩ := decode_eq_ok_iff.mp h
  exact ⟨hobject, hread⟩

/-- The reason why a document that states its kind is no record of it lies in what the document
holds. It is never that the document is no object, and never its kind. -/
theorem decode_error {doc : Json} {e : FleetError}
    (hkind : doc.get? "kind" = some (.str (kind σ).text))
    (h : (decode doc : Except FleetError σ) = .error e) :
    ∃ reason : Undecodable, e = .undecodable (kind σ).text reason.message ∧
      reason.IsOfContent doc := by
  obtain ⟨reason, hdoc, rfl⟩ : ∃ reason, (ofDocument doc : Except Undecodable σ) = .error reason ∧
      e = .undecodable (kind σ).text reason.message := by
    unfold decode at h
    split at h
    · cases h
    · next reason hreason => exact ⟨reason, hreason, (Except.error.inj h).symm⟩
  refine ⟨reason, rfl, ?_⟩
  unfold ofDocument at hdoc
  split at hdoc
  · -- What states a kind is an object.
    next hobject =>
    cases doc with
    | obj entries => simp [Json.isObject] at hobject
    | _ => cases hkind
  · split at hdoc
    · next hname => exact .inl ⟨(Except.error.inj hdoc).symm, hname⟩
    · obtain hcheck | ⟨-, -, hread⟩ := bind_eq_error_iff.mp hdoc
      · -- The kind is the expected one.
        rw [checkKind_eq_ok_iff.mpr (.inr hkind)] at hcheck
        cases hcheck
      · split at hread
        · cases hread
        · next m _ => exact .inr ⟨m, (Except.error.inj hread).symm⟩

/-- A decoded record has the name that its document states. -/
theorem name_of_decode {metadata : σ → Metadata} (hmeta : (record : Record σ).HasMetadata metadata)
    {doc : Json} {s : σ} (h : decode doc = .ok s) :
    (metadata s).name.getD "" = doc.metadataName :=
  hmeta.text_of_read Metadata.shows_name rfl (read_of_decode h).1 (read_of_decode h).2

/-- A decoded record has the namespace that its document states. -/
theorem ns_of_decode {metadata : σ → Metadata} (hmeta : (record : Record σ).HasMetadata metadata)
    {doc : Json} {s : σ} (h : decode doc = .ok s) :
    (metadata s).ns.getD "" = doc.metadataNamespace :=
  hmeta.text_of_read Metadata.shows_ns rfl (read_of_decode h).1 (read_of_decode h).2

end FleetRecord

end FleetConsole
