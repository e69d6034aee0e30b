import FleetConsole.Proofs.Fleet.RoundTrip
import FleetConsole.Proofs.Record.Foreign

/-!
# Documents of a later schema

A later version of the fleet's API may report more than the record types know.
`Kind.decode_extended` says that this changes nothing: a document with any number of foreign keys in
its record objects, at any depth, is decoded as the document without them, as the same record or
with the same error.

The fields take care of themselves, since their codecs read both documents alike. What is checked
before them is the name and the kind of the document, and both stand under keys that the record
types know.
-/

namespace FleetConsole

variable {σ : Type}

/-- A record type whose records state their kind knows its key. -/
theorem Record.StatesKind.knows {r : Record σ} {kindText : σ → Option String}
    (h : r.StatesKind kindText) : r.codec.Knows [] "kind" := by
  obtain ⟨set, hfind, hset⟩ := h.own
  have hread : r.read (.obj [("kind", .str "")]) = .ok (set (some "") r.blank) := by
    rw [read_single, readEntry_of_field hfind]
    rfl
  intro hsame
  -- The text would be the kind of the blank record.
  have hblank : set (some "") r.blank = r.blank := Except.ok.inj (hread.symm.trans hsame)
  have hkind := hset (some "") r.blank
  rw [hblank, h.blank] at hkind
  cases hkind

/-- A record type whose records have metadata knows the keys of the name. -/
theorem Record.HasMetadata.knows {r : Record σ} {metadata : σ → Metadata}
    (h : r.HasMetadata metadata) : r.codec.Knows ["metadata"] "name" := by
  obtain ⟨set, hfind, hset⟩ := h.own
  have hread (j : Json) {m : Metadata} (hj : Metadata.record.read j = .ok m) :
      r.read (.obj [("metadata", j)]) = .ok (set m r.blank) := by
    rw [read_single, readEntry_of_field hfind]
    exact map_eq_ok_iff.mpr ⟨m, hj, rfl⟩
  have hname : Metadata.record.read (.obj [("name", .str "")]) = .ok { name := some "" } := rfl
  have hempty : Metadata.record.read (.obj []) = .ok {} := rfl
  intro hsame
  -- Both records would have the same metadata, with a name and without.
  have hset' : set { name := some "" } r.blank = set {} r.blank :=
    Except.ok.inj ((hread _ hname).symm.trans (hsame.trans (hread _ hempty)))
  have hmetadata := congrArg metadata hset'
  rw [hset, hset] at hmetadata
  cases hmetadata

namespace FleetRecord

/-- The kind check asks only for the text under the key. -/
theorem checkKind_congr {kind : Kind} {name : String} {doc doc' : Json}
    (h : (doc'.get? "kind").map Json.string? = (doc.get? "kind").map Json.string?) :
    checkKind kind name doc' = checkKind kind name doc := by
  have hcheck (d : Json) : checkKind kind name d =
      match (d.get? "kind").map Json.string? with
      | none => .ok ()
      | some (some k) => if k = kind.text then .ok () else .error (.otherKind name k)
      | some none => .error .kindNotText := by
    unfold checkKind
    cases d.get? "kind" with
    | none => rfl
    | some j => cases j <;> rfl
  rw [hcheck, hcheck, h]

variable [FleetRecord σ]

/-- One foreign key does not change what a document is decoded as. -/
theorem decode_of_inserts {kindText : σ → Option String}
    (hkind : (record : Record σ).StatesKind kindText) {metadata : σ → Metadata}
    (hmeta : (record : Record σ).HasMetadata metadata) {doc doc' : Json}
    (h : (record : Record σ).codec.Inserts doc doc') :
    (decode doc' : Except FleetError σ) = decode doc := by
  have hread : (record : Record σ).read doc' = (record : Record σ).read doc := h.read_eq
  have hmetadata : doc'.metadataName = doc.metadataName := by
    have htext (d : Json) : d.stringAt? ["metadata", "name"] =
        ((d.path? ["metadata", "name"]).map Json.string?).join := by
      rw [Json.stringAt?]
      cases d.path? ["metadata", "name"] <;> rfl
    have hpath := h.text_eq hmeta.knows
    rw [List.singleton_append] at hpath
    rw [Json.metadataName, Json.metadataName, Json.stringAt, Json.stringAt, htext, htext, hpath]
  have hcheck : checkKind (kind σ) doc.metadataName doc' =
      checkKind (kind σ) doc.metadataName doc := by
    have hpath := h.text_eq hkind.knows
    simp only [List.nil_append, Json.path?, Option.bind_fun_some] at hpath
    exact checkKind_congr hpath
  unfold decode ofDocument
  rw [h.isObject_eq, hmetadata, hcheck, hread]

end FleetRecord

namespace Kind

open FleetRecord

/-- A document with any number of foreign keys more than another one, each of them inserted into a
record object of the kind's record type. -/
def Extends (k : Kind) : Json → Json → Prop :=
  Relation.ReflTransGen (record : Record k.Resource).codec.Inserts

/-- Foreign keys do not change what a document is decoded as. -/
theorem decode_extended (k : Kind) {doc doc' : Json} (h : k.Extends doc doc') :
    (decode doc' : Except FleetError k.Resource) = decode doc := by
  induction h with
  | refl => rfl
  | tail _ hstep ih =>
    rw [← ih]
    cases k with
    | application => exact decode_of_inserts Application.statesKind Application.hasMetadata hstep
    | cluster => exact decode_of_inserts Cluster.statesKind Cluster.hasMetadata hstep
    | manifestWork => exact decode_of_inserts ManifestWork.statesKind ManifestWork.hasMetadata hstep

/-- Foreign keys at the top, in an owner reference and in a condition of a rollout that is written
as a list leave the record as it is. -/
theorem decode_extended_nested :
    let doc (owner condition : Json) (more : List (String × Json)) : Json :=
      .obj
        ([("kind", .str "Application"),
          ("metadata", .obj [("name", .str "web"), ("ownerReferences", .arr [owner])]),
          ("status", .obj [("clusters", .arr [.arr [.str "east", .arr [condition]]])])] ++ more)
    let owner (more : List (String × Json)) : Json := .obj (("uid", .str "7") :: more)
    let condition (more : List (String × Json)) : Json := .obj (more ++ [("type", .str "Ready")])
    let foreign : List (String × Json) := [("phase", .obj [("kind", .int 3)])]
    let plain := doc (owner []) (condition []) []
    let extended := doc (owner foreign) (condition foreign) foreign
    application.Extends plain extended ∧
      (decode extended : Except FleetError Application) = decode plain ∧
      (decode plain : Except FleetError Application) = .ok
        { kind := some "Application"
          metadata := { name := some "web", ownerReferences := some [{ uid := "7" }] }
          status :=
            { clusters := [{ cluster := "east", conditions := [{ type := "Ready" }] }] } } := by
  intro doc owner condition foreign plain extended
  have htop : application.Extends plain (doc (owner []) (condition []) foreign) :=
    .single (.entry Application.record _ [] rfl _)
  have howner : Metadata.record.codec.Inserts
      (.obj [("name", .str "web"), ("ownerReferences", .arr [owner []])])
      (.obj [("name", .str "web"), ("ownerReferences", .arr [owner foreign])]) :=
    .field Metadata.record [("name", .str "web")] [] rfl (.optional _ _ rfl)
      (.item _ [] [] (.entry OwnerReference.record [("uid", .str "7")] [] rfl _))
  have hcondition : ApplicationStatus.record.codec.Inserts
      (.obj [("clusters", .arr [.arr [.str "east", .arr [condition []]]])])
      (.obj [("clusters", .arr [.arr [.str "east", .arr [condition foreign]]])]) :=
    .field ApplicationStatus.record [] [] rfl (.plain _ _ rfl)
      (.item _ [] [] (.position ClusterRollout.record rfl [.str "east"] [] rfl (.plain _ _ rfl)
        (.item _ [] [] (.entry Condition.record [] [("type", .str "Ready")] rfl _))))
  have hextends : application.Extends plain extended :=
    (htop.tail (.field Application.record [("kind", .str "Application")] _ rfl (.plain _ _ rfl)
        howner)).tail
      (.field Application.record [("kind", .str "Application"), ("metadata", _)] foreign rfl
        (.plain _ _ rfl) hcondition)
  exact ⟨hextends, decode_extended application hextends, rfl⟩

end Kind

end FleetConsole
