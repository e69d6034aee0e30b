import FleetConsole.Proofs.Fleet.RoundTrip
import FleetConsole.Proofs.Time.Age
import FleetConsole.Table.Layout

/-!
# The column of ages

Every object of a kind that says when it was created shows under the column of ages how long ago
that was (`Kind.ages_shown`). The creation time takes a detour: it is written as a text and read
back, which cuts it to whole seconds and does nothing else to it, as long as the year is written
without a sign. An object that was created earlier shows no smaller age, except around a leap
second.
-/

namespace FleetConsole

open FleetRecord (decode)

/-! ## Creation times of what was decoded -/

/-- The instant that a tree denotes. -/
def Json.instant? : Json → Option Instant
  | .str s => (Instant.ofText s).toOption
  | _ => none

/-- An instant that a tree denotes is proper. -/
theorem Instant.proper_of_instant? {j : Json} {t : Instant} (h : j.instant? = some t) :
    t.Proper := by
  cases j with
  | str s =>
    cases hread : Instant.ofText s with
    | error e => simp [Json.instant?, hread, Except.toOption] at h
    | ok t' =>
      obtain rfl : t' = t := by simpa [Json.instant?, hread, Except.toOption] using h
      exact proper_of_ofText hread
  | _ => cases h

/-- Metadata shows the instant under `creationTimestamp`. -/
theorem Metadata.shows_creation :
    record.Shows "creationTimestamp" (·.creation) Json.instant? where
  own := by
    refine ⟨_, rfl, fun j s s' hread => ?_⟩
    obtain ⟨rfl, rfl⟩ | ⟨v, hv, rfl⟩ := Field.read_optional hread
    · rfl
    · cases j with
      | str text =>
        simp only [Codec.instant] at hv
        split at hv
        · next t heq =>
          obtain rfl := Except.ok.inj hv
          rw [Json.instant?, heq]
          rfl
        · cases hv
      | _ => cases hv
  others := by simp [record, Field.keeps_optional]

/-- The creation time of a record that was read is proper. -/
theorem Record.HasMetadata.proper_of_read {σ : Type} {r : Record σ} {metadata : σ → Metadata}
    (h : r.HasMetadata metadata) {doc : Json} {s : σ} (hobject : doc.isObject)
    (hread : r.read doc = .ok s) {t : Instant} (hcreation : (metadata s).creation = some t) :
    t.Proper := by
  obtain ⟨entries, rfl⟩ := Json.exists_entries hobject
  obtain ⟨set, hfind, hset⟩ := h.own
  have hsees := (Metadata.shows_creation.of_part rfl hfind hset h.others).read hread
  have hempty : Metadata.record.blank.creation = none := rfl
  simp only [Function.comp_apply, h.blank, hcreation, hempty] at hsees
  cases hm : (Json.obj entries).get? "metadata" with
  | none => simp [hm] at hsees
  | some m =>
    cases hj : m.get? "creationTimestamp" with
    | none => simp [hm, hj] at hsees
    | some j =>
      rw [hm, Option.map_some, Option.getD_some, hj, Option.map_some, Option.getD_some] at hsees
      exact Instant.proper_of_instant? hsees.symm

/-! ## What is shown of a kind -/

namespace Kind

/-- The metadata of the objects of a kind. -/
def metadata : (k : Kind) → k.Resource → Metadata
  | application => Application.metadata
  | cluster => Cluster.metadata
  | manifestWork => ManifestWork.metadata

/-- The layout of the table of a kind. -/
def layout (clustersWidth : Nat) : (k : Kind) → Layout k.Resource
  | application => Layout.applications clustersWidth
  | cluster => Layout.clusters
  | manifestWork => Layout.manifestWorks

end Kind

/-- What is shown of an object under a column. -/
def Layout.shown? {σ : Type} (l : Layout σ) (now : Instant) (column : Column) (s : σ) :
    Option String :=
  (l.header.zip ((l.row s).display now)).lookup column

namespace Kind

/-- Under the column of ages every kind shows the time since the creation. -/
theorem shown?_age (k : Kind) (width : Nat) (now : Instant) (s : k.Resource) :
    (k.layout width).shown? now .age s =
      some ((Cell.age (k.metadata s).creationTime).display now) := by
  cases k <;> rfl

/-- The creation time of an object that was decoded is proper. -/
theorem proper_of_decode (k : Kind) {doc : Json} {s : k.Resource} (h : decode doc = .ok s)
    {t : Instant} (hcreation : (k.metadata s).creation = some t) : t.Proper := by
  obtain ⟨hobject, hread⟩ := FleetRecord.read_of_decode h
  cases k with
  | application => exact Application.hasMetadata.proper_of_read hobject hread hcreation
  | cluster => exact Cluster.hasMetadata.proper_of_read hobject hread hcreation
  | manifestWork => exact ManifestWork.hasMetadata.proper_of_read hobject hread hcreation

/-- An object was created at an instant, in a year that is written without a sign. -/
structure Created (k : Kind) (s : k.Resource) (t : Instant) : Prop where
  decoded : ∃ doc, decode doc = .ok s
  creation : (k.metadata s).creation = some t
  year : 0 ≤ t.year ∧ t.year ≤ 9999

/-- What an object shows of its creation. -/
structure ShowsAge (k : Kind) (width : Nat) (now : Instant) (s : k.Resource) (t : Instant) :
    Prop where
  /-- The creation time is the instant cut to whole seconds. -/
  time : (k.metadata s).creationTime = some t.wholeSecond
  /-- Under the column of ages it shows the age of the difference from that time. -/
  shown : (k.layout width).shown? now .age s =
    some (Age.of (now.nanosSince t.wholeSecond)).text
  /-- The difference is the plain one, as long as no leap second is involved. -/
  difference : now.nano < Instant.nanosPerSecond → t.nano < Instant.nanosPerSecond →
    now.nanosSince t.wholeSecond = now.sinceEpoch - t.wholeSecond.sinceEpoch

/-- At any time, every object that was created in a year of four digits shows how long ago that was,
and of two objects the one that was not created after the other one shows no smaller age. Only if
now is in a leap second before the last second of its day, the one was created in a leap second at
the end of a day and the other one in the first second of the day after, its age may be smaller. -/
theorem ages_shown (width : Nat) (now : Instant) {k k' : Kind} {s : k.Resource} {s' : k'.Resource}
    {t t' : Instant} (h : k.Created s t) (h' : k'.Created s' t') :
    k.ShowsAge width now s t ∧ (t.NotAfter t' → ¬now.Skips t t' →
      (Age.of (now.nanosSince t'.wholeSecond)).nanos ≤
        (Age.of (now.nanosSince t.wholeSecond)).nanos) := by
  obtain ⟨doc, hdoc⟩ := h.decoded
  obtain ⟨doc', hdoc'⟩ := h'.decoded
  have hproper := k.proper_of_decode hdoc h.creation
  have hproper' := k'.proper_of_decode hdoc' h'.creation
  have htime : (k.metadata s).creationTime = some t.wholeSecond := by
    rw [Metadata.creationTime, h.creation, Option.bind_some, hproper.ofStrictText?_wholeText,
      if_pos h.year]
  refine ⟨⟨htime, ?_, fun hnow ht => ?_⟩, fun hle hskips => ?_⟩
  · rw [shown?_age, htime, Cell.display, ageText_eq]
  · refine Instant.nanosSince_of_plain hnow ?_
    rw [← Nat.not_le, t.leap_wholeSecond]
    exact Nat.not_le.mpr ht
  · exact Age.nanos_mono (Instant.nanosSince_antitone hproper hproper' hle hskips)

/-- An application that was created in the last nanosecond before a leap second, and a cluster that
was created in the last one of it. -/
theorem ages_shown_leap :
    let doc (time : String) : Json :=
      .obj [("metadata", .obj [("creationTimestamp", .str time), ("name", .str "hub")])]
    let now : Instant := ⟨19844, 120, 500⟩
    let t : Instant := ⟨19843, 86399, 999999999⟩
    let t' : Instant := ⟨19843, 86399, 1999999999⟩
    let s : application.Resource := ({ metadata := { name := some "hub", creation := some t } } :
      Application)
    let s' : cluster.Resource := ({ metadata := { name := some "hub", creation := some t' } } :
      Cluster)
    decode (doc "2024-04-30T23:59:59.999999999Z") = .ok s ∧
      decode (doc "2024-04-30T23:59:60.999999999Z") = .ok s' ∧ t.NotAfter t' ∧ ¬now.Skips t t' ∧
      application.ShowsAge 30 now s t ∧
      (Age.of (now.nanosSince t'.wholeSecond)).nanos ≤
        (Age.of (now.nanosSince t.wholeSecond)).nanos := by
  intro doc now t t' s s'
  have hread : decode (doc "2024-04-30T23:59:59.999999999Z") = .ok s := rfl
  have hread' : decode (doc "2024-04-30T23:59:60.999999999Z") = .ok s' := rfl
  have hle : t.NotAfter t' := .inr ⟨rfl, .inr ⟨rfl, by decide⟩⟩
  have hskips : ¬now.Skips t t' := fun h => absurd h.now_leap (by decide)
  have h : application.Created s t := ⟨⟨_, hread⟩, rfl, by decide⟩
  have h' : cluster.Created s' t' := ⟨⟨_, hread'⟩, rfl, by decide⟩
  obtain ⟨hshows, hmono⟩ := ages_shown 30 now h h'
  exact ⟨hread, hread', hle, hskips, hshows, hmono hle hskips⟩

/-- Of two clusters the one that was created earlier, in a leap second, shows the smaller age a
minute later, when now is in a leap second as well. -/
theorem ages_shown_skipped :
    let doc (time : String) : Json :=
      .obj [("metadata", .obj [("creationTimestamp", .str time), ("name", .str "hub")])]
    let now : Instant := ⟨19844, 59, 1000000000⟩
    let t : Instant := ⟨19843, 86399, 1000000000⟩
    let t' : Instant := ⟨19844, 0, 0⟩
    let hub (t : Instant) : cluster.Resource :=
      ({ metadata := { name := some "hub", creation := some t } } : Cluster)
    decode (doc "2024-04-30T23:59:60Z") = .ok (hub t) ∧
      decode (doc "2024-05-01T00:00:00Z") = .ok (hub t') ∧
      Instant.ofText "2024-05-01T00:00:60Z" = .ok now ∧ t.NotAfter t' ∧
      (cluster.layout 30).shown? now .age (hub t) = some "59s" ∧
      (cluster.layout 30).shown? now .age (hub t') = some "1m" ∧
      (⟨59, .second⟩ : Age).nanos < (⟨1, .minute⟩ : Age).nanos :=
  ⟨rfl, rfl, by decide +kernel, .inl (by decide), by decide +kernel, by decide +kernel, by decide⟩

end Kind

end FleetConsole
