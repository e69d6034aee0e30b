import FleetConsole.Proofs.Settings.Change
import FleetConsole.Proofs.Yaml.Value
import FleetConsole.Settings.File

/-!
# Settings as a mapping

Settings are written as a mapping of everything that they hold, without the label selector if there
is none. `Settings.ofText?_of_readsBack` says that nothing is lost on the way back: from a text that
holds this mapping the same settings are read.
-/

namespace FleetConsole

open Yaml (Document Node)
open Yaml.Document

/-- An API version as a mapping. -/
def ApiVersion.mapping (v : ApiVersion) : Json :=
  .obj [("group", .str v.group), ("version", .str v.version)]

/-- Display settings as a mapping. -/
def DisplaySettings.mapping (s : DisplaySettings) : Json :=
  .obj
    [("refreshSeconds", .int s.refreshSeconds.toNat),
     ("manifestRefreshSeconds", .int s.manifestRefreshSeconds.toNat),
     ("clustersColumnWidth", .int s.clustersColumnWidth.toNat), ("noColor", .bool s.noColor)]

/-- Settings as a mapping. A label selector that is absent is left out. -/
def Settings.mapping (s : Settings) : Json :=
  .obj <|
    ("defaultNamespace", .str s.defaultNamespace) ::
      (s.labelSelector.toList.map fun label => ("labelSelector", .str label)) ++
      [("api", s.api.mapping), ("ui", s.display.mapping)]

/-- The text that is written for settings reads back as their mapping. -/
def Settings.ReadsBack (s : Settings) : Prop :=
  ∃ d, Yaml.documents? s.text = some [d] ∧ d.root.value? = some s.mapping

/-- Whether a text reads back can be tested. -/
theorem Settings.readsBack_iff {s : Settings} :
    s.ReadsBack ↔
      (Yaml.documents? s.text).map (·.map (·.root.value?)) = some [some s.mapping] := by
  constructor
  · rintro ⟨d, hd, hvalue⟩
    rw [hd, Option.map_some, List.map_singleton, hvalue]
  · intro h
    obtain ⟨ds, hds, hvalues⟩ := Option.map_eq_some_iff.mp h
    obtain ⟨d, rfl, hvalue⟩ := List.map_eq_singleton_iff.mp hvalues
    exact ⟨d, hds, hvalue⟩

instance (s : Settings) : Decidable s.ReadsBack := decidable_of_iff _ Settings.readsBack_iff.symm

variable {d : Document} {n : Node}

/-- An API version is read from its mapping, whatever stands for what is left out. -/
theorem ApiVersion.recordOf_mapping {v blank : ApiVersion} (h : n.value? = some v.mapping) :
    d.recordOf (readEntry d) blank n = pure v := by
  refine Fills.recordOf ?_ h (by simp)
  exact .cons rfl (fun _ => textOf_of_value?) (.cons rfl (fun _ => textOf_of_value?) .nil)

/-- Display settings are read from their mapping, if no number is zero. -/
theorem DisplaySettings.recordOf_mapping {s blank : DisplaySettings}
    (hrefresh : s.refreshSeconds ≠ 0) (hmanifests : s.manifestRefreshSeconds ≠ 0)
    (hwidth : s.clustersColumnWidth ≠ 0) (h : n.value? = some s.mapping) :
    d.recordOf (readEntry d) blank n = pure s := by
  refine Fills.recordOf ?_ h (by simp)
  exact
    .cons rfl (fun _ => wordOf_of_value? hrefresh) <|
    .cons rfl (fun _ => wordOf_of_value? hmanifests) <|
    .cons rfl (fun _ => wordOf_of_value? hwidth) <|
    .cons rfl (fun _ => boolOf_of_value?) .nil

namespace Settings

variable {s : Settings}

/-- Settings that meet the conditions are read from their mapping. -/
theorem recordOf_mapping (hcheck : s.check = .ok ()) (h : n.value? = some s.mapping) :
    d.recordOf (readEntry d) {} n = pure s := by
  have hadmits := check_eq_ok_iff.mp hcheck
  have hrest (t : Settings) :
      Fills d (readEntry d) [("api", s.api.mapping), ("ui", s.display.mapping)] t
        { t with api := s.api, display := s.display } :=
    .cons rfl (fun _ => ApiVersion.recordOf_mapping) <|
    .cons rfl (fun _ => DisplaySettings.recordOf_mapping (hadmits .refreshSeconds)
      (hadmits .manifestRefreshSeconds) (hadmits .clustersColumnWidth)) .nil
  obtain ⟨ns, labels, api, display⟩ := s
  cases labels with
  | none =>
    -- What is left out is what the defaults have.
    exact Fills.recordOf (.cons rfl (fun _ => textOf_of_value?) (hrest _)) h (by simp)
  | some label =>
    refine Fills.recordOf ?_ h (by simp)
    exact .cons rfl (fun _ => textOf_of_value?) <|
      .cons rfl (fun _ => optional_of_value?) (hrest _)

/-- Settings that meet the conditions are read from the text that is written for them, if the text
reads back as their mapping. -/
theorem ofText?_of_readsBack (hcheck : s.check = .ok ()) (h : s.ReadsBack) :
    ofText? s.text = some s := by
  obtain ⟨d, hd, hvalue⟩ := h
  have hread : d.recordOf (readEntry d) {} d.root = pure s := recordOf_mapping hcheck hvalue
  simp [ofText?, Yaml.typed?, hd, hread]

end Settings

end FleetConsole
