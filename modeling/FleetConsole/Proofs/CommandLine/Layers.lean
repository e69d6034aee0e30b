import FleetConsole.CommandLine.Run
import FleetConsole.Proofs.Record.Outcome
import FleetConsole.Proofs.Yaml.Typed

/-!
# The layers of the settings

Three settings have a layer above the settings file: a variable of the environment. Below the file
are the built-in defaults. `Invocation.settings_layered` says which layer decides when resources are
read: the layers hold as long as the file is absent or can be parsed. A file that cannot be parsed
takes the variables down with it, since the defaults then stand in for all layers at once.
-/

namespace FleetConsole

/-- The settings that a variable of the environment overrides. -/
inductive Layered where
  | ns
  | apiGroup
  | apiVersion
deriving DecidableEq, Repr

namespace Layered

/-- The variable that overrides a setting. -/
def variableName : Layered → String
  | ns => Surroundings.namespaceVariable
  | apiGroup => Surroundings.groupVariable
  | apiVersion => Surroundings.versionVariable

/-- The keys that lead to a setting in the file. -/
def path : Layered → List String
  | ns => ["defaultNamespace"]
  | apiGroup => ["api", "group"]
  | apiVersion => ["api", "version"]

/-- The value of a setting. -/
def value (s : Settings) : Layered → String
  | ns => s.defaultNamespace
  | apiGroup => s.api.group
  | apiVersion => s.api.version

/-- The built-in default of a setting. -/
def default (k : Layered) : String := k.value {}

end Layered

open Yaml (Document Follow Node)
open Yaml.Document (Shows)

variable {d : Document}

/-- An entry that is read as a text gives the text in the place that it sets. -/
theorem Yaml.Document.Shows.of_text {σ : Type} {read : String → Option (Node → σ → Follow σ)}
    {key default : String} {view : σ → String} {set : String → σ → σ}
    (hown : read key = some fun n s => do return set (← d.textOf n) s)
    (hset : ∀ v s, view (set v s) = v)
    (hothers : ∀ k f, k ≠ key → read k = some f →
      ∀ n s s', (f n s).ComesTo s' → view s' = view s) :
    Shows read key view (d.Gives [] default) where
  own := by
    refine ⟨_, hown, fun n s s' hread => ?_⟩
    obtain ⟨v, hv, rfl⟩ := hread.exists_of_map
    rw [hset]
    exact .inl hv
  others := hothers

/-- The entry `group` of an API version holds the group, and no other entry changes it. -/
theorem ApiVersion.shows_group {default : String} :
    Shows (readEntry d) "group" (·.group) (d.Gives [] default) := by
  refine .of_text rfl (fun _ _ => rfl) fun k f hk hf n s s' hread => ?_
  unfold readEntry at hf
  split at hf
  · exact absurd rfl hk
  · cases hf
    obtain ⟨v, -, rfl⟩ := hread.exists_of_map
    rfl
  · cases hf

/-- The entry `version` of an API version holds the version, and no other entry changes it. -/
theorem ApiVersion.shows_version {default : String} :
    Shows (readEntry d) "version" (·.version) (d.Gives [] default) := by
  refine .of_text rfl (fun _ _ => rfl) fun k f hk hf n s s' hread => ?_
  unfold readEntry at hf
  split at hf
  · cases hf
    obtain ⟨v, -, rfl⟩ := hread.exists_of_map
    rfl
  · exact absurd rfl hk
  · cases hf

namespace Settings

/-- The entry `defaultNamespace` of the settings holds the namespace, and no other entry changes it.
-/
theorem shows_ns {default : String} :
    Shows (readEntry d) "defaultNamespace" (·.defaultNamespace) (d.Gives [] default) := by
  refine .of_text rfl (fun _ _ => rfl) fun k f hk hf n s s' hread => ?_
  -- Every other entry of the settings sets a part beside the namespace.
  unfold readEntry at hf
  split at hf
  · exact absurd rfl hk
  all_goals cases hf
  all_goals
    obtain ⟨v, -, rfl⟩ := hread.exists_of_map
    rfl

/-- What an API version shows, the settings show under the key `api`. -/
theorem shows_api {view : ApiVersion → String} {key default : String}
    (h : Shows (ApiVersion.readEntry d) key view (d.Gives [] default))
    (hblank : view .standard = default) :
    Shows (readEntry d) "api" (fun s => view s.api) (d.Gives [key] default) where
  own := by
    refine ⟨_, rfl, fun n s s' hread => ?_⟩
    obtain ⟨v, hv, rfl⟩ := hread.exists_of_map
    exact h.gives hblank hv
  others := by
    intro k f hk hf n s s' hread
    unfold readEntry at hf
    split at hf
    case h_3 => exact absurd rfl hk
    all_goals cases hf
    all_goals
      obtain ⟨v, -, rfl⟩ := hread.exists_of_map
      rfl

end Settings

namespace Layered

/-- The settings of a text have what its document gives, and the defaults for what it does not
give. -/
theorem gives_of_ofText? {text : String} {settings : Settings}
    (h : Settings.ofText? text = some settings) (k : Layered) :
    ∃ d, Yaml.documents? text = some [d] ∧ d.Gives k.path k.default d.root (k.value settings) := by
  obtain ⟨d, hd, hread⟩ := Yaml.comesTo_of_typed? h
  refine ⟨d, hd, ?_⟩
  cases k with
  | ns => exact Settings.shows_ns.gives rfl hread
  | apiGroup => exact (Settings.shows_api ApiVersion.shows_group rfl).gives rfl hread
  | apiVersion => exact (Settings.shows_api ApiVersion.shows_version rfl).gives rfl hread

/-- A variable that is set decides over the settings below it. -/
theorem value_override (s : Surroundings) (settings : Settings) (k : Layered) :
    k.value (settings.override s.overrides) =
      (s.value? k.variableName).getD (k.value settings) := by
  cases k <;> rfl

end Layered

/-- A settings file cannot be parsed. -/
def SettingsFile.Malformed (f : SettingsFile) : Prop :=
  ∃ text, f.text = some text ∧ Settings.ofText? text = none

/-- What the file layer says of a setting: the default if there is no file, and otherwise what its
document gives. -/
def SettingsFile.Gives (f : SettingsFile) (k : Layered) (v : String) : Prop :=
  match f.text with
  | none => v = k.default
  | some text => ∃ d, Yaml.documents? text = some [d] ∧ d.Gives k.path k.default d.root v

/-- A file that can be parsed, or is absent, has settings, and they are what the file gives. -/
theorem SettingsFile.readOrDefault_of_not_malformed {f : SettingsFile} (h : ¬ f.Malformed) :
    ∃ settings, f.readOrDefault = .ok settings ∧ ∀ k : Layered, f.Gives k (k.value settings) := by
  obtain ⟨path, _ | text⟩ := f
  · exact ⟨{}, rfl, fun _ => rfl⟩
  · cases hread : Settings.ofText? text with
    | none => exact absurd ⟨text, rfl, hread⟩ h
    | some settings =>
      refine ⟨settings, ?_, fun k => k.gives_of_ofText? hread⟩
      simp [readOrDefault, read, hread]

namespace Invocation

/-- With a settings file that is absent or can be parsed, a variable decides if it is set, and
otherwise the file layer does. -/
theorem value_settings {s : Surroundings} (h : ¬ s.settingsFile.Malformed) (k : Layered) :
    ∃ below, s.settingsFile.Gives k below ∧
      k.value (settings s).1 = (s.value? k.variableName).getD below := by
  obtain ⟨file, hfile, hgives⟩ := SettingsFile.readOrDefault_of_not_malformed h
  refine ⟨k.value file, hgives k, ?_⟩
  rw [← Layered.value_override]
  simp [settings, SettingsFile.load, hfile, Except.map]

/-- Without options about namespaces, and with a file that is absent or can be parsed, a variable
that is set decides about the scope. -/
theorem scope_of_variable {s : Surroundings} (h : ¬ s.settingsFile.Malformed) {o : Options}
    (hall : o.allNamespaces = false) (hns : o.ns = none) {v : String}
    (hv : s.value? Surroundings.namespaceVariable = some v) :
    scope o (settings s).1 = Scope.ofText v := by
  obtain ⟨below, -, hvalue⟩ := value_settings h .ns
  rw [Layered.variableName, hv, Option.getD_some] at hvalue
  simp [scope, hall, hns, ← hvalue, Layered.value]

end Invocation

end FleetConsole
