import FleetConsole.Proofs.CommandLine.Edits
import FleetConsole.Proofs.Settings.Accepted

/-!
# Settings files that commands can repair

A settings file may hold values that do not meet the conditions on them. A command that sets a
setting checks all of them and writes nothing if one is wrong. So it repairs a file with a single
wrong value, by a valid value in its place (`SetCommand.repairs_of_others`). If two values are
wrong, every command leaves one of them and fails, and the file stays as it is, however many
commands there are (`SetCommand.run_of_two_wrong`). `SetCommand.run_repairs` puts the two together.
-/

namespace FleetConsole

/-- The default of a setting is valid for it. -/
theorem SettingKey.accepts_default (key : SettingKey) : key.Accepts (({} : Settings).get key) := by
  have hcheck : ({} : Settings).check = .ok () := by decide +kernel
  have hvalue : key.valueOf? (({} : Settings).get key) = some (({} : Settings).value key) := by
    cases key <;> decide +kernel
  exact accepts_iff.mpr ⟨_, hvalue, Settings.check_eq_ok_iff.mp hcheck key⟩

namespace Settings

variable {s s' : Settings} {key k k' : SettingKey}

/-- Where two values are wrong, nothing can be set: one of them stays. -/
theorem set_of_two_wrong (hne : k ≠ k') (h : ¬ k.Admits (s.value k))
    (h' : ¬ k'.Admits (s.value k')) (name t : String) : s.set name t ≠ (s', .ok ()) := by
  intro hset
  obtain ⟨key, -, hassigned, hcheck⟩ := set_eq_ok_iff.mp hset
  have hadmits := check_eq_ok_iff.mp hcheck
  by_cases hk : k = key
  · have hk' : k' ≠ key := fun heq => hne (hk.trans heq.symm)
    apply h'
    rw [← hassigned.keeps k' hk']
    exact hadmits k'
  · apply h
    rw [← hassigned.keeps k hk]
    exact hadmits k

/-- Where one value may be wrong, a valid one can be set in its place. -/
theorem exists_set_of_others (hothers : ∀ k ≠ key, k.Admits (s.value k)) {t : String}
    (haccepts : key.Accepts t) : ∃ s', s.set key.text t = (s', .ok ()) := by
  obtain ⟨s', hassign⟩ := (exists_assign_iff (s := s)).mpr haccepts.fits
  have hassigned := assigned_of_assign hassign
  have hcheck := hassigned.check_of_others hothers haccepts
  exact ⟨s', set_eq_ok_iff.mpr ⟨key, SettingKey.ofText?_text key, hassigned, hcheck⟩⟩

end Settings

/-- Settings that meet the conditions are read from the file that they were written to, if the text
reads back as their mapping. -/
theorem SettingsFile.readOrDefault_of_readsBack {s : Settings} (hcheck : s.check = .ok ())
    (hback : s.ReadsBack) (path : String) : readOrDefault ⟨path, some s.text⟩ = .ok s := by
  simp [readOrDefault, read, Settings.ofText?_of_readsBack hcheck hback]

/-- A setting is set exactly if the file can be read and the value can be set in what it holds. -/
theorem SettingsAction.run_set_code_eq_zero_iff {s : Surroundings} {key value : String} :
    (run s (.set key value)).code = 0 ↔
      ∃ before after, s.settingsFile.readOrDefault = .ok before ∧
        before.set key value = (after, .ok ()) := by
  rw [run]
  constructor
  · intro h
    cases hchanged : changed s key value with
    | error causes =>
      rw [hchanged] at h
      cases h
    | ok file =>
      obtain ⟨before, after, hread, hset, -⟩ := changed_eq_ok_iff.mp hchanged
      exact ⟨before, after, hread, hset⟩
  · rintro ⟨before, after, hread, hset⟩
    rw [changed_eq_ok_iff.mpr ⟨before, after, hread, hset, rfl⟩]
    rfl

namespace Surroundings

/-- The settings file that is found is the one in a folder. -/
def Finds (s : Surroundings) (folder : String) (files : Files) : Prop :=
  s.settingsFile = ⟨join folder "config.yaml", files (join folder "config.yaml")⟩

/-- To validate the settings file says that it is valid. -/
def Validates (s : Surroundings) (o : Options) : Prop :=
  Invocation.run s ⟨o, .settings .validate⟩ = .printed "Configuration is valid\n"

/-- A settings file that can be read is valid exactly if the settings in it meet the conditions. -/
theorem validates_iff {s : Surroundings} {o : Options} {settings : Settings}
    (hread : s.settingsFile.readOrDefault = .ok settings) :
    s.Validates o ↔ settings.check = .ok () := by
  refine ⟨fun h => ?_, SettingsAction.run_validate hread⟩
  have hrun : SettingsAction.run s .validate = .printed "Configuration is valid\n" := h
  have hvalidate : s.settingsFile.validate = settings.check := by
    rw [SettingsFile.validate, hread]
    rfl
  rw [SettingsAction.run, hvalidate] at hrun
  cases hcheck : settings.check with
  | ok done => rfl
  | error e =>
    rw [hcheck] at hrun
    have hcode : (1 : UInt32) = 0 := congrArg Outcome.code hrun
    exact absurd hcode (by decide)

end Surroundings

namespace SetCommand

variable {c : SetCommand} {folder : String} {files : Files} {settings : Settings}

/-- The settings file in a folder can be read, and what it holds are these settings. -/
def Holds (folder : String) (files : Files) (settings : Settings) : Prop :=
  SettingsFile.readOrDefault ⟨Surroundings.join folder "config.yaml",
    files (Surroundings.join folder "config.yaml")⟩ = .ok settings

/-- The command that sets a setting to its default. -/
def restoring (called : Surroundings) (key : SettingKey) : SetCommand where
  called
  words := ["config", "set", key.text, ({} : Settings).get key]
  options := {}
  key := key.text
  value := ({} : Settings).get key
  reads := by cases key <;> decide +kernel

/-- Whoever finds the settings file reads what it holds. -/
theorem Holds.read (h : Holds folder files settings) {s : Surroundings}
    (hfinds : s.Finds folder files) : s.settingsFile.readOrDefault = .ok settings := by
  rw [hfinds]
  exact h

/-- The command finds the settings file in its folder. -/
theorem finds_of_inFolder (hfolder : c.called.settingsFolder = folder) (files : Files) :
    (c.found files).Finds folder files := settingsFile_found hfolder

/-- The command succeeds exactly if it can set its setting in what the file holds. -/
theorem code_eq_zero_iff (hfolder : c.called.settingsFolder = folder)
    (hread : Holds folder files settings) :
    (c.outcome files).code = 0 ↔ ∃ after, settings.set c.key c.value = (after, .ok ()) := by
  rw [outcome_eq, SettingsAction.run_set_code_eq_zero_iff,
    hread.read (finds_of_inFolder hfolder files)]
  constructor
  · rintro ⟨before, after, hbefore, hset⟩
    obtain rfl := Except.ok.inj hbefore
    exact ⟨after, hset⟩
  · rintro ⟨after, hset⟩
    exact ⟨settings, after, rfl, hset⟩

/-- Where two values are wrong, no sequence of commands changes a file. -/
theorem run_of_two_wrong (hread : Holds folder files settings) {k k' : SettingKey} (hne : k ≠ k')
    (h : ¬ k.Admits (settings.value k)) (h' : ¬ k'.Admits (settings.value k'))
    {commands : List SetCommand} (hfolder : InFolder folder commands) :
    run files commands = files := by
  induction commands with
  | nil => rfl
  | cons c commands ih =>
    obtain ⟨hc, hrest⟩ := List.forall_mem_cons.mp hfolder
    have hcode : (c.outcome files).code ≠ 0 := by
      rw [Ne, code_eq_zero_iff hc hread]
      rintro ⟨after, hset⟩
      exact Settings.set_of_two_wrong hne h h' _ _ hset
    have hsame : c.filesAfter files = files := by
      rw [outcome_eq] at hcode
      rw [filesAfter, outcome_eq]
      exact SettingsAction.filesAfter_of_failure files hcode
    calc run files (c :: commands)
      _ = run (c.filesAfter files) commands := rfl
      _ = run files commands := by rw [hsame]
      _ = files := ih hrest

/-- Where a value is wrong, the file is valid to nobody. -/
theorem not_validates (hread : Holds folder files settings) {k : SettingKey}
    (h : ¬ k.Admits (settings.value k)) {s : Surroundings} (hfinds : s.Finds folder files)
    (o : Options) : ¬ s.Validates o := by
  rw [Surroundings.validates_iff (hread.read hfinds)]
  intro hcheck
  exact h (Settings.check_eq_ok_iff.mp hcheck k)

/-- The command repairs the settings file: it succeeds, and the file that it leaves is valid, if the
text that is written reads back as the mapping of the settings. -/
structure Repairs (c : SetCommand) (folder : String) (files : Files) (key : SettingKey)
    (settings : Settings) : Prop where
  succeeds : (c.outcome files).code = 0
  /-- What is written are the settings with the new value in the place of the old one. -/
  written : ∃ repaired, Settings.Assigned key c.value settings repaired ∧
    c.filesAfter files (Surroundings.join folder "config.yaml") = some repaired.text ∧
      (repaired.ReadsBack → ∀ (s : Surroundings) (o : Options),
        s.Finds folder (c.filesAfter files) → s.Validates o)

/-- Where one value may be wrong, a command that sets a valid one in its place repairs the file. -/
theorem repairs_of_others (hfolder : c.called.settingsFolder = folder)
    (hread : Holds folder files settings) {key : SettingKey}
    (hothers : ∀ k ≠ key, k.Admits (settings.value k)) (hkey : c.key = key.text)
    (haccepts : key.Accepts c.value) : c.Repairs folder files key settings := by
  have hcode : (c.outcome files).code = 0 := by
    rw [code_eq_zero_iff hfolder hread, hkey]
    exact Settings.exists_set_of_others hothers haccepts
  refine ⟨hcode, ?_⟩
  rw [outcome_eq] at hcode
  obtain ⟨k, loaded, repaired, hk, hloaded, hassigned, hcheck, hafter⟩ :=
    SettingsAction.filesAfter_of_success files hcode
  have hsame : settings = loaded := by
    rw [hread.read (finds_of_inFolder hfolder files)] at hloaded
    exact Except.ok.inj hloaded
  have hnamed : key = k := by
    rw [hkey, SettingKey.ofText?_text] at hk
    exact Option.some.inj hk
  subst hsame hnamed
  have htext :
      c.filesAfter files (Surroundings.join folder "config.yaml") = some repaired.text := by
    rw [settingsPath_found hfolder, ← outcome_eq] at hafter
    rw [filesAfter, hafter, Function.update_self]
  refine ⟨repaired, hassigned, htext, fun hback s o hfinds => ?_⟩
  have hholds : Holds folder (c.filesAfter files) repaired := by
    rw [Holds, htext]
    exact SettingsFile.readOrDefault_of_readsBack hcheck hback _
  exact (Surroundings.validates_iff (hholds.read hfinds)).mpr hcheck

/-- A settings file that can be read is repaired by any command that sets a valid value in the place
of the only wrong one, and there is such a command wherever it is called. If two values are wrong,
no sequence of commands changes the file, and it is valid to nobody. -/
theorem run_repairs (folder : String) (files : Files) (settings : Settings)
    (hread : Holds folder files settings) :
    (∀ key : SettingKey, (∀ k ≠ key, k.Admits (settings.value k)) →
      ∀ called : Surroundings, called.settingsFolder = folder →
        (∃ c : SetCommand, c.called = called ∧ c.key = key.text ∧ key.Accepts c.value) ∧
          ∀ c : SetCommand, c.called = called → c.key = key.text → key.Accepts c.value →
            c.Repairs folder files key settings) ∧
      ∀ k k' : SettingKey, k ≠ k' → ¬ k.Admits (settings.value k) →
        ¬ k'.Admits (settings.value k') → ∀ commands, InFolder folder commands →
          run files commands = files ∧
            ∀ (s : Surroundings) (o : Options), s.Finds folder files → ¬ s.Validates o := by
  refine ⟨fun key hothers called hfolder => ⟨?_, fun c hcalled hkey haccepts => ?_⟩,
    fun k k' hne h h' commands hfolder => ⟨?_, fun s o hfinds => ?_⟩⟩
  · exact ⟨restoring called key, rfl, rfl, key.accepts_default⟩
  · subst hcalled
    exact repairs_of_others hfolder hread hothers hkey haccepts
  · exact run_of_two_wrong hread hne h h' hfolder
  · exact not_validates hread h hfinds o

/-- A blank group makes the file invalid, and naming one makes it valid. -/
theorem run_repairs_group :
    let c : SetCommand :=
      { called :=
          { environment := [("FLEET9S_CONFIG_DIR", "/cfg")]
            file? := fun _ => none
            now := ⟨0, 0, 0⟩ }
        words := ["config", "set", "api.group", "fleet.example"]
        options := {}
        key := "api.group"
        value := "fleet.example"
        reads := by decide +kernel }
    let files : Files := fun path =>
      if path = "/cfg/config.yaml" then some "api:\n  group: ''\n" else none
    ¬ (c.found files).Validates {} ∧ (c.found (c.filesAfter files)).Validates {} := by
  intro c files
  let settings : Settings := { api := ⟨"", "v1alpha1"⟩ }
  have hread : Holds "/cfg" files settings := by
    unfold Holds
    decide +kernel
  have hothers : ∀ k ≠ SettingKey.apiGroup, k.Admits (settings.value k) := by
    intro k hk
    have hcheck : ({} : Settings).check = .ok () := by decide +kernel
    have hdefault := Settings.check_eq_ok_iff.mp hcheck k
    cases k with
    | apiGroup => exact absurd rfl hk
    | _ => exact hdefault
  have hblank : ¬ SettingKey.apiGroup.Admits (settings.value .apiGroup) :=
    fun hadmits => hadmits rfl
  have hfolder : c.called.settingsFolder = "/cfg" := Surroundings.settingsFolder_of_variable rfl
  have haccepts : SettingKey.apiGroup.Accepts "fleet.example" := ⟨'f', by decide, by decide⟩
  have hrepairs := ((run_repairs "/cfg" files settings hread).1 .apiGroup hothers c.called
    hfolder).2 c rfl rfl haccepts
  obtain ⟨repaired, hassigned, -, hvalid⟩ := hrepairs.written
  let written : Settings := { api := ⟨"fleet.example", "v1alpha1"⟩ }
  obtain rfl : written = repaired := (Settings.assigned_of_assign rfl).unique hassigned
  have hback : written.ReadsBack := by decide +kernel
  exact ⟨not_validates hread hblank (finds_of_inFolder hfolder files) {},
    hvalid hback _ {} (finds_of_inFolder hfolder _)⟩

/-- A file with two zeros where there must be none is valid to nobody, whatever is set. -/
theorem run_of_two_zeros :
    let files : Files := fun path =>
      if path = "/cfg/config.yaml" then
        some "ui:\n  refreshSeconds: 0\n  clustersColumnWidth: 0\n"
      else none
    Holds "/cfg" files { display := { refreshSeconds := 0, clustersColumnWidth := 0 } } ∧
      ¬ ∃ (commands : List SetCommand) (s : Surroundings) (o : Options),
        InFolder "/cfg" commands ∧ s.Finds "/cfg" (run files commands) ∧ s.Validates o := by
  intro files
  let settings : Settings := { display := { refreshSeconds := 0, clustersColumnWidth := 0 } }
  have hread : Holds "/cfg" files settings := by
    unfold Holds
    decide +kernel
  refine ⟨hread, ?_⟩
  rintro ⟨commands, s, o, hfolder, hfinds, hvalid⟩
  have hseconds : ¬ SettingKey.refreshSeconds.Admits (settings.value .refreshSeconds) :=
    fun hadmits => hadmits rfl
  have hwidth : ¬ SettingKey.clustersColumnWidth.Admits (settings.value .clustersColumnWidth) :=
    fun hadmits => hadmits rfl
  have hdifferent : SettingKey.refreshSeconds ≠ .clustersColumnWidth := by decide
  rw [run_of_two_wrong hread hdifferent hseconds hwidth hfolder] at hfinds
  exact not_validates hread hseconds hfinds o hvalid

end SetCommand

end FleetConsole
