import FleetConsole.CommandLine.Run
import FleetConsole.Proofs.Settings.Change
import FleetConsole.Proofs.Settings.Mapping
import Mathlib.Logic.Function.Basic

/-!
# Settings that commands change one by one

A command that sets a setting reads the settings file, changes the one setting, and writes the file
again. The commands of a sequence may be called in different environments, at different times and
with different options. `SetCommand.run_step` says that nothing of this gets into the file: it
depends on the file at the start and on what the commands are told to set, a command that fails
leaves it alone, and one that succeeds changes the setting that it names and no other.
-/

namespace FleetConsole

/-- The texts of the files that can be read, by their paths. -/
abbrev Files := String → Option String

/-- The files after an invocation. -/
def Outcome.filesAfter (o : Outcome) (files : Files) : Files :=
  match o.written with
  | some (path, text) => Function.update files path (some text)
  | none => files

namespace SettingsAction

variable {s s' : Surroundings} {key value : String}

/-- Setting a setting depends on the settings file alone, and not on the environment beside it. -/
theorem run_set_congr (h : s'.settingsFile = s.settingsFile) :
    run s' (.set key value) = run s (.set key value) := by
  rw [run, run, changed, changed, h]

/-- The settings file is changed if it can be read and the setting can be set. -/
theorem changed_eq_ok_iff {file : SettingsFile} :
    changed s key value = .ok file ↔
      ∃ before after, s.settingsFile.readOrDefault = .ok before ∧
        before.set key value = (after, .ok ()) ∧ s.settingsFile.save after = file := by
  unfold changed
  simp only [bind_eq_ok_iff, mapError_eq_ok_iff]
  constructor
  · rintro ⟨before, hread, hrest⟩
    split at hrest
    · next after hset => exact ⟨before, after, hread, hset, Except.ok.inj hrest⟩
    · cases hrest
  · rintro ⟨before, after, hread, hset, rfl⟩
    refine ⟨before, hread, ?_⟩
    rw [hset]
    rfl

/-- A setting that cannot be set leaves all files as they are. -/
theorem filesAfter_of_failure (files : Files) (h : (run s (.set key value)).code ≠ 0) :
    (run s (.set key value)).filesAfter files = files := by
  rw [run] at h ⊢
  cases hchanged : changed s key value with
  | error causes => rfl
  | ok file =>
    rw [hchanged] at h
    exact absurd rfl h

/-- A setting that is set leaves the file with the settings that have the new value in the place of
the old one, and meet the conditions. -/
theorem filesAfter_of_success (files : Files) (h : (run s (.set key value)).code = 0) :
    ∃ k before after, SettingKey.ofText? key = some k ∧
      s.settingsFile.readOrDefault = .ok before ∧ Settings.Assigned k value before after ∧
      after.check = .ok () ∧
      (run s (.set key value)).filesAfter files =
        Function.update files s.settingsPath (some after.text) := by
  rw [run] at h ⊢
  cases hchanged : changed s key value with
  | error causes =>
    rw [hchanged] at h
    cases h
  | ok file =>
    obtain ⟨before, after, hread, hset, rfl⟩ := changed_eq_ok_iff.mp hchanged
    obtain ⟨k, hk, hassigned, hcheck⟩ := Settings.set_eq_ok_iff.mp hset
    exact ⟨k, before, after, hk, hread, hassigned, hcheck, rfl⟩

/-- Settings that can be read from the file and meet the conditions make it valid. -/
theorem run_validate {settings : Settings} (hread : s.settingsFile.readOrDefault = .ok settings)
    (hcheck : settings.check = .ok ()) : run s .validate = .printed "Configuration is valid\n" := by
  have hvalid : s.settingsFile.validate = .ok () := by
    rw [SettingsFile.validate, hread]
    exact hcheck
  rw [run, hvalid]

end SettingsAction

/-- The folder of the settings is the one that the variable for it names, if it is set. -/
theorem Surroundings.settingsFolder_of_variable {s : Surroundings} {folder : String}
    (h : s.value? settingsFolderVariable = some folder) : s.settingsFolder = folder := by
  rw [settingsFolder, h, Option.getD_some]

/-- A command that sets a setting: what it is called in, except for the files that it finds, and the
words of the command line. -/
structure SetCommand where
  called : Surroundings
  words : List String
  options : Options
  key : String
  value : String
  reads : Invocation.ofWords words = .ok ⟨options, .settings (.set key value)⟩

namespace SetCommand

/-- The folder of the settings is the same for some commands, as it is where the variable that names
it has the same value for all of them. -/
def InFolder (folder : String) (commands : List SetCommand) : Prop :=
  ∀ c ∈ commands, c.called.settingsFolder = folder

/-- Two commands set the same setting to the same value, whatever they are called in. -/
def Alike (c c' : SetCommand) : Prop := c'.key = c.key ∧ c'.value = c.value

/-- What the command finds. -/
def found (c : SetCommand) (files : Files) : Surroundings := { c.called with file? := files }

/-- What comes of the command. -/
def outcome (c : SetCommand) (files : Files) : Outcome := CommandLine.run (c.found files) c.words

/-- The files after the command. -/
def filesAfter (c : SetCommand) (files : Files) : Files := (c.outcome files).filesAfter files

/-- The files after a sequence of commands. -/
def run (files : Files) (commands : List SetCommand) : Files :=
  commands.foldl (fun files c => c.filesAfter files) files

variable {c c' : SetCommand} {folder : String} {files files' : Files}

/-- The command sets the setting that its words name. -/
theorem outcome_eq (c : SetCommand) (files : Files) :
    c.outcome files = SettingsAction.run (c.found files) (.set c.key c.value) := by
  rw [outcome, CommandLine.run, c.reads]
  rfl

/-- The command works on a file in the folder of the settings. -/
theorem settingsPath_found (hfolder : c.called.settingsFolder = folder) :
    (c.found files).settingsPath = Surroundings.join folder "config.yaml" :=
  congrArg (Surroundings.join · "config.yaml") hfolder

/-- The command finds the file as the commands before it have left it. -/
theorem settingsFile_found (hfolder : c.called.settingsFolder = folder) :
    (c.found files).settingsFile =
      ⟨Surroundings.join folder "config.yaml", files (Surroundings.join folder "config.yaml")⟩ := by
  rw [Surroundings.settingsFile, settingsPath_found hfolder]
  rfl

/-- Two commands that are told to set the same leave the same settings file, if they find the same.
-/
theorem filesAfter_congr (halike : c.Alike c')
    (hfolder : c.called.settingsFolder = folder) (hfolder' : c'.called.settingsFolder = folder)
    (hfile : files' (Surroundings.join folder "config.yaml") =
      files (Surroundings.join folder "config.yaml")) :
    c'.filesAfter files' (Surroundings.join folder "config.yaml") =
      c.filesAfter files (Surroundings.join folder "config.yaml") := by
  have houtcome : c'.outcome files' = c.outcome files := by
    rw [outcome_eq, outcome_eq, halike.1, halike.2]
    refine SettingsAction.run_set_congr ?_
    rw [settingsFile_found hfolder, settingsFile_found hfolder', hfile]
  unfold filesAfter
  rw [houtcome]
  unfold Outcome.filesAfter
  cases (c.outcome files).written with
  | none => exact hfile
  | some file =>
    obtain ⟨path, text⟩ := file
    simp only [Function.update_apply, hfile]

/-- Two sequences of commands that are told to set the same leave the same settings file, if they
find the same at the start. -/
theorem run_congr {commands commands' : List SetCommand}
    (halike : List.Forall₂ Alike commands commands') (hfolder : InFolder folder commands)
    (hfolder' : InFolder folder commands')
    (hfile : files' (Surroundings.join folder "config.yaml") =
      files (Surroundings.join folder "config.yaml")) :
    run files' commands' (Surroundings.join folder "config.yaml") =
      run files commands (Surroundings.join folder "config.yaml") := by
  -- What the two sequences have in common at each point is the text of the settings file.
  induction halike generalizing files files' with
  | nil => exact hfile
  | cons hhead _ ih =>
    obtain ⟨hc, hrest⟩ := List.forall_mem_cons.mp hfolder
    obtain ⟨hc', hrest'⟩ := List.forall_mem_cons.mp hfolder'
    exact ih hrest hrest' (filesAfter_congr hhead hc hc' hfile)

/-- A command after any others, all of them with the same folder of the settings. The settings file
that it leaves is the one that the same settings leave in any other environments, at any other times
and with any other options, from the same file at the start. If it fails, it leaves every file as it
was. If it succeeds, the settings that are written differ from those that were read, or from the
defaults if there was no file, in the setting that it names, which has the value that it was told;
and if the text that is written reads back as the mapping of these settings, then they are what is
loaded from the file, and the file is valid in every environment. -/
theorem run_step (folder : String) (files₀ : Files) (before : List SetCommand) (c : SetCommand)
    (hfolder : InFolder folder (before ++ [c])) :
    let path := Surroundings.join folder "config.yaml"
    let files := run files₀ before
    let files' := c.filesAfter files
    (∀ (other₀ : Files) (others : List SetCommand), InFolder folder others →
      other₀ path = files₀ path → List.Forall₂ Alike (before ++ [c]) others →
      run other₀ others path = files' path) ∧
    ((c.outcome files).code ≠ 0 → files' = files) ∧
    ((c.outcome files).code = 0 →
      ∃ key loaded changed, SettingKey.ofText? c.key = some key ∧
        SettingsFile.readOrDefault ⟨path, files path⟩ = .ok loaded ∧
        Settings.Assigned key c.value loaded changed ∧
        files' = Function.update files path (some changed.text) ∧
        (changed.ReadsBack →
          SettingsFile.readOrDefault ⟨path, files' path⟩ = .ok changed ∧
          ∀ (s : Surroundings) (o : Options), s.settingsFile = ⟨path, files' path⟩ →
            Invocation.run s ⟨o, .settings .validate⟩ = .printed "Configuration is valid\n")) := by
  intro path files files'
  have hc : c.called.settingsFolder = folder :=
    hfolder c (List.mem_append_right _ List.mem_cons_self)
  refine ⟨fun other₀ others hothers hfile halike => ?_, fun hcode => ?_, fun hcode => ?_⟩
  · have hrun : run files₀ (before ++ [c]) = files' := List.foldl_append
    rw [run_congr halike hfolder hothers hfile, hrun]
  · rw [outcome_eq] at hcode
    show (c.outcome files).filesAfter files = files
    rw [outcome_eq]
    exact SettingsAction.filesAfter_of_failure files hcode
  · rw [outcome_eq] at hcode
    obtain ⟨key, loaded, changed, hkey, hread, hassigned, hcheck, hafter⟩ :=
      SettingsAction.filesAfter_of_success files hcode
    rw [settingsFile_found hc] at hread
    have hpath : (c.found files).settingsPath = path := settingsPath_found hc
    rw [hpath, ← outcome_eq] at hafter
    have hreadback (hback : changed.ReadsBack) :
        SettingsFile.readOrDefault ⟨path, files' path⟩ = .ok changed := by
      have hfile : files' path = some changed.text := by
        rw [show files' = Function.update files path (some changed.text) from hafter,
          Function.update_self]
      simp [SettingsFile.readOrDefault, SettingsFile.read, hfile,
        Settings.ofText?_of_readsBack hcheck hback]
    refine ⟨key, loaded, changed, hkey, hread, hassigned, hafter, fun hback => ?_⟩
    refine ⟨hreadback hback, fun s o hs => SettingsAction.run_validate ?_ hcheck⟩
    rw [hs]
    exact hreadback hback

/-- A command that is called where a variable names another namespace changes nothing but the
colors, and the file that it writes reads back. -/
theorem run_step_colors :
    let c : SetCommand :=
      { called :=
          { environment := [("FLEET9S_CONFIG_DIR", "/cfg"), ("FLEET9S_NAMESPACE", "jobs")]
            file? := fun _ => none
            now := ⟨0, 0, 0⟩ }
        words := ["config", "set", "ui.noColor", "true"]
        options := {}
        key := "ui.noColor"
        value := "true"
        reads := by decide +kernel }
    let files' := c.filesAfter fun _ => none
    InFolder "/cfg" [c] ∧ (c.outcome fun _ => none).code = 0 ∧
      ∃ changed : Settings, Settings.Assigned .noColor "true" {} changed ∧
        SettingsFile.readOrDefault ⟨"/cfg/config.yaml", files' "/cfg/config.yaml"⟩ =
          .ok changed := by
  intro c files'
  have hfolder : InFolder "/cfg" ([] ++ [c]) := by
    intro d hd
    obtain rfl := List.mem_singleton.mp hd
    exact Surroundings.settingsFolder_of_variable rfl
  have hcode : (c.outcome fun _ => none).code = 0 := by decide +kernel
  obtain ⟨key, loaded, changed, hkey, hloaded, hassigned, -, hreads⟩ :=
    (run_step "/cfg" (fun _ => none) [] c hfolder).2.2 hcode
  obtain rfl : {} = loaded := Except.ok.inj hloaded
  obtain rfl : .noColor = key := Option.some.inj hkey
  let written : Settings := { display := { noColor := true } }
  have hvalues : (Yaml.documents? written.text).map (·.map (·.root.value?)) =
      some [some written.mapping] := by
    decide +kernel
  have hback : written.ReadsBack := by
    obtain ⟨ds, hds, hvalue⟩ := Option.map_eq_some_iff.mp hvalues
    obtain ⟨d, rfl, hd⟩ := List.map_eq_singleton_iff.mp hvalue
    exact ⟨d, hds, hd⟩
  obtain rfl : written = changed :=
    (Settings.assigned_of_assign rfl).unique hassigned
  exact ⟨hfolder, hcode, _, hassigned, (hreads hback).1⟩

end SetCommand

end FleetConsole
