import FleetConsole.Fleet.Coordinate
import FleetConsole.Fleet.Selector
import FleetConsole.Table.Layout

/-!
# Settings

The settings of the console, the keys by which users name them, and the conditions that they have to
meet.
-/

namespace FleetConsole

/-- Settings of the display. -/
structure DisplaySettings where
  /-- Seconds between two requests of a list. -/
  refreshSeconds : UInt64 := 2
  /-- Seconds between two requests of an application's manifests. -/
  manifestRefreshSeconds : UInt64 := 600
  /-- The greatest width of a list of clusters. -/
  clustersColumnWidth : UInt64 := 30
  noColor : Bool := false
deriving DecidableEq, Repr

/-- Settings. -/
structure Settings where
  /-- The namespace to start with. -/
  defaultNamespace : String := "all"
  /-- The label selector of every listing. -/
  labelSelector : Option String := none
  api : ApiVersion := .standard
  display : DisplaySettings := {}
deriving DecidableEq, Repr

/-- The keys of single settings. -/
inductive SettingKey where
  | defaultNamespace
  | labelSelector
  | apiGroup
  | apiVersion
  | refreshSeconds
  | manifestRefreshSeconds
  | clustersColumnWidth
  | noColor
deriving DecidableEq, Repr

namespace SettingKey

/-- All keys in their order. -/
def all : List SettingKey :=
  [defaultNamespace, labelSelector, apiGroup, apiVersion, refreshSeconds, manifestRefreshSeconds,
   clustersColumnWidth, noColor]

/-- The name of a key. -/
def text : SettingKey → String
  | defaultNamespace => "defaultNamespace"
  | labelSelector => "labelSelector"
  | apiGroup => "api.group"
  | apiVersion => "api.version"
  | refreshSeconds => "ui.refreshSeconds"
  | manifestRefreshSeconds => "ui.manifestRefreshSeconds"
  | clustersColumnWidth => "ui.clustersColumnWidth"
  | noColor => "ui.noColor"

/-- The key with a name. -/
def ofText? (s : String) : Option SettingKey := all.find? (·.text = s)

end SettingKey

/-- Why a text is no natural number of 64 bits. -/
inductive WordError where
  | empty
  | notADigit
  | tooLarge
deriving DecidableEq, Repr

/-- The wording of the reason. -/
def WordError.message : WordError → String
  | empty => "cannot parse integer from empty string"
  | notADigit => "invalid digit found in string"
  | tooLarge => "number too large to fit in target type"

/-- The number so far with one more digit. -/
def wordDigit (n : Nat) (c : Char) : Except WordError Nat :=
  if !c.isDigit then .error .notADigit
  else
    let n := 10 * n + (c.toNat - '0'.toNat)
    if n < Nat.pow 2 64 then .ok n else .error .tooLarge

/-- The natural number of 64 bits that a text writes, with an optional plus sign. -/
def wordOfText (s : String) : Except WordError UInt64 :=
  let read (digits : List Char) : Except WordError UInt64 :=
    (digits.foldlM wordDigit 0).map UInt64.ofNat
  match s.toList with
  | [] => .error .empty
  | ['+'] => .error .notADigit
  | '+' :: digits => read digits
  | digits => read digits

/-- What can be wrong with settings. -/
inductive SettingsError where
  | unknownKey (key : String)
  | invalidSelector (error : SelectorError)
  /-- A part of the API version is blank. -/
  | blank (key : SettingKey)
  | zero (key : SettingKey)
  | notANumber (key : SettingKey) (error : WordError)
  | notABool (key : SettingKey)
  /-- The file cannot be read. -/
  | unreadable (path reason : String)
  /-- The file is not YAML, or not of the right type. -/
  | malformed (path : String)
deriving DecidableEq, Repr

/-- The causes of an error, the outermost first. What the YAML reader would add stands as a
placeholder. -/
def SettingsError.messages : SettingsError → List String
  | unknownKey key => ["Unknown configuration key: " ++ key]
  | invalidSelector error => ["labelSelector is invalid: " ++ error.message]
  | blank key => [key.text ++ " must not be empty"]
  | zero key => [key.text ++ " must be greater than 0"]
  | notANumber key error => [key.text ++ " must be a number", error.message]
  | notABool key =>
    [key.text ++ " must be 'true' or 'false'",
     "provided string was not \x60true\x60 or \x60false\x60"]
  | unreadable path reason => ["Failed to read config file: " ++ path, reason]
  | malformed path => ["Failed to parse config file: " ++ path, "<yaml>"]

namespace Settings

/-- A setting as text. -/
def get (s : Settings) : SettingKey → String
  | .defaultNamespace => s.defaultNamespace
  | .labelSelector => s.labelSelector.getD ""
  | .apiGroup => s.api.group
  | .apiVersion => s.api.version
  | .refreshSeconds => toString s.display.refreshSeconds
  | .manifestRefreshSeconds => toString s.display.manifestRefreshSeconds
  | .clustersColumnWidth => toString s.display.clustersColumnWidth
  | .noColor => if s.display.noColor then "true" else "false"

/-- A setting by the name of its key. -/
def getByName (s : Settings) (name : String) : Except SettingsError String :=
  match SettingKey.ofText? name with
  | some key => .ok (s.get key)
  | none => .error (.unknownKey name)

/-- All settings by the names of their keys. -/
def list (s : Settings) : List (String × String) := SettingKey.all.map fun k => (k.text, s.get k)

/-- The conditions on settings, checked in the order of the keys. -/
def check (s : Settings) : Except SettingsError Unit := do
  match s.labelSelector.map Selector.parse with
  | some (.error e) => throw (.invalidSelector e)
  | _ => pure ()
  if Text.isBlankText s.api.group then throw (.blank .apiGroup)
  if Text.isBlankText s.api.version then throw (.blank .apiVersion)
  if s.display.refreshSeconds = 0 then throw (.zero .refreshSeconds)
  if s.display.manifestRefreshSeconds = 0 then throw (.zero .manifestRefreshSeconds)
  if s.display.clustersColumnWidth = 0 then throw (.zero .clustersColumnWidth)

/-- A number for a setting. -/
def wordFor (key : SettingKey) (value : String) : Except SettingsError UInt64 :=
  (wordOfText value).mapError (.notANumber key)

/-- The settings with one set to a value that fits it. An empty label selector is none. -/
def assign (s : Settings) (key : SettingKey) (value : String) : Except SettingsError Settings :=
  match key with
  | .defaultNamespace => .ok { s with defaultNamespace := value }
  | .labelSelector =>
    if value = "" then .ok { s with labelSelector := none }
    else match Selector.parse value with
      | .ok _ => .ok { s with labelSelector := some value }
      | .error e => .error (.invalidSelector e)
  | .apiGroup => .ok { s with api := { s.api with group := value } }
  | .apiVersion => .ok { s with api := { s.api with version := value } }
  | .refreshSeconds =>
    (wordFor key value).map fun n => { s with display := { s.display with refreshSeconds := n } }
  | .manifestRefreshSeconds =>
    (wordFor key value).map fun n =>
      { s with display := { s.display with manifestRefreshSeconds := n } }
  | .clustersColumnWidth =>
    (wordFor key value).map fun n =>
      { s with display := { s.display with clustersColumnWidth := n } }
  | .noColor =>
    if value = "true" then .ok { s with display := { s.display with noColor := true } }
    else if value = "false" then .ok { s with display := { s.display with noColor := false } }
    else .error (.notABool key)

/-- Sets one setting by the name of its key. A value that does not fit changes nothing; one that
fits is set, and then all settings are checked. -/
def set (s : Settings) (name value : String) : Settings × Except SettingsError Unit :=
  match SettingKey.ofText? name with
  | none => (s, .error (.unknownKey name))
  | some key =>
    match s.assign key value with
    | .ok changed => (changed, changed.check)
    | .error e => (s, .error e)

end Settings

/-- The variables of the environment that override settings. -/
structure Overrides where
  ns : Option String := none
  apiGroup : Option String := none
  apiVersion : Option String := none
deriving DecidableEq, Repr

/-- The settings with the overrides of the environment. -/
def Settings.override (s : Settings) (o : Overrides) : Settings :=
  { s with
    defaultNamespace := o.ns.getD s.defaultNamespace
    api := ⟨o.apiGroup.getD s.api.group, o.apiVersion.getD s.api.version⟩ }

end FleetConsole
