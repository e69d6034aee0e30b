import FleetConsole.Proofs.Record.Outcome
import FleetConsole.Settings.Basic

/-!
# Changing one setting

The keys name everything that settings hold, so what a change does is said by the values of the
keys. `Settings.set_eq_ok_iff` says when a text is taken for a setting and what then becomes of the
settings: the named one has the value that the text writes, the others have theirs, and all of them
together meet the conditions.
-/

namespace FleetConsole

/-- The value of a setting. -/
inductive SettingValue where
  | text (t : String)
  /-- A label selector, which may be absent. -/
  | labels (t : Option String)
  | word (n : UInt64)
  | flag (b : Bool)
deriving DecidableEq, Repr

/-- The value that a text writes for a setting, if it writes one. -/
def SettingKey.valueOf? (key : SettingKey) (text : String) : Option SettingValue :=
  match key with
  | defaultNamespace | apiGroup | apiVersion => some (.text text)
  | labelSelector => some (.labels (if text = "" then none else some text))
  | refreshSeconds | manifestRefreshSeconds | clustersColumnWidth =>
    (wordOfText text).toOption.map .word
  | noColor =>
    if text = "true" then some (.flag true)
    else if text = "false" then some (.flag false)
    else none

/-- The condition on the value of a setting. -/
def SettingKey.Admits : SettingKey → SettingValue → Prop
  | labelSelector, .labels t => ∀ label, t = some label →
    ∃ selector, Selector.parse label = .ok selector
  | apiGroup, .text t | apiVersion, .text t => ¬ Text.isBlankText t
  | refreshSeconds, .word n | manifestRefreshSeconds, .word n | clustersColumnWidth, .word n =>
    n ≠ 0
  | _, _ => True

/-- A text writes a value for a number if it is read as a number. -/
theorem SettingValue.word_eq_some_iff {text : String} {v : SettingValue} :
    (wordOfText text).toOption.map word = some v ↔ ∃ n, wordOfText text = .ok n ∧ word n = v := by
  cases wordOfText text <;> simp [Except.toOption]

namespace Settings

/-- The value of the setting that a key names. -/
def value (s : Settings) : SettingKey → SettingValue
  | .defaultNamespace => .text s.defaultNamespace
  | .labelSelector => .labels s.labelSelector
  | .apiGroup => .text s.api.group
  | .apiVersion => .text s.api.version
  | .refreshSeconds => .word s.display.refreshSeconds
  | .manifestRefreshSeconds => .word s.display.manifestRefreshSeconds
  | .clustersColumnWidth => .word s.display.clustersColumnWidth
  | .noColor => .flag s.display.noColor

/-- The settings with a value for the setting that a key names. A setting takes no value of another
sort. -/
def put (s : Settings) : SettingKey → SettingValue → Settings
  | .defaultNamespace, .text t => { s with defaultNamespace := t }
  | .labelSelector, .labels t => { s with labelSelector := t }
  | .apiGroup, .text t => { s with api := { s.api with group := t } }
  | .apiVersion, .text t => { s with api := { s.api with version := t } }
  | .refreshSeconds, .word n => { s with display := { s.display with refreshSeconds := n } }
  | .manifestRefreshSeconds, .word n =>
    { s with display := { s.display with manifestRefreshSeconds := n } }
  | .clustersColumnWidth, .word n =>
    { s with display := { s.display with clustersColumnWidth := n } }
  | .noColor, .flag b => { s with display := { s.display with noColor := b } }
  | _, _ => s

/-- Whatever value one setting is given, the others have the values that they had. -/
theorem value_put_of_ne (s : Settings) {key k : SettingKey} (v : SettingValue) (hk : k ≠ key) :
    (s.put key v).value k = s.value k := by
  unfold put
  split <;> cases k <;> first | rfl | contradiction

/-- Settings in which every key has the same value are the same. -/
theorem eq_of_value {s t : Settings} (h : ∀ k, s.value k = t.value k) : s = t := by
  obtain ⟨ns, labels, ⟨group, version⟩, ⟨refresh, manifestRefresh, width, noColor⟩⟩ := s
  obtain ⟨ns', labels', ⟨group', version'⟩, ⟨refresh', manifestRefresh', width', noColor'⟩⟩ := t
  obtain rfl := SettingValue.text.inj (h .defaultNamespace)
  obtain rfl := SettingValue.labels.inj (h .labelSelector)
  obtain rfl := SettingValue.text.inj (h .apiGroup)
  obtain rfl := SettingValue.text.inj (h .apiVersion)
  obtain rfl := SettingValue.word.inj (h .refreshSeconds)
  obtain rfl := SettingValue.word.inj (h .manifestRefreshSeconds)
  obtain rfl := SettingValue.word.inj (h .clustersColumnWidth)
  obtain rfl := SettingValue.flag.inj (h .noColor)
  rfl

/-- Settings meet the conditions if every one of them meets its own. -/
theorem check_eq_ok_iff {s : Settings} :
    s.check = .ok () ↔ ∀ k : SettingKey, k.Admits (s.value k) := by
  have hlabels : SettingKey.labelSelector.Admits (s.value .labelSelector) ↔
      ∀ e, s.labelSelector.map Selector.parse ≠ some (.error e) := by
    simp only [SettingKey.Admits, value]
    cases s.labelSelector with
    | none => simp
    | some label => cases hparse : Selector.parse label <;> simp [hparse]
  rw [check]
  split
  · next e he =>
    refine iff_of_false (fun h => ?_) fun h => hlabels.mp (h .labelSelector) e he
    cases h
  · next hparsed =>
    constructor
    · intro h
      obtain ⟨hgroup, h⟩ := guard_eq_ok_iff.mp h
      obtain ⟨hversion, h⟩ := guard_eq_ok_iff.mp h
      obtain ⟨hrefresh, h⟩ := guard_eq_ok_iff.mp h
      obtain ⟨hmanifests, h⟩ := guard_eq_ok_iff.mp h
      have hwidth : s.display.clustersColumnWidth ≠ 0 := by
        intro hzero
        rw [if_pos hzero] at h
        cases h
      intro k
      cases k with
      | defaultNamespace | noColor => trivial
      | labelSelector => exact hlabels.mpr hparsed
      | apiGroup => exact hgroup
      | apiVersion => exact hversion
      | refreshSeconds => exact hrefresh
      | manifestRefreshSeconds => exact hmanifests
      | clustersColumnWidth => exact hwidth
    · intro h
      refine guard_eq_ok_iff.mpr ⟨h .apiGroup, ?_⟩
      refine guard_eq_ok_iff.mpr ⟨h .apiVersion, ?_⟩
      refine guard_eq_ok_iff.mpr ⟨h .refreshSeconds, ?_⟩
      refine guard_eq_ok_iff.mpr ⟨h .manifestRefreshSeconds, ?_⟩
      exact if_neg (h .clustersColumnWidth)

/-- Settings before and after a text is assigned to one of them. -/
structure Assigned (key : SettingKey) (text : String) (before after : Settings) : Prop where
  takes : key.valueOf? text = some (after.value key)
  keeps : ∀ k ≠ key, after.value k = before.value k

/-- There is one way only to assign a text. -/
theorem Assigned.unique {key : SettingKey} {text : String} {before after after' : Settings}
    (h : Assigned key text before after) (h' : Assigned key text before after') :
    after = after' := by
  refine eq_of_value fun k => ?_
  by_cases hk : k = key
  · subst hk
    exact Option.some.inj (h.takes.symm.trans h'.takes)
  · rw [h.keeps k hk, h'.keeps k hk]

section Assign

variable {s s' : Settings} {key : SettingKey} {text : String}

/-- A label selector is assigned if it can be parsed, and the empty one is none. -/
theorem assign_labelSelector_eq_ok_iff :
    s.assign .labelSelector text = .ok s' ↔
      (text = "" ∨ ∃ selector, Selector.parse text = .ok selector) ∧
        { s with labelSelector := if text = "" then none else some text } = s' := by
  unfold assign
  by_cases hempty : text = ""
  · simp [hempty]
  · rw [if_neg hempty, if_neg hempty]
    cases Selector.parse text <;> simp [hempty]

/-- A switch is assigned if the text is one of two. -/
theorem assign_noColor_eq_ok_iff :
    s.assign .noColor text = .ok s' ↔
      ∃ b, SettingKey.valueOf? .noColor text = some (.flag b) ∧
        { s with display := { s.display with noColor := b } } = s' := by
  unfold assign SettingKey.valueOf?
  by_cases htrue : text = "true"
  · simp [htrue]
  · by_cases hfalse : text = "false"
    · simp [hfalse]
    · simp [htrue, hfalse]

/-- A number is assigned if the text writes one of 64 bits. -/
theorem map_wordFor_eq_ok_iff {set : UInt64 → Settings} :
    (wordFor key text).map set = .ok s' ↔ ∃ n, wordOfText text = .ok n ∧ set n = s' := by
  simp only [map_eq_ok_iff, wordFor, mapError_eq_ok_iff]

/-- A text that is assigned gives the setting the value that it writes. -/
theorem exists_put_of_assign (h : s.assign key text = .ok s') :
    ∃ v, key.valueOf? text = some v ∧ (s.put key v).value key = v ∧ s.put key v = s' := by
  cases key with
  | defaultNamespace | apiGroup | apiVersion =>
    cases h
    exact ⟨_, rfl, rfl, rfl⟩
  | labelSelector =>
    obtain ⟨-, rfl⟩ := assign_labelSelector_eq_ok_iff.mp h
    exact ⟨_, rfl, rfl, rfl⟩
  | refreshSeconds | manifestRefreshSeconds | clustersColumnWidth =>
    obtain ⟨n, hn, rfl⟩ := map_wordFor_eq_ok_iff.mp h
    exact ⟨_, SettingValue.word_eq_some_iff.mpr ⟨n, hn, rfl⟩, rfl, rfl⟩
  | noColor =>
    obtain ⟨b, hb, rfl⟩ := assign_noColor_eq_ok_iff.mp h
    exact ⟨_, hb, rfl, rfl⟩

/-- The setting that a text is assigned to has the value that the text writes, and the others have
the values that they had. -/
theorem assigned_of_assign (h : s.assign key text = .ok s') : Assigned key text s s' := by
  obtain ⟨v, hv, htaken, rfl⟩ := exists_put_of_assign h
  exact ⟨by rw [hv, htaken], fun _ => s.value_put_of_ne v⟩

/-- A text that writes a value is assigned, if the settings with it meet the conditions. -/
theorem assign_of_assigned (h : Assigned key text s s') (hcheck : s'.check = .ok ()) :
    s.assign key text = .ok s' := by
  -- There is one way only to assign it, so it is enough that it is assigned at all.
  suffices hassign : ∃ t, s.assign key text = .ok t by
    obtain ⟨t, ht⟩ := hassign
    rw [ht, (assigned_of_assign ht).unique h]
  have htakes := h.takes
  cases key with
  | defaultNamespace | apiGroup | apiVersion => exact ⟨_, rfl⟩
  | labelSelector =>
    refine ⟨_, assign_labelSelector_eq_ok_iff.mpr ⟨?_, rfl⟩⟩
    by_cases hempty : text = ""
    · exact .inl hempty
    · simp only [SettingKey.valueOf?, if_neg hempty, value, Option.some.injEq,
        SettingValue.labels.injEq] at htakes
      exact .inr (check_eq_ok_iff.mp hcheck .labelSelector text htakes.symm)
  | refreshSeconds | manifestRefreshSeconds | clustersColumnWidth =>
    obtain ⟨n, hword, -⟩ := SettingValue.word_eq_some_iff.mp htakes
    exact ⟨_, map_wordFor_eq_ok_iff.mpr ⟨n, hword, rfl⟩⟩
  | noColor => exact ⟨_, assign_noColor_eq_ok_iff.mpr ⟨_, htakes, rfl⟩⟩

/-- A setting is set exactly if the name is that of a key, the text writes a value for it, and the
settings with that value, and with their own values in all other places, meet the conditions. -/
theorem set_eq_ok_iff {name : String} :
    s.set name text = (s', .ok ()) ↔
      ∃ key, SettingKey.ofText? name = some key ∧ Assigned key text s s' ∧ s'.check = .ok () := by
  unfold set
  cases hkey : SettingKey.ofText? name with
  | none => simp
  | some key =>
    constructor
    · intro h
      cases hassign : s.assign key text with
      | error e =>
        simp only [hassign] at h
        cases (Prod.mk.inj h).2
      | ok t =>
        simp only [hassign] at h
        obtain ⟨rfl, hcheck⟩ := Prod.mk.inj h
        exact ⟨key, rfl, assigned_of_assign hassign, hcheck⟩
    · rintro ⟨key', heq, hassigned, hcheck⟩
      obtain rfl := Option.some.inj heq
      simp only [assign_of_assigned hassigned hcheck, hcheck]

end Assign

end Settings

end FleetConsole
