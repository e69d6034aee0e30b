import FleetConsole.Proofs.Fleet.Grammar
import FleetConsole.Proofs.Settings.Change
import FleetConsole.Proofs.Settings.Word

/-!
# Values that settings accept

There are texts that can be assigned to a setting (`SettingKey.Fits`), and among them those that are
valid (`SettingKey.Accepts`). They differ where only the check of the whole finds a value wrong.
From settings that meet the conditions, `Settings.set_lawful` says that exactly the valid values are
set, that what was set can be read, and that a setting is set without regard to what it was before
and to the others, which stay as they are. `Settings.set_failed` says what is left of settings that
were not set.
-/

namespace FleetConsole

/-- What is shown of a value. -/
def SettingValue.shown : SettingValue → String
  | text t => t
  | labels t => t.getD ""
  | word n => toString n
  | flag b => if b then "true" else "false"

namespace SettingKey

/-- The texts that can be assigned to a setting. -/
def Fits : SettingKey → String → Prop
  | defaultNamespace, _ | apiGroup, _ | apiVersion, _ => True
  | labelSelector, t => t = "" ∨ ∃ requirements, Selector.Writes t requirements
  | refreshSeconds, t | manifestRefreshSeconds, t | clustersColumnWidth, t => ∃ n, WritesWord t n
  | noColor, t => t = "true" ∨ t = "false"

/-- The valid values of a setting. -/
def Accepts : SettingKey → String → Prop
  | defaultNamespace, _ => True
  | labelSelector, t => t = "" ∨ ∃ requirements, Selector.Writes t requirements
  | apiGroup, t | apiVersion, t => ∃ c ∈ t.toList, ¬ Text.isBlank c
  | refreshSeconds, t | manifestRefreshSeconds, t | clustersColumnWidth, t =>
    ∃ n, 0 < n ∧ WritesWord t n
  | noColor, t => t = "true" ∨ t = "false"

/-- What is shown of a setting that a text was assigned to: a number in its digits alone, and
everything else as it was written. -/
def Shows : SettingKey → String → String → Prop
  | refreshSeconds, t, shown | manifestRefreshSeconds, t, shown | clustersColumnWidth, t, shown =>
    ∃ n, WritesWord t n ∧ shown = toString n
  | _, t, shown => shown = t

variable {key : SettingKey} {t : String} {v : SettingValue}

/-- A key is found by its name alone. -/
theorem ofText?_eq_some_iff {name : String} : ofText? name = some key ↔ key.text = name := by
  constructor
  · intro h
    simpa using List.find?_some h
  · rintro rfl
    cases key <;> decide

/-- The name of a key finds the key. -/
theorem ofText?_text (key : SettingKey) : ofText? key.text = some key :=
  ofText?_eq_some_iff.mpr rfl

/-- Different keys have different names. -/
theorem text_injective : Function.Injective text := by
  intro k k' h
  have hkey : some k = some k' := by rw [← ofText?_text, h, ofText?_text]
  exact Option.some.inj hkey

/-- Valid values can be assigned. -/
theorem Accepts.fits (h : key.Accepts t) : key.Fits t := by
  cases key with
  | defaultNamespace | apiGroup | apiVersion => trivial
  | labelSelector | noColor => exact h
  | refreshSeconds | manifestRefreshSeconds | clustersColumnWidth =>
    obtain ⟨n, -, hn⟩ := h
    exact ⟨n, hn⟩

/-- A text writes a selector if it can be parsed. -/
theorem exists_parse_iff :
    (∃ selector, Selector.parse t = .ok selector) ↔ ∃ rs, Selector.Writes t rs := by
  constructor
  · rintro ⟨⟨rs⟩, h⟩
    exact ⟨rs, Selector.parse_eq_ok_iff.mp h⟩
  · rintro ⟨rs, h⟩
    exact ⟨⟨rs⟩, Selector.parse_eq_ok_iff.mpr h⟩

/-- Two texts write a value for a switch. -/
theorem valueOf?_noColor_eq_some_iff :
    valueOf? noColor t = some v ↔ t = "true" ∧ .flag true = v ∨ t = "false" ∧ .flag false = v := by
  unfold valueOf?
  by_cases htrue : t = "true"
  · simp [htrue]
  · by_cases hfalse : t = "false"
    · simp [hfalse]
    · simp [htrue, hfalse]

/-- A text is valid if the value that it writes meets the condition on the setting. -/
theorem accepts_iff : key.Accepts t ↔ ∃ v, key.valueOf? t = some v ∧ key.Admits v := by
  cases key with
  | defaultNamespace => exact iff_of_true trivial ⟨_, rfl, trivial⟩
  | labelSelector =>
    simp only [Accepts, ← exists_parse_iff, valueOf?, Option.some.injEq, exists_eq_left', Admits]
    by_cases hempty : t = ""
    · simp [hempty]
    · simp [hempty]
  | apiGroup | apiVersion =>
    simp only [Accepts, valueOf?, Option.some.injEq, exists_eq_left', Admits, Text.isBlankText,
      List.all_eq_true, not_forall, exists_prop]
  | refreshSeconds | manifestRefreshSeconds | clustersColumnWidth =>
    simp only [Accepts, valueOf?, SettingValue.word_eq_some_iff]
    constructor
    · rintro ⟨n, hpos, hn⟩
      obtain ⟨w, hw, rfl⟩ := hn.exists_word
      refine ⟨_, ⟨w, hw, rfl⟩, fun hzero => ?_⟩
      rw [hzero] at hpos
      cases hpos
    · rintro ⟨-, ⟨w, hw, rfl⟩, hne⟩
      refine ⟨w.toNat, Nat.pos_of_ne_zero fun hzero => hne ?_, wordOfText_eq_ok_iff.mp hw⟩
      exact UInt64.toNat_inj.mp hzero
  | noColor =>
    simp only [Accepts, valueOf?_noColor_eq_some_iff]
    constructor
    · rintro (htrue | hfalse)
      · exact ⟨_, .inl ⟨htrue, rfl⟩, trivial⟩
      · exact ⟨_, .inr ⟨hfalse, rfl⟩, trivial⟩
    · rintro ⟨v, ⟨htrue, -⟩ | ⟨hfalse, -⟩, -⟩
      · exact .inl htrue
      · exact .inr hfalse

/-- The value that a text writes is shown as the text, or as the number that the text writes. -/
theorem shows_of_valueOf? (h : key.valueOf? t = some v) : key.Shows t v.shown := by
  cases key with
  | defaultNamespace | apiGroup | apiVersion =>
    obtain rfl := Option.some.inj h
    rfl
  | labelSelector =>
    obtain rfl := Option.some.inj h
    by_cases hempty : t = ""
    · simp [Shows, SettingValue.shown, hempty]
    · simp [Shows, SettingValue.shown, hempty]
  | refreshSeconds | manifestRefreshSeconds | clustersColumnWidth =>
    obtain ⟨w, hw, rfl⟩ := SettingValue.word_eq_some_iff.mp h
    exact ⟨w.toNat, wordOfText_eq_ok_iff.mp hw, rfl⟩
  | noColor =>
    obtain ⟨rfl, rfl⟩ | ⟨rfl, rfl⟩ := valueOf?_noColor_eq_some_iff.mp h
    · rfl
    · rfl

end SettingKey

namespace Settings

variable {s s' : Settings} {key : SettingKey} {t : String}

/-- A setting is shown by its value. -/
theorem get_eq_shown (s : Settings) (key : SettingKey) : s.get key = (s.value key).shown := by
  cases key <;> rfl

/-- A setting is read by the name of its key. -/
theorem getByName_text (s : Settings) (key : SettingKey) :
    s.getByName key.text = .ok (s.value key).shown := by
  simp only [getByName, SettingKey.ofText?_text, get_eq_shown]

/-- A text can be assigned if it is of the form of the setting. -/
theorem exists_assign_iff : (∃ s', s.assign key t = .ok s') ↔ key.Fits t := by
  cases key with
  | defaultNamespace | apiGroup | apiVersion => exact iff_of_true ⟨_, rfl⟩ trivial
  | labelSelector =>
    simp only [assign_labelSelector_eq_ok_iff, SettingKey.exists_parse_iff, SettingKey.Fits,
      exists_and_left, exists_eq', and_true]
  | refreshSeconds | manifestRefreshSeconds | clustersColumnWidth =>
    simp only [assign, map_wordFor_eq_ok_iff, SettingKey.Fits]
    constructor
    · rintro ⟨s', w, hw, -⟩
      exact ⟨w.toNat, wordOfText_eq_ok_iff.mp hw⟩
    · rintro ⟨n, hn⟩
      obtain ⟨w, hw, -⟩ := hn.exists_word
      exact ⟨_, w, hw, rfl⟩
  | noColor =>
    simp only [assign_noColor_eq_ok_iff, SettingKey.valueOf?_noColor_eq_some_iff]
    constructor
    · rintro ⟨s', b, ⟨htrue, -⟩ | ⟨hfalse, -⟩, -⟩
      · exact .inl htrue
      · exact .inr hfalse
    · rintro (htrue | hfalse)
      · exact ⟨_, true, .inl ⟨htrue, rfl⟩, rfl⟩
      · exact ⟨_, false, .inr ⟨hfalse, rfl⟩, rfl⟩

/-- Setting a value takes nothing in, or it assigns the value and answers with what the check
finds. -/
theorem set_cases (s : Settings) (name t : String) :
    ((¬ ∃ key : SettingKey, key.text = name ∧ key.Fits t) ∧ ∃ e, s.set name t = (s, .error e)) ∨
      ∃ key s', key.text = name ∧ key.Fits t ∧ Assigned key t s s' ∧
        s.set name t = (s', s'.check) := by
  unfold set
  cases hkey : SettingKey.ofText? name with
  | none =>
    refine .inl ⟨?_, _, rfl⟩
    rintro ⟨key, hname, -⟩
    rw [SettingKey.ofText?_eq_some_iff.mpr hname] at hkey
    cases hkey
  | some key =>
    have hname := SettingKey.ofText?_eq_some_iff.mp hkey
    cases hassign : s.assign key t with
    | error e =>
      refine .inl ⟨?_, e, by simp only [hassign]⟩
      rintro ⟨k, hk, hfits⟩
      obtain rfl := SettingKey.text_injective (hk.trans hname.symm)
      obtain ⟨s', hs'⟩ := (exists_assign_iff (s := s)).mpr hfits
      rw [hassign] at hs'
      cases hs'
    | ok s' =>
      refine .inr ⟨key, s', hname, exists_assign_iff.mp ⟨s', hassign⟩,
        assigned_of_assign hassign, ?_⟩
      simp only [hassign]

/-! ## Values that are set -/

/-- Settings with a valid value in one place meet the conditions, if the other settings do. -/
theorem Assigned.check_of_others (h : Assigned key t s s')
    (hothers : ∀ k ≠ key, k.Admits (s.value k)) (haccepts : key.Accepts t) : s'.check = .ok () := by
  -- The check is a condition on each value by itself, and only one value is new.
  rw [check_eq_ok_iff]
  intro k
  by_cases hk : k = key
  · subst hk
    obtain ⟨v, hv, hadmits⟩ := SettingKey.accepts_iff.mp haccepts
    obtain rfl := Option.some.inj (hv.symm.trans h.takes)
    exact hadmits
  · rw [h.keeps k hk]
    exact hothers k hk

/-- Settings with a valid value in one place meet the conditions as they did before. -/
theorem Assigned.check_eq_ok (h : Assigned key t s s') (hcheck : s.check = .ok ())
    (haccepts : key.Accepts t) : s'.check = .ok () :=
  h.check_of_others (fun k _ => check_eq_ok_iff.mp hcheck k) haccepts

/-- A text that is assigned in the place of another is assigned to the settings as they were before
both. -/
theorem Assigned.trans {later : String} {s'' : Settings} (h : Assigned key t s s')
    (h' : Assigned key later s' s'') : Assigned key later s s'' :=
  ⟨h'.takes, fun k hk => (h'.keeps k hk).trans (h.keeps k hk)⟩

/-- What is read under the name of another key stays as it is. -/
theorem Assigned.getByName_eq (h : Assigned key t s s') {name : String} (hname : name ≠ key.text) :
    s'.getByName name = s.getByName name := by
  unfold getByName
  cases hkey : SettingKey.ofText? name with
  | none => rfl
  | some k =>
    have hk : k ≠ key := by
      rintro rfl
      exact hname (SettingKey.ofText?_eq_some_iff.mp hkey).symm
    simp only [get_eq_shown, h.keeps k hk]

/-- Valid values are set, and no others. -/
theorem set_ok_iff (hcheck : s.check = .ok ()) {name : String} :
    (s.set name t).2 = .ok () ↔ ∃ key : SettingKey, key.text = name ∧ key.Accepts t := by
  constructor
  · intro h
    have hset : s.set name t = ((s.set name t).1, .ok ()) := Prod.ext rfl h
    obtain ⟨key, hkey, hassigned, hcheck'⟩ := set_eq_ok_iff.mp hset
    refine ⟨key, SettingKey.ofText?_eq_some_iff.mp hkey, SettingKey.accepts_iff.mpr ?_⟩
    exact ⟨_, hassigned.takes, check_eq_ok_iff.mp hcheck' key⟩
  · rintro ⟨key, hkey, haccepts⟩
    obtain ⟨hno, -⟩ | ⟨key', s', hkey', -, hassigned, hset⟩ := s.set_cases name t
    · exact absurd ⟨key, hkey, haccepts.fits⟩ hno
    · obtain rfl := SettingKey.text_injective (hkey'.trans hkey.symm)
      rw [hset, hassigned.check_eq_ok hcheck haccepts]

/-- Settings before and after a value was set in one place. -/
structure Stored (key : SettingKey) (t : String) (before after : Settings) : Prop where
  /-- The settings meet the conditions. -/
  valid : after.check = .ok ()
  /-- The value can be read under the name of the key. -/
  shown : ∃ shown, after.getByName key.text = .ok shown ∧ key.Shows t shown
  /-- What is read under any other name is what was read before. -/
  others : ∀ name ≠ key.text, after.getByName name = before.getByName name
  /-- A value that is set later leaves nothing of this one. -/
  overwritten : ∀ later s, after.set key.text later = (s, .ok ()) →
    before.set key.text later = (s, .ok ())

/-- In settings that meet the conditions, a value is set exactly if the name is that of a key and
the value is valid for it. Then the settings meet the conditions, the value is read under the name,
everything else is read as before, and setting the same once more is setting the last value
alone. -/
theorem set_lawful (s : Settings) (hcheck : s.check = .ok ()) (name value : String) :
    ((s.set name value).2 = .ok () ↔ ∃ key : SettingKey, key.text = name ∧ key.Accepts value) ∧
      ∀ s', s.set name value = (s', .ok ()) →
        ∃ key : SettingKey, key.text = name ∧ Stored key value s s' := by
  refine ⟨set_ok_iff hcheck, fun s' hset => ?_⟩
  obtain ⟨key, hkey, hassigned, hcheck'⟩ := set_eq_ok_iff.mp hset
  refine ⟨key, SettingKey.ofText?_eq_some_iff.mp hkey, hcheck', ?_, ?_, ?_⟩
  · exact ⟨_, s'.getByName_text key, SettingKey.shows_of_valueOf? hassigned.takes⟩
  · exact fun other hother => hassigned.getByName_eq hother
  · intro later s'' hlater
    obtain ⟨key', hkey', hassigned', hcheck''⟩ := set_eq_ok_iff.mp hlater
    obtain rfl := SettingKey.text_injective (SettingKey.ofText?_eq_some_iff.mp hkey')
    exact set_eq_ok_iff.mpr ⟨key', hkey', hassigned.trans hassigned', hcheck''⟩

/-- A number is set with a sign and zeros in front, and read without them. -/
theorem set_lawful_padded :
    ({} : Settings).check = .ok () ∧ (set {} "ui.refreshSeconds" "+007").2 = .ok () ∧
      ∃ s', set {} "ui.refreshSeconds" "+007" = (s', .ok ()) ∧
        s'.getByName "ui.refreshSeconds" = .ok "7" ∧
        s'.getByName "api.group" = getByName {} "api.group" := by
  have hcheck : ({} : Settings).check = .ok () := by decide +kernel
  have hwrites : WritesWord "+007" 7 :=
    ⟨['0', '0', '7'], .inr rfl, by decide, List.all_eq_true.mp rfl, rfl, by decide⟩
  obtain ⟨haccepted, hstored⟩ := set_lawful {} hcheck "ui.refreshSeconds" "+007"
  have hok := haccepted.mpr ⟨.refreshSeconds, rfl, 7, by decide, hwrites⟩
  obtain ⟨key, hkey, h⟩ := hstored _ (Prod.ext rfl hok)
  obtain rfl : key = .refreshSeconds := SettingKey.text_injective hkey
  obtain ⟨_, hshown, n, hn, rfl⟩ := h.shown
  obtain rfl := hwrites.unique hn
  exact ⟨hcheck, hok, _, Prod.ext rfl hok, hshown, h.others "api.group" (by decide)⟩

/-! ## Values that are not set -/

/-- If setting a value fails, the settings are as they were before, unless the name is that of a key
and the value can be assigned to it. In that case the error is what the check finds in the settings
with the value in its place, and these settings are what is left; so they are as they were only if
the setting had the value already. -/
theorem set_failed (s : Settings) (name value : String) (e : SettingsError)
    (h : (s.set name value).2 = .error e) :
    let s' := (s.set name value).1
    ((¬ ∃ key : SettingKey, key.text = name ∧ key.Fits value) → s' = s) ∧
      ∀ key : SettingKey, key.text = name → key.Fits value →
        Assigned key value s s' ∧ s'.check = .error e ∧
          (s' = s ↔ key.valueOf? value = some (s.value key)) := by
  intro s'
  obtain ⟨hno, error, hset⟩ | ⟨key, changed, hname, hfits, hassigned, hset⟩ :=
    s.set_cases name value
  · have hs' : s' = s := congrArg Prod.fst hset
    exact ⟨fun _ => hs', fun key hkey hfits => absurd ⟨key, hkey, hfits⟩ hno⟩
  · have hs' : s' = changed := congrArg Prod.fst hset
    have hcheck : changed.check = .error e := by rwa [hset] at h
    rw [hs']
    refine ⟨fun hno => absurd ⟨key, hname, hfits⟩ hno, fun k hk _ => ?_⟩
    obtain rfl := SettingKey.text_injective (hk.trans hname.symm)
    refine ⟨hassigned, hcheck, fun heq => heq ▸ hassigned.takes, fun hhas => ?_⟩
    exact hassigned.unique ⟨hhas, fun _ _ => rfl⟩

/-- While the group is blank nothing can be set: what is no switch is not taken in, and a namespace
is. -/
theorem set_failed_blank :
    let s : Settings := { api := ⟨"", "v1"⟩ }
    (s.set "ui.noColor" "yes").2 = .error (.notABool .noColor) ∧ (s.set "ui.noColor" "yes").1 = s ∧
      (s.set "defaultNamespace" "shop").2 = .error (.blank .apiGroup) ∧
      Assigned .defaultNamespace "shop" s (s.set "defaultNamespace" "shop").1 := by
  intro s
  have hswitch : (s.set "ui.noColor" "yes").2 = .error (.notABool .noColor) := by decide +kernel
  have hblank : (s.set "defaultNamespace" "shop").2 = .error (.blank .apiGroup) := by
    decide +kernel
  refine ⟨hswitch, (s.set_failed _ _ _ hswitch).1 ?_, hblank,
    ((s.set_failed _ _ _ hblank).2 .defaultNamespace rfl trivial).1⟩
  rintro ⟨key, hkey, hfits⟩
  obtain rfl : key = .noColor := SettingKey.text_injective hkey
  rcases hfits with h | h
  · exact absurd h (by decide)
  · exact absurd h (by decide)

/-- A blank group is refused, and is set nevertheless. -/
theorem set_blank :
    let s : Settings := {}
    (s.set "api.group" "").2 = .error (.blank .apiGroup) ∧ (s.set "api.group" "").1 ≠ s := by
  decide +kernel

end Settings

end FleetConsole
