import FleetConsole.Fleet.Selector
import FleetConsole.Proofs.Record.Outcome
import FleetConsole.Proofs.Text.Separated
import FleetConsole.Proofs.Text.Trim

/-!
# The grammar of selectors

A selector is read by looking for the signs `!=`, `==` and `=` in this order and by checking what
stands on their sides afterwards. `Selector.Writes` says without any search which texts write which
requirements, and `Selector.parse_grammar` that the two agree on every text.

A term is taken apart at a sign that none of the parts can have, since keys and values have neither
`!` nor `=`. So the search that comes first is the one that finds the sign of the term, and the
others find nothing.
-/

namespace FleetConsole.Selector

open Text (isBlank trim trimStart trimEnd Padded)

/-- A letter, a digit, a dash, an underscore or a dot. -/
def ValueChar (c : Char) : Prop :=
  'A' ≤ c ∧ c ≤ 'Z' ∨ 'a' ≤ c ∧ c ≤ 'z' ∨ '0' ≤ c ∧ c ≤ '9' ∨ c = '-' ∨ c = '_' ∨ c = '.'

/-- The keys of labels. -/
def IsKey (k : String) : Prop := k ≠ "" ∧ ∀ c ∈ k.toList, ValueChar c ∨ c = '/'

/-- The values of labels. -/
def IsValue (v : String) : Prop := ∀ c ∈ v.toList, ValueChar c

/-- A term and the requirement that it writes. White space may stand around keys and values, and in
front of a negated key also before the sign. -/
inductive Term : List Char → Requirement → Prop where
  /-- A key, `=` and a value. -/
  | equals {a b : List Char} {k v : String} (hk : IsKey k) (hv : IsValue v)
      (ha : Padded k.toList a) (hb : Padded v.toList b) : Term (a ++ '=' :: b) (.equals k v)
  /-- A key, `==` and a value. -/
  | doubleEquals {a b : List Char} {k v : String} (hk : IsKey k) (hv : IsValue v)
      (ha : Padded k.toList a) (hb : Padded v.toList b) : Term (a ++ '=' :: '=' :: b) (.equals k v)
  /-- A key, `!=` and a value. -/
  | notEquals {a b : List Char} {k v : String} (hk : IsKey k) (hv : IsValue v)
      (ha : Padded k.toList a) (hb : Padded v.toList b) :
      Term (a ++ '!' :: '=' :: b) (.notEquals k v)
  /-- A key. -/
  | «exists» {a : List Char} {k : String} (hk : IsKey k) (ha : Padded k.toList a) :
      Term a (.exists k)
  /-- A key behind `!`. -/
  | lacks {before a : List Char} {k : String} (hk : IsKey k) (hbefore : ∀ c ∈ before, isBlank c)
      (ha : Padded k.toList a) : Term (before ++ '!' :: a) (.lacks k)

/-- A text is cut at its commas into pieces. -/
structure CutAtCommas (cs : List Char) (ps : List (List Char)) : Prop where
  ne_nil : ps ≠ []
  notMem : ∀ p ∈ ps, ',' ∉ p
  join : cs = [','].intercalate ps

/-- A text and the requirements that it writes: none if it is blank, and otherwise those of the
terms that it is cut into at its commas. No term is blank. -/
inductive Writes (s : String) : List Requirement → Prop where
  | blank (h : ∀ c ∈ s.toList, isBlank c) : Writes s []
  | terms {ps : List (List Char)} {rs : List Requirement} (cut : CutAtCommas s.toList ps)
      (each : List.Forall₂ Term ps rs) : Writes s rs

/-! ## Characters -/

/-- The test for the characters of values is met by these alone. -/
theorem isValueChar_iff {c : Char} : isValueChar c ↔ ValueChar c := by
  have halphanum : c.isAlphanum = (decide ('A' ≤ c ∧ c ≤ 'Z') ||
      (decide ('a' ≤ c) && decide (c ≤ 'z')) || (decide ('0' ≤ c) && decide (c ≤ '9'))) := rfl
  simp only [isValueChar, ValueChar, halphanum, Bool.or_eq_true, Bool.and_eq_true,
    decide_eq_true_eq]
  tauto

/-- The test for the characters of keys admits a slash besides. -/
theorem isKeyChar_iff {c : Char} : isKeyChar c ↔ ValueChar c ∨ c = '/' := by
  simp only [isKeyChar, Bool.or_eq_true, isValueChar_iff, decide_eq_true_eq]

/-- The code points of the characters of keys. -/
theorem toNat_of_keyChar {c : Char} (h : ValueChar c ∨ c = '/') :
    45 ≤ c.toNat ∧ c.toNat ≤ 57 ∨ 65 ≤ c.toNat ∧ c.toNat ≤ 90 ∨ c.toNat = 95 ∨
      97 ≤ c.toNat ∧ c.toNat ≤ 122 := by
  have hle (x y : Char) : x ≤ y ↔ x.toNat ≤ y.toNat := by
    rw [Char.le_def, UInt32.le_iff_toNat_le]
    rfl
  simp only [ValueChar, hle] at h
  rcases h with (h | h | h | rfl | rfl | rfl) | rfl
  · exact .inr (.inl h)
  · exact .inr (.inr (.inr h))
  · have h0 : 48 ≤ c.toNat := h.1
    exact .inl ⟨by omega, h.2⟩
  all_goals decide

/-- No character of a key is a blank. -/
theorem not_isBlank_of_keyChar {c : Char} (h : ValueChar c ∨ c = '/') : ¬ isBlank c := by
  have hcode := toNat_of_keyChar h
  simp only [isBlank, Text.inRanges, Text.blanks, List.any_cons, List.any_nil, Bool.or_eq_true,
    Bool.and_eq_true, decide_eq_true_eq, Bool.or_false]
  omega

/-- No character of a key is one that a term is taken apart at. -/
theorem ne_of_keyChar {c x : Char} (h : ValueChar c ∨ c = '/') (hx : x ∈ ['!', '=', ',']) :
    c ≠ x := by
  have hcode := toNat_of_keyChar h
  rintro rfl
  simp only [List.mem_cons, List.not_mem_nil, or_false] at hx
  rcases hx with rfl | rfl | rfl <;> simp at hcode

/-! ## Keys and values -/

/-- A part of a term is taken if it passes its test. -/
theorem ite_ofList_eq_ok_iff {good : Bool} {part : List Char} {e : SelectorError} {s : String} :
    (if good then .ok (String.ofList part) else .error e : Except SelectorError String) = .ok s ↔
      good ∧ part = s.toList := by
  cases good with
  | false => simp
  | true => simp [String.ext_iff]

/-- What is left of a text without its blanks is a part that has none exactly if the text adds
blanks to the part. -/
theorem trim_eq_and_iff {P : List Char → Prop} {part cs : List Char}
    (hP : P part → ∀ c ∈ part, ¬ isBlank c) :
    P (trim cs) ∧ trim cs = part ↔ P part ∧ Padded part cs := by
  constructor
  · rintro ⟨h, rfl⟩
    exact ⟨h, Text.padded_trim cs⟩
  · rintro ⟨h, hpadded⟩
    have heq : trim cs = part := (Text.trim_eq_iff (hP h)).mpr hpadded
    rw [heq]
    exact ⟨h, rfl⟩

/-- A key is what a text holds between blanks. -/
theorem key_eq_ok_iff {cs : List Char} {k : String} :
    key cs = .ok k ↔ IsKey k ∧ Padded k.toList cs := by
  let P (part : List Char) : Prop := part ≠ [] ∧ ∀ c ∈ part, ValueChar c ∨ c = '/'
  have hread : key cs = .ok k ↔ P (trim cs) ∧ trim cs = k.toList := by
    simp only [key, ite_ofList_eq_ok_iff, Bool.and_eq_true, Bool.not_eq_true',
      List.isEmpty_eq_false_iff, List.all_eq_true, isKeyChar_iff, P]
  have hkey : IsKey k ↔ P k.toList := by simp [IsKey, P]
  rw [hread, hkey]
  exact trim_eq_and_iff fun h c hc => not_isBlank_of_keyChar (h.2 c hc)

/-- A value is what a text holds between blanks. -/
theorem value_eq_ok_iff {cs : List Char} {v : String} :
    value cs = .ok v ↔ IsValue v ∧ Padded v.toList cs := by
  let P (part : List Char) : Prop := ∀ c ∈ part, ValueChar c
  have hread : value cs = .ok v ↔ P (trim cs) ∧ trim cs = v.toList := by
    simp only [value, ite_ofList_eq_ok_iff, List.all_eq_true, isValueChar_iff, P]
  rw [hread]
  exact trim_eq_and_iff fun h c hc => not_isBlank_of_keyChar (.inl (h c hc))

/-- Blanks around a key do not matter. -/
theorem key_of_padded {core cs : List Char} (h : Padded core cs) : key cs = key core := by
  simp only [key, Text.trim_of_padded h]

/-- Blanks around a value do not matter. -/
theorem value_of_padded {core cs : List Char} (h : Padded core cs) : value cs = value core := by
  simp only [value, Text.trim_of_padded h]

/-- A text around a key has no character that a term is taken apart at. -/
theorem notMem_of_padded {core cs : List Char} (hcore : ∀ c ∈ core, ValueChar c ∨ c = '/')
    (h : Padded core cs) {x : Char} (hx : x ∈ ['!', '=', ',']) : x ∉ cs := by
  obtain ⟨before, after, hbefore, hafter, rfl⟩ := h
  have hblank : ¬ isBlank x := by
    simp only [List.mem_cons, List.not_mem_nil, or_false] at hx
    rcases hx with rfl | rfl | rfl <;> decide
  simp only [List.mem_append, not_or]
  refine ⟨⟨fun hmem => hblank (hbefore x hmem), fun hmem => ?_⟩,
    fun hmem => hblank (hafter x hmem)⟩
  exact ne_of_keyChar (hcore x hmem) hx rfl

/-! ## Signs -/

variable {sign a b cs : List Char} {c : Char}

/-- What stands on the sides of a sign that is found. -/
theorem eq_of_splitAt? (h : splitAt? sign cs = some (a, b)) : cs = a ++ sign ++ b := by
  induction cs generalizing a with
  | nil => cases h
  | cons x cs ih =>
    unfold splitAt? at h
    split at h
    · next hfound =>
      obtain ⟨rfl, rfl⟩ := Prod.mk.inj (Option.some.inj h)
      obtain ⟨rest, hrest⟩ := List.isPrefixOf_iff_prefix.mp hfound
      simp [← hrest]
    · obtain ⟨⟨a', b'⟩, hlater, heq⟩ := Option.map_eq_some_iff.mp h
      obtain ⟨rfl, rfl⟩ := Prod.mk.inj heq
      rw [ih hlater]
      rfl

/-- A sign is found where its first character occurs for the first time. -/
theorem splitAt?_append (ha : c ∉ a) :
    splitAt? (c :: sign) (a ++ c :: (sign ++ b)) = some (a, b) := by
  induction a with
  | nil => simp [splitAt?]
  | cons x a ih =>
    obtain ⟨hne, hnotMem⟩ := List.ne_and_not_mem_of_not_mem_cons ha
    have hstart : (c :: sign).isPrefixOf (x :: (a ++ c :: (sign ++ b))) = false := by
      simp [List.isPrefixOf, hne]
    simp only [List.cons_append, splitAt?, hstart, Bool.false_eq_true, if_false, ih hnotMem,
      Option.map_some]

/-- A sign is not found where one of its characters does not occur. -/
theorem splitAt?_of_notMem (hsign : c ∈ sign) (hcs : c ∉ cs) : splitAt? sign cs = none := by
  cases hfound : splitAt? sign cs with
  | none => rfl
  | some sides =>
    have heq : cs = sides.1 ++ sign ++ sides.2 := eq_of_splitAt? hfound
    exact absurd (by rw [heq]; simp [hsign]) hcs

/-- A sign of two equal characters is not found where the character occurs only once. -/
theorem splitAt?_double (ha : c ∉ a) (hb : c ∉ b) : splitAt? [c, c] (a ++ c :: b) = none := by
  cases hfound : splitAt? [c, c] (a ++ c :: b) with
  | none => rfl
  | some sides =>
    have heq : a ++ c :: b = sides.1 ++ [c, c] ++ sides.2 := eq_of_splitAt? hfound
    -- The sign takes the character twice.
    have htwo : 2 ≤ (a ++ c :: b).count c := by
      rw [heq]
      simp
      omega
    have hone : (a ++ c :: b).count c = 1 := by
      simp [List.count_eq_zero_of_not_mem ha, List.count_eq_zero_of_not_mem hb]
    omega

/-! ## Terms -/

variable {k v : String} {r : Requirement} {p : List Char}

/-- The side of a term that a key is read from has no sign in it. -/
theorem notMem_of_key (hk : key a = .ok k) {x : Char} (hx : x ∈ ['!', '=', ',']) : x ∉ a := by
  obtain ⟨hkey, hpadded⟩ := key_eq_ok_iff.mp hk
  exact notMem_of_padded hkey.2 hpadded hx

/-- The side of a term that a value is read from has no sign in it. -/
theorem notMem_of_value (hv : value b = .ok v) {x : Char} (hx : x ∈ ['!', '=', ',']) : x ∉ b := by
  obtain ⟨hvalue, hpadded⟩ := value_eq_ok_iff.mp hv
  exact notMem_of_padded (fun c hc => .inl (hvalue c hc)) hpadded hx

/-- A key, `!=` and a value are read so. -/
theorem requirement_notEquals (hk : key a = .ok k) (hv : value b = .ok v) :
    requirement (a ++ '!' :: '=' :: b) = .ok (.notEquals k v) := by
  have hfound : splitAt? ['!', '='] (a ++ '!' :: '=' :: b) = some (a, b) :=
    splitAt?_append (notMem_of_key hk (by simp))
  simp only [requirement, hfound, hk, hv]
  rfl

/-- A key, `==` and a value are read so: there is no `!=`, for want of a `!`. -/
theorem requirement_doubleEquals (hk : key a = .ok k) (hv : value b = .ok v) :
    requirement (a ++ '=' :: '=' :: b) = .ok (.equals k v) := by
  have hno : '!' ∉ a ++ '=' :: '=' :: b := by
    simp [notMem_of_key hk (x := '!'), notMem_of_value hv (x := '!')]
  have hnone : splitAt? ['!', '='] (a ++ '=' :: '=' :: b) = none :=
    splitAt?_of_notMem (c := '!') (by simp) hno
  have hfound : splitAt? ['=', '='] (a ++ '=' :: '=' :: b) = some (a, b) :=
    splitAt?_append (notMem_of_key hk (by simp))
  simp only [requirement, hnone, hfound, hk, hv]
  rfl

/-- A key, `=` and a value are read so: there is no `!=`, and no `==` because there is one `=`
only. -/
theorem requirement_equals (hk : key a = .ok k) (hv : value b = .ok v) :
    requirement (a ++ '=' :: b) = .ok (.equals k v) := by
  have hno : '!' ∉ a ++ '=' :: b := by
    simp [notMem_of_key hk (x := '!'), notMem_of_value hv (x := '!')]
  have ha : '=' ∉ a := notMem_of_key hk (by simp)
  have hb : '=' ∉ b := notMem_of_value hv (by simp)
  have hnone : splitAt? ['!', '='] (a ++ '=' :: b) = none :=
    splitAt?_of_notMem (c := '!') (by simp) hno
  have hdouble : splitAt? ['=', '='] (a ++ '=' :: b) = none := splitAt?_double ha hb
  have hfound : splitAt? ['='] (a ++ '=' :: b) = some (a, b) := splitAt?_append ha
  simp only [requirement, hnone, hdouble, hfound, hk, hv]
  rfl

/-- In a text without `=` no sign is found. -/
theorem splitAt?_of_no_equals (h : '=' ∉ cs) :
    splitAt? ['!', '='] cs = none ∧ splitAt? ['=', '='] cs = none ∧ splitAt? ['='] cs = none :=
  ⟨splitAt?_of_notMem (c := '=') (by simp) h, splitAt?_of_notMem (c := '=') (by simp) h,
    splitAt?_of_notMem (c := '=') (by simp) h⟩

/-- A key behind `!` is read so. -/
theorem requirement_lacks (hk : key a = .ok k) : requirement ('!' :: a) = .ok (.lacks k) := by
  have hno : '=' ∉ '!' :: a := by simp [notMem_of_key hk (x := '=')]
  obtain ⟨hnot, hdouble, hsingle⟩ := splitAt?_of_no_equals hno
  simp only [requirement, hnot, hdouble, hsingle, hk]
  rfl

/-- A key is read so: it does not start with `!`. -/
theorem requirement_exists (hk : key a = .ok k) : requirement a = .ok (.exists k) := by
  have hno : '=' ∉ a := notMem_of_key hk (by simp)
  have hsign : '!' ∉ a := notMem_of_key hk (by simp)
  obtain ⟨hnot, hdouble, hsingle⟩ := splitAt?_of_no_equals hno
  simp only [requirement, hnot, hdouble, hsingle]
  split
  · simp at hsign
  · rw [hk]
    rfl

/-- What a requirement with two sides is put together from. -/
theorem sides_eq_ok_iff {f : String → String → Requirement} :
    (do return f (← key a) (← value b) : Except SelectorError Requirement) = .ok r ↔
      ∃ k v, (IsKey k ∧ Padded k.toList a) ∧ (IsValue v ∧ Padded v.toList b) ∧ r = f k v := by
  simp only [bind_eq_ok_iff, key_eq_ok_iff, value_eq_ok_iff]
  constructor
  · rintro ⟨k, hk, v, hv, hr⟩
    exact ⟨k, v, hk, hv, (Except.ok.inj hr).symm⟩
  · rintro ⟨k, v, hk, hv, rfl⟩
    exact ⟨k, hk, v, hv, rfl⟩

/-- What a requirement of a key alone is put together from. -/
theorem side_eq_ok_iff {f : String → Requirement} :
    (do return f (← key a) : Except SelectorError Requirement) = .ok r ↔
      ∃ k, (IsKey k ∧ Padded k.toList a) ∧ r = f k := by
  simp only [bind_eq_ok_iff, key_eq_ok_iff]
  constructor
  · rintro ⟨k, hk, hr⟩
    exact ⟨k, hk, (Except.ok.inj hr).symm⟩
  · rintro ⟨k, hk, rfl⟩
    exact ⟨k, hk, rfl⟩

/-- What is read as a requirement is a term that writes it. -/
theorem term_of_requirement (h : requirement cs = .ok r) : Term cs r := by
  unfold requirement at h
  -- The cases come in the order in which the signs are looked for.
  split at h
  · next a b hfound =>
    have hcs : cs = a ++ '!' :: '=' :: b := by simpa using eq_of_splitAt? hfound
    obtain ⟨k, v, ⟨hk, ha⟩, ⟨hv, hb⟩, rfl⟩ := sides_eq_ok_iff.mp h
    rw [hcs]
    exact .notEquals hk hv ha hb
  · split at h
    · next a b hfound =>
      have hcs : cs = a ++ '=' :: '=' :: b := by simpa using eq_of_splitAt? hfound
      obtain ⟨k, v, ⟨hk, ha⟩, ⟨hv, hb⟩, rfl⟩ := sides_eq_ok_iff.mp h
      rw [hcs]
      exact .doubleEquals hk hv ha hb
    · split at h
      · next a b hfound =>
        have hcs : cs = a ++ '=' :: b := by simpa using eq_of_splitAt? hfound
        obtain ⟨k, v, ⟨hk, ha⟩, ⟨hv, hb⟩, rfl⟩ := sides_eq_ok_iff.mp h
        rw [hcs]
        exact .equals hk hv ha hb
      · split at h
        · next a _ _ _ =>
          obtain ⟨k, ⟨hk, ha⟩, rfl⟩ := side_eq_ok_iff.mp h
          have hterm : Term ([] ++ '!' :: a) (.lacks k) := .lacks hk (List.forall_mem_nil _) ha
          exact hterm
        · obtain ⟨k, ⟨hk, ha⟩, rfl⟩ := side_eq_ok_iff.mp h
          exact .exists hk ha

/-- A term that stands between blanks writes the same requirement with them: they join those that
its first and its last part may have anyway. -/
theorem Term.of_padded {t : List Char} (hpadded : Padded t p) (h : Term t r) : Term p r := by
  obtain ⟨before, after, hbefore, hafter, rfl⟩ := hpadded
  have hleft {core a : List Char} (ha : Padded core a) : Padded core (before ++ a) :=
    ha.trans (Text.padded_blank_append hbefore)
  have hright {core b : List Char} (hb : Padded core b) : Padded core (b ++ after) :=
    hb.trans (Text.padded_append_blank hafter)
  cases h with
  | @equals a b k v hk hv ha hb =>
    have hsplit : before ++ (a ++ '=' :: b) ++ after = (before ++ a) ++ '=' :: (b ++ after) := by
      simp
    rw [hsplit]
    exact .equals hk hv (hleft ha) (hright hb)
  | @doubleEquals a b k v hk hv ha hb =>
    have hsplit : before ++ (a ++ '=' :: '=' :: b) ++ after =
        (before ++ a) ++ '=' :: '=' :: (b ++ after) := by simp
    rw [hsplit]
    exact .doubleEquals hk hv (hleft ha) (hright hb)
  | @notEquals a b k v hk hv ha hb =>
    have hsplit : before ++ (a ++ '!' :: '=' :: b) ++ after =
        (before ++ a) ++ '!' :: '=' :: (b ++ after) := by simp
    rw [hsplit]
    exact .notEquals hk hv (hleft ha) (hright hb)
  | «exists» hk ha => exact .exists hk (hright (hleft ha))
  | @lacks before' a k hk hbefore' ha =>
    have hsplit : before ++ (before' ++ '!' :: a) ++ after =
        (before ++ before') ++ '!' :: (a ++ after) := by simp
    rw [hsplit]
    exact .lacks hk (List.forall_mem_append.mpr ⟨hbefore, hbefore'⟩) (hright ha)

/-- A term is read, once it is trimmed, as the requirement that it writes. Trimming takes nothing
from it but blanks before its first part and behind its last part. -/
theorem requirement_of_term (h : Term p r) : requirement (trim p) = .ok r := by
  have hkey {k : String} {a a' : List Char} (hk : IsKey k) (ha : Padded k.toList a)
      (htrimmed : Padded a' a) : key a' = .ok k := by
    rw [← key_of_padded htrimmed]
    exact key_eq_ok_iff.mpr ⟨hk, ha⟩
  have hvalue {v : String} {b b' : List Char} (hv : IsValue v) (hb : Padded v.toList b)
      (htrimmed : Padded b' b) : value b' = .ok v := by
    rw [← value_of_padded htrimmed]
    exact value_eq_ok_iff.mpr ⟨hv, hb⟩
  have hbang : ¬ isBlank '!' := by decide
  have hequals : ¬ isBlank '=' := by decide
  -- Trimming the end stops at the second character of a sign too.
  have hend (b : List Char) : trimEnd ('=' :: b) = '=' :: trimEnd b :=
    Text.trimEnd_append_cons (a := []) hequals
  cases h with
  | @equals a b k v hk hv ha hb =>
    rw [Text.trim_append_cons hequals]
    exact requirement_equals (hkey hk ha (Text.padded_trimStart a))
      (hvalue hv hb (Text.padded_trimEnd b))
  | @doubleEquals a b k v hk hv ha hb =>
    rw [Text.trim_append_cons hequals, hend]
    exact requirement_doubleEquals (hkey hk ha (Text.padded_trimStart a))
      (hvalue hv hb (Text.padded_trimEnd b))
  | @notEquals a b k v hk hv ha hb =>
    rw [Text.trim_append_cons hbang, hend]
    exact requirement_notEquals (hkey hk ha (Text.padded_trimStart a))
      (hvalue hv hb (Text.padded_trimEnd b))
  | «exists» hk ha => exact requirement_exists (hkey hk ha (Text.padded_trim p))
  | @lacks before a k hk hbefore ha =>
    -- Nothing is left of the blanks in front of the sign.
    have hstart : trimStart before = [] := List.dropWhile_eq_nil_iff.mpr hbefore
    rw [Text.trim_append_cons hbang, hstart, List.nil_append]
    exact requirement_lacks (hkey hk ha (Text.padded_trimEnd a))

/-- A piece of a text is a term exactly if it is read as one when it is trimmed. -/
theorem requirement_trim_eq_ok_iff : requirement (trim p) = .ok r ↔ Term p r :=
  ⟨fun h => (term_of_requirement h).of_padded (Text.padded_trim p), requirement_of_term⟩

/-! ## Commas -/

/-- The pieces of a text are those that lists are split into. -/
theorem pieces_eq_splitOn (cs : List Char) : pieces cs = cs.splitOn ',' := by
  induction cs with
  | nil => rfl
  | cons c cs ih =>
    rw [pieces, List.splitOn_cons_eq_if_modifyHead, ← ih]
    by_cases hc : c = ','
    · simp [hc]
    · simp only [hc, if_false, beq_iff_eq]
      cases hpieces : pieces cs with
      | nil => exact absurd (ih ▸ hpieces) (List.splitOn_ne_nil ',' cs)
      | cons p ps => rfl

/-- A text is cut into its pieces. -/
theorem cutAtCommas_pieces (cs : List Char) : CutAtCommas cs (pieces cs) := by
  refine ⟨?_, ?_, ?_⟩
  · rw [pieces_eq_splitOn]
    exact List.splitOn_ne_nil ',' cs
  · induction cs with
    | nil => simp [pieces]
    | cons c cs ih =>
      rw [pieces]
      split
      · exact List.forall_mem_cons.mpr ⟨List.not_mem_nil, ih⟩
      · next hc =>
        -- The character joins the first piece of the rest.
        split
        · next p ps hpieces =>
          rw [hpieces] at ih
          obtain ⟨hp, hps⟩ := List.forall_mem_cons.mp ih
          exact List.forall_mem_cons.mpr ⟨by simp [hp, Ne.symm hc], hps⟩
        · simp [Ne.symm hc]
  · rw [pieces_eq_splitOn, List.intercalate_splitOn]

/-- There is one way only to cut a text at its commas. -/
theorem CutAtCommas.eq_pieces {ps : List (List Char)} (h : CutAtCommas cs ps) :
    ps = pieces cs := by
  rw [pieces_eq_splitOn, h.join, List.splitOn_intercalate _ h.notMem h.ne_nil]

/-- A blank text has no comma, and it is cut into itself. -/
theorem pieces_of_blank (h : ∀ c ∈ cs, isBlank c) : pieces cs = [cs] := by
  have hcomma : ',' ∉ cs := fun hmem => absurd (h ',' hmem) (by decide)
  have hcut : CutAtCommas cs [cs] := ⟨by simp, by simpa using hcomma, by simp⟩
  exact hcut.eq_pieces.symm

/-! ## Texts -/

variable {s : String} {rs : List Requirement}

/-- No term is blank. -/
theorem Term.not_blank (h : Term p r) : ¬ ∀ c ∈ p, isBlank c := by
  intro hblank
  have hread := requirement_of_term h
  rw [Text.trim_eq_nil_iff.mpr hblank] at hread
  cases hread

/-- A blank text writes no requirement, and has no other reading. -/
theorem writes_blank_iff (hblank : ∀ c ∈ s.toList, isBlank c) : Writes s rs ↔ rs = [] := by
  constructor
  · rintro (_ | ⟨cut, each⟩)
    · rfl
    · rw [cut.eq_pieces, pieces_of_blank hblank] at each
      obtain ⟨r, rs, hterm, -⟩ := List.forall₂_cons_left_iff.mp each
      exact absurd hblank hterm.not_blank
  · rintro rfl
    exact .blank hblank

/-- A text that is not blank writes what its pieces write. -/
theorem writes_iff_of_not_blank (hblank : ¬ ∀ c ∈ s.toList, isBlank c) :
    Writes s rs ↔ List.Forall₂ Term (pieces s.toList) rs := by
  constructor
  · rintro (h | ⟨cut, each⟩)
    · exact absurd h hblank
    · exact cut.eq_pieces ▸ each
  · exact .terms (cutAtCommas_pieces _)

/-- A blank text is read as the selector of everything. -/
theorem parse_of_blank (hblank : ∀ c ∈ s.toList, isBlank c) : parse s = .ok everything := by
  have hall : s.toList.all isBlank = true := List.all_eq_true.mpr hblank
  simp only [parse, hall, if_true]
  rfl

/-- Any other text is read piece by piece. -/
theorem parse_eq_ok_iff_of_not_blank (hblank : ¬ ∀ c ∈ s.toList, isBlank c) :
    parse s = .ok ⟨rs⟩ ↔ List.Forall₂ Term (pieces s.toList) rs := by
  have hall : s.toList.all isBlank = false :=
    Bool.eq_false_iff.mpr fun h => hblank (List.all_eq_true.mp h)
  let read (p : List Char) : Except SelectorError Requirement :=
    if (trim p).isEmpty then .error (.emptyTerm s) else requirement (trim p)
  have hparse : parse s = ((pieces s.toList).mapM read).map mk := by
    simp only [parse, hall, Bool.false_eq_true, if_false]
    rfl
  have hread (p : List Char) (r : Requirement) : read p = .ok r ↔ Term p r := by
    dsimp only [read]
    split
    · next hempty =>
      -- A blank piece is refused as such, and it is no term either.
      have hblank := Text.trim_eq_nil_iff.mp (List.isEmpty_iff.mp hempty)
      constructor
      · intro h
        cases h
      · exact fun hterm => absurd hblank hterm.not_blank
    · exact requirement_trim_eq_ok_iff
  rw [hparse]
  simp only [map_eq_ok_iff, mapM_eq_ok_iff, hread, mk.injEq, exists_eq_right]

/-- A text is read as the requirements that it writes. -/
theorem parse_eq_ok_iff : parse s = .ok ⟨rs⟩ ↔ Writes s rs := by
  by_cases hblank : ∀ c ∈ s.toList, isBlank c
  · rw [writes_blank_iff hblank, parse_of_blank hblank, Except.ok.injEq, everything, mk.injEq,
      eq_comm]
  · rw [writes_iff_of_not_blank hblank, parse_eq_ok_iff_of_not_blank hblank]

/-- A text that writes nothing is refused. -/
theorem exists_parse_eq_error_iff : (∃ e, parse s = .error e) ↔ ∀ rs, ¬ Writes s rs := by
  simp only [← parse_eq_ok_iff]
  cases hread : parse s with
  | ok selector => simpa using ⟨selector.requirements, rfl⟩
  | error e => simp

/-- Every text is read as the grammar says: as the requirements that it writes, and with an error
exactly if it writes none. A lenient reading differs for the refused texts alone, and takes them as
the selector of everything. -/
theorem parse_grammar (s : String) :
    (∀ rs, parse s = .ok ⟨rs⟩ ↔ Writes s rs) ∧
      ((∃ e, parse s = .error e) ↔ ∀ rs, ¬ Writes s rs) ∧
      ∀ rs, parseLenient s = ⟨rs⟩ ↔ Writes s rs ∨ rs = [] ∧ ∀ rs', ¬ Writes s rs' := by
  refine ⟨fun rs => parse_eq_ok_iff, exists_parse_eq_error_iff, fun rs => ?_⟩
  have hread (rs : List Requirement) : parse s = .ok ⟨rs⟩ ↔ Writes s rs := parse_eq_ok_iff
  cases hparse : parse s with
  | ok selector =>
    have hwrites : Writes s selector.requirements := (hread _).mp hparse
    have hlenient : parseLenient s = selector := by simp only [parseLenient, hparse]
    rw [hlenient, ← hread, hparse, Except.ok.injEq]
    exact ⟨.inl, fun h => h.resolve_right fun hnone => hnone.2 _ hwrites⟩
  | error e =>
    have hnone : ∀ rs, ¬ Writes s rs := exists_parse_eq_error_iff.mp ⟨e, hparse⟩
    have hlenient : parseLenient s = everything := by simp only [parseLenient, hparse]
    rw [hlenient, everything, mk.injEq, eq_comm]
    exact ⟨fun h => .inr ⟨h, hnone⟩, fun h => (h.resolve_left (hnone rs)).1⟩

end FleetConsole.Selector
