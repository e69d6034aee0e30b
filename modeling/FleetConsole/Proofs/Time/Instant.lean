import FleetConsole.Proofs.Record.Outcome
import FleetConsole.Proofs.Time.Calendar
import FleetConsole.Time.Reader
import Mathlib.Data.List.Induction
import Mathlib.Data.List.TakeWhile
import Mathlib.Data.Nat.Digits.Defs

/-!
# Instants and their texts

Whatever text an instant was read from, its own text is read as the same instant cut to whole
seconds (`Instant.ofText_wholeText`). An instant that is read is a second of a day of a supported
year, and in a leap second it is the last second of its minute (`Instant.proper_of_ofText`); the
reader takes back what is written of such an instant part by part. The strict reader does so in the
years of four digits only (`Instant.Proper.ofStrictText?_wholeText`).
-/

namespace FleetConsole.Instant

/-! ## Digits -/

/-- A digit is no blank. -/
theorem isBlank_of_isDigit {c : Char} (h : c.isDigit) : Text.isBlank c = false := by
  simp only [Char.isDigit, Bool.and_eq_true, decide_eq_true_eq, ge_iff_le] at h
  have hleast : 48 ≤ c.toNat := h.1
  have hgreatest : c.toNat ≤ 57 := h.2
  simp only [Text.isBlank, Text.inRanges, Text.blanks, List.any_cons, List.any_nil,
    Bool.or_eq_false_iff, Bool.and_eq_false_iff, decide_eq_false_iff_not, not_le, and_true]
  omega

/-- A number is read from its digits. -/
theorem number_padded (width n : Nat) : number (padded width n) = n := by
  have hzeros (k m : Nat) (ds : List Char) :
      Nat.ofDigitChars 10 (List.replicate k '0' ++ ds) 0 = Nat.ofDigitChars 10 ds 0 := by
    induction k with
    | zero => rfl
    | succ k ih => exact ih
  exact (hzeros _ n _).trans (Nat.ofDigitChars_toDigits (by decide) (by decide))

/-- A number is written with digits. -/
theorem isDigit_of_mem_padded {width n : Nat} {c : Char} (h : c ∈ padded width n) : c.isDigit := by
  obtain h | h := List.mem_append.mp h
  · rw [List.eq_of_mem_replicate h]
    rfl
  · exact Nat.isDigit_of_mem_toDigits (by decide) (by decide) h

/-- A number with fewer digits than its width is written with as many as that. -/
theorem length_padded {width n : Nat} (hwidth : 0 < width) (h : n < 10 ^ width) :
    (padded width n).length = width := by
  have hle := Nat.toDigits_length 10 n width hwidth h
  simp only [padded, List.length_append, List.length_replicate]
  omega

/-- Digits are scanned up to the greatest number of them, or up to what is no digit. -/
theorem scanDigits_append {most : Nat} {ds rest : List Char} (hdigits : ∀ c ∈ ds, c.isDigit)
    (hne : ds ≠ []) (hmost : ds.length ≤ most)
    (hend : ds.length = most ∨ ∀ c ∈ rest.head?, c.isDigit = false) :
    scanDigits most (ds ++ rest) = .ok (ds, rest) := by
  have htake : ((ds ++ rest).take most).takeWhile Char.isDigit = ds := by
    rw [List.take_append, List.take_of_length_le hmost, List.takeWhile_append_of_pos hdigits]
    obtain hfull | hstop := hend
    · simp [hfull]
    · cases rest with
      | nil => simp
      | cons c rest =>
        cases most - ds.length with
        | zero => simp
        | succ k => simp [hstop c rfl]
  unfold scanDigits
  split
  · next h => exact absurd (List.append_eq_nil_iff.mp h).1 hne
  · simp [htake, hne]

/-- There are no blanks to trim before digits. -/
theorem trimStart_digits {ds rest : List Char} (hdigits : ∀ c ∈ ds, c.isDigit) (hne : ds ≠ []) :
    Text.trimStart (ds ++ rest) = ds ++ rest := by
  cases ds with
  | nil => exact absurd rfl hne
  | cons c ds =>
    simp [Text.trimStart, isBlank_of_isDigit (hdigits c List.mem_cons_self)]

/-- A number is not written with nothing. -/
theorem padded_ne_nil {width n : Nat} : padded width n ≠ [] := by
  intro h
  have hdigits := (List.append_eq_nil_iff.mp h).2
  exact Nat.toDigits_ne_nil hdigits

/-! ## Parts of a time -/

/-- A field of two digits is read back. -/
theorem scanField_padded {least greatest n : Nat} (hleast : least ≤ n) (hgreatest : n ≤ greatest)
    (hwidth : greatest < 100) (rest : List Char) :
    scanField least greatest (padded 2 n ++ rest) = .ok (n, rest) := by
  have hdigits : ∀ c ∈ padded 2 n, c.isDigit := fun c => isDigit_of_mem_padded
  have hlength : (padded 2 n).length = 2 := length_padded (by decide) (by omega)
  have hscan : scanDigits 2 (padded 2 n ++ rest) = .ok (padded 2 n, rest) :=
    scanDigits_append hdigits padded_ne_nil hlength.le (.inl hlength)
  simp [scanField, trimStart_digits hdigits padded_ne_nil, hscan, number_padded, hleast, hgreatest,
    bind, Except.bind]

/-- A mark is read back. -/
theorem scanMark_cons {mark : Char} (hmark : Text.isBlank mark = false) (rest : List Char) :
    scanMark mark (mark :: rest) = .ok ((), rest) := by
  simp [scanMark, Text.trimStart, hmark]

/-- Digits do not start with a sign. -/
theorem digits_ne_cons {ds rest more : List Char} {sign : Char} (hdigits : ∀ c ∈ ds, c.isDigit)
    (hne : ds ≠ []) (hsign : sign.isDigit = false) : ds ++ rest ≠ sign :: more := by
  cases ds with
  | nil => exact absurd rfl hne
  | cons c ds =>
    intro h
    obtain ⟨rfl, -⟩ := List.cons.inj h
    rw [hdigits c List.mem_cons_self] at hsign
    cases hsign

/-- A year is read back. -/
theorem scanYear_yearText {y : Int} (hleast : -2147483648 ≤ y) (hgreatest : y ≤ 2147483647)
    (rest : List Char) : scanYear (yearText y ++ '-' :: rest) = .ok (y, '-' :: rest) := by
  have hdigits (n : Nat) : ∀ c ∈ padded 4 n, c.isDigit := fun c => isDigit_of_mem_padded
  unfold yearText
  split
  · next hshort =>
    have hlength : (padded 4 y.toNat).length = 4 := length_padded (by decide) (by omega)
    have hscan : scanDigits 4 (padded 4 y.toNat ++ '-' :: rest) =
        .ok (padded 4 y.toNat, '-' :: rest) :=
      scanDigits_append (hdigits _) padded_ne_nil hlength.le (.inl hlength)
    rw [scanYear, trimStart_digits (hdigits _) padded_ne_nil]
    split
    · next h => exact absurd h (digits_ne_cons (hdigits _) padded_ne_nil rfl)
    · next h => exact absurd h (digits_ne_cons (hdigits _) padded_ne_nil rfl)
    · simp only [hscan, number_padded, bind, Except.bind]
      rw [if_pos (by omega), Int.toNat_of_nonneg hshort.1]
  · next hlong =>
    -- After a sign the digits go on until the mark.
    have hscan : scanDigits (padded 4 y.natAbs ++ '-' :: rest).length
        (padded 4 y.natAbs ++ '-' :: rest) = .ok (padded 4 y.natAbs, '-' :: rest) := by
      refine scanDigits_append (hdigits _) padded_ne_nil ?_ (.inr ?_)
      · simp
      · rintro c ⟨⟩
        rfl
    split
    · next hneg =>
      have htrim : Text.trimStart ('-' :: padded 4 y.natAbs ++ '-' :: rest) =
          '-' :: (padded 4 y.natAbs ++ '-' :: rest) := rfl
      simp only [scanYear, htrim, hscan, number_padded, bind, Except.bind]
      rw [if_pos (by omega), show -(y.natAbs : Int) = y by omega]
    · next hpos =>
      have htrim : Text.trimStart ('+' :: padded 4 y.natAbs ++ '-' :: rest) =
          '+' :: (padded 4 y.natAbs ++ '-' :: rest) := rfl
      simp only [scanYear, htrim, hscan, number_padded, bind, Except.bind]
      rw [if_pos (by omega), show (y.natAbs : Int) = y by omega]

/-- The fields of a time are read back from its text. -/
theorem ofText_fields {d : Date} {hour minute second : Nat} (hd : d.isValid) (hhour : hour ≤ 23)
    (hminute : minute ≤ 59) (hsecond : second ≤ 60) :
    ofText (String.ofList (yearText d.year ++ '-' :: padded 2 d.month ++ '-' :: padded 2 d.day ++
      'T' :: padded 2 hour ++ ':' :: padded 2 minute ++ ':' :: padded 2 second ++ ['Z'])) =
    let t := ofLocal d (hour * 3600 + minute * 60 + (if second = 60 then 59 else second))
      (if second = 60 then nanosPerSecond else 0) 0
    if Date.supportedYear t.year then .ok t else .error .impossible := by
  have hmost := Date.daysInMonth_le d.year d.month
  obtain ⟨⟨⟨⟨hyear, hmonth⟩, hmonth'⟩, hday⟩, hday'⟩ : (((Date.supportedYear d.year ∧ 1 ≤ d.month) ∧
      d.month ≤ 12) ∧ 1 ≤ d.day) ∧ d.day ≤ Date.daysInMonth d.year d.month := by
    simpa [Date.isValid] using hd
  have hscanYear (rest : List Char) : scanYear (yearText d.year ++ '-' :: rest) =
      .ok (d.year, '-' :: rest) := by
    simp only [Date.supportedYear, Bool.and_eq_true, decide_eq_true_eq] at hyear
    exact scanYear_yearText (by omega) (by omega) rest
  have hdash (rest : List Char) : scanMark '-' ('-' :: rest) = .ok ((), rest) :=
    scanMark_cons rfl rest
  have hcolon (rest : List Char) : scanMark ':' (':' :: rest) = .ok ((), rest) :=
    scanMark_cons rfl rest
  have hletter (rest : List Char) : scanSeparator ('T' :: rest) = .ok ((), rest) := rfl
  have hscanMonth := scanField_padded hmonth hmonth' (by decide)
  have hscanDay := scanField_padded hday (hday'.trans hmost) (by decide)
  have hscanHour := scanField_padded (Nat.zero_le hour) hhour (by decide)
  have hscanMinute := scanField_padded (Nat.zero_le minute) hminute (by decide)
  have hscanSecond := scanField_padded (Nat.zero_le second) hsecond (by decide)
  have hfraction : scanFraction ['Z'] = .ok (0, ['Z']) := rfl
  have hzone : scanZone ['Z'] = .ok (0, []) := by decide
  -- Each part of the text is read as it was written, from the year to the zone.
  simp only [ofText, String.toList_ofList, List.append_assoc, List.cons_append, hscanYear, hdash,
    hcolon, hletter, hscanMonth, hscanDay, hscanHour, hscanMinute, hscanSecond, hfraction, hzone,
    bind, Except.bind]
  simp [Text.trimStart, hd]

/-! ## Instants -/

/-- A second of a day of a supported year. In a leap second it is the last of its minute. -/
structure Proper (t : Instant) : Prop where
  second : t.second < 86400
  leap : nanosPerSecond ≤ t.nano → t.second % 60 = 59
  year : Date.supportedYear t.year

/-- The date of a proper instant is one that instants are read from. -/
theorem Proper.isValid {t : Instant} (h : t.Proper) : (Date.ofDays t.day).isValid := by
  obtain ⟨hmonth, hday⟩ := Date.ofDays_inCalendar t.day
  have hyear : Date.supportedYear (Date.ofDays t.day).year := h.year
  simp [Date.isValid, hyear, hmonth, hday]

/-- The time of day is put together again from hours, minutes and seconds. -/
theorem Proper.ofLocal_date {t : Instant} (h : t.Proper) (nano : Nat) :
    ofLocal (Date.ofDays t.day) (t.second / 3600 * 3600 + t.second / 60 % 60 * 60 + t.second % 60)
      nano 0 = { t with nano } := by
  have hsecond := h.second
  have hclock : t.second / 3600 * 3600 + t.second / 60 % 60 * 60 + t.second % 60 = t.second := by
    omega
  have hday : (t.day * 86400 + (t.second : Int) - 0) / 86400 = t.day := by omega
  have hrest : ((t.day * 86400 + (t.second : Int) - 0) % 86400).toNat = t.second := by omega
  simp only [ofLocal, Date.toDays_ofDays, hclock, hday, hrest]

/-- The text of a proper instant is read as the instant cut to whole seconds. -/
theorem Proper.ofText_wholeText {t : Instant} (h : t.Proper) :
    ofText t.wholeText = .ok t.wholeSecond := by
  have hsecond := h.second
  by_cases hleap : nanosPerSecond ≤ t.nano
  · -- The sixtieth second is written, and read as the fifty-ninth that runs on.
    have hlast := h.leap hleap
    have hlocal := h.ofLocal_date nanosPerSecond
    rw [hlast] at hlocal
    rw [wholeText, secondsText, if_pos hleap, hlast,
      ofText_fields h.isValid (by omega) (by omega) (by omega)]
    simp only [reduceIte, hlocal, Nat.reduceAdd]
    rw [wholeSecond, if_neg (Nat.not_lt.mpr hleap)]
    exact if_pos h.year
  · have hshort : t.second % 60 ≠ 60 := by omega
    rw [wholeText, secondsText, if_neg hleap,
      ofText_fields h.isValid (by omega) (by omega) (by omega)]
    simp only [Nat.add_zero, if_neg hshort, h.ofLocal_date]
    rw [wholeSecond, if_pos (Nat.not_le.mp hleap)]
    exact if_pos h.year

/-! ## Instants that are read -/

/-- What is scanned as digits are digits, and no more than are allowed. -/
theorem digits_of_scanDigits {most : Nat} {cs ds rest : List Char}
    (h : scanDigits most cs = .ok (ds, rest)) : (∀ c ∈ ds, c.isDigit) ∧ ds.length ≤ most := by
  unfold scanDigits at h
  split at h
  · cases h
  · dsimp only at h
    split at h
    · cases h
    · obtain ⟨rfl, -⟩ := Prod.mk.inj (Except.ok.inj h)
      refine ⟨fun c hc => List.mem_takeWhile_imp hc, ?_⟩
      exact (List.takeWhile_sublist _).length_le.trans (List.length_take_le _ _)

/-- A number is less than what as many digits can write. -/
theorem number_lt {ds : List Char} (hdigits : ∀ c ∈ ds, c.isDigit) :
    number ds < 10 ^ ds.length := by
  induction ds using List.reverseRecOn with
  | nil => decide
  | append_singleton ds c ih =>
    have hlast : number (ds ++ [c]) = 10 * number ds + (c.toNat - '0'.toNat) := by
      simp [number]
    have hrest := ih fun d hd => hdigits d (List.mem_append_left _ hd)
    have hc := hdigits c (by simp)
    simp only [Char.isDigit, Bool.and_eq_true, decide_eq_true_eq, ge_iff_le] at hc
    have hgreatest : c.toNat ≤ 57 := hc.2
    have hzero : '0'.toNat = 48 := rfl
    rw [hlast, List.length_append, List.length_singleton, Nat.pow_succ]
    omega

/-- A scanned fraction is less than a second. -/
theorem nano_of_scanFraction {cs rest : List Char} {nano : Nat}
    (h : scanFraction cs = .ok (nano, rest)) : nano < nanosPerSecond := by
  unfold scanFraction at h
  split at h
  · next more =>
    obtain ⟨⟨ds, rest'⟩, hscan, hok⟩ := bind_eq_ok_iff.mp h
    obtain ⟨rfl, -⟩ := Prod.mk.inj (Except.ok.inj hok)
    obtain ⟨hdigits, hlength⟩ := digits_of_scanDigits hscan
    calc number ds * Nat.pow 10 (9 - ds.length)
        < 10 ^ ds.length * Nat.pow 10 (9 - ds.length) :=
          Nat.mul_lt_mul_of_pos_right (number_lt hdigits) (Nat.pow_pos (by decide))
      _ = nanosPerSecond := by
          rw [Nat.pow_eq, ← Nat.pow_add, Nat.add_sub_cancel' hlength]
          rfl
  · obtain ⟨rfl, -⟩ := Prod.mk.inj (Except.ok.inj h)
    decide

/-- A scanned offset is a number of whole minutes. -/
theorem whole_minutes_of_scanOffset {cs rest : List Char} {offset : Int}
    (h : scanOffset cs = .ok (offset, rest)) : offset % 60 = 0 := by
  simp only [scanOffset] at h
  split at h
  · cases h
  · next c more =>
    split_ifs at h
    · obtain ⟨rfl, -⟩ := Prod.mk.inj (Except.ok.inj h)
      rfl
    all_goals
      simp only [bind_eq_ok_iff, Prod.exists] at h
      obtain ⟨_, _, _, -, m, _, _, -, hok⟩ := h
      split at hok
      · cases hok
      · obtain ⟨rfl, -⟩ := Prod.mk.inj (Except.ok.inj hok)
        omega

/-- A scanned zone is a number of whole minutes. -/
theorem whole_minutes_of_scanZone {cs rest : List Char} {offset : Int}
    (h : scanZone cs = .ok (offset, rest)) : offset % 60 = 0 := by
  simp only [scanZone] at h
  split at h
  · obtain ⟨rfl, -⟩ := Prod.mk.inj (Except.ok.inj h)
    rfl
  · exact whole_minutes_of_scanOffset h

/-- A time of day with an offset is a second of some day. -/
theorem second_ofLocal_lt (d : Date) (second nano : Nat) (offset : Int) :
    (ofLocal d second nano offset).second < 86400 := by
  simp only [ofLocal]
  omega

/-- An offset of whole minutes does not move the last second of a minute to another place. -/
theorem second_ofLocal_mod {second : Nat} {offset : Int} (hlast : second % 60 = 59)
    (hoffset : offset % 60 = 0) (d : Date) (nano : Nat) :
    (ofLocal d second nano offset).second % 60 = 59 := by
  simp only [ofLocal]
  omega

/-- An instant that is read is proper. -/
theorem proper_of_ofText {s : String} {t : Instant} (h : ofText s = .ok t) : t.Proper := by
  simp only [ofText, bind_eq_ok_iff, Prod.exists] at h
  obtain ⟨year, _, -, _, _, -, month, _, -, _, _, -, day, _, -, _, _, -, hour, _, -, _, _, -,
    minute, _, -, _, _, -, second, _, -, nano, _, hfraction, offset, _, hzone, hok⟩ := h
  have hnano := nano_of_scanFraction hfraction
  split at hok
  · cases hok
  split at hok
  · cases hok
  -- Only the sixtieth second of a minute runs on beyond a full second.
  split at hok
  · split at hok
    · next hyear =>
      obtain rfl := Except.ok.inj hok
      have hlast := second_ofLocal_mod (by omega : (hour * 3600 + minute * 60 + 59) % 60 = 59)
        (whole_minutes_of_scanZone hzone)
      exact ⟨second_ofLocal_lt _ _ _ _, fun _ => hlast _ _, hyear⟩
    · cases hok
  · split at hok
    · next hyear =>
      obtain rfl := Except.ok.inj hok
      exact ⟨second_ofLocal_lt _ _ _ _, fun hleap => absurd hnano (Nat.not_lt.mpr hleap), hyear⟩
    · cases hok

/-- Whatever text an instant was read from, its own text is read as the same instant cut to whole
seconds. -/
theorem ofText_wholeText {s : String} {t : Instant} (h : ofText s = .ok t) :
    ofText t.wholeText = .ok t.wholeSecond :=
  (proper_of_ofText h).ofText_wholeText

/-- A leap second stays one when it is cut. -/
theorem leap_wholeSecond (t : Instant) :
    nanosPerSecond ≤ t.wholeSecond.nano ↔ nanosPerSecond ≤ t.nano := by
  unfold wholeSecond
  split
  · next hshort =>
    have hpos : 0 < nanosPerSecond := by decide
    exact iff_of_false (Nat.not_le.mpr hpos) (Nat.not_le.mpr hshort)
  · next hleap => exact iff_of_true le_rfl (Nat.not_lt.mp hleap)

/-- Cutting an instant to whole seconds does not change its text. -/
theorem wholeText_wholeSecond (t : Instant) : t.wholeSecond.wholeText = t.wholeText := by
  simp only [wholeText, secondsText, leap_wholeSecond]
  rfl

/-! ## The strict form -/

/-- Digits fit as many zeros of a pattern. -/
theorem afterPattern?_digits {ds : List Char} (hdigits : ∀ c ∈ ds, c.isDigit) (ps cs : List Char) :
    afterPattern? (List.replicate ds.length '0' ++ ps) (ds ++ cs) = afterPattern? ps cs := by
  induction ds with
  | nil => rfl
  | cons d ds ih =>
    have hd : d.isDigit := hdigits d List.mem_cons_self
    have hrest := ih fun c hc => hdigits c (List.mem_cons_of_mem d hc)
    simpa [List.replicate_succ, afterPattern?, hd] using hrest

/-- A number with fewer digits than its width fits as many zeros of a pattern. -/
theorem afterPattern?_padded {width n : Nat} (hwidth : 0 < width) (h : n < 10 ^ width)
    (ps cs : List Char) :
    afterPattern? (List.replicate width '0' ++ ps) (padded width n ++ cs) =
      afterPattern? ps cs := by
  have hdigits : ∀ c ∈ padded width n, c.isDigit := fun c => isDigit_of_mem_padded
  have hfits := afterPattern?_digits hdigits ps cs
  rwa [length_padded hwidth h] at hfits

/-- The form is that of the text of an instant whose year is written without a sign. -/
theorem pattern_eq : pattern = List.replicate 4 '0' ++ '-' :: (List.replicate 2 '0' ++ '-' ::
    (List.replicate 2 '0' ++ 'T' :: (List.replicate 2 '0' ++ ':' :: (List.replicate 2 '0' ++ ':' ::
    (List.replicate 2 '0' ++ []))))) :=
  rfl

/-- The text of a proper instant is of the strict form in the years of four digits. -/
theorem Proper.isStrict_wholeText {t : Instant} (h : t.Proper)
    (hyear : 0 ≤ t.year ∧ t.year ≤ 9999) : isStrict t.wholeText.toList = true := by
  obtain ⟨⟨-, hmonth⟩, -, hday⟩ := Date.ofDays_inCalendar t.day
  have hmost := Date.daysInMonth_le (Date.ofDays t.day).year (Date.ofDays t.day).month
  have hsecond := h.second
  have hdash (ps cs : List Char) :
      afterPattern? ('-' :: ps) ('-' :: cs) = afterPattern? ps cs := rfl
  have hcolon (ps cs : List Char) :
      afterPattern? (':' :: ps) (':' :: cs) = afterPattern? ps cs := rfl
  have hletter (ps cs : List Char) :
      afterPattern? ('T' :: ps) ('T' :: cs) = afterPattern? ps cs := rfl
  have hfour {n : Nat} (hn : n ≤ 9999) (ps cs : List Char) :
      afterPattern? (List.replicate 4 '0' ++ ps) (padded 4 n ++ cs) = afterPattern? ps cs :=
    afterPattern?_padded (by decide) (by omega) ps cs
  have htwo {n : Nat} (hn : n ≤ 99) (ps cs : List Char) :
      afterPattern? (List.replicate 2 '0' ++ ps) (padded 2 n ++ cs) = afterPattern? ps cs :=
    afterPattern?_padded (by decide) (by omega) ps cs
  have hleap : t.second % 60 + (if nanosPerSecond ≤ t.nano then 1 else 0) ≤ 99 := by
    split <;> omega
  have hyearText : yearText (Date.ofDays t.day).year = padded 4 (Date.ofDays t.day).year.toNat :=
    if_pos hyear
  have hyear' : (Date.ofDays t.day).year.toNat ≤ 9999 := by
    have hgreatest : (Date.ofDays t.day).year ≤ 9999 := hyear.2
    omega
  -- Part by part the text fits the pattern, up to the zone.
  have hfits : afterPattern? pattern (t.secondsText ++ ['Z']) = some ['Z'] := by
    rw [pattern_eq, secondsText, hyearText]
    simp only [List.append_assoc, List.cons_append]
    rw [hfour hyear', hdash, htwo (by omega), hdash, htwo (by omega), hletter, htwo (by omega),
      hcolon, htwo (by omega), hcolon, htwo hleap]
    rfl
  rw [isStrict, wholeText, String.toList_ofList, hfits]
  rfl

/-- A year that is written with a sign is not of the strict form. -/
theorem not_isStrict_wholeText {t : Instant} (hyear : ¬(0 ≤ t.year ∧ t.year ≤ 9999)) :
    isStrict t.wholeText.toList = false := by
  have hyearText : yearText (Date.ofDays t.day).year =
      (if (Date.ofDays t.day).year < 0 then '-' else '+') ::
        padded 4 (Date.ofDays t.day).year.natAbs := if_neg hyear
  have hsigned (cs : List Char) : afterPattern? pattern ('-' :: cs) = none ∧
      afterPattern? pattern ('+' :: cs) = none := ⟨rfl, rfl⟩
  rw [isStrict, wholeText, String.toList_ofList, secondsText, hyearText]
  simp only [List.append_assoc, List.cons_append]
  split
  · rw [(hsigned _).1]
    rfl
  · rw [(hsigned _).2]
    rfl

/-- The strict reader takes back the text of a proper instant in the years of four digits. -/
theorem Proper.ofStrictText?_wholeText {t : Instant} (h : t.Proper) :
    ofStrictText? t.wholeText =
      if 0 ≤ t.year ∧ t.year ≤ 9999 then some t.wholeSecond else none := by
  unfold ofStrictText?
  by_cases hyear : 0 ≤ t.year ∧ t.year ≤ 9999
  · rw [if_pos (h.isStrict_wholeText hyear), if_pos hyear, h.ofText_wholeText]
    rfl
  · rw [not_isStrict_wholeText hyear, if_neg hyear]
    rfl

end FleetConsole.Instant
