import FleetConsole.Time.Calendar
import Mathlib.Tactic.ByContra
import Mathlib.Tactic.SplitIfs

/-!
# Dates and days

Every day has a date of the calendar, and the day is counted back from it (`Date.toDays_ofDays`,
`Date.ofDays_inCalendar`). The conversion finds the year of an era by a division that corrects for
leap days; here the years of an era are the intervals between their first days, so that the division
only has to be checked at the two ends of each.
-/

namespace FleetConsole.Date

/-- The first day of a year of an era. Years and days are counted from zero, and a year starts in
March. -/
def yearStart (y : Int) : Int := 365 * y + y / 4 - y / 100 + y / 400

/-- The year of an era that a day of the era falls in. -/
def yearOfEra (day : Int) : Int := (day - day / 1460 + day / 36524 - day / 146096) / 365

/-- A year has 365 days, or 366 if it ends with a leap day. -/
theorem yearStart_succ (y : Int) :
    yearStart (y + 1) = yearStart y + 365 + if isLeapYear (y + 1) then 1 else 0 := by
  have h4 : (y + 1) / 4 = y / 4 + if (y + 1) % 4 = 0 then 1 else 0 := by split_ifs <;> omega
  have h100 : (y + 1) / 100 = y / 100 + if (y + 1) % 100 = 0 then 1 else 0 := by
    split_ifs <;> omega
  have h400 : (y + 1) / 400 = y / 400 + if (y + 1) % 400 = 0 then 1 else 0 := by
    split_ifs <;> omega
  simp only [yearStart, isLeapYear, h4, h100, h400, Bool.and_eq_true, Bool.or_eq_true,
    decide_eq_true_eq, ne_eq]
  split_ifs <;> omega

/-- The years of an era follow one another, so every day before the start of a year falls in an
earlier one. -/
theorem exists_year {day : Int} (h0 : 0 ≤ day) (n : Nat) (h : day < yearStart n) :
    ∃ y : Nat, y < n ∧ yearStart y ≤ day ∧ day < yearStart (y + 1) := by
  induction n with
  | zero =>
    have hzero : yearStart (0 : Nat) = 0 := rfl
    omega
  | succ n ih =>
    by_cases hn : day < yearStart n
    · obtain ⟨y, hy, hday⟩ := ih hn
      exact ⟨y, by omega, hday⟩
    · exact ⟨n, by omega, by omega, by exact_mod_cast h⟩

/-- Later days of an era fall in later years or in the same. -/
theorem yearOfEra_mono {day later : Int} (h : day ≤ later) (h0 : 0 ≤ day) (hera : later < 146097) :
    yearOfEra day ≤ yearOfEra later := by
  by_cases hlast : later = 146096
  · -- On the last day two corrections change at once, but it falls in the last year.
    subst hlast
    have htop : yearOfEra 146096 = 399 := by decide
    rw [htop]
    unfold yearOfEra
    omega
  · have hleap : later / 1460 - day / 1460 ≤ later - day := by omega
    have hcentury : day / 36524 ≤ later / 36524 := Int.ediv_le_ediv (by decide) h
    have hday : day / 146096 = 0 := Int.ediv_eq_zero_of_lt h0 (by omega)
    have hlater : later / 146096 = 0 := Int.ediv_eq_zero_of_lt (by omega) (by omega)
    exact Int.ediv_le_ediv (by decide) (by omega)

/-- The division is right on the first and on the last day of each year. -/
theorem yearOfEra_ends : ∀ y : Nat, y < 400 → yearOfEra (yearStart y) = y ∧
    yearOfEra (yearStart (y + 1) - 1) = y ∧ 0 ≤ yearStart y ∧ yearStart (y + 1) ≤ 146097 := by
  decide +kernel

/-- The division is right on every day. -/
theorem yearOfEra_eq {y : Nat} {day : Int} (hy : y < 400) (hstart : yearStart y ≤ day)
    (hend : day < yearStart (y + 1)) : yearOfEra day = y := by
  obtain ⟨hfirst, hlast, hnonneg, htop⟩ := yearOfEra_ends y hy
  have hlower := yearOfEra_mono hstart hnonneg (by omega)
  have hupper := yearOfEra_mono (Int.le_sub_one_of_lt hend) (by omega) (by omega)
  omega

/-- The month that a day of a year falls in, both counted from zero, in a year that starts in March.
-/
def monthFromMarch (dayOfYear : Int) : Int := (5 * dayOfYear + 2) / 153

/-- The first day of a month of a year that starts in March. -/
def monthStart (month : Int) : Int := (153 * month + 2) / 5

/-- The month of the calendar, counted from January as the first. -/
def monthOfMarch (month : Int) : Nat := (if month < 10 then month + 3 else month - 9).toNat

/-- A month has as many days as in every other year with a leap day, or without. -/
theorem daysInMonth_eq (year : Int) (month : Nat) :
    daysInMonth year month = daysInMonth (if isLeapYear year then 4 else 1) month := by
  unfold daysInMonth
  split
  · cases isLeapYear year <;> rfl
  all_goals rfl

/-- No month has more than 31 days. -/
theorem daysInMonth_le (year : Int) (month : Nat) : daysInMonth year month ≤ 31 := by
  unfold daysInMonth
  split
  · cases isLeapYear year <;> decide
  all_goals decide

/-- Every day of a year lies in the month that it is assigned to; only the last day of a year is
beyond the months without a leap day. -/
theorem dayOfMonth_le : ∀ n : Nat, n ≤ 365 →
    (0 ≤ monthFromMarch n ∧ monthFromMarch n ≤ 11) ∧ 0 ≤ n - monthStart (monthFromMarch n) ∧
      n - monthStart (monthFromMarch n) < daysInMonth 4 (monthOfMarch (monthFromMarch n)) ∧
      (n ≤ 364 → n - monthStart (monthFromMarch n) <
        daysInMonth 1 (monthOfMarch (monthFromMarch n))) := by
  decide +kernel

/-- The date of a day of a year of an era. The year starts in March, so that January and February
belong to the next year of the calendar. -/
def ofEra (era year dayOfYear : Int) : Date :=
  let m := monthFromMarch dayOfYear
  ⟨year + era * 400 + (if monthOfMarch m ≤ 2 then 1 else 0), monthOfMarch m,
    (dayOfYear - monthStart m + 1).toNat⟩

/-- The leap years repeat in every era. -/
theorem isLeapYear_era (year era : Int) : isLeapYear (year + era * 400) = isLeapYear year := by
  have h4 : (year + era * 400) % 4 = year % 4 := by omega
  have h100 : (year + era * 400) % 100 = year % 100 := by omega
  have h400 : (year + era * 400) % 400 = year % 400 := by omega
  simp only [isLeapYear, h4, h100, h400]

/-- Every day is a day of a year of an era, and its date is made from these. -/
theorem exists_ofEra (days : Int) : ∃ (era : Int) (year dayOfYear : Nat), year < 400 ∧
    (dayOfYear : Int) < 365 + (if isLeapYear (year + 1) then 1 else 0) ∧
    days + 719468 = era * 146097 + yearStart year + dayOfYear ∧
    ofDays days = ofEra era year dayOfYear := by
  have hnonneg : 0 ≤ (days + 719468) % 146097 := Int.emod_nonneg _ (by decide)
  obtain ⟨year, hyear, hstart, hend⟩ :=
    exists_year hnonneg 400 (Int.emod_lt_of_pos _ (by decide))
  have hdivision : yearOfEra ((days + 719468) % 146097) = year := yearOfEra_eq hyear hstart hend
  obtain ⟨dayOfYear, hday⟩ := Int.eq_ofNat_of_zero_le (Int.sub_nonneg_of_le hstart)
  rw [yearStart_succ] at hend
  refine ⟨(days + 719468) / 146097, year, dayOfYear, hyear, by omega, by omega, ?_⟩
  have hsame : (days + 719468) % 146097 - (365 * (year : Int) + year / 4 - year / 100) =
      dayOfYear := by
    unfold yearStart at hday
    omega
  unfold yearOfEra at hdivision
  simp only [ofDays, hdivision, hsame]
  rfl

/-- The two ways to count months. -/
theorem monthOfMarch_spec {month : Int} (h0 : 0 ≤ month) (h11 : month ≤ 11) :
    (1 ≤ monthOfMarch month ∧ monthOfMarch month ≤ 12) ∧
      (monthOfMarch month ≤ 2 ↔ 10 ≤ month) ∧
      (((monthOfMarch month + 9) % 12 : Nat) : Int) = month := by
  unfold monthOfMarch
  split_ifs <;> omega

/-- Is the date in the calendar? -/
structure InCalendar (d : Date) : Prop where
  month : 1 ≤ d.month ∧ d.month ≤ 12
  day : 1 ≤ d.day ∧ d.day ≤ daysInMonth d.year d.month

/-- The date of a day of an era is in the calendar. -/
theorem ofEra_inCalendar {era : Int} {year dayOfYear : Nat}
    (h : (dayOfYear : Int) < 365 + if isLeapYear (year + 1) then 1 else 0) :
    (ofEra era year dayOfYear).InCalendar := by
  have hle : dayOfYear ≤ 365 := by split_ifs at h <;> omega
  obtain ⟨⟨h0, h11⟩, hfirst, hleap, hcommon⟩ := dayOfMonth_le dayOfYear hle
  obtain ⟨hmonth, hwinter, -⟩ := monthOfMarch_spec h0 h11
  refine ⟨hmonth, ?_, ?_⟩
  · simp only [ofEra]
    omega
  · simp only [ofEra]
    rw [daysInMonth_eq]
    by_cases hyear : isLeapYear (year + era * 400 +
        if monthOfMarch (monthFromMarch dayOfYear) ≤ 2 then 1 else 0)
    · rw [if_pos hyear]
      omega
    · rw [if_neg hyear]
      -- The last day of a leap year is in February, so the year of its date is a leap year.
      have hshort : dayOfYear ≤ 364 := by
        by_contra hlong
        obtain rfl : dayOfYear = 365 := by omega
        have hfebruary : monthOfMarch (monthFromMarch (365 : Nat)) ≤ 2 := by decide
        rw [if_pos hfebruary, Int.add_right_comm, isLeapYear_era] at hyear
        rw [if_neg hyear] at h
        omega
      have hin := hcommon hshort
      omega

/-- A day is counted back from its date. -/
theorem toDays_ofEra {era : Int} {year dayOfYear : Nat} (hyear : year < 400)
    (hday : dayOfYear ≤ 365) :
    (ofEra era year dayOfYear).toDays = era * 146097 + yearStart year + dayOfYear - 719468 := by
  obtain ⟨⟨h0, h11⟩, hfirst, -, -⟩ := dayOfMonth_le dayOfYear hday
  obtain ⟨hmonth, hwinter, hback⟩ := monthOfMarch_spec h0 h11
  -- The year that starts in March, whichever year of the calendar the date is in.
  have hmarch : (if (ofEra era year dayOfYear).month ≤ 2 then (ofEra era year dayOfYear).year - 1
      else (ofEra era year dayOfYear).year) = year + era * 400 := by
    simp only [ofEra]
    split_ifs <;> omega
  have hday' : ((ofEra era year dayOfYear).day : Int) =
      dayOfYear - monthStart (monthFromMarch dayOfYear) + 1 := by
    simp only [ofEra]
    omega
  have hera : (year + era * 400 : Int) / 400 = era := by omega
  have hyearOfEra : (year + era * 400 : Int) % 400 = year := by omega
  have hmonth' : ((((ofEra era year dayOfYear).month + 9) % 12 : Nat) : Int) =
      monthFromMarch dayOfYear := hback
  simp only [toDays, hmarch, hera, hyearOfEra, hmonth', hday']
  unfold yearStart monthStart
  omega

/-- Every day has a date in the calendar. -/
theorem ofDays_inCalendar (days : Int) : (ofDays days).InCalendar := by
  obtain ⟨era, year, dayOfYear, -, hday, -, h⟩ := exists_ofEra days
  rw [h]
  exact ofEra_inCalendar hday

/-- Every day is counted back from its date. -/
theorem toDays_ofDays (days : Int) : (ofDays days).toDays = days := by
  obtain ⟨era, year, dayOfYear, hyear, hday, hdays, h⟩ := exists_ofEra days
  have hle : dayOfYear ≤ 365 := by split_ifs at hday <;> omega
  rw [h, toDays_ofEra hyear hle]
  omega

end FleetConsole.Date
