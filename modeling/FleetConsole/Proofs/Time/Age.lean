import FleetConsole.Proofs.Time.Instant

/-!
# Ages

An age is a count of one unit (`Age`), made of a difference of two instants: the unit by the size of
the difference, the count by how often the unit goes into it. `ageText_eq` says that this is the age
shown, and `Age.nanos_mono` that greater differences make no smaller ages.

The difference itself takes leap seconds into account, as far as the times of day tell that one has
passed. This can be a second off, and so a later instant is not always nearer to now;
`nanosSince_antitone` says when it is.
-/

namespace FleetConsole

/-- A unit of ages. -/
inductive AgeUnit where
  | second
  | minute
  | hour
  | day
deriving DecidableEq, Repr

namespace AgeUnit

/-- The length of a unit in seconds. -/
def seconds : AgeUnit → Nat
  | second => 1
  | minute => 60
  | hour => 3600
  | day => 86400

/-- The length of a unit in nanoseconds. -/
def nanos (u : AgeUnit) : Nat := u.seconds * Instant.nanosPerSecond

/-- The letter of a unit. -/
def letter : AgeUnit → String
  | second => "s"
  | minute => "m"
  | hour => "h"
  | day => "d"

/-- The unit that a difference in nanoseconds is told in: seconds below a minute, minutes below an
hour, hours below a day, and days from then on. -/
def of (d : Int) : AgeUnit :=
  if d < minute.nanos then second else if d < hour.nanos then minute
  else if d < day.nanos then hour else day

end AgeUnit

/-- A count of a unit. -/
structure Age where
  count : Nat
  unit : AgeUnit
deriving DecidableEq, Repr

namespace Age

/-- The length of an age in nanoseconds. -/
def nanos (a : Age) : Nat := a.count * a.unit.nanos

/-- The text of an age. -/
def text (a : Age) : String := toString a.count ++ a.unit.letter

/-- The age of a difference in nanoseconds: the whole number of the units in it. A negative
difference has no unit in it. -/
def of (d : Int) : Age := ⟨d.toNat / (AgeUnit.of d).nanos, AgeUnit.of d⟩

/-- A greater difference is told in the same unit, or in one that the smaller difference does not
reach. -/
theorem unit_of_le {d d' : Int} (h : d ≤ d') : AgeUnit.of d = AgeUnit.of d' ∨
    d < (AgeUnit.of d').nanos ∧ (AgeUnit.of d').nanos ≤ d' := by
  have hminute : AgeUnit.minute.nanos = 60000000000 := rfl
  have hhour : AgeUnit.hour.nanos = 3600000000000 := rfl
  have hday : AgeUnit.day.nanos = 86400000000000 := rfl
  unfold AgeUnit.of
  split_ifs <;> first | exact .inl rfl | exact .inr (by omega)

/-- Greater differences make no smaller ages. -/
theorem nanos_mono {d d' : Int} (h : d ≤ d') : (of d).nanos ≤ (of d').nanos := by
  have hnat : d.toNat ≤ d'.toNat := Int.toNat_le_toNat h
  rcases unit_of_le h with hsame | ⟨hbelow, hreached⟩
  · rw [nanos, nanos, of, of, hsame]
    exact Nat.mul_le_mul_right _ (Nat.div_le_div_right hnat)
  · -- The unit of the greater difference goes into it at least once.
    have honce : 1 ≤ (of d').count := by
      refine (Nat.one_le_div_iff ?_).mpr (by omega)
      cases AgeUnit.of d' <;> decide
    calc (of d).nanos ≤ d.toNat := Nat.div_mul_le_self _ _
      _ ≤ 1 * (AgeUnit.of d').nanos := by omega
      _ ≤ (of d').nanos := Nat.mul_le_mul_right _ honce

end Age

/-- The text of the age shown is that of the age of the difference. -/
theorem ageText_eq (created now : Instant) :
    ageText created now = (Age.of (now.nanosSince created)).text := by
  have hminute : AgeUnit.minute.nanos = 60000000000 := rfl
  have hhour : AgeUnit.hour.nanos = 3600000000000 := rfl
  have hday : AgeUnit.day.nanos = 86400000000000 := rfl
  have hsecond : Instant.nanosPerSecond = 1000000000 := rfl
  unfold ageText
  generalize now.nanosSince created = d
  by_cases hneg : d < 0
  · have hseconds : d.tdiv Instant.nanosPerSecond ≤ 0 := by
      rw [← Int.zero_tdiv (Instant.nanosPerSecond : Int)]
      exact Int.tdiv_le_tdiv (by decide) hneg.le
    have hunit : AgeUnit.of d = .second := if_pos (by omega)
    have hcount : d.toNat / AgeUnit.second.nanos = 0 := by
      rw [Int.toNat_of_nonpos hneg.le, Nat.zero_div]
    rw [if_pos (by omega), Int.max_eq_right hseconds, Age.of, Age.text, hunit, hcount]
    rfl
  · obtain ⟨n, rfl⟩ := Int.eq_ofNat_of_zero_le (Int.not_lt.mp hneg)
    -- From here on everything is a count of nanoseconds, and no division rounds up.
    have hseconds : (n : Int).tdiv Instant.nanosPerSecond = (n / 1000000000 : Nat) := rfl
    have hunits (u : AgeUnit) {m : Nat} (hm : u.nanos = m) {k : Int} (hunit : AgeUnit.of n = u)
        (hk : k = (n / m : Nat)) : toString k ++ u.letter = (Age.of n).text := by
      rw [Age.of, Age.text, hunit, hm, hk]
      rfl
    simp only [hseconds]
    split_ifs
    · exact hunits .second rfl (if_pos (by omega)) (Int.max_eq_left (by omega))
    · refine hunits .minute hminute ?_ (by omega)
      rw [AgeUnit.of, if_neg (by omega), if_pos (by omega)]
    · refine hunits .hour hhour ?_ (by omega)
      rw [AgeUnit.of, if_neg (by omega), if_neg (by omega), if_pos (by omega)]
    · refine hunits .day hday ?_ (by omega)
      rw [AgeUnit.of, if_neg (by omega), if_neg (by omega), if_neg (by omega)]

/-! ## Differences -/

namespace Instant

/-- Nanoseconds from the beginning of 1970, leap seconds left aside. -/
def sinceEpoch (t : Instant) : Int := (t.day * 86400 + t.second) * nanosPerSecond + t.nano

/-- An instant is not after another one: it has an earlier day, or the same day and an earlier
second, or the same second and no more nanoseconds. -/
def NotAfter (t t' : Instant) : Prop :=
  t.day < t'.day ∨
    t.day = t'.day ∧ (t.second < t'.second ∨ t.second = t'.second ∧ t.nano ≤ t'.nano)

/-- Outside of leap seconds the difference is the plain one. -/
theorem nanosSince_of_plain {now t : Instant} (hnow : now.nano < nanosPerSecond)
    (ht : t.nano < nanosPerSecond) : now.nanosSince t = now.sinceEpoch - t.sinceEpoch := by
  have hnow' : ¬nanosPerSecond ≤ now.nano := Nat.not_le.mpr hnow
  have ht' : ¬nanosPerSecond ≤ t.nano := Nat.not_le.mpr ht
  have hsecond : (nanosPerSecond : Int) = 1000000000 := rfl
  simp only [nanosSince, sinceEpoch, hnow', ht', and_false, if_false, hsecond]
  omega

/-- The seconds that are taken off the plain difference of days and seconds when a difference is
taken from an instant in whole seconds: one for an instant in a leap second, and one more if now is
in a leap second and earlier in its day, unless now is later in its day than the leap second. -/
def leapSlack (now t : Instant) : Nat :=
  if nanosPerSecond ≤ t.nano then
    if t.second < now.second then 0
    else if now.second < t.second ∧ nanosPerSecond ≤ now.nano then 2
    else 1
  else if now.second < t.second ∧ nanosPerSecond ≤ now.nano then 1
  else 0

/-- The difference from an instant in whole seconds is that of the days and seconds, less what leap
seconds take off. -/
theorem nanosSince_wholeSecond (now t : Instant) :
    now.nanosSince t.wholeSecond =
      ((now.day - t.day) * 86400 + now.second - t.second - leapSlack now t) * nanosPerSecond +
        now.nano := by
  have hsecond : (nanosPerSecond : Int) = 1000000000 := rfl
  by_cases hleap : nanosPerSecond ≤ t.nano
  · have hwhole : t.wholeSecond = { t with nano := nanosPerSecond } := by
      rw [wholeSecond, if_neg (Nat.not_lt.mpr hleap)]
    rw [hwhole, leapSlack, if_pos hleap]
    simp only [nanosSince, le_refl, and_true, hsecond]
    split_ifs <;> omega
  · have hwhole : t.wholeSecond = { t with nano := 0 } := by
      rw [wholeSecond, if_pos (Nat.not_le.mp hleap)]
    have hnone : ¬nanosPerSecond ≤ 0 := by decide
    rw [hwhole, leapSlack, if_neg hleap]
    simp only [nanosSince, hnone, and_false, if_false, hsecond]
    split_ifs <;> omega

/-- No more than two seconds are taken off. -/
theorem leapSlack_le_two (now t : Instant) : leapSlack now t ≤ 2 := by
  unfold leapSlack
  split_ifs <;> decide

/-- Two seconds are taken off only in a leap second later in its day than now, which is in a leap
second as well. -/
theorem of_leapSlack_eq_two {now t : Instant} (h : leapSlack now t = 2) :
    nanosPerSecond ≤ t.nano ∧ now.second < t.second ∧ nanosPerSecond ≤ now.nano := by
  unfold leapSlack at h
  split_ifs at h with hleap hlater hnow
  · exact ⟨hleap, hnow⟩
  all_goals cases h

/-- A second is taken off wherever now is in a leap second and earlier in its day. -/
theorem leapSlack_pos {now t : Instant} (hearlier : now.second < t.second)
    (hnow : nanosPerSecond ≤ now.nano) : 1 ≤ leapSlack now t := by
  unfold leapSlack
  split_ifs <;> omega

/-- Within a second no less is taken off for a later instant. -/
theorem leapSlack_mono (now : Instant) {t t' : Instant} (hsecond : t.second = t'.second)
    (hnano : t.nano ≤ t'.nano) : leapSlack now t ≤ leapSlack now t' := by
  unfold leapSlack
  rw [hsecond]
  split_ifs <;> omega

/-- The one case in which a difference from a later instant is greater: now is in a leap second
before the last second of its day, the earlier instant is in a leap second at the end of a day, and
the later one in the first second of the day after. -/
structure Skips (now t t' : Instant) : Prop where
  now_leap : nanosPerSecond ≤ now.nano
  now_early : now.second < 86399
  leap : nanosPerSecond ≤ t.nano
  last : t.second = 86399
  next_day : t'.day = t.day + 1
  first : t'.second = 0

/-- If two seconds are taken off for an instant and none for the second after it, that second begins
another day. -/
theorem skips_of_leapSlack {now t t' : Instant} (h : t.second < 86400) (h' : t'.second < 86400)
    (hnext : t'.day * 86400 + t'.second = t.day * 86400 + t.second + 1)
    (htwo : leapSlack now t = 2) (hnone : leapSlack now t' = 0) : Skips now t t' := by
  obtain ⟨hleap, hearlier, hnow⟩ := of_leapSlack_eq_two htwo
  by_cases hday : t'.day = t.day
  · have hpos : 1 ≤ leapSlack now t' := leapSlack_pos (by omega) hnow
    omega
  · exact ⟨hnow, by omega, hleap, by omega, by omega, by omega⟩

/-- In every other case the difference from an instant that is not after another one is no
smaller. -/
theorem nanosSince_antitone {now t t' : Instant} (h : t.Proper) (h' : t'.Proper)
    (hle : t.NotAfter t') (hskips : ¬Skips now t t') :
    now.nanosSince t'.wholeSecond ≤ now.nanosSince t.wholeSecond := by
  have hsecond := h.second
  have hsecond' := h'.second
  have htwo := leapSlack_le_two now t
  -- What is taken off makes up for the seconds between the instants only if it is two seconds for
  -- the one, none for the other, and a single second lies between them.
  have hslack : t.day * 86400 + t.second + leapSlack now t ≤
      t'.day * 86400 + t'.second + leapSlack now t' := by
    by_cases hsame : t.day = t'.day ∧ t.second = t'.second
    · have hnano : t.nano ≤ t'.nano := by
        unfold NotAfter at hle
        omega
      have hmono := leapSlack_mono now hsame.2 hnano
      omega
    · by_contra hover
      unfold NotAfter at hle
      exact hskips (skips_of_leapSlack hsecond hsecond' (by omega) (by omega) (by omega))
  rw [nanosSince_wholeSecond, nanosSince_wholeSecond]
  refine Int.add_le_add_right (Int.mul_le_mul_of_nonneg_right ?_ (by decide)) _
  omega

end Instant

end FleetConsole
