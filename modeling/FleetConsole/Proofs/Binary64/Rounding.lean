import FleetConsole.Binary64.Basic
import Mathlib.Algebra.Order.Field.Power
import Mathlib.Data.Int.Log
import Mathlib.Data.Rat.Floor
import Mathlib.Tactic.FieldSimp
import Mathlib.Tactic.Linarith
import Mathlib.Tactic.NormNum

/-!
# Rounding to the nearest number

Every number stands for an interval of reals that round to it. It reaches half a unit of the last
digit to either side, or a quarter downwards from a power of two, where the numbers below lie twice
as dense; its ends belong to it if the mantissa is even (`Double.Encloses`). The rounding of a
quotient is correct in this sense: it gives a number exactly if the quotient lies in the interval of
the number (`Binary64.roundRatio_eq_finite_iff`). The binary logarithm of the quotient finds the
exponent, and the rounding to an integer the mantissa.
-/

namespace FleetConsole

/-! ## Powers with exponents of either sign -/

/-- A quotient is divided by a power through its denominator, or through its numerator if the
exponent is negative. -/
theorem ratio_div_zpow {b : ℕ} (hb : b ≠ 0) (num den : ℕ) (e : ℤ) :
    ((num * Nat.pow b (-e).toNat : ℕ) : ℚ) / (den * Nat.pow b e.toNat : ℕ) =
      num / den / (b : ℚ) ^ e := by
  have hb' : (b : ℚ) ≠ 0 := by exact_mod_cast hb
  simp only [Nat.pow_eq]
  push_cast
  obtain h | h := le_total 0 e
  · have hneg : (-e).toNat = 0 := by omega
    lift e to ℕ using h
    rw [hneg, Int.toNat_natCast, zpow_natCast, pow_zero, mul_one, div_div]
  · obtain ⟨n, rfl⟩ : ∃ n : ℕ, e = -n := ⟨(-e).toNat, by omega⟩
    have hpos : (-(n : ℤ)).toNat = 0 := by omega
    rw [hpos, neg_neg, Int.toNat_natCast, zpow_neg, zpow_natCast, pow_zero, mul_one, div_inv_eq_mul,
      mul_div_right_comm]

/-- A quotient of naturals is compared with a power by multiplying out. -/
theorem mul_pow_le_mul_pow_iff {b : ℕ} (hb : b ≠ 0) (num : ℕ) {den : ℕ} (hden : den ≠ 0) (e : ℤ) :
    den * Nat.pow b e.toNat ≤ num * Nat.pow b (-e).toNat ↔ (b : ℚ) ^ e ≤ num / den := by
  have hb' : 0 < b := Nat.pos_of_ne_zero hb
  have hpos : (0 : ℚ) < (den * Nat.pow b e.toNat : ℕ) := by
    exact_mod_cast Nat.mul_pos (Nat.pos_of_ne_zero hden) (Nat.pow_pos hb')
  have hpow : (0 : ℚ) < (b : ℚ) ^ e := zpow_pos (by exact_mod_cast hb') e
  rw [← one_le_div hpow, ← ratio_div_zpow hb, one_le_div hpos, Nat.cast_le]

/-- The logarithm of a quotient is the difference of the logarithms, or one less. -/
theorem ite_eq_log_div {b num den : ℕ} (hb : 1 < b) (hnum : num ≠ 0) (hden : den ≠ 0) {e : ℤ}
    (he : e = (Nat.log b num : ℤ) - Nat.log b den) :
    (if den * Nat.pow b e.toNat ≤ num * Nat.pow b (-e).toNat then e else e - 1) =
      Int.log b ((num : ℚ) / den) := by
  have hb' : (b : ℚ) ≠ 0 := by exact_mod_cast (by omega : b ≠ 0)
  have hnum' : (0 : ℚ) < num := by exact_mod_cast Nat.pos_of_ne_zero hnum
  have hden' : (0 : ℚ) < den := by exact_mod_cast Nat.pos_of_ne_zero hden
  have hlow {n : ℕ} (hn : n ≠ 0) : (b : ℚ) ^ (Nat.log b n : ℤ) ≤ n := by
    rw [zpow_natCast]
    exact_mod_cast Nat.pow_log_le_self b hn
  have hhigh (n : ℕ) : (n : ℚ) < (b : ℚ) ^ ((Nat.log b n : ℤ) + 1) := by
    exact_mod_cast Nat.lt_pow_succ_log_self hb n
  -- The two logarithms bound that of the quotient from both sides, one power apart, and the
  -- comparison decides between them.
  have hlt : Int.log b ((num : ℚ) / den) < e + 1 := by
    rw [← Int.lt_zpow_iff_log_lt hb (div_pos hnum' hden'), div_lt_iff₀ hden']
    calc (num : ℚ) < (b : ℚ) ^ ((Nat.log b num : ℤ) + 1) := hhigh num
      _ = (b : ℚ) ^ (e + 1) * (b : ℚ) ^ (Nat.log b den : ℤ) := by
        rw [← zpow_add₀ hb']
        congr 1
        omega
      _ ≤ (b : ℚ) ^ (e + 1) * den := by gcongr; exact hlow hden
  have hle : e - 1 ≤ Int.log b ((num : ℚ) / den) := by
    rw [← Int.zpow_le_iff_le_log hb (div_pos hnum' hden'), le_div_iff₀ hden']
    calc (b : ℚ) ^ (e - 1) * den
        ≤ (b : ℚ) ^ (e - 1) * (b : ℚ) ^ ((Nat.log b den : ℤ) + 1) := by
          gcongr
          exact (hhigh den).le
      _ = (b : ℚ) ^ (Nat.log b num : ℤ) := by
        rw [← zpow_add₀ hb']
        congr 1
        omega
      _ ≤ num := hlow hnum
  have hiff := (mul_pow_le_mul_pow_iff (by omega) num hden e).trans
    (Int.zpow_le_iff_le_log hb (div_pos hnum' hden'))
  split
  · next h => exact le_antisymm (hiff.mp h) (by omega)
  · next h => have := mt hiff.mpr h; omega

namespace Double

/-- The value of a number without its sign. -/
def size (x : Double) : ℚ := x.mantissa * 2 ^ x.exponent

/-- The value of a number. -/
def value (x : Double) : ℚ := if x.negative then -x.size else x.size

/-- A size is never negative. -/
theorem size_nonneg (x : Double) : 0 ≤ x.size := by
  unfold size
  positivity

/-- The denominator is positive. -/
theorem denominator_pos (x : Double) : 0 < x.denominator := Nat.pow_pos (by decide)

/-- The size as the quotient that the number is computed with. -/
theorem magnitude_div_denominator (x : Double) : (x.magnitude : ℚ) / x.denominator = x.size := by
  have h := ratio_div_zpow two_ne_zero x.mantissa 1 (-x.exponent)
  rw [neg_neg, one_mul, Nat.cast_one, div_one, Nat.cast_ofNat, zpow_neg, div_inv_eq_mul] at h
  exact h

/-- The value as the quotient that the number is computed with. -/
theorem numerator_div_denominator (x : Double) : (x.numerator : ℚ) / x.denominator = x.value := by
  unfold numerator value
  split
  · rw [Int.cast_neg, Int.cast_natCast, neg_div, magnitude_div_denominator]
  · rw [Int.cast_natCast, magnitude_div_denominator]

/-- The order of numbers is that of their values. -/
theorem ble_iff (x y : Double) : x.ble y = true ↔ x.value ≤ y.value := by
  have hx : (0 : ℚ) < x.denominator := by exact_mod_cast x.denominator_pos
  have hy : (0 : ℚ) < y.denominator := by exact_mod_cast y.denominator_pos
  rw [ble, decide_eq_true_iff, ← numerator_div_denominator, ← numerator_div_denominator,
    div_le_div_iff₀ hx hy]
  exact_mod_cast Iff.rfl

/-- Only zero has no digits. -/
theorem eq_zero_of_mantissa {x : Double} (h : x.mantissa = 0) : x = zero x.negative := by
  obtain ⟨negative, mantissa, exponent, inFormat⟩ := x
  obtain rfl : mantissa = 0 := h
  obtain ⟨-, -, -, hleast | rfl⟩ := inFormat
  · exact absurd hleast (by decide)
  · rfl

/-! ## The interval that rounds to a number -/

/-- How far the interval reaches downwards, in units of the last digit. -/
def reach (x : Double) : ℚ :=
  if x.mantissa = Nat.pow 2 52 ∧ -1074 < x.exponent then 1 / 4 else 1 / 2

/-- A rational lies in the interval that rounds to the size of a number. Both are counted in units
of the last digit. -/
structure Encloses (x : Double) (v : ℚ) : Prop where
  lower : x.mantissa - x.reach ≤ v / 2 ^ x.exponent
  upper : v / 2 ^ x.exponent ≤ x.mantissa + 1 / 2
  odd : x.mantissa % 2 = 1 →
    x.mantissa - x.reach < v / 2 ^ x.exponent ∧ v / 2 ^ x.exponent < x.mantissa + 1 / 2

variable {x : Double} {v : ℚ}

/-- The interval reaches half a unit or less. -/
theorem reach_bounds (x : Double) : 0 < x.reach ∧ x.reach ≤ 1 / 2 := by
  unfold reach
  split <;> norm_num

/-- What rounds to a number other than zero is positive. -/
theorem Encloses.pos (h : x.Encloses v) (hx : x.mantissa ≠ 0) : 0 < v := by
  have hone : (1 : ℚ) ≤ x.mantissa := by exact_mod_cast Nat.one_le_iff_ne_zero.mpr hx
  have hreach := x.reach_bounds.2
  have hlower := h.lower
  have hunits : 0 < v / 2 ^ x.exponent := by linarith
  exact (div_pos_iff_of_pos_right (by positivity)).mp hunits

/-- Zero rounds to zero only. -/
theorem Encloses.eq_zero (h : x.Encloses 0) : x = zero x.negative := by
  by_cases hx : x.mantissa = 0
  · exact eq_zero_of_mantissa hx
  · exact absurd (h.pos hx) (lt_irrefl 0)

/-- A size rounds to itself. -/
theorem encloses_size (x : Double) : x.Encloses x.size := by
  have hunits : x.size / 2 ^ x.exponent = x.mantissa := by
    rw [size, mul_div_cancel_right₀]
    positivity
  have hreach := x.reach_bounds.1
  constructor <;> rw [hunits]
  · linarith
  · linarith
  · intro _
    constructor <;> linarith

end Double

namespace Binary64

/-! ## The parts of the rounding -/

/-- The logarithm is that of the quotient. -/
theorem floorLog2_eq {num den : ℕ} (hnum : num ≠ 0) (hden : den ≠ 0) :
    floorLog2 num den = Int.log 2 ((num : ℚ) / den) :=
  ite_eq_log_div (by decide) hnum hden (by rw [Nat.log2_eq_log_two, Nat.log2_eq_log_two])

/-- An integer is nearest to a rational, and of two that are equally near it is the even one. -/
structure NearestEven (k : ℕ) (v : ℚ) : Prop where
  lower : (k : ℚ) - 1 / 2 ≤ v
  upper : v ≤ k + 1 / 2
  odd : k % 2 = 1 → (k : ℚ) - 1 / 2 < v ∧ v < k + 1 / 2

/-- No smaller integer is nearest too. -/
theorem NearestEven.le {k k' : ℕ} {v : ℚ} (h : NearestEven k v) (h' : NearestEven k' v) :
    k ≤ k' := by
  by_contra hlt
  have hlower := h.lower
  have hupper := h'.upper
  have hle : (k : ℚ) ≤ k' + 1 := by linarith
  have hle' : k ≤ k' + 1 := by exact_mod_cast hle
  obtain rfl : k = k' + 1 := by omega
  -- The rational lies half-way between the two, and one of them is odd.
  obtain hodd | hodd : k' % 2 = 1 ∨ (k' + 1) % 2 = 1 := by omega
  · have := (h'.odd hodd).2
    push_cast at hlower
    linarith
  · have := (h.odd hodd).1
    push_cast at this
    linarith

/-- Only one integer is nearest. -/
theorem NearestEven.unique {k k' : ℕ} {v : ℚ} (h : NearestEven k v) (h' : NearestEven k' v) :
    k = k' :=
  le_antisymm (h.le h') (h'.le h)

/-- A quotient is rounded to the nearest integer. -/
theorem nearestEven_divHalfEven (num : ℕ) {den : ℕ} (hden : den ≠ 0) :
    NearestEven (divHalfEven num den) (num / den) := by
  have hden' : (0 : ℚ) < den := by exact_mod_cast Nat.pos_of_ne_zero hden
  have hsplit : (num : ℚ) / den = (num / den : ℕ) + ((num % den : ℕ) : ℚ) / den := by
    have hnum : (num : ℚ) = (num / den : ℕ) * den + (num % den : ℕ) := by
      exact_mod_cast (Nat.div_add_mod' num den).symm
    conv_lhs => rw [hnum]
    rw [add_div, mul_div_cancel_right₀ _ hden'.ne']
  have hfraction : ((num % den : ℕ) : ℚ) / den < 1 := by
    rw [div_lt_one hden']
    exact_mod_cast Nat.mod_lt num (Nat.pos_of_ne_zero hden)
  have hnonneg : (0 : ℚ) ≤ ((num % den : ℕ) : ℚ) / den := by positivity
  -- The comparisons that the rounding makes, as comparisons with one half.
  have hlt : 2 * (num % den) < den ↔ ((num % den : ℕ) : ℚ) / den < 1 / 2 := by
    rw [div_lt_div_iff₀ hden' two_pos]
    norm_cast
    omega
  have hgt : den < 2 * (num % den) ↔ 1 / 2 < ((num % den : ℕ) : ℚ) / den := by
    rw [div_lt_div_iff₀ two_pos hden']
    norm_cast
    omega
  -- From here on there are an integer and a fraction below one, and no division.
  rw [hsplit]
  unfold divHalfEven
  simp only [hlt, hgt]
  generalize num / den = q
  generalize ((num % den : ℕ) : ℚ) / den = r at *
  have hnext : ((q + 1 : ℕ) : ℚ) = q + 1 := Nat.cast_succ q
  split_ifs with hless hmore
  · exact ⟨by linarith, by linarith, fun _ => ⟨by linarith, by linarith⟩⟩
  · exact ⟨by linarith, by linarith, fun _ => ⟨by linarith, by linarith⟩⟩
  · obtain heven | hodd := Nat.mod_two_eq_zero_or_one q
    · rw [heven, add_zero]
      exact ⟨by linarith, by linarith, fun hodd => by omega⟩
    · rw [hodd]
      exact ⟨by linarith, by linarith, fun hodd' => by omega⟩

/-- A quotient other than zero is rounded to the integer that is nearest to it in units of the last
digit; the unit is that of 53 digits, or the least one. -/
theorem exists_roundRatio_eq (negative : Bool) {num den : ℕ} (hnum : num ≠ 0) (hden : den ≠ 0)
    {e : ℤ} (he : e = max (Int.log 2 ((num : ℚ) / den) - 52) (-1074)) :
    ∃ k, NearestEven k (num / den / 2 ^ e) ∧ roundRatio negative num den =
      if k = 2 ^ 53 then ofParts negative (2 ^ 52) (e + 1) else ofParts negative k e := by
  have hne : den * Nat.pow 2 e.toNat ≠ 0 := Nat.mul_ne_zero hden (Nat.pow_pos two_pos).ne'
  have hnearest := nearestEven_divHalfEven (num * Nat.pow 2 (-e).toNat) hne
  rw [ratio_div_zpow two_ne_zero, Nat.cast_ofNat] at hnearest
  refine ⟨_, hnearest, ?_⟩
  rw [roundRatio, if_neg hnum]
  dsimp only
  rw [floorLog2_eq hnum hden, ← he]
  rfl

/-- The parts of a number make the number. -/
theorem ofParts_eq (x : Double) : ofParts x.negative x.mantissa x.exponent = finite x :=
  dif_pos x.inFormat

/-- A number has the parts that it is made of. -/
theorem of_ofParts {negative : Bool} {m : ℕ} {e : ℤ} {x : Double}
    (h : ofParts negative m e = finite x) :
    x.negative = negative ∧ x.mantissa = m ∧ x.exponent = e := by
  unfold ofParts at h
  split at h
  · cases h
    exact ⟨rfl, rfl, rfl⟩
  · cases h

/-- The logarithm of a rational, read off the rational in other units. -/
theorem log_lt_iff {v : ℚ} (hv : 0 < v) (e : ℤ) (k : ℕ) :
    Int.log 2 v < e + k ↔ v / 2 ^ e < 2 ^ k := by
  have hunit : (0 : ℚ) < 2 ^ e := by positivity
  have hlt := Int.lt_zpow_iff_log_lt (b := 2) one_lt_two (x := e + k) hv
  rw [Nat.cast_ofNat] at hlt
  rw [← hlt, zpow_add₀ two_ne_zero, zpow_natCast, div_lt_iff₀' hunit]

variable {x : Double} {num den : ℕ}

/-- A quotient other than zero is positive. -/
theorem ratio_pos (hnum : num ≠ 0) (hden : den ≠ 0) : (0 : ℚ) < num / den :=
  div_pos (by exact_mod_cast Nat.pos_of_ne_zero hnum) (by exact_mod_cast Nat.pos_of_ne_zero hden)

/-- What lies in the interval of a number is rounded to the number. -/
theorem roundRatio_of_encloses (hden : den ≠ 0) (h : x.Encloses (num / den)) :
    roundRatio x.negative num den = finite x := by
  obtain rfl | hnum := eq_or_ne num 0
  · rw [Nat.cast_zero, zero_div] at h
    rw [h.eq_zero]
    rfl
  obtain ⟨hbound, hleast, -, hdigits⟩ := x.inFormat
  simp only [Nat.pow_eq] at hbound hdigits
  have hfew : (x.mantissa : ℚ) + 1 ≤ 2 ^ 53 := by exact_mod_cast hbound
  have hreach := x.reach_bounds
  have hlower := h.lower
  have hupper := h.upper
  have hlog := log_lt_iff (ratio_pos hnum hden) x.exponent
  have hlog53 := (hlog 53).mpr (by linarith)
  by_cases hcase : (2 : ℚ) ^ 52 ≤ num / den / 2 ^ x.exponent ∨ x.exponent = -1074
  · -- The quotient has as many digits as the number, or the least exponent.
    have he : x.exponent = max (Int.log 2 ((num : ℚ) / den) - 52) (-1074) := by
      obtain hdigits52 | hmin := hcase
      · have hlog52 := mt (hlog 52).mp (not_lt.mpr hdigits52)
        omega
      · omega
    obtain ⟨k, hk, hround⟩ := exists_roundRatio_eq x.negative hnum hden he
    obtain rfl : k = x.mantissa :=
      hk.unique ⟨by linarith, hupper, fun hodd => ⟨by linarith [h.odd hodd], (h.odd hodd).2⟩⟩
    rw [hround, if_neg (by omega), ofParts_eq]
  · -- The quotient is just below a power of two, and it is rounded up to the power.
    push Not at hcase
    obtain ⟨hsmall, hnotleast⟩ := hcase
    have hdigits52 : 2 ^ 52 ≤ x.mantissa := hdigits.resolve_right hnotleast
    have hm : x.mantissa = 2 ^ 52 := by
      have : (x.mantissa : ℚ) < 2 ^ 52 + 1 := by linarith
      have : x.mantissa < 2 ^ 52 + 1 := by exact_mod_cast this
      omega
    have hquarter : x.reach = 1 / 4 := if_pos ⟨hm, by omega⟩
    rw [hm, hquarter] at hlower
    push_cast at hlower
    have he : x.exponent - 1 = max (Int.log 2 ((num : ℚ) / den) - 52) (-1074) := by
      have hlog51 := mt (hlog 51).mp (by linarith)
      have hlog52 := (hlog 52).mpr hsmall
      omega
    have hdouble : (num : ℚ) / den / 2 ^ (x.exponent - 1) = 2 * (num / den / 2 ^ x.exponent) := by
      rw [zpow_sub_one₀ two_ne_zero]
      field_simp
    obtain ⟨k, hk, hround⟩ := exists_roundRatio_eq x.negative hnum hden he
    rw [hdouble] at hk
    obtain rfl : k = 2 ^ 53 := by
      refine hk.unique ⟨?_, ?_, by norm_num⟩ <;> push_cast <;> linarith
    rw [hround, if_pos rfl, sub_add_cancel, ← hm, ofParts_eq]

/-- A number that is the outcome of rounding has the quotient in its interval. -/
theorem of_roundRatio_eq {negative : Bool} (hden : den ≠ 0)
    (h : roundRatio negative num den = finite x) :
    x.negative = negative ∧ x.Encloses (num / den) := by
  obtain rfl | hnum := eq_or_ne num 0
  · obtain rfl : Double.zero negative = x := finite.inj h
    have hencloses := (Double.zero negative).encloses_size
    rw [Double.size, Double.zero, Nat.cast_zero, zero_mul] at hencloses
    rw [Nat.cast_zero, zero_div]
    exact ⟨rfl, hencloses⟩
  have hv := ratio_pos hnum hden
  obtain ⟨k, hk, hround⟩ := exists_roundRatio_eq negative hnum hden rfl
  rw [hround] at h
  generalize he : max (Int.log 2 ((num : ℚ) / den) - 52) (-1074) = e at h hk
  have hsmall := (log_lt_iff hv e 53).mp (by omega)
  split at h
  · next hcarry =>
    -- The quotient is just below a power of two.
    obtain ⟨hnegative, hm, hexponent⟩ := of_ofParts h
    have hquarter : x.reach = 1 / 4 := if_pos ⟨hm, by omega⟩
    have hhalf : (num : ℚ) / den / 2 ^ x.exponent = num / den / 2 ^ e / 2 := by
      rw [hexponent, zpow_add_one₀ two_ne_zero, div_mul_eq_div_div]
    have hlower := hk.lower
    rw [hcarry] at hlower
    push_cast at hlower
    refine ⟨hnegative, ?_, ?_, fun hodd => ?_⟩
    · rw [hhalf, hm, hquarter]
      push_cast
      linarith
    · rw [hhalf, hm]
      push_cast
      linarith
    · rw [hm] at hodd
      norm_num at hodd
  · obtain ⟨hnegative, hm, hexponent⟩ := of_ofParts h
    have hlower : (x.mantissa : ℚ) - x.reach ≤ num / den / 2 ^ e ∧
        (k % 2 = 1 → (x.mantissa : ℚ) - x.reach < num / den / 2 ^ e) := by
      unfold Double.reach
      split
      · next hpower =>
        -- Nothing below a power of two has as many digits.
        have hlarge := mt (log_lt_iff hv e 52).mpr (by omega)
        have hpower' : (x.mantissa : ℚ) = 2 ^ 52 := by exact_mod_cast hpower.1
        rw [hpower']
        exact ⟨by linarith, fun _ => by linarith⟩
      · rw [hm]
        exact ⟨hk.lower, fun hodd => (hk.odd hodd).1⟩
    refine ⟨hnegative, ?_, ?_, fun hodd => ?_⟩
    · rw [hexponent]
      exact hlower.1
    · rw [hexponent, hm]
      exact hk.upper
    · rw [hm] at hodd
      rw [hexponent]
      refine ⟨hlower.2 hodd, ?_⟩
      rw [hm]
      exact (hk.odd hodd).2

/-- Rounding is correct: the outcome is a number exactly if the quotient lies in the interval of the
number. -/
theorem roundRatio_eq_finite_iff {negative : Bool} (hden : den ≠ 0) :
    roundRatio negative num den = finite x ↔ x.negative = negative ∧ x.Encloses (num / den) := by
  constructor
  · exact of_roundRatio_eq hden
  · rintro ⟨rfl, h⟩
    exact roundRatio_of_encloses hden h

/-- What is not too large is rounded to a number. -/
theorem exists_roundRatio_eq_finite (negative : Bool) (hden : den ≠ 0)
    (hlog : Int.log 2 ((num : ℚ) / den) < 1023) : ∃ x, roundRatio negative num den = finite x := by
  obtain rfl | hnum := eq_or_ne num 0
  · exact ⟨Double.zero negative, rfl⟩
  have hv := ratio_pos hnum hden
  obtain ⟨k, hk, hround⟩ := exists_roundRatio_eq negative hnum hden rfl
  rw [hround]
  generalize he : max (Int.log 2 ((num : ℚ) / den) - 52) (-1074) = e at hk
  have hlower := hk.lower
  have hupper := hk.upper
  split
  · -- A carry leaves a power of two, and its exponent is still in range.
    exact ⟨_, dif_pos ⟨by decide, by omega, by omega, .inl le_rfl⟩⟩
  · next hcarry =>
    -- Fewer digits than 53 are left only in units of the least exponent.
    have hmost : k < 2 ^ 53 := by
      have hsmall := (log_lt_iff hv e 53).mp (by omega)
      have hlt : (k : ℚ) < 2 ^ 53 + 1 := by linarith
      have hlt' : k < 2 ^ 53 + 1 := by exact_mod_cast hlt
      omega
    have hdigits : 2 ^ 52 ≤ k ∨ e = -1074 := by
      refine or_iff_not_imp_right.mpr fun hne => ?_
      have hlarge := mt (log_lt_iff hv e 52).mpr (by omega)
      have hlt : (2 ^ 52 : ℚ) < k + 1 := by linarith
      have hlt' : 2 ^ 52 < k + 1 := by exact_mod_cast hlt
      omega
    exact ⟨_, dif_pos ⟨hmost, by omega, by omega, hdigits⟩⟩

end Binary64

end FleetConsole
