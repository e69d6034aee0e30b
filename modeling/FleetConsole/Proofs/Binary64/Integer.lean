import FleetConsole.Proofs.Binary64.Text

/-!
# Integers of 53 binary digits

Every integer of 64 binary digits is taken as the number nearest to it (`encloses_doubleOfInt`).
With at most 53 of them it is a number of the format itself, so that it keeps its value
(`value_doubleOfInt`), and what is shown of it are its own decimal digits (`text_doubleOfInt`): on a
coarser grid no point rounds to it, since the next integer is too far away.
-/

namespace FleetConsole

namespace Double

variable {x : Double} {q : ℤ} {n N : ℕ}

/-- An integer of at most 53 binary digits is the size of a number. -/
theorem exists_size_eq (negative : Bool) (hN : N ≤ 2 ^ 53) :
    ∃ x : Double, x.negative = negative ∧ x.size = N := by
  obtain rfl | hpos := Nat.eq_zero_or_pos N
  · exact ⟨zero negative, rfl, by simp [size, zero]⟩
  obtain rfl | hlt := Nat.eq_or_lt_of_le hN
  · refine ⟨⟨negative, 2 ^ 52, 1, by decide⟩, rfl, ?_⟩
    norm_num [size]
  · -- The digits are filled up to 53.
    have hlog : N.log2 ≤ 52 := Nat.lt_succ_iff.mp ((Nat.log2_lt hpos.ne').mpr hlt)
    have hshift : 2 ^ 52 = 2 ^ N.log2 * 2 ^ (52 - N.log2) := by
      rw [← pow_add, Nat.add_sub_cancel' hlog]
    have hformat : InFormat (N * 2 ^ (52 - N.log2)) (N.log2 - 52) := by
      refine ⟨?_, by omega, by omega, .inl ?_⟩
      · have h : N * 2 ^ (52 - N.log2) < 2 ^ (N.log2 + 1) * 2 ^ (52 - N.log2) :=
          Nat.mul_lt_mul_of_pos_right Nat.lt_log2_self (by positivity)
        rw [← pow_add, show N.log2 + 1 + (52 - N.log2) = 53 by omega] at h
        exact h
      · show 2 ^ 52 ≤ _
        rw [hshift]
        exact Nat.mul_le_mul_right _ (Nat.log2_self_le hpos.ne')
    refine ⟨⟨negative, _, _, hformat⟩, rfl, ?_⟩
    have hexponent : (N.log2 : ℤ) - 52 = -((52 - N.log2 : ℕ) : ℤ) := by omega
    show ((N * 2 ^ (52 - N.log2) : ℕ) : ℚ) * 2 ^ ((N.log2 : ℤ) - 52) = N
    rw [hexponent]
    push_cast
    rw [zpow_neg, zpow_natCast, mul_assoc, mul_inv_cancel₀ (by positivity), mul_one]

end Double

namespace Binary64

variable {n : ℤ}

/-- An integer of at most 64 binary digits is taken as the number nearest to it. -/
theorem encloses_doubleOfInt (hn : n.natAbs < 2 ^ 64) :
    (doubleOfInt n).negative = decide (n < 0) ∧ (doubleOfInt n).Encloses n.natAbs := by
  have hlog : Int.log 2 ((n.natAbs : ℚ) / (1 : ℕ)) < 1023 := by
    rw [Nat.cast_one, div_one, Int.log_natCast]
    have hlt : Nat.log 2 n.natAbs < 64 := Nat.log_lt_of_lt_pow' (by decide) hn
    omega
  obtain ⟨x, hx⟩ := exists_roundRatio_eq_finite (decide (n < 0)) one_ne_zero hlog
  have hspec := (roundRatio_eq_finite_iff one_ne_zero).mp hx
  rw [Nat.cast_one, div_one] at hspec
  have hround : doubleOfInt n = x := by rw [doubleOfInt, ofInt, hx]
  rwa [hround]

/-- An integer of at most 53 binary digits is taken as it is. -/
theorem size_doubleOfInt (hn : n.natAbs ≤ 2 ^ 53) :
    (doubleOfInt n).negative = decide (n < 0) ∧ (doubleOfInt n).size = n.natAbs := by
  obtain ⟨x, hnegative, hsize⟩ := Double.exists_size_eq (decide (n < 0)) hn
  have hround : ofInt n = finite x := by
    have hencloses := x.encloses_size
    rw [hsize, ← div_one (n.natAbs : ℚ), ← Nat.cast_one] at hencloses
    exact (roundRatio_eq_finite_iff one_ne_zero).mpr ⟨hnegative, hencloses⟩
  rw [doubleOfInt, hround]
  exact ⟨hnegative, hsize⟩

/-- The value of an integer of at most 53 binary digits is the integer. -/
theorem value_doubleOfInt (hn : n.natAbs ≤ 2 ^ 53) : (doubleOfInt n).value = n := by
  obtain ⟨hnegative, hsize⟩ := size_doubleOfInt hn
  rw [Double.value, hnegative, hsize, Nat.cast_natAbs]
  by_cases hneg : n < 0
  · rw [if_pos (decide_eq_true hneg), abs_of_neg hneg, Int.cast_neg, neg_neg]
  · rw [if_neg (by simpa using hneg), abs_of_nonneg (not_lt.mp hneg)]

end Binary64

/-! ## What is shown of an integer -/

namespace Double

variable {x : Double} {q : ℤ} {n N : ℕ}

/-- A point of the grid is its own neighbour. -/
theorem neighbour?_of_size (hx : x.mantissa ≠ 0) (h : x.size = n * 10 ^ q) :
    x.neighbour? q = some n := by
  have hpow : (0 : ℚ) < 10 ^ q := by positivity
  obtain ⟨hle, hlt⟩ := pointBelow_bounds hx q
  rw [h] at hle hlt
  have hpoint : x.pointBelow q = n := by
    have h₁ : x.pointBelow q ≤ n := by exact_mod_cast le_of_mul_le_mul_right hle hpow
    have h₂ : n < x.pointBelow q + 1 := by exact_mod_cast lt_of_mul_lt_mul_right hlt hpow.le
    omega
  have hinside : x.isInside q n = true := by
    rw [isInside_iff hx, ← h]
    exact x.encloses_size
  have hnear : x.isNearBelow q = true := by
    obtain ⟨-, hvalue, -⟩ := x.roundingInterval_div_scale hx
    have hmul := (x.mul_up_le_iff q x.roundingInterval.2.1 n).1.mpr (by rw [hvalue, h])
    have hstep := x.step_pos q
    rw [isNearBelow, hpoint, decide_eq_true_iff, Nat.add_mul, Nat.mul_assoc, Nat.one_mul]
    omega
  unfold neighbour?
  simp only [hpoint, hinside, hnear]
  cases x.isInside q (n + 1) <;> rfl

/-- A whole number in the interval of an integer of at most 53 binary digits is the integer, or the
next one if the integer is the greatest. -/
theorem Encloses.eq_of_size {M : ℕ} (hsize : x.size = N) (hN : N ≤ 2 ^ 53)
    (h : x.Encloses M) : M = N ∨ N = 2 ^ 53 ∧ M = 2 ^ 53 + 1 := by
  have hunit : (0 : ℚ) < 2 ^ x.exponent := by positivity
  have hreach := x.reach_bounds
  -- Both are counted in ones again.
  have hlower := h.lower
  have hupper := h.upper
  rw [le_div_iff₀ hunit, sub_mul] at hlower
  rw [div_le_iff₀ hunit, add_mul] at hupper
  rw [← size, hsize] at hlower hupper
  obtain hsmall | hlarge := le_or_gt x.exponent 0
  · -- The unit of the last digit is at most one.
    have hone : (2 : ℚ) ^ x.exponent ≤ 1 := zpow_le_one_of_nonpos₀ one_le_two hsmall
    have hlt : (M : ℚ) < N + 1 := by linarith
    have hgt : (N : ℚ) < M + 1 := by nlinarith
    have hlt' : M < N + 1 := by exact_mod_cast hlt
    have hgt' : N < M + 1 := by exact_mod_cast hgt
    omega
  · -- Only the greatest of the integers has a unit of two.
    obtain ⟨-, -, -, hdigits⟩ := x.inFormat
    have hfull : (2 : ℚ) ^ 52 ≤ x.mantissa := by
      exact_mod_cast hdigits.resolve_right (by omega)
    have htwo : (2 : ℚ) ≤ 2 ^ x.exponent := by
      have hle : (2 : ℚ) ^ (1 : ℤ) ≤ 2 ^ x.exponent := zpow_le_zpow_right₀ one_le_two (by omega)
      rwa [zpow_one] at hle
    have hmost : (N : ℚ) ≤ 2 ^ 53 := by exact_mod_cast hN
    rw [size] at hsize
    have hunit2 : (2 : ℚ) ^ x.exponent = 2 := by nlinarith
    rw [hunit2] at hsize hlower hupper
    have hN' : (N : ℚ) = 2 ^ 53 := by linarith
    have hm : (x.mantissa : ℚ) = 2 ^ 52 := by linarith
    have hquarter : x.reach = 1 / 4 := if_pos ⟨by exact_mod_cast hm, by omega⟩
    rw [hquarter] at hlower
    have hlt : (M : ℚ) < N + 2 := by linarith
    have hgt : (N : ℚ) < M + 1 := by linarith
    have hNeq : N = 2 ^ 53 := by exact_mod_cast hN'
    have hlt' : M < N + 2 := by exact_mod_cast hlt
    have hgt' : N < M + 1 := by exact_mod_cast hgt
    omega

/-- The digits of an integer of at most 53 binary digits are found on a grid of integers. -/
theorem exists_shortest_eq_of_size (hx : x.mantissa ≠ 0) (hsize : x.size = N) (hN : N ≤ 2 ^ 53) :
    ∃ n k : ℕ, x.shortest = ⟨n, (Nat.toDigits 10 n).length + k⟩ ∧ n * 10 ^ k = N := by
  obtain ⟨n, q, hshortest, hn, hcoarser⟩ := exists_shortest_eq hx
  have hones : x.neighbour? 0 = some N := neighbour?_of_size hx (by rw [hsize, zpow_zero, mul_one])
  -- The grid of the ones has a point, so the search has not gone beyond it.
  have hq : 0 ≤ q := by
    by_contra hneg
    have hpos := x.encloses_size.pos hx
    rw [hsize] at hpos hcoarser
    have hlog : 0 ≤ Int.log 10 (N : ℚ) := by
      rw [← Int.zpow_le_iff_le_log (by decide) hpos, zpow_zero]
      exact_mod_cast (Nat.cast_pos.mp hpos : 0 < N)
    have hnone := hcoarser 0 (by omega) hlog
    rw [hones] at hnone
    cases hnone
  lift q to ℕ using hq
  refine ⟨n, q, hshortest, ?_⟩
  have hencloses := encloses_of_neighbour? hx hn
  rw [zpow_natCast] at hencloses
  obtain hM | ⟨hgreatest, hM⟩ := Encloses.eq_of_size (M := n * 10 ^ q) hsize hN
    (by exact_mod_cast hencloses)
  · exact hM
  · -- The next integer ends in no zero, and on the grid of the ones it is not the nearer point.
    cases q with
    | zero =>
      rw [Nat.cast_zero, hones] at hn
      obtain rfl := Option.some.inj hn
      omega
    | succ k =>
      rw [pow_succ, ← Nat.mul_assoc] at hM
      omega

end Double

/-- Zeros are added behind the digits of a number by powers of ten. -/
theorem toDigits_mul_ten_pow {n : ℕ} (hn : n ≠ 0) (k : ℕ) :
    Nat.toDigits 10 (n * 10 ^ k) = Nat.toDigits 10 n ++ List.replicate k '0' := by
  induction k with
  | zero => simp
  | succ k ih =>
    have hpos : 0 < n * 10 ^ k := Nat.mul_pos (Nat.pos_of_ne_zero hn) (Nat.pow_pos (by decide))
    have happend := Nat.toDigits_append_toDigits (b := 10) (by decide) hpos (by decide : 0 < 10)
    have hmul : n * 10 ^ (k + 1) = 10 * (n * 10 ^ k) + 0 := by
      rw [pow_succ, ← Nat.mul_assoc]
      omega
    rw [hmul, ← happend, ih, List.replicate_succ', List.append_assoc]
    rfl

/-- A decimal without places behind the point is shown by its digits, with zeros behind them. -/
theorem Decimal.positional_eq {d : Decimal} (hd : d.digits ≠ 0) {k : ℕ}
    (hpoint : d.point = (Nat.toDigits 10 d.digits).length + k) :
    d.positional = Nat.toDigits 10 d.digits ++ List.replicate k '0' := by
  obtain ⟨j, hj⟩ := d.exists_toDigits_eq
  have hne := significant_ne_nil hd
  have hlength := List.length_pos_of_ne_nil hne
  rw [hj, List.length_append, List.length_replicate] at hpoint
  have hzeros : d.point.toNat - d.significant.length = j + k := by omega
  unfold positional
  simp only [List.isEmpty_iff, hne, if_false]
  rw [if_neg (by omega), if_pos (by omega), hzeros, List.replicate_add, hj, List.append_assoc]

namespace Double

/-- What is shown of an integer of at most 53 binary digits are its digits. -/
theorem positional_of_size {x : Double} {N : ℕ} (hsize : x.size = N) (hN : N ≤ 2 ^ 53) :
    x.shortest.positional = Nat.toDigits 10 N := by
  by_cases hx : x.mantissa = 0
  · rw [size, hx, Nat.cast_zero, zero_mul] at hsize
    obtain rfl : N = 0 := by exact_mod_cast hsize.symm
    rw [shortest, if_pos hx]
    rfl
  · obtain ⟨n, k, hshortest, rfl⟩ := exists_shortest_eq_of_size hx hsize hN
    have hne : n ≠ 0 := by
      rintro rfl
      have hpos := x.encloses_size.pos hx
      simp [hsize] at hpos
    rw [hshortest, Decimal.positional_eq hne rfl, toDigits_mul_ten_pow hne]

/-- A number with the sign and the size of an integer of at most 53 binary digits is shown as the
integer. -/
theorem text_of_size {x : Double} {n : ℤ} (hnegative : x.negative = decide (n < 0))
    (hsize : x.size = n.natAbs) (hn : n.natAbs ≤ 2 ^ 53) : x.text = toString n := by
  rw [text, hnegative, positional_of_size hsize hn, String.ofList_append,
    ← Nat.toString_eq_ofList_toDigits]
  cases n with
  | ofNat m => exact String.empty_append
  | negSucc m =>
    rw [if_pos (decide_eq_true (Int.negSucc_lt_zero m))]
    rfl

/-- What is shown of a number with the value of an integer is the integer, unless it is the zero
with a sign. -/
theorem text_of_value {x : Double} {n : ℤ} (hx : x ≠ zero true) (hvalue : x.value = n)
    (hn : n.natAbs ≤ 2 ^ 53) : x.text = toString n := by
  have hnonneg := x.size_nonneg
  cases hnegative : x.negative with
  | true =>
    rw [value, if_pos hnegative] at hvalue
    have hpos : 0 < x.size := by
      refine x.encloses_size.pos fun hzero => hx ?_
      rw [eq_zero_of_mantissa hzero, hnegative]
    have hlt : n < 0 := by
      have : (n : ℚ) < 0 := by linarith
      exact_mod_cast this
    refine text_of_size (by rw [hnegative, decide_eq_true hlt]) ?_ hn
    rw [Nat.cast_natAbs, abs_of_neg hlt, Int.cast_neg]
    linarith
  | false =>
    rw [value, if_neg (by simp [hnegative])] at hvalue
    have hle : 0 ≤ n := by
      have : (0 : ℚ) ≤ n := by linarith
      exact_mod_cast this
    refine text_of_size (by rw [hnegative, decide_eq_false (not_lt.mpr hle)]) ?_ hn
    rw [Nat.cast_natAbs, abs_of_nonneg hle, hvalue]

end Double

/-- What is shown of an integer of at most 53 binary digits is the integer. -/
theorem Binary64.text_doubleOfInt {n : ℤ} (hn : n.natAbs ≤ 2 ^ 53) :
    (doubleOfInt n).text = toString n := by
  obtain ⟨hnegative, hsize⟩ := size_doubleOfInt hn
  exact Double.text_of_size hnegative hsize hn

end FleetConsole
