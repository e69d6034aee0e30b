import FleetConsole.Binary64.Shortest
import FleetConsole.Proofs.Binary64.Rounding

/-!
# The shortest decimal rounds to its number

On every decimal grid the two neighbours of a number are tried, the coarsest grid first. On the grid
of seventeen digits one of them lies in the interval that rounds to the number, since a step of that
grid is less than the interval is wide (`neighbour?_seventeen`). So the search ends with a neighbour
in the interval, on the coarsest grid that has one (`exists_shortest_eq`).
-/

namespace FleetConsole

/-- The number of digits is one more than the logarithm. -/
theorem length_toDigits {n : ℕ} (hn : n ≠ 0) : (Nat.toDigits 10 n).length = Nat.log 10 n + 1 := by
  apply le_antisymm
  · rw [Nat.length_toDigits_le_iff (by decide) (Nat.succ_pos _)]
    exact Nat.lt_pow_succ_log_self (by decide) n
  · have hlt : n < 10 ^ (Nat.toDigits 10 n).length :=
      (Nat.length_toDigits_le_iff (by decide) Nat.length_toDigits_pos).mp le_rfl
    exact Nat.log_lt_of_lt_pow hn hlt

namespace Double

variable {x : Double} {q : ℤ} {n : ℕ}

/-- The logarithm is that of the quotient. -/
theorem floorLog10_eq {num den : ℕ} (hnum : num ≠ 0) (hden : den ≠ 0) :
    floorLog10 num den = Int.log 10 ((num : ℚ) / den) :=
  ite_eq_log_div (by decide) hnum hden (by
    rw [length_toDigits hnum, length_toDigits hden]
    omega)

/-! ## The ends of the interval -/

/-- A multiple of the least unit that the interval is given in, as a number. -/
theorem quarters_div_scale (x : Double) (k : ℕ) :
    ((k * Nat.pow 2 (x.exponent - 2).toNat : ℕ) : ℚ) / x.scale = k / 4 * 2 ^ x.exponent := by
  have h := ratio_div_zpow two_ne_zero k 1 (2 - x.exponent)
  rw [neg_sub, one_mul, Nat.cast_one, div_one, Nat.cast_ofNat, zpow_sub₀ two_ne_zero] at h
  rw [scale, h]
  field_simp
  norm_num

/-- The interval that the search uses is the interval that rounds to the number. -/
theorem roundingInterval_div_scale (hx : x.mantissa ≠ 0) :
    (x.roundingInterval.1 : ℚ) / x.scale = (x.mantissa - x.reach) * 2 ^ x.exponent ∧
      (x.roundingInterval.2.1 : ℚ) / x.scale = x.size ∧
      (x.roundingInterval.2.2 : ℚ) / x.scale = (x.mantissa + 1 / 2) * 2 ^ x.exponent := by
  unfold roundingInterval
  dsimp only
  rw [quarters_div_scale, quarters_div_scale, quarters_div_scale]
  refine ⟨?_, ?_, ?_⟩
  · unfold reach
    split
    · push_cast [show 1 ≤ 4 * x.mantissa by omega]
      ring
    · push_cast [show 2 ≤ 4 * x.mantissa by omega]
      ring
  · push_cast
    unfold size
    ring
  · push_cast
    ring

/-! ## The neighbours of a number on a grid -/

/-- A quotient in steps of the grid. -/
theorem div_step (x : Double) (q : ℤ) (k : ℕ) :
    ((k * Nat.pow 10 (-q).toNat : ℕ) : ℚ) / (Nat.pow 10 q.toNat * x.scale : ℕ) =
      k / x.scale / 10 ^ q := by
  have h := ratio_div_zpow (by decide : 10 ≠ 0) k x.scale q
  rw [Nat.cast_ofNat] at h
  rw [mul_comm (Nat.pow 10 q.toNat), h]

/-- A step of the grid is positive. -/
theorem step_pos (x : Double) (q : ℤ) : 0 < Nat.pow 10 q.toNat * x.scale :=
  Nat.mul_pos (Nat.pow_pos (by decide)) (Nat.pow_pos (by decide))

/-- A point of the grid compared with the end of an interval. -/
theorem mul_up_le_iff (x : Double) (q : ℤ) (k n : ℕ) :
    (k * Nat.pow 10 (-q).toNat ≤ n * (Nat.pow 10 q.toNat * x.scale) ↔
        (k : ℚ) / x.scale ≤ n * 10 ^ q) ∧
      (n * (Nat.pow 10 q.toNat * x.scale) ≤ k * Nat.pow 10 (-q).toNat ↔
        (n : ℚ) * 10 ^ q ≤ k / x.scale) := by
  have hstep : (0 : ℚ) < (Nat.pow 10 q.toNat * x.scale : ℕ) := by exact_mod_cast x.step_pos q
  have hpow : (0 : ℚ) < 10 ^ q := by positivity
  rw [← div_le_iff₀ hpow, ← le_div_iff₀ hpow, ← div_step, div_le_iff₀ hstep, le_div_iff₀ hstep]
  norm_cast

/-- Exactly the points of the interval are inside. -/
theorem isInside_iff (hx : x.mantissa ≠ 0) :
    x.isInside q n = true ↔ x.Encloses (n * 10 ^ q) := by
  obtain ⟨hlow, -, hhigh⟩ := x.roundingInterval_div_scale hx
  have hunit : (0 : ℚ) < 2 ^ x.exponent := by positivity
  obtain ⟨hle, hge⟩ := x.mul_up_le_iff q x.roundingInterval.1 n
  obtain ⟨hle', hge'⟩ := x.mul_up_le_iff q x.roundingInterval.2.2 n
  rw [hlow, ← le_div_iff₀ hunit] at hle
  rw [hlow, ← div_le_iff₀ hunit] at hge
  rw [hhigh, ← le_div_iff₀ hunit] at hle'
  rw [hhigh, ← div_le_iff₀ hunit] at hge'
  -- The search takes the ends in if the mantissa is even, and leaves them out if it is odd.
  unfold isInside
  dsimp only
  by_cases heven : x.mantissa % 2 = 0
  · rw [if_pos heven, decide_eq_true_iff, hle, hge']
    exact ⟨fun ⟨h₁, h₂⟩ => ⟨h₁, h₂, fun hodd => by omega⟩, fun h => ⟨h.lower, h.upper⟩⟩
  · rw [if_neg heven, decide_eq_true_iff, ← not_le, ← not_le, hge, hle', not_le, not_le]
    exact ⟨fun ⟨h₁, h₂⟩ => ⟨h₁.le, h₂.le, fun _ => ⟨h₁, h₂⟩⟩, fun h => h.odd (by omega)⟩

/-- The value lies between two points of the grid. -/
theorem pointBelow_bounds (hx : x.mantissa ≠ 0) (q : ℤ) :
    (x.pointBelow q : ℚ) * 10 ^ q ≤ x.size ∧ x.size < (x.pointBelow q + 1) * 10 ^ q := by
  obtain ⟨-, hvalue, -⟩ := x.roundingInterval_div_scale hx
  have hstep := x.step_pos q
  constructor
  · rw [← hvalue, ← (x.mul_up_le_iff q _ _).2]
    exact Nat.div_mul_le_self _ _
  · have hnext := (x.mul_up_le_iff q x.roundingInterval.2.1 (x.pointBelow q + 1)).2
    rw [hvalue] at hnext
    push_cast at hnext
    rw [← not_le, ← hnext, not_le]
    exact Nat.lt_mul_of_div_lt (Nat.lt_succ_self _) hstep

/-- A neighbour is in the interval. -/
theorem encloses_of_neighbour? (hx : x.mantissa ≠ 0) (h : x.neighbour? q = some n) :
    x.Encloses (n * 10 ^ q) := by
  rw [← isInside_iff hx]
  unfold neighbour? at h
  dsimp only at h
  split at h
  · next hbelow habove =>
    obtain rfl := Option.some.inj h
    split
    · exact hbelow
    · exact habove
  · next hbelow _ =>
    obtain rfl := Option.some.inj h
    exact hbelow
  · next _ habove =>
    obtain rfl := Option.some.inj h
    exact habove
  · cases h

/-- Without a neighbour, neither of the two points is in the interval. -/
theorem not_encloses_of_neighbour? (hx : x.mantissa ≠ 0) (h : x.neighbour? q = none) :
    ¬ x.Encloses (x.pointBelow q * 10 ^ q) ∧ ¬ x.Encloses ((x.pointBelow q + 1) * 10 ^ q) := by
  have hnext := x.isInside_iff (q := q) (n := x.pointBelow q + 1) hx
  push_cast at hnext
  rw [← isInside_iff hx, ← hnext]
  unfold neighbour? at h
  dsimp only at h
  split at h
  · cases h
  · cases h
  · cases h
  · next hbelow habove => exact ⟨by simp [hbelow], by simp [habove]⟩

/-! ## The search -/

/-- What lies strictly between the ends is in the interval. -/
theorem encloses_of_lt {v : ℚ} (hlower : x.mantissa - x.reach < v / 2 ^ x.exponent)
    (hupper : v / 2 ^ x.exponent < x.mantissa + 1 / 2) : x.Encloses v :=
  ⟨hlower.le, hupper.le, fun _ => ⟨hlower, hupper⟩⟩

/-- On the grid of seventeen digits a number has a neighbour. -/
theorem neighbour?_seventeen (hx : x.mantissa ≠ 0) :
    x.neighbour? (Int.log 10 x.size - 16) ≠ none := by
  intro hnone
  have hpos : 0 < x.size := x.encloses_size.pos hx
  have hlog : (10 : ℚ) ^ (Int.log 10 x.size - 16) * 10 ^ 16 ≤ x.size := by
    have hle := Int.zpow_log_le_self (b := 10) (by decide) hpos
    rw [Nat.cast_ofNat] at hle
    rwa [← zpow_natCast (10 : ℚ) 16, ← zpow_add₀ (by norm_num), Nat.cast_ofNat, sub_add_cancel]
  generalize Int.log 10 x.size - 16 = q at *
  obtain ⟨hle, hlt⟩ := pointBelow_bounds hx q
  obtain ⟨hbelow, habove⟩ := not_encloses_of_neighbour? hx hnone
  -- Everything is counted in units of the last digit.
  have hunit : (0 : ℚ) < 2 ^ x.exponent := by positivity
  have hsize : x.size / 2 ^ x.exponent = x.mantissa := by
    rw [size, mul_div_cancel_right₀ _ hunit.ne']
  have hreach := x.reach_bounds
  rw [← div_le_div_iff_of_pos_right hunit, hsize, mul_div_assoc] at hle
  rw [← div_lt_div_iff_of_pos_right hunit, hsize, mul_div_assoc] at hlt
  rw [← div_le_div_iff_of_pos_right hunit, hsize, mul_div_right_comm] at hlog
  -- Both points are outside, so a step is at least as long as the interval.
  have hlow : x.pointBelow q * (10 ^ q / 2 ^ x.exponent) ≤ x.mantissa - x.reach := by
    by_contra hin
    refine hbelow (encloses_of_lt ?_ ?_) <;> rw [mul_div_assoc] <;> linarith
  have hhigh : x.mantissa + 1 / 2 ≤ (x.pointBelow q + 1) * ((10 : ℚ) ^ q / 2 ^ x.exponent) := by
    by_contra hin
    refine habove (encloses_of_lt ?_ ?_) <;> rw [mul_div_assoc] <;> linarith
  have hstep : 1 / 2 + x.reach ≤ (10 : ℚ) ^ q / 2 ^ x.exponent := by linarith
  -- But the number has at least sixteen such steps, and fewer than 53 binary digits.
  unfold reach at hstep
  split at hstep
  · next hpower =>
    have hm : (x.mantissa : ℚ) = 2 ^ 52 := by exact_mod_cast hpower.1
    linarith
  · have hm : (x.mantissa : ℚ) < 2 ^ 53 := by exact_mod_cast x.inFormat.1
    linarith

/-- The search ends on the coarsest grid on which the number has a neighbour. -/
theorem exists_searchGrid_eq (x : Double) {top : ℤ} (hlast : x.neighbour? (top - 16) ≠ none)
    {fuel : ℕ} (hfuel : fuel < 17) :
    ∃ n q, x.searchGrid top (fuel + 1) = ⟨n, (Nat.toDigits 10 n).length + q⟩ ∧
      x.neighbour? q = some n ∧
      ∀ q', q < q' → q' ≤ top - (16 - fuel : ℕ) → x.neighbour? q' = none := by
  -- By induction on the grids that are left: the last one has a neighbour, and a grid is passed
  -- only if it has none.
  induction fuel with
  | zero =>
    obtain ⟨n, hn⟩ := Option.ne_none_iff_exists'.mp hlast
    refine ⟨n, top - 16, ?_, hn, fun q' h₁ h₂ => by omega⟩
    simp only [searchGrid]
    simp [hn]
  | succ fuel ih =>
    unfold searchGrid
    dsimp only
    split
    · next n hn => exact ⟨n, _, rfl, hn, fun q' h₁ h₂ => by omega⟩
    · next hnone =>
      obtain ⟨n, q, heq, hn, hcoarser⟩ := ih (by omega)
      refine ⟨n, q, heq, hn, fun q' h₁ h₂ => ?_⟩
      obtain rfl | hne := eq_or_ne q' (top - (16 - (fuel + 1) : ℕ))
      · exact hnone
      · exact hcoarser q' h₁ (by omega)

/-- The shortest decimal of a number other than zero is a neighbour on the coarsest grid that has
one. -/
theorem exists_shortest_eq (hx : x.mantissa ≠ 0) :
    ∃ n q, x.shortest = ⟨n, (Nat.toDigits 10 n).length + q⟩ ∧ x.neighbour? q = some n ∧
      ∀ q', q < q' → q' ≤ Int.log 10 x.size → x.neighbour? q' = none := by
  have hmagnitude : x.magnitude ≠ 0 :=
    Nat.mul_ne_zero hx (Nat.pow_pos (by decide : 0 < 2)).ne'
  have htop : floorLog10 x.magnitude x.denominator = Int.log 10 x.size := by
    rw [floorLog10_eq hmagnitude x.denominator_pos.ne', magnitude_div_denominator]
  have hsearch := x.exists_searchGrid_eq (neighbour?_seventeen hx) (by decide : 16 < 17)
  rw [shortest, if_neg hx, htop]
  simpa using hsearch

end Double

end FleetConsole
