import FleetConsole.Binary64.Reader
import FleetConsole.Proofs.Binary64.Shortest
import Mathlib.Data.List.TakeWhile

/-!
# Numbers are read back from their text

The text of a number is a sign and a run of decimal digits with at most one point among them. A run
of digits denotes a rational (`Binary64.Denotes`), and the text of a number denotes one that rounds
to the number, so that reading the text gives the number back (`Binary64.ofText?_text`).
-/

namespace FleetConsole

/-- A power of two is compared with a power of ten, sixteen digits at a time. -/
theorem two_pow_le_ten_pow (k : ℕ) : (2 : ℚ) ^ (16 * k) ≤ 10 ^ (5 * k) := by
  rw [pow_mul, pow_mul]
  exact pow_le_pow_left₀ (by norm_num) (by norm_num) k

namespace Double

variable {x : Double} {v : ℚ}

/-- What rounds to a number of the format has few decimal digits before the point. -/
theorem Encloses.lt_ten_pow (h : x.Encloses v) : v < 10 ^ 320 := by
  have hunit : (0 : ℚ) < 2 ^ x.exponent := by positivity
  obtain ⟨hbound, -, hmost, -⟩ := x.inFormat
  have hm : (x.mantissa : ℚ) + 1 ≤ 2 ^ 53 := by exact_mod_cast hbound
  have hupper := h.upper
  calc v = v / 2 ^ x.exponent * 2 ^ x.exponent := (div_mul_cancel₀ v hunit.ne').symm
    _ < 2 ^ 53 * 2 ^ x.exponent := by gcongr; linarith
    _ ≤ 2 ^ 53 * 2 ^ (971 : ℤ) := by gcongr; norm_num
    _ = 2 ^ (16 * 64) := by rw [← zpow_natCast, ← zpow_natCast, ← zpow_add₀ two_ne_zero]; norm_num
    _ ≤ 10 ^ 320 := two_pow_le_ten_pow 64

/-- What rounds to a number other than zero has few zeros behind the point. -/
theorem Encloses.ten_pow_le (h : x.Encloses v) (hx : x.mantissa ≠ 0) :
    (10 : ℚ) ^ (-340 : ℤ) ≤ v := by
  have hunit : (0 : ℚ) < 2 ^ x.exponent := by positivity
  obtain ⟨-, hleast, -, -⟩ := x.inFormat
  have hone : (1 : ℚ) ≤ x.mantissa := by exact_mod_cast Nat.one_le_iff_ne_zero.mpr hx
  have hreach := x.reach_bounds.2
  have hlower := h.lower
  calc (10 : ℚ) ^ (-340 : ℤ) = (10 ^ (5 * 68))⁻¹ := by
        rw [← zpow_natCast, ← zpow_neg]
        rfl
    _ ≤ (2 ^ (16 * 68))⁻¹ := inv_anti₀ (by positivity) (two_pow_le_ten_pow 68)
    _ ≤ 2 ^ (-1 : ℤ) * 2 ^ (-1074 : ℤ) := by
        rw [← zpow_natCast, ← zpow_neg, ← zpow_add₀ two_ne_zero]
        gcongr <;> norm_num
    _ ≤ 2 ^ (-1 : ℤ) * 2 ^ x.exponent := by gcongr; norm_num
    _ ≤ v / 2 ^ x.exponent * 2 ^ x.exponent := by
        gcongr
        norm_num
        linarith
    _ = v := div_mul_cancel₀ v hunit.ne'

end Double

namespace Binary64

/-! ## Exact decimals -/

/-- An exact decimal in the interval of a number is read as the number, whether the power of ten is
formed or not. -/
theorem ofDecimal_of_encloses {x : Double} {digits : ℕ} {e : ℤ}
    (h : x.Encloses (digits * 10 ^ e)) : ofDecimal x.negative digits e = finite x := by
  unfold ofDecimal
  dsimp only
  by_cases hzero : digits = 0
  · rw [hzero, Nat.cast_zero, zero_mul] at h
    rw [if_pos hzero, ← h.eq_zero]
  · have hpow : (0 : ℚ) < 10 ^ e := by positivity
    have hcount : ((Nat.toDigits 10 digits).length : ℤ) = Nat.log 10 digits + 1 := by
      rw [length_toDigits hzero]
      rfl
    rw [if_neg hzero, hcount]
    -- The decimal lies between the powers of ten around its first digit.
    have hlow : (10 : ℚ) ^ (Nat.log 10 digits + e) ≤ digits * 10 ^ e := by
      rw [zpow_add₀ (by norm_num), zpow_natCast]
      gcongr
      exact_mod_cast Nat.pow_log_le_self 10 hzero
    have hhigh : digits * (10 : ℚ) ^ e < 10 ^ (Nat.log 10 digits + 1 + e) := by
      rw [zpow_add₀ (by norm_num)]
      gcongr
      exact_mod_cast Nat.lt_pow_succ_log_self (by decide) digits
    have hlarge : ¬ 320 < (Nat.log 10 digits : ℤ) + 1 + e := by
      intro hlt
      have hle : (10 : ℚ) ^ (320 : ℤ) ≤ 10 ^ (Nat.log 10 digits + e) :=
        zpow_le_zpow_right₀ (by norm_num) (by omega)
      have := h.lt_ten_pow
      rw [← zpow_natCast, Nat.cast_ofNat] at this
      linarith
    rw [if_neg hlarge]
    split
    · next hsmall =>
      by_cases hx : x.mantissa = 0
      · rw [← Double.eq_zero_of_mantissa hx]
      · have hle : (10 : ℚ) ^ (Nat.log 10 digits + 1 + e) ≤ 10 ^ (-340 : ℤ) :=
          zpow_le_zpow_right₀ (by norm_num) (by omega)
        have := h.ten_pow_le hx
        linarith
    · have hratio := ratio_div_zpow (by decide : 10 ≠ 0) digits 1 (-e)
      rw [neg_neg, one_mul, Nat.cast_one, div_one, Nat.cast_ofNat, zpow_neg,
        div_inv_eq_mul] at hratio
      refine roundRatio_of_encloses (Nat.pow_pos (by decide : 0 < 10)).ne' ?_
      rwa [hratio]

/-! ## Runs of digits -/

/-- A run of digits, with a point among them or without, and the number that it denotes. -/
inductive Denotes : List Char → ℚ → Prop
  | whole {ds : List Char} (hne : ds ≠ []) (hdigits : ∀ c ∈ ds, c.isDigit) :
      Denotes ds (digitsValue ds)
  | point {ds fraction : List Char} (hne : ds ≠ []) (hdigits : ∀ c ∈ ds, c.isDigit)
      (hfraction : ∀ c ∈ fraction, c.isDigit) :
      Denotes (ds ++ '.' :: fraction)
        (digitsValue (ds ++ fraction) * 10 ^ (-(fraction.length : ℤ)))

variable {x : Double} {cs : List Char} {v : ℚ}

/-- A run of digits starts with a digit. -/
theorem Denotes.exists_eq_cons (h : Denotes cs v) : ∃ d ds, cs = d :: ds ∧ d.isDigit := by
  obtain ⟨hne, hdigits⟩ | ⟨hne, hdigits, -⟩ := h
  · obtain ⟨d, ds, rfl⟩ := List.exists_cons_of_ne_nil hne
    exact ⟨d, ds, rfl, hdigits d List.mem_cons_self⟩
  · obtain ⟨d, ds, rfl⟩ := List.exists_cons_of_ne_nil hne
    exact ⟨d, _, rfl, hdigits d List.mem_cons_self⟩

/-- A run of digits has digits and a point only. -/
theorem Denotes.isDigit_or_eq (h : Denotes cs v) {c : Char} (hc : c ∈ cs) :
    c.isDigit ∨ c = '.' := by
  obtain ⟨-, hdigits⟩ | ⟨-, hdigits, hfraction⟩ := h
  · exact .inl (hdigits c hc)
  · rw [List.mem_append, List.mem_cons] at hc
    obtain hc | rfl | hc := hc
    · exact .inl (hdigits c hc)
    · exact .inr rfl
    · exact .inl (hfraction c hc)

/-- A run of digits is read as a number if what it denotes rounds to the number. -/
theorem unsignedNumeral?_of_denotes (h : Denotes cs v) (hx : x.Encloses v) :
    unsignedNumeral? x.negative cs = some (finite x) := by
  have hall {ds : List Char} (hdigits : ∀ c ∈ ds, c.isDigit) :
      ds.takeWhile Char.isDigit = ds ∧ ds.dropWhile Char.isDigit = [] :=
    ⟨List.takeWhile_eq_self_iff.mpr hdigits, List.dropWhile_eq_nil_iff.mpr hdigits⟩
  cases h with
  | whole hne hdigits =>
    unfold unsignedNumeral?
    simp only [hall hdigits]
    rw [if_neg (by simp [hne])]
    simp only [List.append_nil, List.length_nil]
    rw [ofDecimal_of_encloses]
    simpa using hx
  | @point ds fraction hne hdigits hfraction =>
    have htake : (ds ++ '.' :: fraction).takeWhile Char.isDigit = ds := by
      rw [List.takeWhile_append_of_pos hdigits]
      simp
    have hdrop : (ds ++ '.' :: fraction).dropWhile Char.isDigit = '.' :: fraction := by
      rw [List.dropWhile_append_of_pos hdigits]
      simp
    unfold unsignedNumeral?
    simp only [htake, hdrop, hall hfraction]
    rw [if_neg (by simp [hne]), ofDecimal_of_encloses hx]

/-- A digit is in no case the first letter of a name. -/
theorem toLower_of_isDigit {c : Char} (h : c.isDigit) : c.toLower = c := by
  simp only [Char.isDigit, Bool.and_eq_true, decide_eq_true_eq, ge_iff_le] at h
  have hgreatest : c.toNat ≤ 57 := h.2
  refine dif_neg fun hupper => ?_
  have hleast : 65 ≤ c.toNat := hupper.1
  omega

/-- A run of digits is no name. -/
theorem unsigned?_of_denotes (h : Denotes cs v) (hx : x.Encloses v) :
    unsigned? x.negative cs = some (finite x) := by
  obtain ⟨d, ds, rfl, hd⟩ := h.exists_eq_cons
  have hname {c : Char} {rest : List Char} (hc : c.isDigit = false) :
      (d :: ds).map Char.toLower ≠ c :: rest := by
    rw [List.map_cons, toLower_of_isDigit hd]
    intro heq
    obtain ⟨rfl, -⟩ := List.cons.inj heq
    rw [hc] at hd
    cases hd
  -- The names of the infinities and of what is no number start with letters.
  unfold unsigned?
  dsimp only
  rw [if_neg, if_neg, unsignedNumeral?_of_denotes h hx]
  · exact hname rfl
  · rintro (heq | heq)
    · exact hname rfl heq
    · exact hname rfl heq

end Binary64

/-! ## The layout of the digits -/

/-- Zeros in front of digits do not count. -/
theorem digitsValue_replicate_append (k : ℕ) (ds : List Char) :
    Binary64.digitsValue (List.replicate k '0' ++ ds) = Binary64.digitsValue ds := by
  show Nat.ofDigitChars 10 _ 0 = Nat.ofDigitChars 10 ds 0
  rw [Nat.ofDigitChars_append, Nat.ofDigitChars_replicate_zero, Nat.mul_zero]

/-- Zeros behind digits are powers of ten. -/
theorem digitsValue_append_replicate (ds : List Char) (k : ℕ) :
    Binary64.digitsValue (ds ++ List.replicate k '0') = Binary64.digitsValue ds * 10 ^ k := by
  show Nat.ofDigitChars 10 _ 0 = Nat.ofDigitChars 10 ds 0 * 10 ^ k
  rw [Nat.ofDigitChars_append, Nat.ofDigitChars_replicate_zero, Nat.mul_comm]

namespace Decimal

variable {d : Decimal}

/-- The significant digits leave out the zeros at the end. -/
theorem exists_toDigits_eq (d : Decimal) :
    ∃ k, Nat.toDigits 10 d.digits = d.significant ++ List.replicate k '0' := by
  -- The zeros at the end are the first ones of the reversed digits.
  let zeros := (Nat.toDigits 10 d.digits).reverse.takeWhile (· = '0')
  have hzeros : zeros = List.replicate zeros.length '0' :=
    List.eq_replicate_iff.mpr ⟨rfl, fun c hc => by simpa using List.mem_takeWhile_imp hc⟩
  use zeros.length
  rw [significant, ← List.reverse_replicate, ← hzeros, ← List.reverse_append,
    List.takeWhile_append_dropWhile, List.reverse_reverse]

/-- The significant digits are digits. -/
theorem isDigit_of_mem_significant {c : Char} (hc : c ∈ d.significant) : c.isDigit := by
  obtain ⟨k, hk⟩ := d.exists_toDigits_eq
  refine Nat.isDigit_of_mem_toDigits (b := 10) (n := d.digits) (by decide) (by decide) ?_
  rw [hk]
  exact List.mem_append_left _ hc

/-- The digits as a number, from the significant ones. -/
theorem digits_eq (d : Decimal) :
    (d.digits : ℚ) * 10 ^ (-((Nat.toDigits 10 d.digits).length : ℤ)) =
      Binary64.digitsValue d.significant * 10 ^ (-(d.significant.length : ℤ)) := by
  obtain ⟨k, hk⟩ := d.exists_toDigits_eq
  have hdigits : Binary64.digitsValue (Nat.toDigits 10 d.digits) = d.digits :=
    Nat.ofDigitChars_toDigits (by decide) (by decide)
  rw [hk, digitsValue_append_replicate] at hdigits
  have hexponent : -(d.significant.length : ℤ) =
      k + -((d.significant.length + k : ℕ) : ℤ) := by omega
  rw [hk, List.length_append, List.length_replicate, hexponent, zpow_add₀ (by norm_num), ← hdigits]
  push_cast
  rw [zpow_natCast, mul_assoc]

/-- A decimal other than zero has significant digits. -/
theorem significant_ne_nil (hd : d.digits ≠ 0) : d.significant ≠ [] := by
  -- Without them the digits would be zeros only.
  intro hnil
  have hdigits := d.digits_eq
  have hpow : (10 : ℚ) ^ (-((Nat.toDigits 10 d.digits).length : ℤ)) ≠ 0 := by positivity
  rw [hnil, Binary64.digitsValue, List.foldl_nil, Nat.cast_zero, zero_mul, mul_eq_zero] at hdigits
  exact hd (by exact_mod_cast hdigits.resolve_right hpow)

/-- The digits in their layout denote the decimal. -/
theorem denotes_positional (hd : d.digits ≠ 0) :
    Binary64.Denotes d.positional
      (d.digits * 10 ^ (d.point - (Nat.toDigits 10 d.digits).length)) := by
  have hne := significant_ne_nil hd
  have hsignificant : ∀ c ∈ d.significant, c.isDigit := fun c => isDigit_of_mem_significant
  have hzeros (j : ℕ) : ∀ c ∈ List.replicate j '0', c.isDigit := by
    intro c hc
    rw [List.eq_of_mem_replicate hc]
    rfl
  have hvalue : (d.digits : ℚ) * 10 ^ (d.point - (Nat.toDigits 10 d.digits).length) =
      Binary64.digitsValue d.significant * 10 ^ (d.point - d.significant.length) := by
    rw [sub_eq_add_neg, sub_eq_add_neg, zpow_add₀ (by norm_num), zpow_add₀ (by norm_num),
      mul_left_comm, d.digits_eq, mul_left_comm]
  rw [hvalue]
  unfold positional
  simp only [List.isEmpty_iff, hne, if_false]
  split
  · next hpoint =>
    -- Everything stands behind the point.
    have h := @Binary64.Denotes.point ['0'] _ (by simp) (by simp)
      (List.forall_mem_append.mpr ⟨hzeros (-d.point).toNat, hsignificant⟩)
    have hfraction : -((List.replicate (-d.point).toNat '0' ++ d.significant).length : ℤ) =
        d.point - d.significant.length := by
      rw [List.length_append, List.length_replicate]
      omega
    rw [hfraction, ← List.replicate_one, ← List.append_assoc, ← List.replicate_add,
      digitsValue_replicate_append] at h
    exact h
  · next hpoint =>
    split
    · next hlength =>
      -- Zeros fill up the places in front of the point.
      have h := Binary64.Denotes.whole (by simp [hne])
        (List.forall_mem_append.mpr ⟨hsignificant, hzeros (d.point.toNat - d.significant.length)⟩)
      have hexponent : d.point - d.significant.length =
          (d.point.toNat - d.significant.length : ℕ) := by omega
      rw [digitsValue_append_replicate] at h
      push_cast at h
      rwa [hexponent, zpow_natCast]
    · next hlength =>
      -- The point stands among the digits.
      have htake := List.forall_mem_append.mp
        ((List.take_append_drop d.point.toNat d.significant).symm ▸ hsignificant)
      have h := Binary64.Denotes.point (fun hnil => by simp [hne] at hnil; omega) htake.1 htake.2
      have hexponent : d.point - d.significant.length =
          -((d.significant.drop d.point.toNat).length : ℤ) := by
        rw [List.length_drop]
        omega
      rwa [List.take_append_drop, ← hexponent] at h

end Decimal

namespace Double

/-- The digits that are shown of a number denote what rounds to the number. -/
theorem exists_denotes_positional (x : Double) :
    ∃ v, Binary64.Denotes x.shortest.positional v ∧ x.Encloses v := by
  by_cases hx : x.mantissa = 0
  · have hsize : x.size = (0 : ℕ) := by rw [size, hx, Nat.cast_zero, zero_mul]
    refine ⟨x.size, ?_, x.encloses_size⟩
    rw [shortest, if_pos hx, hsize]
    exact @Binary64.Denotes.whole ['0'] (by simp) (by simp)
  · obtain ⟨n, q, hshortest, hn, -⟩ := exists_shortest_eq hx
    have hencloses := encloses_of_neighbour? hx hn
    have hne : n ≠ 0 := by
      rintro rfl
      have hpos := hencloses.pos hx
      simp at hpos
    have hdenotes := Decimal.denotes_positional (d := x.shortest) (by rwa [hshortest])
    rw [hshortest, add_sub_cancel_left] at hdenotes
    rw [hshortest]
    exact ⟨_, hdenotes, hencloses⟩

/-- No slash is shown of a number. -/
theorem slash_notMem_text (x : Double) : '/' ∉ x.text.toList := by
  obtain ⟨v, hdenotes, -⟩ := x.exists_denotes_positional
  rw [text, String.toList_ofList, List.mem_append]
  rintro (hsign | hdigits)
  · split at hsign <;> simp at hsign
  · obtain h | h := hdenotes.isDigit_or_eq hdigits <;> cases h

end Double

/-- What is shown of a number is read as the number. -/
theorem Binary64.ofText?_text (x : Double) : ofText? x.text = some (finite x) := by
  obtain ⟨v, hdenotes, hencloses⟩ := x.exists_denotes_positional
  have hread := unsigned?_of_denotes hdenotes hencloses
  rw [ofText?, Double.text, String.toList_ofList]
  cases hnegative : x.negative with
  | true =>
    rw [hnegative] at hread
    exact hread
  | false =>
    rw [hnegative] at hread
    obtain ⟨d, ds, hdigits, hd⟩ := hdenotes.exists_eq_cons
    rw [hdigits] at hread ⊢
    simp only [Bool.false_eq_true, if_false, List.nil_append]
    split
    · next heq =>
      obtain ⟨rfl, -⟩ := List.cons.inj heq
      cases hd
    · next heq =>
      obtain ⟨rfl, -⟩ := List.cons.inj heq
      cases hd
    · exact hread

end FleetConsole
