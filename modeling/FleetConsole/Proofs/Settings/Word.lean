import FleetConsole.Proofs.Record.Outcome
import FleetConsole.Settings.Basic
import Mathlib.Algebra.Group.Nat.Defs

/-!
# Numbers of 64 bits as texts

A number is read digit by digit, and reading stops as soon as what was read has no place in 64 bits.
Since further digits never make a number smaller, this comes to one look at the whole
(`foldlM_wordDigit_eq_ok_iff`): the texts that are read are runs of digits, perhaps behind a plus
sign, with a value below `2 ^ 64` (`wordOfText_eq_ok_iff`).
-/

namespace FleetConsole

/-- A text writes a number of 64 bits in decimal digits, with or without a plus sign. There may be
zeros in front. -/
def WritesWord (text : String) (n : Nat) : Prop :=
  ∃ digits : List Char, (text.toList = digits ∨ text.toList = '+' :: digits) ∧ digits ≠ [] ∧
    (∀ c ∈ digits, c.isDigit) ∧ Nat.ofDigitChars 10 digits 0 = n ∧ n < 2 ^ 64

/-- Digits that follow a number do not make it smaller. -/
theorem le_ofDigitChars (digits : List Char) (n : Nat) : n ≤ Nat.ofDigitChars 10 digits n := by
  induction digits generalizing n with
  | nil => exact Nat.le_refl n
  | cons c cs ih =>
    rw [Nat.ofDigitChars_cons]
    calc n ≤ 10 * n + (c.toNat - '0'.toNat) := by omega
      _ ≤ _ := ih _

/-- One more digit is read if it is one and the number still has its place in 64 bits. -/
theorem wordDigit_eq_ok_iff {n m : Nat} {c : Char} :
    wordDigit n c = .ok m ↔ c.isDigit ∧ 10 * n + (c.toNat - '0'.toNat) = m ∧ m < 2 ^ 64 := by
  unfold wordDigit
  cases c.isDigit with
  | false => simp
  | true =>
    simp only [Bool.not_true, Bool.false_eq_true, if_false, true_and]
    split
    · next hfits =>
      rw [Except.ok.injEq]
      exact ⟨fun h => ⟨h, h ▸ hfits⟩, fun h => h.1⟩
    · next hlarge =>
      refine iff_of_false (by simp) ?_
      rintro ⟨rfl, hfits⟩
      exact hlarge hfits

/-- Digits are read behind a number if the whole has its place in 64 bits. -/
theorem foldlM_wordDigit_eq_ok_iff {digits : List Char} {n m : Nat} (hn : n < 2 ^ 64) :
    digits.foldlM wordDigit n = .ok m ↔
      (∀ c ∈ digits, c.isDigit) ∧ Nat.ofDigitChars 10 digits n = m ∧ m < 2 ^ 64 := by
  induction digits generalizing n with
  | nil =>
    constructor
    · intro h
      obtain rfl := Except.ok.inj h
      exact ⟨by simp, rfl, hn⟩
    · rintro ⟨-, rfl, -⟩
      rfl
  | cons c cs ih =>
    rw [List.foldlM_cons, bind_eq_ok_iff, List.forall_mem_cons, Nat.ofDigitChars_cons]
    constructor
    · rintro ⟨k, hk, hrest⟩
      obtain ⟨hc, rfl, hfits⟩ := wordDigit_eq_ok_iff.mp hk
      obtain ⟨hcs, hm, hlt⟩ := (ih hfits).mp hrest
      exact ⟨⟨hc, hcs⟩, hm, hlt⟩
    · rintro ⟨⟨hc, hcs⟩, hm, hlt⟩
      have hle := le_ofDigitChars cs (10 * n + (c.toNat - '0'.toNat))
      have hfits : 10 * n + (c.toNat - '0'.toNat) < 2 ^ 64 := by omega
      exact ⟨_, wordDigit_eq_ok_iff.mpr ⟨hc, rfl, hfits⟩, (ih hfits).mpr ⟨hcs, hm, hlt⟩⟩

/-- A run of digits is read as the number of 64 bits that it denotes. -/
theorem map_foldlM_wordDigit_eq_ok_iff {digits : List Char} {w : UInt64} :
    (digits.foldlM wordDigit 0).map UInt64.ofNat = .ok w ↔
      (∀ c ∈ digits, c.isDigit) ∧ Nat.ofDigitChars 10 digits 0 = w.toNat ∧
        w.toNat < 2 ^ 64 := by
  rw [map_eq_ok_iff]
  simp only [foldlM_wordDigit_eq_ok_iff (show 0 < 2 ^ 64 by decide)]
  constructor
  · rintro ⟨m, ⟨hdigits, hm, hlt⟩, rfl⟩
    rw [UInt64.toNat_ofNat_of_lt' hlt]
    exact ⟨hdigits, hm, hlt⟩
  · intro h
    exact ⟨w.toNat, h, UInt64.ofNat_toNat⟩

/-- A text is read as a number of 64 bits if it writes the number. -/
theorem wordOfText_eq_ok_iff {text : String} {w : UInt64} :
    wordOfText text = .ok w ↔ WritesWord text w.toNat := by
  have hplus {digits : List Char} : ¬ ∀ c ∈ '+' :: digits, c.isDigit := fun h =>
    absurd (h '+' List.mem_cons_self) (by decide)
  unfold wordOfText WritesWord
  split
  · next hnil =>
    refine iff_of_false (by simp) ?_
    rintro ⟨digits, rfl | hcons, hne, -⟩
    · exact hne hnil
    · rw [hnil] at hcons
      cases hcons
  · next hsign =>
    refine iff_of_false (by simp) ?_
    rintro ⟨digits, rfl | hcons, hne, hdigits, -⟩
    · exact hplus (hsign ▸ hdigits)
    · rw [hsign] at hcons
      exact hne (List.cons.inj hcons).2.symm
  · next digits hsome hsigned =>
    rw [map_foldlM_wordDigit_eq_ok_iff]
    constructor
    · intro h
      exact ⟨digits, .inr hsigned, hsome, h⟩
    · rintro ⟨digits', rfl | hcons, -, h⟩
      · exact absurd h.1 (hsigned ▸ hplus)
      · rw [hsigned] at hcons
        obtain rfl := (List.cons.inj hcons).2
        exact h
  · next hempty _ hunsigned =>
    rw [map_foldlM_wordDigit_eq_ok_iff]
    constructor
    · intro h
      exact ⟨text.toList, .inl rfl, hempty, h⟩
    · rintro ⟨digits, rfl | hcons, -, h⟩
      · exact h
      · exact absurd hcons (hunsigned digits)

/-- A text that writes a number is read as the word that has the number for its value. -/
theorem WritesWord.exists_word {text : String} {n : Nat} (h : WritesWord text n) :
    ∃ w : UInt64, wordOfText text = .ok w ∧ w.toNat = n := by
  have hn : (UInt64.ofNat n).toNat = n := by
    obtain ⟨-, -, -, -, -, hlt⟩ := h
    exact UInt64.toNat_ofNat_of_lt' hlt
  exact ⟨UInt64.ofNat n, wordOfText_eq_ok_iff.mpr (hn.symm ▸ h), hn⟩

/-- A text writes one number at most. -/
theorem WritesWord.unique {text : String} {n m : Nat} (h : WritesWord text n)
    (h' : WritesWord text m) : n = m := by
  obtain ⟨w, hw, rfl⟩ := h.exists_word
  obtain ⟨w', hw', rfl⟩ := h'.exists_word
  obtain rfl := Except.ok.inj (hw.symm.trans hw')
  rfl

end FleetConsole
