import FleetConsole.Text.Truncated

/-!
# Texts that are cut

A text that fits a width is left as it is. Any other is cut so that it ends in an ellipsis and fills
the width (`truncated_of_lt`), for which there is always room. To cut a text once more is to cut it
to the smaller of the two widths (`truncated_truncated`): a second cut either leaves the ellipsis of
the first one alone or takes it away with all that stands before it.
-/

namespace FleetConsole.Text

variable {s : String} {w : Nat}

/-- What fits is left as it is. -/
theorem truncated_of_le (h : s.length ≤ w) : truncated w s = s := by
  rw [truncated, truncated?, if_pos h]
  rfl

/-- Nothing is left without any room. -/
theorem truncated_zero (s : String) : truncated 0 s = "" := by
  by_cases h : s.length ≤ 0
  · rw [truncated_of_le h, ← String.length_eq_zero_iff]
    omega
  · rw [truncated, truncated?, if_neg h, if_pos rfl]
    rfl

/-- There is room for the ellipsis in every width that is not zero. -/
theorem room?_one (hw : 0 < w) : room? w 1 = some (w - 1) := if_pos hw

/-- What does not fit keeps one character less than there is room for, and the ellipsis. -/
theorem truncated_of_lt (hw : 0 < w) (h : w < s.length) :
    truncated w s = String.ofList (s.toList.take (w - 1) ++ [ellipsis]) := by
  have hfits : ¬ s.length ≤ w := by omega
  have hzero : w ≠ 0 := by omega
  rw [truncated, truncated?, if_neg hfits, if_neg hzero, room?_one hw]
  rfl

/-- A text can be cut to every width. -/
theorem truncated?_eq_some (w : Nat) (s : String) : truncated? w s = some (truncated w s) := by
  have hsome : (truncated? w s).isSome := by
    unfold truncated?
    split
    · rfl
    · split
      · rfl
      · next hzero => rw [room?_one (Nat.pos_of_ne_zero hzero), Option.map_some, Option.isSome_some]
  obtain ⟨cut, hcut⟩ := Option.isSome_iff_exists.mp hsome
  rw [truncated, hcut, Option.getD_some]

/-- A text that is cut fills the width. -/
theorem length_truncated (w : Nat) (s : String) : (truncated w s).length = min w s.length := by
  obtain hlong | hfits := Nat.lt_or_ge w s.length
  · obtain rfl | hw := Nat.eq_zero_or_pos w
    · rw [truncated_zero, Nat.zero_min, String.length_empty]
    · rw [truncated_of_lt hw hlong, String.length_ofList, List.length_append, List.length_take,
        String.length_toList, List.length_singleton]
      omega
  · rw [truncated_of_le hfits, Nat.min_eq_right hfits]

/-- A cut is undone by a smaller one: what is left of a text that was cut has the characters of the
text in front. -/
theorem truncated_truncated_of_lt {v : Nat} (hwv : w < v) (hv : v < s.length) :
    truncated w (truncated v s) = truncated w s := by
  obtain rfl | hw := Nat.eq_zero_or_pos w
  · rw [truncated_zero, truncated_zero]
  · have hlength : w < (truncated v s).length := by
      rw [length_truncated]
      omega
    have hfront : (s.toList.take (v - 1) ++ [ellipsis]).take (w - 1) = s.toList.take (w - 1) := by
      have hroom : w - 1 ≤ (s.toList.take (v - 1)).length := by
        rw [List.length_take, String.length_toList]
        omega
      rw [List.take_append_of_le_length hroom, List.take_take, Nat.min_eq_left (by omega)]
    rw [truncated_of_lt hw hlength, truncated_of_lt (by omega) hv, String.toList_ofList, hfront,
      truncated_of_lt hw (by omega)]

/-- To cut a text twice is to cut it to the smaller width. -/
theorem truncated_truncated (s : String) (v w : Nat) :
    truncated w (truncated v s) = truncated (min v w) s := by
  obtain hlong | hfits := Nat.lt_or_ge v s.length
  · obtain hwv | hvw := Nat.lt_or_ge w v
    · rw [truncated_truncated_of_lt hwv hlong, Nat.min_eq_right (by omega)]
    · -- What the first cut leaves fits the second width.
      have hfits : (truncated v s).length ≤ w := by
        rw [length_truncated]
        omega
      rw [truncated_of_le hfits, Nat.min_eq_left hvw]
  · -- The first cut changes nothing, and the smaller width is the second one unless both do.
    rw [truncated_of_le hfits]
    obtain hwv | hvw := Nat.le_total w v
    · rw [Nat.min_eq_right hwv]
    · rw [Nat.min_eq_left hvw, truncated_of_le (by omega), truncated_of_le hfits]

/-- A text can be cut to every width. It then has as many characters as there is room for, or all of
its own: it is left as it is if it fits, and otherwise it is what is left of it in front and the
ellipsis, or nothing where there is no room at all. To cut it twice is to cut it to the smaller
width, and so to cut it to a width again changes nothing. -/
theorem truncated_to_width (s : String) (v w : Nat) :
    truncated? w s = some (truncated w s) ∧
      (truncated w s).length = min w s.length ∧
      truncated w s =
        (if s.length ≤ w then s
        else if w = 0 then ""
        else String.ofList (s.toList.take (w - 1) ++ ['…'])) ∧
      truncated w (truncated v s) = truncated (min v w) s ∧
      truncated w (truncated w s) = truncated w s := by
  refine ⟨truncated?_eq_some w s, length_truncated w s, ?_, truncated_truncated s v w, ?_⟩
  · split
    · next hfits => exact truncated_of_le hfits
    · next hlong =>
      split
      · next hzero => rw [hzero, truncated_zero]
      · next hzero => exact truncated_of_lt (Nat.pos_of_ne_zero hzero) (by omega)
  · rw [truncated_truncated, Nat.min_self]

end FleetConsole.Text
