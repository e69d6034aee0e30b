import FleetConsole.Text.Blank
import Mathlib.Data.List.TakeWhile

/-!
# Blanks around a text

A text that is trimmed is found again between two runs of blanks. Blanks that are added at either
end do not change what is left (`trim_of_padded`), and a character that is no blank keeps what
stands before it apart from what stands behind it (`trim_append_cons`).
-/

namespace FleetConsole.Text

variable {a b core cs : List Char} {c : Char}

/-- A text with any white space before it and behind it. -/
def Padded (core cs : List Char) : Prop :=
  ∃ before after, (∀ c ∈ before, isBlank c) ∧ (∀ c ∈ after, isBlank c) ∧
    cs = before ++ core ++ after

/-- A text stands in itself without blanks around it. -/
theorem padded_self (cs : List Char) : Padded cs cs :=
  ⟨[], [], List.forall_mem_nil _, List.forall_mem_nil _, by simp⟩

/-- Blanks may be added around a text more than once. -/
theorem Padded.trans {mid : List Char} (h : Padded core mid) (h' : Padded mid cs) :
    Padded core cs := by
  obtain ⟨before, after, hbefore, hafter, rfl⟩ := h
  obtain ⟨before', after', hbefore', hafter', rfl⟩ := h'
  exact ⟨before' ++ before, after ++ after', List.forall_mem_append.mpr ⟨hbefore', hbefore⟩,
    List.forall_mem_append.mpr ⟨hafter, hafter'⟩, by simp⟩

/-- Blanks may be added in front of a text. -/
theorem padded_blank_append (ha : ∀ c ∈ a, isBlank c) : Padded cs (a ++ cs) :=
  ⟨a, [], ha, List.forall_mem_nil _, by simp⟩

/-- Blanks may be added behind a text. -/
theorem padded_append_blank (hb : ∀ c ∈ b, isBlank c) : Padded cs (cs ++ b) :=
  ⟨[], b, List.forall_mem_nil _, hb, by simp⟩

/-- Trimming at the start stops at a character that is no blank. -/
theorem trimStart_append_cons (hc : ¬ isBlank c) :
    trimStart (a ++ c :: b) = trimStart a ++ c :: b := by
  have hstop : (c :: b).dropWhile isBlank = c :: b := List.dropWhile_cons_of_neg hc
  simp only [trimStart]
  rw [List.dropWhile_append, hstop]
  split
  · next hempty => rw [List.isEmpty_iff.mp hempty, List.nil_append]
  · rfl

/-- Trimming at the end is trimming the reversed text at the start. -/
theorem trimEnd_eq (cs : List Char) : trimEnd cs = (trimStart cs.reverse).reverse := rfl

/-- Trimming at the end stops at a character that is no blank. -/
theorem trimEnd_append_cons (hc : ¬ isBlank c) :
    trimEnd (a ++ c :: b) = a ++ c :: trimEnd b := by
  have hreverse : (a ++ c :: b).reverse = b.reverse ++ c :: a.reverse := by simp
  rw [trimEnd_eq, hreverse, trimStart_append_cons hc, trimEnd_eq]
  simp

/-- A text with a character that is no blank is trimmed on the two sides of it. -/
theorem trim_append_cons (hc : ¬ isBlank c) :
    trim (a ++ c :: b) = trimStart a ++ c :: trimEnd b := by
  rw [trim, trimStart_append_cons hc, trimEnd_append_cons hc]

/-- What is left of blanks and a text, trimmed at the start, is what is left of the text. -/
theorem trimStart_blank_append (ha : ∀ c ∈ a, isBlank c) : trimStart (a ++ b) = trimStart b :=
  List.dropWhile_append_of_pos ha

/-- What is left of a text and blanks, trimmed at the end, is what is left of the text. -/
theorem trimEnd_append_blank (hb : ∀ c ∈ b, isBlank c) : trimEnd (a ++ b) = trimEnd a := by
  have hreverse : ∀ c ∈ b.reverse, isBlank c := fun c hc => hb c (List.mem_reverse.mp hc)
  rw [trimEnd_eq, List.reverse_append, trimStart_blank_append hreverse, trimEnd_eq]

/-- Nothing is left of blanks alone, and only of them. -/
theorem trim_eq_nil_iff : trim cs = [] ↔ ∀ c ∈ cs, isBlank c := by
  constructor
  · intro htrim c hmem
    by_contra hc
    obtain ⟨a, b, rfl⟩ := List.append_of_mem hmem
    rw [trim_append_cons hc] at htrim
    cases (List.append_eq_nil_iff.mp htrim).2
  · intro hblank
    have hstart : trimStart cs = [] := List.dropWhile_eq_nil_iff.mpr hblank
    rw [trim, hstart]
    rfl

/-- Blanks around a text do not change what is left of it. -/
theorem trim_of_padded (h : Padded core cs) : trim cs = trim core := by
  obtain ⟨before, after, hbefore, hafter, rfl⟩ := h
  by_cases hcore : ∀ c ∈ core, isBlank c
  · have hall : ∀ c ∈ before ++ core ++ after, isBlank c :=
      List.forall_mem_append.mpr ⟨List.forall_mem_append.mpr ⟨hbefore, hcore⟩, hafter⟩
    rw [trim_eq_nil_iff.mpr hall, trim_eq_nil_iff.mpr hcore]
  · -- A character that is no blank holds off the blanks on either side.
    obtain ⟨c, hmem, hc⟩ : ∃ c ∈ core, ¬ isBlank c := by simpa using hcore
    obtain ⟨a, b, rfl⟩ := List.append_of_mem hmem
    have hsplit : before ++ (a ++ c :: b) ++ after = (before ++ a) ++ c :: (b ++ after) := by simp
    rw [hsplit, trim_append_cons hc, trim_append_cons hc, trimStart_blank_append hbefore,
      trimEnd_append_blank hafter]

/-- What is trimmed at the start of a text are blanks. -/
theorem padded_trimStart (cs : List Char) : Padded (trimStart cs) cs := by
  have hblank : ∀ c ∈ cs.takeWhile isBlank, isBlank c := fun _ hc => List.mem_takeWhile_imp hc
  have heq : cs.takeWhile isBlank ++ trimStart cs = cs := List.takeWhile_append_dropWhile
  have hpadded : Padded (trimStart cs) (cs.takeWhile isBlank ++ trimStart cs) :=
    padded_blank_append hblank
  rwa [heq] at hpadded

/-- What is trimmed at the end of a text are blanks. -/
theorem padded_trimEnd (cs : List Char) : Padded (trimEnd cs) cs := by
  obtain ⟨before, after, hbefore, hafter, heq⟩ := padded_trimStart cs.reverse
  refine ⟨after.reverse, before.reverse, fun c hc => hafter c (List.mem_reverse.mp hc),
    fun c hc => hbefore c (List.mem_reverse.mp hc), ?_⟩
  rw [trimEnd_eq, ← List.reverse_append, ← List.reverse_append, ← List.append_assoc, ← heq,
    List.reverse_reverse]

/-- What is lost by trimming at the end are blanks, and what is left does not end in one. -/
theorem exists_trimEnd_append (cs : List Char) :
    ∃ lost, cs = trimEnd cs ++ lost ∧ (∀ c ∈ lost, isBlank c) ∧
      ∀ c, (trimEnd cs).getLast? = some c → ¬ isBlank c := by
  refine ⟨(cs.reverse.takeWhile isBlank).reverse, ?_, fun c hc => ?_, fun c hc => ?_⟩
  · rw [trimEnd, ← List.reverse_append, List.takeWhile_append_dropWhile, List.reverse_reverse]
  · exact List.mem_takeWhile_imp (List.mem_reverse.mp hc)
  · rw [trimEnd, List.getLast?_reverse] at hc
    have hhead := List.head?_dropWhile_not isBlank cs.reverse
    rw [hc] at hhead
    simpa using hhead

/-- A text stands in the original with blanks around what is left of it. -/
theorem padded_trim (cs : List Char) : Padded (trim cs) cs :=
  (padded_trimEnd (trimStart cs)).trans (padded_trimStart cs)

/-- A text without blanks is left as it is. -/
theorem trim_of_not_blank (h : ∀ c ∈ cs, ¬ isBlank c) : trim cs = cs := by
  obtain ⟨before, after, hbefore, hafter, heq⟩ := padded_trim cs
  have hnone {part : List Char} (hpart : ∀ c ∈ part, c ∈ cs) (hblank : ∀ c ∈ part, isBlank c) :
      part = [] :=
    List.eq_nil_iff_forall_not_mem.mpr fun c hc => h c (hpart c hc) (hblank c hc)
  obtain rfl : before = [] := hnone (fun c hc => by rw [heq]; simp [hc]) hbefore
  obtain rfl : after = [] := hnone (fun c hc => by rw [heq]; simp [hc]) hafter
  simpa using heq.symm

/-- A text without blanks is what is left of another exactly if the other adds blanks to it. -/
theorem trim_eq_iff (h : ∀ c ∈ core, ¬ isBlank c) : trim cs = core ↔ Padded core cs := by
  constructor
  · rintro rfl
    exact padded_trim cs
  · intro hpadded
    rw [trim_of_padded hpadded, trim_of_not_blank h]

end FleetConsole.Text
