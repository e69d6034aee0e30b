import FleetConsole.Fleet.Name
import FleetConsole.Proofs.Text.Separated

/-!
# Names that are written and read

A name is written with one slash and read up to its first slash. `QualifiedName.ofText_text` says
which name is read back: the same, if the namespace has no slash and is none of the two texts that
stand for no namespace (`QualifiedName.ofText_text_eq_self_iff`). A name that was read has no other
namespace, so that it is always read back (`QualifiedName.ofText_text_ofText`).
-/

namespace FleetConsole

/-- A text is cut at the first occurrence of a character. -/
theorem splitOnce?_eq_some_iff {sep : Char} {s head tail : String} :
    splitOnce? sep s = some (head, tail) ↔
      s.toList = head.toList ++ sep :: tail.toList ∧ sep ∉ head.toList := by
  constructor
  · intro h
    unfold splitOnce? at h
    by_cases hsep : sep ∈ s.toList
    · obtain ⟨xs, ys, heq, hxs⟩ := List.eq_append_cons_of_mem hsep
      simp only [heq, takeWhile_ne_append_cons hxs, dropWhile_ne_append_cons hxs] at h
      obtain ⟨rfl, rfl⟩ := Prod.mk.inj (Option.some.inj h)
      exact ⟨by simp [heq], by simpa using hxs⟩
    · simp only [dropWhile_ne_of_notMem hsep] at h
      cases h
  · rintro ⟨heq, hhead⟩
    simp only [splitOnce?, heq, takeWhile_ne_append_cons hhead, dropWhile_ne_append_cons hhead,
      String.ofList_toList]

namespace QualifiedName

/-- A namespace that stands for none when a name is read. -/
def IsSentinel (ns : String) : Prop := ns = "" ∨ ns = noNamespace

instance (ns : String) : Decidable (IsSentinel ns) := inferInstanceAs (Decidable (_ ∨ _))

/-- A name is read as what stands before its first slash and behind it. -/
theorem ofText_eq {s ns name : String} (heq : s.toList = ns.toList ++ '/' :: name.toList)
    (hns : '/' ∉ ns.toList) :
    ofText s = if IsSentinel ns then ⟨none, name⟩ else ⟨some ns, name⟩ := by
  simp only [ofText, splitOnce?_eq_some_iff.mpr ⟨heq, hns⟩]
  rfl

/-- A name with a namespace is written with the namespace, or with a dash in the place of an empty
one. -/
theorem toList_text (ns name : String) :
    (text ⟨some ns, name⟩).toList =
      (if ns = "" then noNamespace else ns).toList ++ '/' :: name.toList := by
  simp only [text]
  split <;> simp

/-- A written name is read back without its namespace, if that is empty or the dash, and as it is
otherwise, as long as the namespace has no slash. -/
theorem ofText_text {ns name : String} (hns : '/' ∉ ns.toList) :
    ofText (text ⟨some ns, name⟩) =
      if IsSentinel ns then ⟨none, name⟩ else ⟨some ns, name⟩ := by
  by_cases hempty : ns = ""
  · subst hempty
    rw [ofText_eq (toList_text "" name) (by decide)]
    rfl
  · have heq := toList_text ns name
    rw [if_neg hempty] at heq
    exact ofText_eq heq hns

/-- A namespace with a slash is cut at the slash, so the name that is read back is longer than the
name that was written. -/
theorem length_name_ofText_text {ns : String} (hns : '/' ∈ ns.toList) (name : String) :
    name.length < (ofText (text ⟨some ns, name⟩)).name.length := by
  obtain ⟨xs, ys, heq, hxs⟩ := List.eq_append_cons_of_mem hns
  have hne : ns ≠ "" := by
    rintro rfl
    cases hns
  have hcut : (text ⟨some ns, name⟩).toList =
      (String.ofList xs).toList ++ '/' :: (String.ofList (ys ++ '/' :: name.toList)).toList := by
    rw [toList_text, if_neg hne, heq]
    simp
  have hlength : name.length < (String.ofList (ys ++ '/' :: name.toList)).length := by
    rw [String.length_ofList, List.length_append, List.length_cons, String.length_toList]
    omega
  rw [ofText_eq hcut (by simpa using hxs)]
  split <;> exact hlength

/-- A name without a namespace is read back. -/
theorem ofText_text_none (name : String) : ofText (text ⟨none, name⟩) = ⟨none, name⟩ := by
  -- It is written as a name in the empty namespace, which stands for none.
  have hread : ofText (text ⟨some "", name⟩) =
      if IsSentinel "" then ⟨none, name⟩ else ⟨some "", name⟩ := ofText_text (by decide)
  rwa [if_pos (.inl rfl)] at hread

/-- A name is read back exactly if its namespace, if it has one, has no slash and does not stand for
none. -/
theorem ofText_text_eq_self_iff (ns name : String) :
    ofText (text ⟨some ns, name⟩) = ⟨some ns, name⟩ ↔ '/' ∉ ns.toList ∧ ¬ IsSentinel ns := by
  by_cases hslash : '/' ∈ ns.toList
  · refine iff_of_false (fun hread => ?_) fun h => h.1 hslash
    have hlonger := length_name_ofText_text hslash name
    rw [hread] at hlonger
    exact Nat.lt_irrefl _ hlonger
  · rw [ofText_text hslash, and_iff_right hslash]
    by_cases hns : IsSentinel ns
    · rw [if_pos hns]
      exact iff_of_false (by simp) (not_not_intro hns)
    · rw [if_neg hns]
      exact iff_of_true rfl hns

/-- The namespace of a name that was read has no slash and does not stand for none. -/
theorem ns_of_ofText {s ns : String} (h : (ofText s).ns = some ns) :
    '/' ∉ ns.toList ∧ ¬ IsSentinel ns := by
  cases hcut : splitOnce? '/' s with
  | none =>
    simp only [ofText, hcut] at h
    cases h
  | some parts =>
    obtain ⟨heq, hslash⟩ := splitOnce?_eq_some_iff.mp hcut
    rw [ofText_eq heq hslash] at h
    split at h
    · cases h
    · next hns =>
      obtain rfl := Option.some.inj h
      exact ⟨hslash, hns⟩

/-- A name that was read is read back from what is shown of it. -/
theorem ofText_text_ofText (s : String) : ofText (ofText s).text = ofText s := by
  generalize hread : ofText s = q
  obtain ⟨ns | ns, name⟩ := q
  · exact ofText_text_none name
  · exact (ofText_text_eq_self_iff ns name).mpr (ns_of_ofText (congrArg QualifiedName.ns hread))

end QualifiedName

end FleetConsole
