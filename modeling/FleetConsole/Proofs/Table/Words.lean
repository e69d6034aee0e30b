import FleetConsole.Fleet.View
import FleetConsole.Proofs.Binary64.Text
import FleetConsole.Proofs.Text.Trim
import FleetConsole.Proofs.Time.Age
import FleetConsole.Table.Layout
import Mathlib.Data.List.Forall2

/-!
# Cells that are words

What a row computes is a single word: an age, replica counts, a fraction of them. It is never empty
and has no white space in it, so it keeps to its line. What a row quotes from its object may be any
text; `Layout.Quotes` says of a layout which columns quote.
-/

namespace FleetConsole

namespace Text

/-- A text that is not empty and has no white space. -/
def IsWord (s : String) : Prop := s.toList ≠ [] ∧ ∀ c ∈ s.toList, ¬ isBlank c

-- The characters of the text are gone through, not all characters there are.
instance (s : String) : Decidable (IsWord s) :=
  @instDecidableAnd _ _ inferInstance (List.decidableBAll _ _)

/-- Two words make a word. -/
theorem IsWord.append {s t : String} (hs : IsWord s) (ht : IsWord t) : IsWord (s ++ t) := by
  obtain ⟨hne, hs⟩ := hs
  obtain ⟨-, ht⟩ := ht
  rw [IsWord, String.toList_append]
  refine ⟨List.append_ne_nil_of_left_ne_nil hne _, fun c hc => ?_⟩
  obtain hc | hc := List.mem_append.mp hc
  · exact hs c hc
  · exact ht c hc

/-- A text that ends in a word has no blanks at its end. -/
theorem IsWord.trimEnd_append {s : String} (hs : IsWord s) (cs : List Char) :
    trimEnd (cs ++ s.toList) = cs ++ s.toList := by
  obtain ⟨hne, hs⟩ := hs
  have hlast : ¬ isBlank (s.toList.getLast hne) := hs _ (List.getLast_mem hne)
  rw [← List.dropLast_append_getLast hne, ← List.append_assoc, trimEnd_append_cons hlast]
  rfl

/-- A natural number is shown as a word. -/
theorem isWord_nat (n : Nat) : IsWord (toString n) := by
  rw [IsWord, Nat.toString_eq_ofList_toDigits, String.toList_ofList]
  refine ⟨Nat.toDigits_ne_nil, fun c hc => ?_⟩
  have hdigit := Nat.isDigit_of_mem_toDigits (by decide) (by decide) hc
  rw [Instant.isBlank_of_isDigit hdigit]
  decide

/-- An integer is shown as a word. -/
theorem isWord_int (n : Int) : IsWord (toString n) := by
  cases n with
  | ofNat n => exact isWord_nat n
  | negSucc n =>
    have hsign : IsWord "-" := by decide
    exact hsign.append (isWord_nat (n + 1))

end Text

open Text

/-- A number of the format is shown as a word. -/
theorem Double.isWord_text (x : Double) : IsWord x.text := by
  obtain ⟨v, hdenotes, -⟩ := x.exists_denotes_positional
  obtain ⟨d, ds, hdigits, -⟩ := hdenotes.exists_eq_cons
  rw [IsWord, text, String.toList_ofList]
  refine ⟨List.append_ne_nil_of_right_ne_nil _ (by rw [hdigits]; exact List.cons_ne_nil _ _),
    fun c hc => ?_⟩
  obtain hsign | hc := List.mem_append.mp hc
  · split at hsign
    · obtain rfl := List.mem_singleton.mp hsign
      decide
    · cases hsign
  · obtain hdigit | rfl := hdenotes.isDigit_or_eq hc
    · rw [Instant.isBlank_of_isDigit hdigit]
      decide
    · decide

/-- An age is shown as a word, whether it is known or not. -/
theorem Cell.isWord_age (created : Option Instant) (now : Instant) :
    IsWord ((Cell.age created).display now) := by
  cases created with
  | none =>
    have hunknown : IsWord unknownAge := by decide
    exact hunknown
  | some created =>
    have hletter (u : AgeUnit) : IsWord u.letter := by cases u <;> decide
    rw [Cell.display, ageText_eq]
    exact (isWord_nat _).append (hletter _)

/-- Available replicas out of all are shown as a word. -/
theorem Replicas.isWord_fraction (payload : Json) : IsWord (fraction payload) := by
  unfold fraction
  split
  · have hslash : IsWord "/" := by decide
    exact ((Double.isWord_text _).append hslash).append (Double.isWord_text _)
  · decide

/-- The replicas on a cluster are shown as a word. -/
theorem ClusterView.isWord_replicas (v : ClusterView) : IsWord v.replicas := by
  unfold replicas
  split
  · exact Replicas.isWord_fraction _
  · decide

/-- The replicas of a manifest are shown as a word. -/
theorem ManifestView.isWord_replicas (v : ManifestView) : IsWord v.replicas := by
  unfold replicas
  split
  · split
    · exact Replicas.isWord_fraction _
    · decide
  · decide

/-- Healthy replicas out of all are shown as a word. -/
theorem ManifestWork.isWord_healthyFraction (w : ManifestWork) : IsWord w.healthyFraction := by
  have hslash : IsWord "/" := by decide
  exact ((isWord_int _).append hslash).append (isWord_int _)

/-! ## Columns that quote -/

/-- The columns of a view that show what objects hold as a text. -/
def View.quoting : View → List String
  | .applications => ["NAMESPACE", "NAME", "PROVISIONED", "CLUSTERS"]
  | .applicationStatus => ["CLUSTER", "READY"]
  | .manifests => ["NAME", "KIND"]
  | .clusters => ["NAME", "PROVISIONED", "HEALTH"]
  | .manifestWorks => ["NAMESPACE", "NAME", "STATE"]

namespace Layout

/-- A layout shows in some columns what objects hold as a text. All other cells of its rows are
words, those of the last column among them, and so are the names of the columns. -/
structure Quotes {σ : Type} (l : Layout σ) (quoting : List String) : Prop where
  names : ∀ column ∈ l.header, IsWord column.name
  last : ∃ front column, l.header = front ++ [column] ∧ column.name ∉ quoting
  cells : ∀ x now, List.Forall₂
    (fun column cell => column.name ∈ quoting ∨ IsWord (cell.display now)) l.header (l.row x).cells

/-- The row of an application quotes everything but the age. -/
theorem quotes_applications (width : Nat) :
    (applications width).Quotes (View.quoting .applications) where
  names :=
    show ∀ column ∈ (applications defaultClustersWidth).header, IsWord column.name by decide
  last := ⟨(applications width).header.take 4, .age, rfl, by decide⟩
  cells app now :=
    .cons (.inl (by decide)) <| .cons (.inl (by decide)) <| .cons (.inl (by decide)) <|
      .cons (.inl (by decide)) <| .cons (.inr (Cell.isWord_age _ now)) .nil

/-- The row of a cluster of an application quotes everything but the replicas. -/
theorem quotes_clusterViews : clusterViews.Quotes (View.quoting .applicationStatus) where
  names := by decide
  last := ⟨clusterViews.header.take 2, ⟨"REPLICAS", false⟩, rfl, by decide⟩
  cells view now :=
    .cons (.inl (by decide)) <| .cons (.inl (by decide)) <| .cons (.inr view.isWord_replicas) .nil

/-- The row of a manifest quotes everything but the replicas. -/
theorem quotes_manifestViews : manifestViews.Quotes (View.quoting .manifests) where
  names := by decide
  last := ⟨manifestViews.header.take 2, ⟨"REPLICAS", false⟩, rfl, by decide⟩
  cells view now :=
    .cons (.inl (by decide)) <| .cons (.inl (by decide)) <| .cons (.inr view.isWord_replicas) .nil

/-- The row of a cluster quotes everything but the usage, which is always the same, and the age. -/
theorem quotes_clusters : clusters.Quotes (View.quoting .clusters) where
  names := by decide
  last := ⟨clusters.header.take 4, .age, rfl, by decide⟩
  cells cluster now :=
    have husage : IsWord generalUsage := by decide
    .cons (.inl (by decide)) <| .cons (.inr husage) <| .cons (.inl (by decide)) <|
      .cons (.inl (by decide)) <| .cons (.inr (Cell.isWord_age _ now)) .nil

/-- The row of a manifest work quotes everything but the replicas and the age. -/
theorem quotes_manifestWorks : manifestWorks.Quotes (View.quoting .manifestWorks) where
  names := by decide
  last := ⟨manifestWorks.header.take 4, .age, rfl, by decide⟩
  cells work now :=
    .cons (.inl (by decide)) <| .cons (.inl (by decide)) <| .cons (.inl (by decide)) <|
      .cons (.inr work.isWord_healthyFraction) <| .cons (.inr (Cell.isWord_age _ now)) .nil

end Layout

end FleetConsole
