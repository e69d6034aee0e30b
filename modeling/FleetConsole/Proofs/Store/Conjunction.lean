import FleetConsole.Proofs.Fleet.Grammar
import FleetConsole.Store.Snapshot

/-!
# Selectors that are put together

The terms of a selector are requirements that all have to hold. So a listing under two selectors,
joined by a comma, keeps the documents that it keeps under each of them, and neither the order of
the terms nor how often one is written has a part in it (`Snapshot.list_conjunction`).

The second half rests on a description of what a lenient reading requires that knows the terms as a
set only (`Selector.mem_parseLenient_iff`).
-/

namespace FleetConsole

namespace Selector

open Text (isBlank trim)

variable {s t : String} {ps qs : List (List Char)} {rs : List Requirement} {r : Requirement}

/-! ## Joined texts -/

/-- Pieces of two texts are joined like the texts. -/
theorem intercalate_append (hps : ps ≠ []) (hqs : qs ≠ []) :
    [','].intercalate (ps ++ qs) = [','].intercalate ps ++ ',' :: [','].intercalate qs := by
  induction ps with
  | nil => exact absurd rfl hps
  | cons p ps ih =>
    by_cases hlast : ps = []
    · -- The comma between the texts stands behind the last piece of the first.
      subst hlast
      rw [List.singleton_append, List.intercalate_cons_of_ne_nil hqs, List.intercalate_singleton]
      simp
    · have hmore : ps ++ qs ≠ [] := by simp [hlast]
      rw [List.cons_append, List.intercalate_cons_of_ne_nil hmore,
        List.intercalate_cons_of_ne_nil hlast, ih hlast]
      simp

/-- Where two texts are joined by a comma, the pieces of one are followed by those of the other. -/
theorem CutAtCommas.append {cs ds : List Char} (hcs : CutAtCommas cs ps)
    (hds : CutAtCommas ds qs) : CutAtCommas (cs ++ ',' :: ds) (ps ++ qs) where
  ne_nil := by simp [hcs.ne_nil]
  notMem := List.forall_mem_append.mpr ⟨hcs.notMem, hds.notMem⟩
  join := by rw [intercalate_append hcs.ne_nil hds.ne_nil, ← hcs.join, ← hds.join]

/-- Two texts that are not blank write, joined by a comma, what the first writes and then what the
second writes. -/
theorem writes_append {rs' : List Requirement} (hs : ¬ ∀ c ∈ s.toList, isBlank c)
    (ht : ¬ ∀ c ∈ t.toList, isBlank c) (h : Writes s rs) (h' : Writes t rs') :
    Writes (s ++ "," ++ t) (rs ++ rs') := by
  have hcut : CutAtCommas (s ++ "," ++ t).toList (pieces s.toList ++ pieces t.toList) := by
    have htext : (s ++ "," ++ t).toList = s.toList ++ ',' :: t.toList := by simp
    rw [htext]
    exact (cutAtCommas_pieces _).append (cutAtCommas_pieces _)
  have hfirst := (writes_iff_of_not_blank hs).mp h
  have hsecond := (writes_iff_of_not_blank ht).mp h'
  exact .terms hcut (List.rel_append hfirst hsecond)

/-! ## The terms as a set -/

/-- The terms of one text are those of another, whatever blanks are around them, in whatever order
they stand and however often one is written. -/
structure SameTerms (ps qs : List (List Char)) : Prop where
  left : ∀ t ∈ ps.map trim, t ∈ qs.map trim
  right : ∀ t ∈ qs.map trim, t ∈ ps.map trim

/-- The same terms are in both texts. -/
theorem SameTerms.mem_iff (h : SameTerms ps qs) (t : List Char) :
    t ∈ ps.map trim ↔ t ∈ qs.map trim :=
  ⟨h.left t, h.right t⟩

/-- Pieces write requirements if each of them is a term. -/
theorem exists_terms_iff :
    (∃ rs, List.Forall₂ Term ps rs) ↔ ∀ t ∈ ps.map trim, ∃ r, requirement t = .ok r := by
  simp only [List.forall_mem_map, requirement_trim_eq_ok_iff]
  induction ps with
  | nil => exact ⟨fun _ => List.forall_mem_nil _, fun _ => ⟨[], .nil⟩⟩
  | cons p ps ih =>
    rw [List.forall_mem_cons, ← ih]
    constructor
    · rintro ⟨_, hp | ⟨hp, hps⟩⟩
      exact ⟨⟨_, hp⟩, ⟨_, hps⟩⟩
    · rintro ⟨⟨r, hp⟩, ⟨rs, hps⟩⟩
      exact ⟨r :: rs, .cons hp hps⟩

/-- The requirements that pieces write are those of their terms. -/
theorem mem_iff_of_terms (h : List.Forall₂ Term ps rs) :
    r ∈ rs ↔ ∃ t ∈ ps.map trim, requirement t = .ok r := by
  induction h with
  | nil => simp
  | @cons p r' ps rs hp hps ih =>
    -- A term writes one requirement only.
    have hfirst : requirement (trim p) = .ok r ↔ r = r' := by
      rw [requirement_trim_eq_ok_iff.mpr hp, Except.ok.injEq, eq_comm]
    rw [List.mem_cons, ih, List.map_cons, List.exists_mem_cons_iff, hfirst]

/-- What a text requires if it is read leniently: what its terms write, as long as each of them is
well formed. A blank text has one piece, which is no term. -/
theorem mem_parseLenient_iff (hcut : CutAtCommas s.toList ps) :
    r ∈ (parseLenient s).requirements ↔
      (∀ t ∈ ps.map trim, ∃ r', requirement t = .ok r') ∧
        ∃ t ∈ ps.map trim, requirement t = .ok r := by
  obtain rfl := hcut.eq_pieces
  rw [← exists_terms_iff]
  -- A text whose pieces are no terms is blank or refused, and requires nothing either way.
  by_cases hwritten : ∃ rs, List.Forall₂ Term (pieces s.toList) rs
  · obtain ⟨rs, hterms⟩ := hwritten
    have hparse : parse s = .ok ⟨rs⟩ := parse_eq_ok_iff.mpr (.terms hcut hterms)
    simp only [parseLenient, hparse, mem_iff_of_terms hterms]
    exact ⟨fun h => ⟨⟨rs, hterms⟩, h⟩, fun h => h.2⟩
  · have hnone : (parseLenient s).requirements = [] := by
      cases hparse : parse s with
      | error e => simp only [parseLenient, hparse, everything]
      | ok selector =>
        have hwrites : Writes s selector.requirements := parse_eq_ok_iff.mp hparse
        have hblank : ∀ c ∈ s.toList, isBlank c := by
          by_contra hno
          exact hwritten ⟨_, (writes_iff_of_not_blank hno).mp hwrites⟩
        simp only [parseLenient, hparse]
        exact (writes_blank_iff hblank).mp hwrites
    rw [hnone]
    exact ⟨fun h => absurd h List.not_mem_nil, fun h => absurd h.1 hwritten⟩

/-- With the same terms, the same is required. -/
theorem mem_parseLenient_congr (hs : CutAtCommas s.toList ps) (ht : CutAtCommas t.toList qs)
    (h : SameTerms ps qs) :
    r ∈ (parseLenient s).requirements ↔ r ∈ (parseLenient t).requirements := by
  rw [mem_parseLenient_iff hs, mem_parseLenient_iff ht]
  simp only [h.mem_iff]

/-- With the same terms, a text that is not blank is accepted like the other. -/
theorem exists_parse_congr (hs : CutAtCommas s.toList ps) (ht : CutAtCommas t.toList qs)
    (h : SameTerms ps qs) (hblank : ¬ ∀ c ∈ s.toList, isBlank c) {sel : Selector}
    (hparse : parse s = .ok sel) : ∃ sel', parse t = .ok sel' := by
  have hterms : List.Forall₂ Term ps sel.requirements := by
    rw [hs.eq_pieces]
    exact (writes_iff_of_not_blank hblank).mp (parse_eq_ok_iff.mp hparse)
  -- Whether pieces are terms is seen from the set of them.
  have hall := exists_terms_iff.mp ⟨_, hterms⟩
  simp only [h.mem_iff] at hall
  obtain ⟨rs', hterms'⟩ := exists_terms_iff.mpr hall
  exact ⟨⟨rs'⟩, parse_eq_ok_iff.mpr (.terms ht hterms')⟩

/-! ## Choices -/

/-- What meets the requirements of two selectors is what meets those of each. -/
theorem selectsDocument_append (rs rs' : List Requirement) (doc : Json) :
    selectsDocument ⟨rs ++ rs'⟩ doc = (selectsDocument ⟨rs⟩ doc && selectsDocument ⟨rs'⟩ doc) :=
  List.all_append

/-- The same requirements select the same documents. -/
theorem selectsDocument_congr {a b : Selector}
    (h : ∀ r, r ∈ a.requirements ↔ r ∈ b.requirements) (doc : Json) :
    a.selectsDocument doc = b.selectsDocument doc := by
  rw [Bool.eq_iff_iff]
  simp only [selectsDocument, selects, List.all_eq_true, h]

end Selector

namespace Snapshot

open Selector (parse parseLenient CutAtCommas SameTerms)

/-- A filter by two conditions keeps what a filter by the first keeps and one by the second too. -/
theorem filter_and_eq_filter_mem {α : Type} [DecidableEq α] (p q : α → Bool) (xs : List α) :
    xs.filter (fun x => p x && q x) = (xs.filter p).filter (· ∈ xs.filter q) := by
  rw [List.filter_filter]
  refine List.filter_congr fun x hx => ?_
  simp [hx, Bool.and_comm]

/-- A listing under the requirements of two selectors keeps what it keeps under each. -/
theorem list_append (snapshot : Snapshot) (c : Coordinate) (scope : Scope)
    (rs rs' : List Requirement) :
    snapshot.list ⟨c, scope, ⟨rs ++ rs'⟩⟩ =
      (snapshot.list ⟨c, scope, ⟨rs⟩⟩).filter (· ∈ snapshot.list ⟨c, scope, ⟨rs'⟩⟩) := by
  let candidates := (snapshot.collection c).filter fun doc =>
    !c.kind.isNamespaced || scope.covers doc.metadataNamespace
  have hlist (sel : Selector) :
      snapshot.list ⟨c, scope, sel⟩ = candidates.filter sel.selectsDocument := rfl
  have hboth : snapshot.list ⟨c, scope, ⟨rs ++ rs'⟩⟩ = candidates.filter fun doc =>
      Selector.selectsDocument ⟨rs⟩ doc && Selector.selectsDocument ⟨rs'⟩ doc := by
    rw [hlist]
    exact List.filter_congr fun doc _ => Selector.selectsDocument_append rs rs' doc
  rw [hboth]
  exact filter_and_eq_filter_mem _ _ candidates

/-- Selectors with the same requirements list the same documents. -/
theorem list_congr (snapshot : Snapshot) (c : Coordinate) (scope : Scope) {a b : Selector}
    (h : ∀ r, r ∈ a.requirements ↔ r ∈ b.requirements) :
    snapshot.list ⟨c, scope, a⟩ = snapshot.list ⟨c, scope, b⟩ := by
  simp only [list]
  exact List.filter_congr fun doc _ => Selector.selectsDocument_congr h doc

/-- Two selectors that are not blank are read, joined by a comma, as the requirements of the first
followed by those of the second, and a listing under them answers with the documents that it
answers with under both, in the same order. If a text with the same terms takes the place of another
that is accepted, it is accepted too and lists the same documents; and where texts are read
leniently, this holds of all texts. -/
theorem list_conjunction :
    (∀ (a b : String) (sa sb : Selector), ¬ Text.isBlankText a → ¬ Text.isBlankText b →
      parse a = .ok sa → parse b = .ok sb →
      parse (a ++ "," ++ b) = .ok ⟨sa.requirements ++ sb.requirements⟩ ∧
        ∀ (snapshot : Snapshot) (c : Coordinate) (scope : Scope),
          let listed (sel : Selector) := snapshot.list ⟨c, scope, sel⟩
          let joined := listed ⟨sa.requirements ++ sb.requirements⟩
          joined = (listed sa).filter (· ∈ listed sb) ∧
            joined = (listed sb).filter (· ∈ listed sa)) ∧
      ∀ (s t : String) (ps qs : List (List Char)), CutAtCommas s.toList ps →
        CutAtCommas t.toList qs → SameTerms ps qs →
        (∀ sel, ¬ Text.isBlankText s → parse s = .ok sel → ∃ sel', parse t = .ok sel' ∧
          ∀ (snapshot : Snapshot) (c : Coordinate) (scope : Scope),
            snapshot.list ⟨c, scope, sel⟩ = snapshot.list ⟨c, scope, sel'⟩) ∧
          ∀ (snapshot : Snapshot) (c : Coordinate) (scope : Scope),
            snapshot.list ⟨c, scope, parseLenient s⟩ =
              snapshot.list ⟨c, scope, parseLenient t⟩ := by
  have hblank (s : String) : Text.isBlankText s ↔ ∀ c ∈ s.toList, Text.isBlank c :=
    List.all_eq_true
  simp only [hblank]
  refine ⟨fun a b sa sb ha hb hsa hsb => ⟨?_, fun snapshot c scope => ⟨?_, ?_⟩⟩,
    fun s t ps qs hs ht hsame => ⟨fun sel hs' hsel => ?_, fun snapshot c scope => ?_⟩⟩
  · have hwrites := Selector.writes_append ha hb (Selector.parse_eq_ok_iff.mp hsa)
      (Selector.parse_eq_ok_iff.mp hsb)
    exact Selector.parse_eq_ok_iff.mpr hwrites
  · exact snapshot.list_append c scope sa.requirements sb.requirements
  · -- In the other order the requirements are the same.
    have hmem (r : Requirement) :
        r ∈ sa.requirements ++ sb.requirements ↔ r ∈ sb.requirements ++ sa.requirements := by
      rw [List.mem_append, List.mem_append, or_comm]
    rw [snapshot.list_congr c scope (b := ⟨sb.requirements ++ sa.requirements⟩) hmem]
    exact snapshot.list_append c scope sb.requirements sa.requirements
  · obtain ⟨sel', hsel'⟩ := Selector.exists_parse_congr hs ht hsame hs' hsel
    have hread : parseLenient s = sel := by simp only [parseLenient, hsel]
    have hread' : parseLenient t = sel' := by simp only [parseLenient, hsel']
    refine ⟨sel', hsel', fun snapshot c scope => ?_⟩
    rw [← hread, ← hread']
    exact snapshot.list_congr c scope fun r => Selector.mem_parseLenient_congr hs ht hsame
  · exact snapshot.list_congr c scope fun r => Selector.mem_parseLenient_congr hs ht hsame

/-- One of three applications is in the team and not frozen. It is listed under the two selectors
together, and again when their terms are written twice and the other way round. -/
theorem list_conjunction_team :
    let labelled (labels : Labels) : Json := .obj
      [("kind", .str "Application"),
       ("metadata", .obj [("labels", .obj (labels.map fun e => (e.1, .str e.2)))])]
    let web := labelled [("team", "edge")]
    let snapshot : Snapshot :=
      .ofDocuments [labelled [("frozen", ""), ("team", "edge")], web, labelled [("team", "core")]]
    let team : Selector := ⟨[.equals "team" "edge"]⟩
    let thawed : Selector := ⟨[.lacks "frozen"]⟩
    let listed (sel : Selector) := snapshot.list ⟨⟨.standard, .application⟩, .all, sel⟩
    parse "team=edge" = .ok team ∧ parse "! frozen" = .ok thawed ∧
      parse "team=edge,! frozen" = .ok ⟨team.requirements ++ thawed.requirements⟩ ∧
      (listed team).filter (· ∈ listed thawed) = [web] ∧
      listed (parseLenient "team=edge,! frozen") = [web] ∧
      listed (parseLenient "! frozen , team=edge,! frozen,team=edge") = [web] := by
  intro labelled web snapshot team thawed listed
  have hteam : parse "team=edge" = .ok team := by decide +kernel
  have hthawed : parse "! frozen" = .ok thawed := by decide +kernel
  obtain ⟨hjoined, hlist⟩ := list_conjunction.1 "team=edge" "! frozen" team thawed
    (by decide +kernel) (by decide +kernel) hteam hthawed
  have hweb : (listed team).filter (· ∈ listed thawed) = [web] := by decide +kernel
  have hboth : listed (parseLenient "team=edge,! frozen") = [web] := by
    have hread : parseLenient "team=edge,! frozen" = ⟨team.requirements ++ thawed.requirements⟩ :=
      by decide +kernel
    rw [hread, ← hweb]
    exact (hlist snapshot ⟨.standard, .application⟩ .all).1
  refine ⟨hteam, hthawed, hjoined, hweb, hboth, ?_⟩
  rw [← hboth]
  refine ((list_conjunction.2 _ _
    ["! frozen ".toList, " team=edge".toList, "! frozen".toList, "team=edge".toList]
    ["team=edge".toList, "! frozen".toList] ⟨by decide, by decide, by decide⟩
    ⟨by decide, by decide, by decide⟩ ⟨by decide, by decide⟩).2 snapshot _ _)

end Snapshot

end FleetConsole
