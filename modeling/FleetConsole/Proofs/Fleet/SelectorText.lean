import FleetConsole.Hub.Request
import FleetConsole.Proofs.Fleet.Grammar

/-!
# The text of a selector

A selector travels to the API server as a text. Whatever was read as a selector is written so that
it is read again as the same selector (`Selector.text_stable`): its keys and values are made of
characters that no term is taken apart at, so its text is cut where it was put together.

The text is empty for the selector without requirements only. That selector is also the only one
that selects everything, since every requirement has labels that do not meet it.
-/

namespace FleetConsole

namespace Requirement

open Selector (IsKey IsValue Term)

/-- A requirement whose key and value may be written. -/
def IsProper : Requirement → Prop
  | equals k v | notEquals k v => IsKey k ∧ IsValue v
  | «exists» k | lacks k => IsKey k

/-- What a term writes is proper. -/
theorem isProper_of_term {p : List Char} {r : Requirement} (h : Term p r) : r.IsProper := by
  cases h with
  | equals hk hv | doubleEquals hk hv | notEquals hk hv => exact ⟨hk, hv⟩
  | «exists» hk | lacks hk => exact hk

variable {r : Requirement}

/-- The text of a proper requirement is a term that writes it. -/
theorem term_text (h : r.IsProper) : Term r.text.toList r := by
  cases r with
  | equals k v =>
    have htext : (equals k v).text.toList = k.toList ++ '=' :: v.toList := by simp [text]
    rw [htext]
    exact .equals h.1 h.2 (Text.padded_self _) (Text.padded_self _)
  | notEquals k v =>
    have htext : (notEquals k v).text.toList = k.toList ++ '!' :: '=' :: v.toList := by simp [text]
    rw [htext]
    exact .notEquals h.1 h.2 (Text.padded_self _) (Text.padded_self _)
  | «exists» k => exact .exists h (Text.padded_self _)
  | lacks k =>
    have htext : (lacks k).text.toList = [] ++ '!' :: k.toList := by simp [text]
    rw [htext]
    exact .lacks h (List.forall_mem_nil _) (Text.padded_self _)

/-- The text of a proper requirement has no comma. -/
theorem comma_notMem_text (h : r.IsProper) : ',' ∉ r.text.toList := by
  have hkey {k} (hk : IsKey k) : ',' ∉ k.toList :=
    Selector.notMem_of_padded hk.2 (Text.padded_self _) (by simp)
  have hvalue {v} (hv : IsValue v) : ',' ∉ v.toList :=
    Selector.notMem_of_padded (fun c hc => .inl (hv c hc)) (Text.padded_self _) (by simp)
  cases r with
  | equals k v | notEquals k v => simp [text, hkey h.1, hvalue h.2]
  | «exists» k => exact hkey h
  | lacks k => simp [text, hkey h]

/-- Labels that do not meet a requirement. -/
def spoiler : Requirement → Labels
  | equals _ _ | «exists» _ => []
  | notEquals k v => [(k, v)]
  | lacks k => [(k, "")]

/-- Every requirement keeps some labels out. -/
theorem isMet_spoiler (r : Requirement) : r.isMet r.spoiler = false := by
  cases r <;> simp [isMet, spoiler]

end Requirement

/-- A document with labels and nothing else. -/
def Labels.document (labels : Labels) : Json :=
  .obj [("metadata", .obj [("labels", .obj (labels.map fun e => (e.1, .str e.2)))])]

namespace Selector

variable {s : String} {rs : List Requirement}

/-- The labels of a document are found in it. -/
theorem labelsOf_document (labels : Labels) : labelsOf labels.document = labels := by
  have hentries : (labels.document.path? ["metadata", "labels"]).bind Json.entries? =
      some (labels.map fun e => (e.1, .str e.2)) := rfl
  simp only [labelsOf, hentries, List.filterMap_map]
  have heach : (fun e : String × Json => e.2.string?.map fun v => (e.1, v)) ∘
      (fun e : String × String => (e.1, Json.str e.2)) = some := rfl
  rw [heach, List.filterMap_some]

/-- A selector selects all labels only if it has no requirements. -/
theorem forall_selects_iff (sel : Selector) :
    (∀ labels, sel.selects labels) ↔ sel.requirements = [] := by
  constructor
  · intro hall
    cases hrequirements : sel.requirements with
    | nil => rfl
    | cons r rs =>
      have hselects : sel.selects r.spoiler := hall r.spoiler
      simp [selects, hrequirements, r.isMet_spoiler] at hselects
  · intro hnone labels
    simp [selects, hnone]

/-- A selector selects all documents only if it has no requirements. -/
theorem forall_selectsDocument_iff (sel : Selector) :
    (∀ doc, sel.selectsDocument doc) ↔ sel.requirements = [] := by
  rw [← forall_selects_iff]
  constructor
  · intro hall labels
    have hselects : sel.selectsDocument labels.document := hall labels.document
    rwa [selectsDocument, labelsOf_document] at hselects
  · intro hall doc
    exact hall (labelsOf doc)

/-- What a text writes is proper. -/
theorem isProper_of_writes (h : Writes s rs) : ∀ r ∈ rs, r.IsProper := by
  cases h with
  | blank => exact List.forall_mem_nil _
  | terms cut each =>
    intro r hr
    obtain ⟨p, -, hterm⟩ := exists_of_forall₂ each hr
    exact Requirement.isProper_of_term hterm

/-- The text of proper requirements writes them. -/
theorem writes_text (h : ∀ r ∈ rs, r.IsProper) : Writes (text ⟨rs⟩) rs := by
  by_cases hnone : rs = []
  · -- No requirements are written as no pieces, but an empty text has one: it counts as blank.
    subst hnone
    exact .blank (List.forall_mem_nil _)
  · have hcut : CutAtCommas (text ⟨rs⟩).toList (rs.map (·.text.toList)) := by
      refine ⟨by simpa using hnone, ?_, by simp [text, Function.comp_def]⟩
      intro p hp
      obtain ⟨r, hr, rfl⟩ := List.mem_map.mp hp
      exact Requirement.comma_notMem_text (h r hr)
    have heach : List.Forall₂ Term (rs.map (·.text.toList)) rs := by
      rw [List.forall₂_map_left_iff, List.forall₂_same]
      exact fun r hr => Requirement.term_text (h r hr)
    exact .terms hcut heach

/-- The text of proper requirements is empty only if there are none: an empty text writes none. -/
theorem text_eq_empty_iff (h : ∀ r ∈ rs, r.IsProper) : text ⟨rs⟩ = "" ↔ rs = [] := by
  constructor
  · intro hempty
    have hblank : ∀ c ∈ (text ⟨rs⟩).toList, Text.isBlank c := by
      rw [hempty]
      exact List.forall_mem_nil _
    exact (writes_blank_iff hblank).mp (writes_text h)
  · rintro rfl
    rfl

/-- The text of a selector that was read from a text is read again as the same selector, with the
same text and the same choice of labels and documents. It is empty exactly if the selector selects
everything, and the address that the API server is asked for has it as a parameter in all other
cases. -/
theorem text_stable {s : String} {sel : Selector} (h : parse s = .ok sel) :
    parse sel.text = .ok sel ∧ (parse sel.text).map text = .ok sel.text ∧
      ((sel.text = "" ↔ ∀ labels, sel.selects labels) ∧
        (sel.text = "" ↔ ∀ doc, sel.selectsDocument doc)) ∧
      ((∀ labels, (parseLenient sel.text).selects labels = (parseLenient s).selects labels) ∧
        ∀ doc, (parseLenient sel.text).selectsDocument doc =
          (parseLenient s).selectsDocument doc) ∧
      ∀ c ns, Hub.listAddress c ns sel = Hub.collectionPath c ns ++ "?" ++
        if sel.text = "" then "" else "&labelSelector=" ++ Hub.parameter sel.text := by
  -- All that the parts need of the text `s` is that its requirements may be written.
  have hproper : ∀ r ∈ sel.requirements, r.IsProper := isProper_of_writes (parse_eq_ok_iff.mp h)
  have hagain : parse sel.text = .ok sel := parse_eq_ok_iff.mpr (writes_text hproper)
  have hempty : sel.text = "" ↔ sel.requirements = [] := text_eq_empty_iff hproper
  have hlenient : parseLenient sel.text = parseLenient s := by
    simp only [parseLenient, h, hagain]
  refine ⟨hagain, by rw [hagain]; rfl, ⟨?_, ?_⟩, ⟨?_, ?_⟩, ?_⟩
  · rw [hempty, forall_selects_iff]
  · rw [hempty, forall_selectsDocument_iff]
  · intro labels
    rw [hlenient]
  · intro doc
    rw [hlenient]
  · intro c ns
    simp only [Hub.listAddress, isEverything, List.isEmpty_iff, hempty]

/-- White space, two signs for one and an empty value leave no trace in the second text. -/
theorem text_stable_spaced :
    let s := " tier == gold ,\t! frozen,env != "
    let sel : Selector := ⟨[.equals "tier" "gold", .lacks "frozen", .notEquals "env" ""]⟩
    parse s = .ok sel ∧ sel.text = "tier=gold,!frozen,env!=" ∧ parse sel.text = .ok sel := by
  intro s sel
  have h : parse s = .ok sel := by decide +kernel
  exact ⟨h, by decide +kernel, (text_stable h).1⟩

end Selector

end FleetConsole
