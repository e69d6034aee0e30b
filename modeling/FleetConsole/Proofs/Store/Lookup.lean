import FleetConsole.Store.Snapshot
import Mathlib.Data.List.Basic

/-!
# Lookups and listings

A lookup searches a collection for a name, and a listing filters it by a scope; each has conditions
of its own for the namespace and the labels. `Snapshot.get_first_listed` says that they pick the
same documents: a lookup that is not exact answers with the first document of the name in the
listing under its selector, where a name without a namespace leaves all namespaces open, and an
exact lookup with the first one in the listing under no requirements at all.
-/

namespace FleetConsole

/-- The namespaces that a name leaves open: the one that it gives, else all of them. -/
def QualifiedName.scope (q : QualifiedName) : Scope :=
  match q.ns with
  | some ns => .only ns
  | none => .all

/-- A lookup is answered from a list of candidates: by the first one that has its name, and that it
is not found if no candidate has it. -/
structure Lookup.AnswersFirst (l : Lookup) (candidates : List Json)
    (answer : Except FleetError Json) : Prop where
  found : ∀ doc, answer = .ok doc ↔ ∃ before after, candidates = before ++ doc :: after ∧
    doc.metadataName = (QualifiedName.ofText l.name).name ∧
      ∀ d ∈ before, d.metadataName ≠ (QualifiedName.ofText l.name).name
  notFound : ∀ e, answer = .error e ↔ e = l.notFound ∧
    ∀ d ∈ candidates, d.metadataName ≠ (QualifiedName.ofText l.name).name

namespace Snapshot

/-- The condition that a lookup puts on the namespace of a document is the one of a listing in the
scope of the name. -/
theorem isNamed_eq (c : Coordinate) (q : QualifiedName) (doc : Json) :
    isNamed c q doc = ((!c.kind.isNamespaced || q.scope.covers doc.metadataNamespace) &&
      decide (doc.metadataName = q.name)) := by
  have hscope : q.ns.all (doc.metadataNamespace = ·) = q.scope.covers doc.metadataNamespace := by
    unfold QualifiedName.scope
    cases q.ns with
    | none => rfl
    | some ns => simp [Scope.covers, eq_comm]
  rw [isNamed, hscope]

/-- A lookup under a selector finds the first document of its name in the listing. -/
theorem get?_eq_find?_list (snapshot : Snapshot) (c : Coordinate) (fqn : String)
    (sel : Selector) :
    snapshot.get? ⟨c, fqn, false, sel⟩ =
      (snapshot.list ⟨c, (QualifiedName.ofText fqn).scope, sel⟩).find?
        (·.metadataName = (QualifiedName.ofText fqn).name) := by
  unfold get? list
  rw [List.find?_filter, List.find?_filter, List.find?_filter]
  refine congrArg (List.find? · _) (funext fun doc => ?_)
  rw [isNamed_eq, Bool.false_or]
  -- The three conditions are the same, in another order.
  simp only [Bool.decide_and, Bool.decide_eq_true]
  rw [Bool.and_assoc, Bool.and_comm (decide _)]

/-- An exact lookup finds what a lookup under no requirements finds. -/
theorem get?_exact_eq (snapshot : Snapshot) (c : Coordinate) (fqn : String) (sel : Selector) :
    snapshot.get? ⟨c, fqn, true, sel⟩ = snapshot.get? ⟨c, fqn, false, .everything⟩ := rfl

/-- A lookup is answered from the candidates in which its document is searched. -/
theorem answersFirst_of_find? {snapshot : Snapshot} {l : Lookup} {candidates : List Json}
    (h : snapshot.get? l =
      candidates.find? (·.metadataName = (QualifiedName.ofText l.name).name)) :
    l.AnswersFirst candidates (snapshot.store.get l) := by
  -- The store answers with the document that is found, and with its error if there is none.
  simp only [store, h]
  cases hfind : candidates.find? (·.metadataName = (QualifiedName.ofText l.name).name) with
  | none =>
    have hnone : ∀ d ∈ candidates, d.metadataName ≠ (QualifiedName.ofText l.name).name := by
      simpa using hfind
    refine ⟨fun doc => ⟨nofun, ?_⟩, fun e => ?_⟩
    · rintro ⟨before, after, rfl, hname, -⟩
      exact absurd hname (hnone doc (by simp))
    · rw [Except.error.injEq, eq_comm, and_iff_left hnone]
  | some found =>
    have hfound := List.find?_eq_some_iff_append.mp hfind
    refine ⟨fun doc => ?_, fun e => ⟨nofun, ?_⟩⟩
    · rw [Except.ok.injEq, ← Option.some.injEq, ← hfind, List.find?_eq_some_iff_append]
      simp only [decide_eq_true_eq, Bool.not_eq_true', decide_eq_false_iff_not]
      exact ⟨fun ⟨hname, before, after, hsplit, hbefore⟩ =>
          ⟨before, after, hsplit, hname, hbefore⟩,
        fun ⟨before, after, hsplit, hname, hbefore⟩ =>
          ⟨hname, before, after, hsplit, hbefore⟩⟩
    · rintro ⟨-, hnone⟩
      exact absurd (of_decide_eq_true hfound.1) (hnone found (List.mem_of_find?_eq_some hfind))

/-- In a collection without namespaces, the namespace of a name does not matter. -/
theorem get?_congr_of_not_isNamespaced (snapshot : Snapshot) {c : Coordinate}
    (hc : c.kind.isNamespaced = false) {fqn fqn' : String}
    (hname : (QualifiedName.ofText fqn).name = (QualifiedName.ofText fqn').name) (exact : Bool)
    (sel : Selector) :
    snapshot.get? ⟨c, fqn, exact, sel⟩ = snapshot.get? ⟨c, fqn', exact, sel⟩ := by
  have hnamed : isNamed c (.ofText fqn) = isNamed c (.ofText fqn') := by
    funext doc
    simp only [isNamed, hc, hname, Bool.not_false, Bool.true_or]
  simp only [get?, hnamed]

/-- A lookup that is not exact is answered from the listing under its selector, in the namespace
that the name gives or in all of them: by the first document of the name, and that it is not found
if there is none. An exact lookup is answered like one under no requirements, whatever its selector
is. In a collection without namespaces, names that differ in the namespace only find the same. -/
theorem get_first_listed (snapshot : Snapshot) (c : Coordinate) (fqn : String) (sel : Selector) :
    let listed (sel : Selector) := snapshot.list ⟨c, (QualifiedName.ofText fqn).scope, sel⟩
    let get (fqn : String) (exact : Bool) (sel : Selector) :=
      snapshot.store.get ⟨c, fqn, exact, sel⟩
    Lookup.AnswersFirst ⟨c, fqn, false, sel⟩ (listed sel) (get fqn false sel) ∧
      Lookup.AnswersFirst ⟨c, fqn, true, sel⟩ (listed .everything) (get fqn true sel) ∧
      get fqn true sel = get fqn false .everything ∧
      (c.kind.isNamespaced = false → ∀ fqn' exact,
        (QualifiedName.ofText fqn').name = (QualifiedName.ofText fqn).name →
          (get fqn' exact sel).toOption = (get fqn exact sel).toOption) := by
  intro listed get
  refine ⟨answersFirst_of_find? (snapshot.get?_eq_find?_list c fqn sel),
    answersFirst_of_find? ?_, ?_, fun hc fqn' exact hname => ?_⟩
  · rw [get?_exact_eq]
    exact snapshot.get?_eq_find?_list c fqn .everything
  · simp only [get, store, get?_exact_eq]
    rfl
  · have hsame := snapshot.get?_congr_of_not_isNamespaced hc hname exact sel
    simp only [get, store, hsame]
    cases snapshot.get? ⟨c, fqn, exact, sel⟩ <;> rfl

/-- Two clusters share a name, and the first of them is not in the team. The namespace of the name
is passed over. -/
example :
    let cluster (team : String) : Json := .obj
      [("kind", .str "Cluster"),
       ("metadata", .obj [("labels", .obj [("team", .str team)]), ("name", .str "c1")])]
    let snapshot : Snapshot := .ofDocuments [cluster "core", cluster "edge"]
    let get (exact : Bool) := snapshot.store.get
      ⟨⟨.standard, .cluster⟩, "shop/c1", exact, ⟨[.equals "team" "edge"]⟩⟩
    get false = .ok (cluster "edge") ∧ get true = .ok (cluster "core") := by
  decide

end Snapshot

end FleetConsole
