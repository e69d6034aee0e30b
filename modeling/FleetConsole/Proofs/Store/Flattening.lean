import FleetConsole.Proofs.Json.Lookup
import FleetConsole.Store.Snapshot

/-!
# Taking lists apart

Exports come as documents, as lists of documents and as lists of such lists. A snapshot stores what
they hold, and it does not matter how the documents were put into lists: wrapping some of them
stores the same (`Snapshot.flattenAll_of_wraps`), and what is stored has no list left to take apart.
`Snapshot.documents_lossless` gathers what follows: no document is lost, doubled, changed or moved.
-/

namespace FleetConsole.Snapshot

/-- A document states the kind of a list: a text that ends in `List`. -/
def StatesList (doc : Json) : Prop :=
  ∃ kind, doc.get? "kind" = some (.str kind) ∧ "List".toList <:+ kind.toList

/-- A document is one object: it is an object and states no kind of a list. -/
def IsSingle (doc : Json) : Prop := (∃ entries, doc = .obj entries) ∧ ¬ StatesList doc

/-- An object is a list of documents: it states the kind of a list, and the documents are what it
has under `items`. -/
structure IsListOf (list : Json) (items : List Json) : Prop where
  statesList : StatesList list
  hasItems : ∃ entries, list = .obj entries ∧ ∀ j, ("items", j) ∈ entries ↔ j = .arr items

/-- Documents are wrapped in lists, one sub-list after another. A list may be wrapped with others in
a further one, so they may be nested to any depth. -/
inductive Wraps (docs : List Json) : List Json → Prop where
  | refl : Wraps docs docs
  | wrap {before inner after : List Json} {list : Json}
      (h : Wraps docs (before ++ inner ++ after)) (hlist : IsListOf list inner) :
      Wraps docs (before ++ list :: after)

/-- The test for lists is for their kind. -/
theorem isListKind_iff {doc : Json} : isListKind doc ↔ StatesList doc := by
  unfold isListKind StatesList
  cases doc.get? "kind" with
  | none => simp
  | some j =>
    cases j with
    | str kind => simp [Json.string?, List.isSuffixOf_iff_suffix]
    | _ => simp [Json.string?]

/-! ## One document -/

/-- One object is stored as it is. -/
theorem flatten_of_isSingle {doc : Json} (h : IsSingle doc) : flatten doc = [doc] := by
  obtain ⟨⟨entries, rfl⟩, hkind⟩ := h
  rw [flatten, if_neg (mt isListKind_iff.mp hkind)]

/-- What a list holds is found in the entries of the list. -/
theorem flattenItems_of_mem {entries : List (String × Json)} {items : List Json}
    (h : ∀ j, ("items", j) ∈ entries ↔ j = .arr items) :
    flattenItems entries = flattenAll items := by
  induction entries with
  | nil => exact absurd ((h (.arr items)).mpr rfl) List.not_mem_nil
  | cons e entries ih =>
    obtain ⟨key, j⟩ := e
    by_cases hkey : key = "items"
    · -- The first entry under `items` is taken, and it has the documents like any other.
      subst hkey
      obtain rfl := (h j).mp List.mem_cons_self
      rw [flattenItems, if_pos rfl]
    · -- An entry of another key does not count.
      have hrest (j' : Json) : ("items", j') ∈ entries ↔ j' = .arr items := by
        rw [← h j', List.mem_cons, Prod.mk.injEq]
        exact ⟨.inr, fun hmem => hmem.resolve_left fun heq => hkey heq.1.symm⟩
      have hskip : flattenItems ((key, j) :: entries) = flattenItems entries := by
        cases j <;> simp [flattenItems, hkey]
      rw [hskip, ih hrest]

/-- A list is stored as the documents that it holds. -/
theorem flatten_of_isListOf {list : Json} {items : List Json} (h : IsListOf list items) :
    flatten list = flattenAll items := by
  obtain ⟨hkind, entries, rfl, hitems⟩ := h
  rw [flatten, if_pos (isListKind_iff.mpr hkind), flattenItems_of_mem hitems]

mutual

/-- What is stored of a document are single objects. -/
theorem isSingle_of_mem_flatten : ∀ {doc : Json}, ∀ x ∈ flatten doc, IsSingle x
  | .obj entries => by
    rw [flatten]
    split
    · exact isSingle_of_mem_flattenItems
    · next hkind =>
      have hsingle : IsSingle (.obj entries) := ⟨⟨entries, rfl⟩, mt isListKind_iff.mpr hkind⟩
      exact List.forall_mem_singleton.mpr hsingle
  | .null | .bool _ | .int _ | .float _ | .str _ | .arr _ => List.forall_mem_nil _

/-- What is stored of the items of a list are single objects. -/
theorem isSingle_of_mem_flattenItems : ∀ {entries : List (String × Json)},
    ∀ x ∈ flattenItems entries, IsSingle x
  | [] => List.forall_mem_nil _
  | (key, j) :: rest => by
    cases j with
    | arr items =>
      rw [flattenItems]
      split
      · exact isSingle_of_mem_flattenAll
      · exact isSingle_of_mem_flattenItems
    | _ =>
      unfold flattenItems
      split
      · exact List.forall_mem_nil _
      · exact isSingle_of_mem_flattenItems

/-- What is stored of documents are single objects. -/
theorem isSingle_of_mem_flattenAll : ∀ {docs : List Json}, ∀ x ∈ flattenAll docs, IsSingle x
  | [] => List.forall_mem_nil _
  | doc :: docs => by
    rw [flattenAll]
    exact List.forall_mem_append.mpr ⟨isSingle_of_mem_flatten, isSingle_of_mem_flattenAll⟩

end

/-! ## Several documents -/

variable {docs xs ys : List Json}

/-- What is stored of documents is what is stored of each, in order. -/
theorem flattenAll_append (xs ys : List Json) :
    flattenAll (xs ++ ys) = flattenAll xs ++ flattenAll ys := by
  induction xs with
  | nil => rfl
  | cons doc xs ih => rw [List.cons_append, flattenAll, flattenAll, ih, List.append_assoc]

/-- Single objects are stored as they are. -/
theorem flattenAll_of_isSingle (h : ∀ doc ∈ docs, IsSingle doc) : flattenAll docs = docs := by
  induction docs with
  | nil => rfl
  | cons doc docs ih =>
    obtain ⟨hfirst, hrest⟩ := List.forall_mem_cons.mp h
    rw [flattenAll, flatten_of_isSingle hfirst, ih hrest, List.singleton_append]

/-- Wrapping some of the documents in a list stores the same. -/
theorem flattenAll_wrap {before inner after : List Json} {list : Json} (h : IsListOf list inner) :
    flattenAll (before ++ list :: after) = flattenAll (before ++ inner ++ after) := by
  rw [flattenAll_append, flattenAll_append, flattenAll_append, flattenAll, flatten_of_isListOf h,
    List.append_assoc]

/-- However documents are wrapped, the same is stored. -/
theorem flattenAll_of_wraps {wrapped : List Json} (h : Wraps docs wrapped) :
    flattenAll wrapped = flattenAll docs := by
  induction h with
  | refl => rfl
  | wrap _ hlist ih => rw [flattenAll_wrap hlist, ih]

/-- Storing documents loses and doubles nothing. Of two sequences the first is stored before the
second; wrapping documents in lists, to any depth, changes nothing; what is stored are objects that
are no lists, and every document of this kind is stored once, as it is and at its place; and what is
stored is stored again as the same. -/
theorem documents_lossless :
    let stored (docs : List Json) := (ofDocuments docs).documents
    (∀ xs ys, stored (xs ++ ys) = stored xs ++ stored ys) ∧
      (∀ docs wrapped, Wraps docs wrapped → stored wrapped = stored docs) ∧
      (∀ docs, ∀ doc ∈ stored docs, IsSingle doc) ∧
      (∀ xs doc ys, IsSingle doc → stored (xs ++ doc :: ys) = stored xs ++ doc :: stored ys) ∧
      ∀ docs, stored (stored docs) = stored docs := by
  refine ⟨flattenAll_append, fun docs wrapped h => flattenAll_of_wraps h,
    fun docs => isSingle_of_mem_flattenAll, fun xs doc ys hdoc => ?_, fun docs => ?_⟩
  · calc flattenAll (xs ++ doc :: ys)
        = flattenAll xs ++ (flatten doc ++ flattenAll ys) := by rw [flattenAll_append, flattenAll]
      _ = flattenAll xs ++ doc :: flattenAll ys := by
        rw [flatten_of_isSingle hdoc, List.singleton_append]
  · exact flattenAll_of_isSingle isSingle_of_mem_flattenAll

/-- A list of clusters in a list, between a number and an application. -/
theorem documents_lossless_nested :
    let named (kind name : String) : Json :=
      .obj [("kind", .str kind), ("metadata", .obj [("name", .str name)])]
    let listed (kind : String) (items : List Json) : Json :=
      .obj [("items", .arr items), ("kind", .str kind)]
    let web := named "Application" "web"
    let edge := named "Cluster" "edge"
    let batch := named "Application" "batch"
    let inner := listed "ClusterList" [edge]
    let outer := listed "List" [web, inner]
    Wraps [.int 7, web, edge, batch] [.int 7, outer, batch] ∧
      (ofDocuments [.int 7, outer, batch]).documents = [web, edge, batch] := by
  intro named listed web edge batch inner outer
  have hlisted (kind : String) (items : List Json) (hkind : "List".toList <:+ kind.toList) :
      IsListOf (listed kind items) items :=
    ⟨⟨kind, rfl, hkind⟩, _, rfl, by simp⟩
  have hinner : Wraps [.int 7, web, edge, batch] ([.int 7, web] ++ inner :: [batch]) := by
    have hstart : Wraps [.int 7, web, edge, batch] ([.int 7, web] ++ [edge] ++ [batch]) := .refl
    exact hstart.wrap (hlisted "ClusterList" _ (by decide))
  have hwraps : Wraps [.int 7, web, edge, batch] [.int 7, outer, batch] := by
    have hbefore : Wraps [.int 7, web, edge, batch] ([.int 7] ++ [web, inner] ++ [batch]) := hinner
    exact hbefore.wrap (hlisted "List" _ (by decide))
  have hstored : (ofDocuments [.int 7, outer, batch]).documents =
      (ofDocuments [.int 7, web, edge, batch]).documents := documents_lossless.2.1 _ _ hwraps
  refine ⟨hwraps, ?_⟩
  rw [hstored]
  decide +kernel

end FleetConsole.Snapshot
