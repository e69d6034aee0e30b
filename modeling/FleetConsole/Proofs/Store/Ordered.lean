import FleetConsole.Hub.Store
import FleetConsole.Proofs.Fleet.Lawful
import FleetConsole.Proofs.Json.Reader
import FleetConsole.Proofs.Yaml.Tree
import FleetConsole.Store.Snapshot

/-!
# Stores answer with ordered documents

Documents come from a snapshot or from the hub. A snapshot takes lists apart and leaves the objects
in them as they are; the hub types the metadata of an object and puts its entries together again.
Either way what a store answers is ordered (`Snapshot.answersOrdered`, `Hub.answersOrdered`), and so
is all that the round trip through a record starts from (`Kind.decode_encode`).
-/

namespace FleetConsole

namespace Store

variable {p q : Json → Prop} {s : Store}

/-- A store answers only with documents of some sort. -/
structure AnswersWith (p : Json → Prop) (s : Store) : Prop where
  get : ∀ l doc, s.get l = .ok doc → p doc
  list : ∀ l docs, s.list l = .ok docs → ∀ doc ∈ docs, p doc

/-- A sort of documents may be part of another one. -/
theorem AnswersWith.imp (h : s.AnswersWith p) (hpq : ∀ doc, p doc → q doc) : s.AnswersWith q where
  get l doc hget := hpq doc (h.get l doc hget)
  list l docs hlist doc hdoc := hpq doc (h.list l docs hlist doc hdoc)

end Store

namespace Snapshot

mutual

/-- The objects of an ordered document are ordered. -/
theorem isOrdered_of_mem_flatten : ∀ {doc : Json}, doc.isOrdered →
    ∀ x ∈ flatten doc, x.isOrdered
  | .obj entries, h => by
    rw [flatten]
    split
    · exact isOrdered_of_mem_flattenItems (Json.isOrdered_obj.mp h).2
    · exact List.forall_mem_singleton.mpr h
  | .null, _ | .bool _, _ | .int _, _ | .float _, _ | .str _, _ | .arr _, _ => nofun

/-- The objects in the items of a list are ordered if the list's entries are. -/
theorem isOrdered_of_mem_flattenItems : ∀ {es : List (String × Json)},
    (∀ e ∈ es, e.2.isOrdered) → ∀ x ∈ flattenItems es, x.isOrdered
  | [], _ => nofun
  | (key, j) :: rest, h => by
    obtain ⟨hfirst, hrest⟩ := List.forall_mem_cons.mp h
    cases j with
    | arr items =>
      rw [flattenItems]
      split
      · exact isOrdered_of_mem_flattenAll (Json.isOrdered_arr.mp hfirst)
      · exact isOrdered_of_mem_flattenItems hrest
    | _ =>
      unfold flattenItems
      split
      · exact nofun
      · exact isOrdered_of_mem_flattenItems hrest

/-- The objects of ordered documents are ordered. -/
theorem isOrdered_of_mem_flattenAll : ∀ {docs : List Json},
    (∀ doc ∈ docs, doc.isOrdered) → ∀ x ∈ flattenAll docs, x.isOrdered
  | [], _ => nofun
  | doc :: docs, h => by
    obtain ⟨hfirst, hrest⟩ := List.forall_mem_cons.mp h
    rw [flattenAll]
    exact List.forall_mem_append.mpr
      ⟨isOrdered_of_mem_flatten hfirst, isOrdered_of_mem_flattenAll hrest⟩

end

/-- A snapshot of a text answers with ordered documents. -/
theorem answersOrdered {text origin : String} {s : Snapshot} (h : ofText text origin = .ok s) :
    s.store.AnswersWith fun doc => doc.isOrdered := by
  have hdocuments : ∀ doc ∈ s.documents, doc.isOrdered := by
    unfold ofText at h
    split at h
    · next docs hdocs =>
      cases h
      exact isOrdered_of_mem_flattenAll (Yaml.isOrdered_of_trees? hdocs)
    · cases h
  constructor
  · intro l doc hget
    simp only [store] at hget
    split at hget
    · next found hfound =>
      cases hget
      have hmem := List.mem_of_find?_eq_some hfound
      exact hdocuments _ (List.mem_of_mem_filter (List.mem_of_mem_filter hmem))
    · cases hget
  · rintro l docs hlist doc hdoc
    cases hlist
    have hmem := List.mem_of_mem_filter (List.mem_of_mem_filter hdoc)
    exact hdocuments _ (List.mem_of_mem_filter hmem)

end Snapshot

namespace Hub

/-- The document of a response is ordered. -/
theorem Response.isOrdered_of_document {r : Response} {doc : Json} (h : r.document = .ok doc) :
    doc.isOrdered := by
  dsimp only [document] at h
  split at h
  · cases h
  · split at h
    · next found hbody =>
      obtain rfl := Except.ok.inj h
      exact Json.isOrdered_of_ofText? hbody
    · cases h

/-- What the server answers a query with is ordered. -/
theorem isOrdered_of_fetch {h : Hub} {q : Query} {doc : Json} (hfetch : h.fetch q = .ok doc) :
    doc.isOrdered := by
  unfold fetch at hfetch
  split at hfetch
  · exact Response.isOrdered_of_document hfetch
  · cases hfetch

/-- The values of the entries that name a type are ordered, if those of the object are. -/
theorem isOrdered_of_mem_typeEntries {o : Json} (ho : o.isOrdered) :
    ∀ e ∈ typeEntries o, e.2.isOrdered := by
  unfold typeEntries
  split
  · simp [Json.isOrdered]
  · exact List.forall_mem_nil _
  · exact List.forall_mem_nil _
  · cases hkind : o.get? "kind" with
    | none => exact List.forall_mem_nil _
    | some kind => exact List.forall_mem_singleton.mpr (Json.isOrdered_of_get? ho hkind)

/-- An object of an ordered document is ordered with its metadata typed. -/
theorem isOrdered_of_object {c : Coordinate} {j doc : Json} (hj : j.isOrdered)
    (h : object c j = .ok doc) : doc.isOrdered := by
  cases j with
  | obj entries =>
    dsimp -zeta only [object] at h
    extract_lets o types default rest withMetadata at h
    -- However the metadata is read, it is written in order, and all else is ordered anyway.
    have hwith (metadata) (hreads : Metadata.record.codec.Reads metadata)
        (hdoc : withMetadata metadata = .ok doc) : doc.isOrdered := by
      obtain rfl := Except.ok.inj hdoc
      have hrest : ∀ e ∈ rest, e.2.isOrdered := fun e he =>
        (Json.isOrdered_obj.mp hj).2 e (List.mem_of_mem_filter he)
      have hdefault (key value : String) : ∀ e ∈ default key value, e.2.isOrdered := by
        dsimp only [default]
        split
        · exact nofun
        · exact List.forall_mem_singleton.mpr rfl
      refine Json.ofEntries_isOrdered ?_
      simp only [List.forall_mem_append, List.forall_mem_cons]
      exact ⟨⟨⟨hrest, Metadata.lawful.ordered metadata hreads, isOrdered_of_mem_typeEntries hj⟩,
        hdefault _ _⟩, hdefault _ _⟩
    split at h
    · exact hwith {} (Codec.reads_blank _) h
    · next m hm =>
      obtain ⟨metadata, hmetadata, hdoc⟩ := bind_eq_ok_iff.mp h
      have hread := mapError_eq_ok_iff.mp hmetadata
      exact hwith metadata ⟨m, Json.isOrdered_of_get? hj hm, hread⟩ hdoc
  | _ => cases h

/-- The objects of an ordered list are ordered. -/
theorem isOrdered_of_objects {c : Coordinate} {j : Json} {docs : List Json} (hj : j.isOrdered)
    (h : objects c j = .ok docs) : ∀ doc ∈ docs, doc.isOrdered := by
  cases j with
  | obj entries =>
    dsimp -zeta only [objects] at h
    extract_lets list withItems at h
    -- The metadata of a list decides only whether there is an answer.
    have hwith (hdocs : withItems () = .ok docs) : ∀ doc ∈ docs, doc.isOrdered := by
      dsimp only [withItems] at hdocs
      split at hdocs
      · next items hget =>
        have hordered := Json.isOrdered_arr.mp (Json.isOrdered_of_get? hj hget)
        intro doc hdoc
        obtain ⟨item, hitem, hobject⟩ := exists_of_forall₂ (mapM_eq_ok_iff.mp hdocs) hdoc
        exact isOrdered_of_object (hordered item hitem) hobject
      · cases hdocs
        exact nofun
      · cases hdocs
    split at h
    · cases h
    · exact hwith h
  | _ => cases h

/-- The hub answers with ordered documents. -/
theorem answersOrdered (h : Hub) : h.store.AnswersWith fun doc => doc.isOrdered := by
  constructor
  · intro l doc hget
    simp only [store, get] at hget
    split at hget
    · split at hget
      · next hobject =>
        cases hget
        obtain ⟨j, hfetch, hj⟩ := bind_eq_ok_iff.mp hobject
        exact isOrdered_of_object (isOrdered_of_fetch hfetch) hj
      all_goals cases hget
    · split at hget
      · next docs hobjects =>
        obtain ⟨j, hfetch, hj⟩ := bind_eq_ok_iff.mp hobjects
        split at hget
        · next hfind =>
          cases hget
          exact isOrdered_of_objects (isOrdered_of_fetch hfetch) hj _
            (List.mem_of_find?_eq_some hfind)
        · cases hget
      · cases hget
  · intro l docs hlist
    dsimp only [store, list] at hlist
    obtain ⟨j, hfetch, hj⟩ := bind_eq_ok_iff.mp (mapError_eq_ok_iff.mp hlist)
    exact isOrdered_of_objects (isOrdered_of_fetch hfetch) hj

end Hub

end FleetConsole
