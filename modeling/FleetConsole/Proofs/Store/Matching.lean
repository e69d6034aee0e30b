import FleetConsole.Proofs.Text.Separated
import FleetConsole.Service
import FleetConsole.Store.Snapshot

/-!
# The documents that match a request

A snapshot answers a listing with the documents that pass three filters. `RequestContext.Admits`
says what the filters come to for one document, and `Snapshot.list_listing` that a listing keeps
exactly the documents that the request admits.
-/

namespace FleetConsole

/-- An API version belongs to a group: it is the group, a slash and a version. A version alone
belongs to the core group, which has no name. -/
def InGroup (group apiVersion : String) : Prop :=
  (∃ version : String, apiVersion = group ++ "/" ++ version ∧ '/' ∉ version.toList) ∨
    group = "" ∧ '/' ∉ apiVersion.toList

/-- The group of an API version is the one that it belongs to. -/
theorem Coordinate.groupOf_eq_iff {group v : String} : groupOf v = group ↔ InGroup group v := by
  by_cases hv : '/' ∈ v.toList
  · -- The text is cut at its last slash, which no version has.
    obtain ⟨xs, ys, hrev, hxs⟩ := List.eq_append_cons_of_mem (List.mem_reverse.mpr hv)
    have hcut : v.toList = ys.reverse ++ '/' :: xs.reverse := by
      simpa using congrArg List.reverse hrev
    have hgroup : Coordinate.groupOf v = String.ofList ys.reverse := by
      simp only [Coordinate.groupOf, hrev, dropWhile_ne_append_cons hxs, List.drop_one,
        List.tail_cons]
    rw [hgroup]
    constructor
    · rintro rfl
      refine .inl ⟨String.ofList xs.reverse, String.toList_injective ?_, by simpa using hxs⟩
      simp [hcut]
    · rintro (⟨version, heq, hversion⟩ | ⟨-, hno⟩)
      · have hlist : v.toList = group.toList ++ '/' :: version.toList := by simp [heq]
        obtain ⟨hys, -⟩ := append_cons_inj_right (by simpa using hxs) hversion (hcut ▸ hlist)
        rw [hys, String.ofList_toList]
      · exact absurd hv hno
  · have hgroup : Coordinate.groupOf v = "" := by
      simp only [Coordinate.groupOf, dropWhile_ne_of_notMem (mt List.mem_reverse.mp hv)]
      rfl
    rw [hgroup]
    constructor
    · rintro rfl
      exact .inr ⟨rfl, hv⟩
    · rintro (⟨version, rfl, -⟩ | ⟨rfl, -⟩)
      · simp at hv
      · rfl

/-- A document is of a kind if it states the text of the kind; no kind has an empty text, which a
document without one would have. -/
theorem Json.kindText_eq_iff {doc : Json} {kind : Kind} :
    doc.kindText = kind.text ↔ doc.get? "kind" = some (.str kind.text) := by
  have hne : kind.text ≠ "" := by cases kind <;> decide
  simp only [Json.kindText, Json.stringAt, Json.stringAt?, Json.path?]
  cases doc.get? "kind" with
  | none => simpa using hne.symm
  | some j =>
    cases j with
    | str s => simp [Json.string?]
    | _ => simpa [Json.string?] using hne.symm

/-- A document matches a request for a collection: it states the kind of the collection; its API
version, if it is a text, belongs to the group; its namespace is in the scope of the request, unless
the kind has no namespaces; and its labels meet every requirement of the selector. -/
structure RequestContext.Admits (ctx : RequestContext) (c : Coordinate) (doc : Json) : Prop where
  kind : doc.get? "kind" = some (.str c.kind.text)
  group : ∀ v, doc.get? "apiVersion" = some (.str v) → InGroup c.api.group v
  scope : c.kind.isNamespaced → ∀ ns, ctx.scope = .only ns → doc.metadataNamespace = ns
  labels : ∀ r ∈ ctx.selector.requirements, r.isMet (Selector.labelsOf doc)

/-- A document belongs to a collection if its kind and its API group do. -/
theorem Coordinate.isOf_iff {c : Coordinate} {doc : Json} :
    c.isOf doc ↔ doc.get? "kind" = some (.str c.kind.text) ∧
      ∀ v, doc.get? "apiVersion" = some (.str v) → InGroup c.api.group v := by
  simp only [isOf, Bool.and_eq_true, decide_eq_true_eq, Json.kindText_eq_iff]
  refine and_congr_right fun _ => ?_
  simp only [Json.stringAt?, Json.path?]
  cases doc.get? "apiVersion" with
  | none => simp
  | some j =>
    cases j with
    | str s => simp [Json.string?, groupOf_eq_iff]
    | _ => simp [Json.string?]

/-- A scope covers every namespace, or the one that it names. -/
theorem Scope.covers_iff {scope : Scope} {ns : String} :
    scope.covers ns ↔ ∀ only, scope = .only only → ns = only := by
  cases scope with
  | all => simp [covers]
  | only own => simp [covers, eq_comm]

/-- The filters of a listing admit what the request admits. -/
theorem RequestContext.admits_iff {ctx : RequestContext} {c : Coordinate} {doc : Json} :
    ctx.Admits c doc ↔
      c.isOf doc ∧ (!c.kind.isNamespaced || ctx.scope.covers doc.metadataNamespace) ∧
        ctx.selector.selectsDocument doc := by
  simp only [Selector.selectsDocument, Selector.selects, List.all_eq_true]
  constructor
  · rintro ⟨hkind, hgroup, hscope, hlabels⟩
    refine ⟨Coordinate.isOf_iff.mpr ⟨hkind, hgroup⟩, ?_, hlabels⟩
    cases hns : c.kind.isNamespaced with
    | false => rfl
    | true => exact Scope.covers_iff.mpr (hscope hns)
  · rintro ⟨hof, hscope, hlabels⟩
    obtain ⟨hkind, hgroup⟩ := Coordinate.isOf_iff.mp hof
    refine ⟨hkind, hgroup, fun hns => ?_, hlabels⟩
    rw [hns] at hscope
    exact Scope.covers_iff.mp hscope

instance (ctx : RequestContext) (c : Coordinate) (doc : Json) : Decidable (ctx.Admits c doc) :=
  decidable_of_iff _ RequestContext.admits_iff.symm

namespace Snapshot

/-- A listing keeps the documents that the request admits, in the order of the snapshot. -/
theorem list_listing (snapshot : Snapshot) (s : Service) (kind : Kind) (ctx : RequestContext) :
    snapshot.list (s.listing kind ctx) =
      snapshot.documents.filter (ctx.Admits ⟨s.api, kind⟩ ·) := by
  simp only [list, collection, List.filter_filter]
  refine List.filter_congr fun doc _ => ?_
  rw [Bool.eq_iff_iff, decide_eq_true_iff, RequestContext.admits_iff]
  -- A listing of what has no namespace covers all of them anyway.
  cases hns : kind.isNamespaced <;> simp [Service.listing, hns, and_comm, and_assoc]

end Snapshot

end FleetConsole
