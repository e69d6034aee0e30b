import FleetConsole.Proofs.Hub.Object
import FleetConsole.Proofs.Service.Call

/-!
# The hub in the place of another store

Documents reach a table on two ways: as they were exported, or as objects of the hub, whose metadata
is typed and whose type is filled in. `Service.table_mirrored` says that the way does not show. If
the hub sends for the query of a view just the documents that another store answers with, and these
make a table, then the hub's make the same table.
-/

namespace FleetConsole

open FleetRecord (decode)

/-! ## What tables show of records -/

/-- A fraction of a second does not show in a creation time. -/
theorem Metadata.creationTime_wholeSeconds (m : Metadata) :
    m.wholeSeconds.creationTime = m.creationTime := by
  unfold creationTime wholeSeconds
  cases m.creation with
  | none => rfl
  | some t =>
    simp only [Option.map_some, Option.bind_some, Instant.wholeText_wholeSecond]

namespace Layout

/-- Records with the same rows make the same table. -/
theorem table_congr {σ : Type} {R : σ → σ → Prop} {l : Layout σ}
    (hrow : ∀ s s', R s s' → l.row s' = l.row s) {records records' : List σ}
    (h : List.Forall₂ R records records') : l.table records' = l.table records := by
  have hrows : records'.map l.row = records.map l.row := by
    induction h with
    | nil => rfl
    | cons hhead _ ih => rw [List.map_cons, List.map_cons, hrow _ _ hhead, ih]
  rw [table, table, hrows]

/-- Applications that tell the same have the same row. -/
theorem row_applications (width : Nat) (a a' : Application) (h : Kind.application.Alike a a') :
    (applications width).row a' = (applications width).row a := by
  have hmetadata : a'.metadata = a.metadata.wholeSeconds := h.metadata
  have hstatus : a'.status = a.status := h.status
  simp only [applications, Application.ns, Application.name, Application.clusterNames, hmetadata,
    hstatus, Metadata.creationTime_wholeSeconds]
  rfl

/-- Clusters that tell the same have the same row. -/
theorem row_clusters (c c' : Cluster) (h : Kind.cluster.Alike c c') :
    clusters.row c' = clusters.row c := by
  have hmetadata : c'.metadata = c.metadata.wholeSeconds := h.metadata
  have hstatus : c'.status = c.status := h.status
  simp only [clusters, Cluster.name, Cluster.stepStatus?, Cluster.state?, hmetadata, hstatus,
    Metadata.creationTime_wholeSeconds]
  rfl

/-- Manifest works that tell the same have the same row. -/
theorem row_manifestWorks (w w' : ManifestWork) (h : Kind.manifestWork.Alike w w') :
    manifestWorks.row w' = manifestWorks.row w := by
  have hmetadata : w'.metadata = w.metadata.wholeSeconds := h.metadata
  have hstatus : w'.status = w.status := h.status
  simp only [manifestWorks, ManifestWork.ns, ManifestWork.name, ManifestWork.healthyFraction,
    hmetadata, hstatus, Metadata.creationTime_wholeSeconds]
  rfl

end Layout

/-- Applications that tell the same have the same manifests. -/
theorem Application.manifestViews_alike {a a' : Application} (h : Kind.application.Alike a a') :
    a'.manifestViews = a.manifestViews := by
  have hspec : a'.spec = a.spec := h.spec
  have hstatus : a'.status = a.status := h.status
  rw [manifestViews, manifestViews, hspec, hstatus]

/-- Applications that tell the same have the same clusters. -/
theorem Application.clusterViews_alike {a a' : Application} (h : Kind.application.Alike a a') :
    a'.clusterViews = a.clusterViews := by
  have hstatus : a'.status = a.status := h.status
  rw [clusterViews, clusterViews, hstatus]

/-- Where two lists of records tell the same, a function of the first record has the same value, if
it has the same value on records that tell the same. -/
theorem map_headD_alike {β : Type} {f : Application → β} {records records' : List Application}
    (hf : ∀ a a', Kind.application.Alike a a' → f a' = f a)
    (h : List.Forall₂ Kind.application.Alike records records') :
    f (records'.headD {}) = f (records.headD {}) := by
  cases h with
  | nil => rfl
  | cons hhead _ => exact hf _ _ hhead

/-- Records that tell the same make the same table. -/
theorem Call.ofRecords_table (width : Nat) (view : View)
    {records records' : List view.kind.Resource}
    (h : List.Forall₂ view.kind.Alike records records') :
    (Call.table view).ofRecords width records' = (Call.table view).ofRecords width records := by
  cases view with
  | applications => exact Layout.table_congr (Layout.row_applications width) h
  | applicationStatus =>
    exact congrArg Layout.clusterViews.table
      (map_headD_alike (fun _ _ => Application.clusterViews_alike) h)
  | manifests =>
    exact congrArg Layout.manifestViews.table
      (map_headD_alike (fun _ _ => Application.manifestViews_alike) h)
  | clusters => exact Layout.table_congr Layout.row_clusters h
  | manifestWorks => exact Layout.table_congr Layout.row_manifestWorks h

/-! ## What the hub sends -/

/-- A query of a service is about a collection: it lists it, or looks for one object by its name. -/
def Query.IsAbout (c : Coordinate) : Query → Prop
  | .get l => l.coordinate = c ∧ l.exact
  | .list l => l.coordinate = c

namespace Hub

/-- A body is a list of some items: it has them under `items`, and its own metadata, if there is
any, is that of a list. -/
structure IsList (body : Json) (items : List Json) : Prop where
  items : body.get? "items" = some (.arr items)
  metadata : ∀ j, body.get? "metadata" = some j → ∃ m, ListMetadata.record.read j = .ok m

/-- What the hub sends for a query is what a store answers with: the document that is looked up by
its name, or a list of the documents in their order. -/
def Mirrors (h : Hub) (s : Store) : Query → Prop
  | .get l => ∀ doc, s.get l = .ok doc → ∃ item, h.fetch (.get l) = .ok item ∧ ItemOf item doc
  | .list l => ∀ docs, s.list l = .ok docs → ∃ body items, h.fetch (.list l) = .ok body ∧
      IsList body items ∧ List.Forall₂ ItemOf items docs

variable {c : Coordinate}

/-- The objects of a list are those of its items. -/
theorem objects_of_isList {body : Json} {items : List Json} (h : IsList body items) :
    objects c body = items.mapM (object c) := by
  cases body with
  | obj entries =>
    dsimp only [objects]
    cases hmetadata : (Json.obj entries).get? "metadata" with
    | none =>
      simp only [Option.map_none, h.items]
    | some j =>
      obtain ⟨m, hm⟩ := h.metadata j hmetadata
      simp only [Option.map_some, hm, h.items]
  | _ => cases h.items

/-- An item that is sent for a document that can be decoded is decoded as a record that tells the
same. -/
theorem exists_object_alike {k : Kind} (api : ApiVersion) {item doc : Json} (h : ItemOf item doc)
    (hitem : item.isOrdered) {s : k.Resource} (hdecode : decode doc = .ok s) :
    ∃ doc' s', object ⟨api, k⟩ item = .ok doc' ∧ (decode doc' : Except _ k.Resource) = .ok s' ∧
      k.Alike s s' := by
  obtain ⟨j, m, hj, hm⟩ := k.exists_metadata hdecode
  obtain ⟨doc', hobject, hretyped⟩ :=
    object_of_itemOf (c := ⟨api, k⟩) h hitem (k.kind_of_decode hdecode) hj hm
  obtain ⟨s', hdecode', halike⟩ := k.decode_alike hretyped hdecode
  exact ⟨doc', s', hobject, hdecode', halike⟩

/-- Items that are sent for documents that can be decoded are decoded as records that tell the same.
-/
theorem exists_objects_alike {k : Kind} (api : ApiVersion) {items docs : List Json}
    (h : List.Forall₂ ItemOf items docs) (hitems : ∀ item ∈ items, item.isOrdered)
    {records : List k.Resource}
    (hdecode : List.Forall₂ (fun doc s => decode doc = .ok s) docs records) :
    ∃ docs' records', items.mapM (object ⟨api, k⟩) = .ok docs' ∧
      (FleetRecord.decodeAll docs' : Except _ (List k.Resource)) = .ok records' ∧
      List.Forall₂ k.Alike records records' := by
  simp only [FleetRecord.decodeAll, mapM_eq_ok_iff]
  induction h generalizing records with
  | nil =>
    cases hdecode
    exact ⟨[], [], .nil, .nil, .nil⟩
  | cons hhead _ ih =>
    cases hdecode with
    | cons hfirst hrest =>
      obtain ⟨hitem, hitems⟩ := List.forall_mem_cons.mp hitems
      obtain ⟨doc', s', hobject, hdecode', halike⟩ := exists_object_alike api hhead hitem hfirst
      obtain ⟨docs', records', hobjects, hdecodes', halikes⟩ := ih hitems hrest
      exact ⟨doc' :: docs', s' :: records', .cons hobject hobjects, .cons hdecode' hdecodes',
        .cons halike halikes⟩

/-- An object that is looked up by its name is the one that the hub sends. -/
theorem get_eq_ok {h : Hub} {l : Lookup} {item doc' : Json} (hexact : l.exact)
    (hfetch : h.fetch (.get l) = .ok item) (hobject : object l.coordinate item = .ok doc') :
    h.get l = .ok doc' := by
  unfold get
  have hresponse : (h.fetch (.get l)).bind (object l.coordinate) = .ok doc' := by
    rw [hfetch]
    exact hobject
  simp only [hexact, hresponse, if_true]

/-- The objects of a collection are those that the hub sends. -/
theorem list_eq_ok {h : Hub} {l : Listing} {body : Json} {items docs' : List Json}
    (hfetch : h.fetch (.list l) = .ok body) (hlist : IsList body items)
    (hobjects : items.mapM (object l.coordinate) = .ok docs') : h.list l = .ok docs' := by
  rw [list, mapError_eq_ok_iff, hfetch]
  show objects l.coordinate body = _
  rw [objects_of_isList hlist, hobjects]

/-- What the hub answers a query with, if it sends the documents of another store and these can be
decoded. -/
theorem answer_of_mirrors {h : Hub} {s : Store} {k : Kind} {api : ApiVersion} {q : Query}
    (hmirrors : h.Mirrors s q) (hquery : q.IsAbout ⟨api, k⟩) {docs : List Json}
    (hdocs : s.answer q = .ok docs) {records : List k.Resource}
    (hdecode : FleetRecord.decodeAll docs = .ok records) :
    ∃ docs' records', h.store.answer q = .ok docs' ∧
      (FleetRecord.decodeAll docs' : Except _ (List k.Resource)) = .ok records' ∧
      List.Forall₂ k.Alike records records' := by
  have heach := mapM_eq_ok_iff.mp hdecode
  cases q with
  | get l =>
    obtain ⟨hcoordinate, hexact⟩ := hquery
    obtain ⟨doc, hdoc, rfl⟩ := map_eq_ok_iff.mp hdocs
    obtain ⟨item, hfetch, hitem⟩ := hmirrors doc hdoc
    obtain ⟨record, _, hfirst, hnil, rfl⟩ := List.forall₂_cons_left_iff.mp heach
    obtain rfl := List.forall₂_nil_left_iff.mp hnil
    obtain ⟨doc', record', hobject, hdecode', halike⟩ :=
      exists_object_alike api hitem (isOrdered_of_fetch hfetch) hfirst
    rw [← hcoordinate] at hobject
    have hget : h.get l = .ok doc' := get_eq_ok hexact hfetch hobject
    exact ⟨[doc'], [record'], map_eq_ok_iff.mpr ⟨doc', hget, rfl⟩,
      mapM_eq_ok_iff.mpr (.cons hdecode' .nil), .cons halike .nil⟩
  | list l =>
    have hcoordinate : l.coordinate = ⟨api, k⟩ := hquery
    obtain ⟨body, items, hfetch, hlist, hitems⟩ := hmirrors docs hdocs
    have hbody : body.isOrdered := isOrdered_of_fetch hfetch
    have hordered : ∀ item ∈ items, item.isOrdered :=
      Json.isOrdered_arr.mp (Json.isOrdered_of_get? hbody hlist.items)
    obtain ⟨docs', records', hobjects, hdecode', halike⟩ :=
      exists_objects_alike api hitems hordered heach
    rw [← hcoordinate] at hobjects
    refine ⟨docs', records', ?_, hdecode', halike⟩
    simp only [Store.answer, store, list_eq_ok hfetch hlist hobjects]

end Hub

/-! ## Tables -/

namespace Call

variable {α : Type}

/-- A call that needs a path is about an application. -/
theorem kind_of_needsPath {call : Call α} (h : call.needsPath) : call.kind = .application := by
  cases call with
  | records kind => cases h
  | table view =>
    cases view with
    | manifests | applicationStatus => rfl
    | _ => cases h
  | _ => rfl

end Call

namespace Service

variable {α : Type} {s : Service} {board : Signals} {ctx : RequestContext}

/-- The query of a call is about the collection of its kind. -/
theorem isAbout_of_query {call : Call α} {q : Query} (h : s.query ctx call = .ok q) :
    q.IsAbout ⟨s.api, call.kind⟩ := by
  unfold query at h
  by_cases hneeds : call.needsPath
  · rw [if_pos hneeds, map_eq_ok_iff] at h
    obtain ⟨l, hlookup, rfl⟩ := h
    obtain ⟨path, -, rfl⟩ := map_eq_ok_iff.mp hlookup
    rw [Call.kind_of_needsPath hneeds]
    exact ⟨rfl, rfl⟩
  · rw [if_neg hneeds] at h
    cases h
    rfl

/-- Let a view be answered with a table over some store, such as the store of a snapshot, and let
the hub send for the query of the view what that store answers it with: the same documents in the
same order, each with its type or without. Then the view is answered with the same table over the
hub. What the hub changes of a document, its type, fractions of seconds and what is no field of
metadata, does not show. -/
theorem table_mirrored (s : Service) (board : Signals) (ctx : RequestContext) (view : View)
    (hub : Hub) (hmirrors : ∀ q, s.viewQuery ctx view = .ok q → hub.Mirrors s.store q)
    (table : Table) (htable : s.table board ctx view = .ok table) :
    Service.table { s with store := hub.store } board ctx view = .ok table := by
  let live : Service := { s with store := hub.store }
  have hanswer : s.answer board ctx (.table view) = .ok table := htable
  rw [answer_eq, map_eq_ok_iff] at hanswer
  obtain ⟨records, hrecords, rfl⟩ := hanswer
  obtain ⟨q, hq, hrest⟩ := bind_eq_ok_iff.mp hrecords
  obtain ⟨docs, hrun, hdecode⟩ := bind_eq_ok_iff.mp hrest
  -- A request that is answered is not cancelled, so both stores are asked.
  obtain ⟨hlive, hdocs⟩ := RequestContext.run_eq_ok_iff.mp hrun
  have hview : s.viewQuery ctx view = .ok q := (query_table view).symm.trans hq
  obtain ⟨docs', records', hdocs', hdecode', halike⟩ :=
    Hub.answer_of_mirrors (hmirrors q hview) (isAbout_of_query hq) hdocs hdecode
  have hrecords' : live.recordsOf board ctx (.table view) = .ok records' := by
    have hrun' : ctx.run board (hub.store.answer q) = .ok docs' :=
      RequestContext.run_eq_ok_iff.mpr ⟨hlive, hdocs'⟩
    exact bind_eq_ok_iff.mpr ⟨q, hq, bind_eq_ok_iff.mpr ⟨docs', hrun', hdecode'⟩⟩
  show live.answer board ctx (.table view) = _
  rw [answer_eq, hrecords']
  exact congrArg Except.ok (Call.ofRecords_table s.clustersWidth view halike)

/-- An application that was created in the middle of a second, and has a note that is no field of
metadata, is sent without its type. -/
theorem table_mirrored_untyped :
    let metadata : Json := .obj
      [("creationTimestamp", .str "2024-05-01T10:00:00.5Z"), ("name", .str "web"),
       ("namespace", .str "shop"), ("note", .int 1)]
    let doc : Json := .obj [("kind", .str "Application"), ("metadata", metadata)]
    let s : Service := { store := Snapshot.store ⟨"fleet.yaml", [doc]⟩ }
    let body := "\x7b\"items\":[\x7b\"metadata\":\x7b\"name\":\"web\",\"namespace\":\"shop\"," ++
      "\"creationTimestamp\":\"2024-05-01T10:00:00.5Z\",\"note\":1\x7d\x7d]\x7d"
    let hub : Hub := ⟨"fleet", fun _ => some ⟨200, body⟩⟩
    (∀ q, s.viewQuery {} .applications = .ok q → hub.Mirrors s.store q) ∧
      ∃ table : Table, s.table {} {} .applications = .ok table ∧
        Service.table { s with store := hub.store } {} {} .applications = .ok table ∧
        table.rows.map (·.id) = ["shop/web"] := by
  intro metadata doc s body hub
  have hmirrors : ∀ q, s.viewQuery {} .applications = .ok q → hub.Mirrors s.store q := by
    intro q hq
    obtain rfl := Except.ok.inj hq
    intro docs hdocs
    have hlisted : s.store.list ⟨⟨.standard, .application⟩, .all, .everything⟩ = .ok [doc] := by
      decide +kernel
    obtain rfl : [doc] = docs := Except.ok.inj (hlisted.symm.trans hdocs)
    let item : Json := .obj [("metadata", metadata)]
    refine ⟨.obj [("items", .arr [item])], [item], by decide +kernel, ⟨rfl, nofun⟩, .cons ?_ .nil⟩
    refine ⟨rfl, .inl (by decide), fun key hkey => ?_⟩
    have hne : key ≠ "kind" := fun heq => hkey (heq ▸ by decide)
    simp [item, doc, Json.get?, lookup_cons_if, hne]
  have hids : (s.table {} {} .applications).map (·.rows.map (·.id)) = .ok ["shop/web"] := by
    decide +kernel
  obtain ⟨table, htable, hids⟩ := map_eq_ok_iff.mp hids
  exact ⟨hmirrors, table, htable, table_mirrored s {} {} .applications hub hmirrors table htable,
    hids⟩

end Service

end FleetConsole
