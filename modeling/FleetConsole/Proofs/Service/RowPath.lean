import FleetConsole.Proofs.Fleet.Name
import FleetConsole.Proofs.Service.Table
import Mathlib.Data.List.Nodup

/-!
# From a row back to its application

A row of the table of applications has an id, and a request with the id as its path is meant to be
about the application of the row. The id is read as a name, and the store answers with the first
application of that name. An id does not keep everything: a namespace that is empty or a dash is
read as none, and then the first application of the name in any namespace answers; a namespace with
a slash is cut. `Snapshot.row_path` says that the request is about the application of the row in all
other cases, and in none of these unless the application comes first.
-/

namespace FleetConsole

/-- The namespace and the name of a document. -/
def Json.identity (doc : Json) : String × String := (doc.metadataNamespace, doc.metadataName)

/-- Requests about a single application are answered about this one. -/
structure Service.AnswersAbout (s : Service) (board : Signals) (ctx : RequestContext)
    (app : Application) : Prop where
  application : s.application board ctx = .ok app
  manifests : s.manifests board ctx = .ok app.manifestViews
  status : s.applicationStatus board ctx = .ok app.clusterViews

/-- The id of a document's row leads back to the document: the namespace has no slash, and if it
stands for none, the document is the first of its name. -/
def LeadsBack (apps : List Json) (doc : Json) : Prop :=
  '/' ∉ doc.metadataNamespace.toList ∧
    (QualifiedName.IsSentinel doc.metadataNamespace →
      apps.find? (·.metadataName = doc.metadataName) = some doc)

instance (apps : List Json) (doc : Json) : Decidable (LeadsBack apps doc) :=
  inferInstanceAs (Decidable (_ ∧ (_ → _)))

/-- All answers about an application follow the one that is the application itself. -/
theorem Service.answersAbout_iff {s : Service} {board : Signals} {ctx : RequestContext}
    {app : Application} :
    s.AnswersAbout board ctx app ↔ s.application board ctx = .ok app := by
  refine ⟨AnswersAbout.application, fun h => ⟨h, ?_, ?_⟩⟩
  · simp [manifests, h, Except.map]
  · simp [applicationStatus, h, Except.map]

/-- An exact lookup finds the first document of its collection that has the name. -/
theorem Snapshot.get?_exact (snapshot : Snapshot) (c : Coordinate) (path : String)
    (selector : Selector) :
    snapshot.get? ⟨c, path, true, selector⟩ =
      (snapshot.collection c).find? (isNamed c (.ofText path)) := by
  simp [get?, List.find?_filter]

section Request

variable {snapshot : Snapshot} {api : ApiVersion} {width : Nat} {board : Signals}
  {ctx : RequestContext} {path : String}

/-- A request about an application is answered by the first application that has the name in the
path. -/
theorem Service.application_eq_ok_iff (hlive : ctx.isCancelled board = false)
    (hpath : ctx.path? = some path) {app : Application} :
    Service.application ⟨snapshot.store, api, width⟩ board ctx = .ok app ↔
      ∃ doc, (snapshot.collection ⟨api, .application⟩).find?
        (Snapshot.isNamed ⟨api, .application⟩ (.ofText path)) = some doc ∧
          FleetRecord.decode doc = .ok app := by
  simp only [application, lookup, RequestContext.requirePath, hpath, Except.map, bind_eq_ok_iff,
    Except.ok.injEq, exists_eq_left', RequestContext.run, hlive, Bool.false_eq_true, if_false,
    Snapshot.store, Snapshot.get?_exact]
  constructor
  · rintro ⟨doc, hget, hdecode⟩
    split at hget
    · next found hfound => exact ⟨doc, hfound ▸ congrArg some (Except.ok.inj hget), hdecode⟩
    · cases hget
  · rintro ⟨doc, hfind, hdecode⟩
    exact ⟨doc, by rw [hfind], hdecode⟩

end Request

/-- A lookup without a namespace asks for the name alone. -/
theorem Snapshot.isNamed_none (c : Coordinate) (name : String) (doc : Json) :
    isNamed c ⟨none, name⟩ doc = decide (doc.metadataName = name) := by
  simp [isNamed]

/-- A lookup with a namespace asks an application for both. -/
theorem Snapshot.isNamed_some (api : ApiVersion) (ns name : String) (doc : Json) :
    isNamed ⟨api, .application⟩ ⟨some ns, name⟩ doc = decide (doc.identity = (ns, name)) := by
  simp [isNamed, Kind.isNamespaced, Json.identity]

/-- Where no two applications share namespace and name, the first application that the id of a row
names is the document of the row if and only if the id leads back to it. -/
theorem Snapshot.find?_isNamed_iff {api : ApiVersion} {apps : List Json}
    (hunique : (apps.map Json.identity).Nodup) {doc : Json} (hdoc : doc ∈ apps) :
    apps.find? (isNamed ⟨api, .application⟩
        (.ofText (QualifiedName.text ⟨some doc.metadataNamespace, doc.metadataName⟩))) = some doc ↔
      LeadsBack apps doc := by
  by_cases hslash : '/' ∈ doc.metadataNamespace.toList
  · -- The name that is read back is longer than the name of the document.
    refine ⟨fun hfind => ?_, fun h => absurd hslash h.1⟩
    have hnamed := List.find?_some hfind
    simp only [Snapshot.isNamed, Bool.and_eq_true, decide_eq_true_eq] at hnamed
    have hlength := QualifiedName.length_name_ofText_text hslash doc.metadataName
    rw [← hnamed.2] at hlength
    omega
  · rw [QualifiedName.ofText_text hslash]
    by_cases hns : QualifiedName.IsSentinel doc.metadataNamespace
    · rw [if_pos hns]
      simp only [funext (Snapshot.isNamed_none _ _)]
      exact ⟨fun hfind => ⟨hslash, fun _ => hfind⟩, fun h => h.2 hns⟩
    · rw [if_neg hns]
      -- No other application has the same namespace and name.
      simp only [funext (Snapshot.isNamed_some api _ _)]
      refine ⟨fun _ => ⟨hslash, fun h => absurd h hns⟩, fun _ => ?_⟩
      show apps.find? (fun d => decide (d.identity = doc.identity)) = some doc
      cases hfind : apps.find? fun d => decide (d.identity = doc.identity) with
      | none => simpa using List.find?_eq_none.mp hfind doc hdoc
      | some found =>
        have hsame : found.identity = doc.identity := by simpa using List.find?_some hfind
        have hfound := List.mem_of_find?_eq_some hfind
        rw [List.inj_on_of_nodup_map hunique hfound hdoc hsame]

/-- A document that matches a request for applications belongs to the collection. -/
theorem Snapshot.mem_collection_of_mem_filter {snapshot : Snapshot} {c : Coordinate}
    {ctx : RequestContext} {doc : Json} (h : doc ∈ snapshot.documents.filter (ctx.Admits c ·)) :
    doc ∈ snapshot.collection c := by
  obtain ⟨hdoc, hadmits⟩ := List.mem_filter.mp h
  exact List.mem_filter.mpr ⟨hdoc, (RequestContext.admits_iff.mp (of_decide_eq_true hadmits)).1⟩

/-- An application has the namespace and the name of the document in which it is. -/
theorem Application.identity_of_decode {doc : Json} {app : Application}
    (h : FleetRecord.decode doc = .ok app) : doc.identity = (app.ns, app.name) :=
  Prod.ext (FleetRecord.ns_of_decode Application.hasMetadata h).symm
    (FleetRecord.name_of_decode Application.hasMetadata h).symm

/-- Let no two applications share namespace and name. Then a request whose path is the id of the row
of an application is answered about that application if and only if the id leads back. -/
theorem Service.answersAbout_row_iff {snapshot : Snapshot} {api : ApiVersion} {width : Nat}
    (hunique : ((snapshot.collection ⟨api, .application⟩).map Json.identity).Nodup)
    {doc : Json} (hdoc : doc ∈ snapshot.collection ⟨api, .application⟩) {app : Application}
    (hdecode : FleetRecord.decode doc = .ok app) {board : Signals} {ctx : RequestContext}
    (hlive : ctx.isCancelled board = false)
    (hpath : ctx.path? = some ((Layout.applications width).row app).id) :
    Service.AnswersAbout ⟨snapshot.store, api, width⟩ board ctx app ↔
      LeadsBack (snapshot.collection ⟨api, .application⟩) doc := by
  have hidentity := Application.identity_of_decode hdecode
  have hid : ((Layout.applications width).row app).id =
      QualifiedName.text ⟨some doc.metadataNamespace, doc.metadataName⟩ := by
    obtain ⟨hns, hname⟩ := Prod.mk.inj hidentity
    rw [hns, hname]
    rfl
  rw [answersAbout_iff, application_eq_ok_iff hlive hpath, hid,
    ← Snapshot.find?_isNamed_iff hunique hdoc]
  constructor
  · rintro ⟨found, hfind, hfound⟩
    -- A document that is decoded as the same application has the same namespace and name.
    have hsame : found.identity = doc.identity :=
      (Application.identity_of_decode hfound).trans hidentity.symm
    rw [hfind, List.inj_on_of_nodup_map hunique (List.mem_of_find?_eq_some hfind) hdoc hsame]
  · intro hfind
    exact ⟨doc, hfind, hdecode⟩

/-- A request that is answered with a table of applications was not cancelled. -/
theorem Service.live_of_table {s : Service} {board : Signals} {ctx : RequestContext} {table : Table}
    (h : s.table board ctx .applications = .ok table) : ctx.isCancelled board = false := by
  cases hcancel : ctx.isCancelled board with
  | false => rfl
  | true =>
    simp only [Service.table, Service.list, RequestContext.run, hcancel, if_true] at h
    obtain ⟨records, hrecords, -⟩ := map_eq_ok_iff.mp h
    cases hrecords

/-- Let no two applications of a snapshot share namespace and name. Then every row of a table of
applications shows a document, and the requests whose path is the id of the row are answered about
the application in that document if and only if the id leads back to the document. -/
theorem Snapshot.row_path (snapshot : Snapshot) (api : ApiVersion) (clustersWidth : Nat)
    (hunique : ((snapshot.collection ⟨api, .application⟩).map Json.identity).Nodup)
    (board : Signals) (ctx : RequestContext) (table : Table)
    (htable : Service.table ⟨snapshot.store, api, clustersWidth⟩ board ctx .applications =
      .ok table) :
    List.Forall₂
      (fun doc row => ∃ app : Application, FleetRecord.decode doc = .ok app ∧
        row = (Layout.applications clustersWidth).row app ∧
        ∀ board' ctx', ctx'.isCancelled board' = false → ctx'.path? = some row.id →
          (Service.AnswersAbout ⟨snapshot.store, api, clustersWidth⟩ board' ctx' app ↔
            LeadsBack (snapshot.collection ⟨api, .application⟩) doc))
      (snapshot.documents.filter (ctx.Admits ⟨api, .application⟩ ·)) table.rows := by
  let service : Service := ⟨snapshot.store, api, clustersWidth⟩
  have htab : Tabulated clustersWidth .application
      (snapshot.documents.filter (ctx.Admits ⟨api, .application⟩ ·)) (.ok table) :=
    htable ▸ service.tabulated_table (Service.live_of_table htable)
      (congrArg Except.ok (snapshot.list_listing service .application ctx))
  generalize hdocs : snapshot.documents.filter (ctx.Admits ⟨api, .application⟩ ·) = docs at htab
  have hmem (doc : Json) (hdoc : doc ∈ docs) : doc ∈ snapshot.collection ⟨api, .application⟩ :=
    mem_collection_of_mem_filter (hdocs ▸ hdoc)
  cases htab with
  | rows each =>
    refine ((List.forall₂_and_left _ _).mpr ⟨hmem, each⟩).imp ?_
    rintro doc row ⟨hdoc, hrow⟩
    obtain ⟨app, hdecode, rfl⟩ := map_eq_ok_iff.mp hrow
    exact ⟨app, hdecode, rfl, fun _ _ hlive hpath =>
      Service.answersAbout_row_iff hunique hdoc hdecode hlive hpath⟩

/-- A request with the id of a row as its path has that path. -/
theorem RequestContext.path?_withPath_text (ctx : RequestContext) (name : QualifiedName) :
    (ctx.withPath name.text).path? = some name.text := by
  have hne : name.text ≠ "" := by
    intro h
    obtain ⟨ns, n⟩ := name
    have hlist := congrArg String.toList h
    cases ns with
    | none => simp [QualifiedName.text] at hlist
    | some ns => simp [QualifiedName.toList_text] at hlist
  simp [path?, withPath, withValue, value?, hne]

/-- The document of an application that has nothing but a name and, if it is given, a namespace. -/
def bareApplication (ns : Option String) (name : String) : Json :=
  .obj [("kind", .str "Application"),
    ("metadata", .obj (("name", .str name) :: ns.toList.map fun ns => ("namespace", .str ns)))]

/-- An application without namespace is found by its id if it comes first. -/
theorem Snapshot.row_path_first :
    let docs := [bareApplication none "web", bareApplication (some "shop") "web"]
    let snapshot : Snapshot := ⟨"fleet.yaml", docs⟩
    let service : Service := { store := snapshot.store }
    ((snapshot.collection ⟨.standard, .application⟩).map Json.identity).Nodup ∧
      ∃ table, service.table {} {} .applications = .ok table ∧
        List.Forall₂
          (fun doc row => ∃ app : Application, FleetRecord.decode doc = .ok app ∧
            service.AnswersAbout {} (RequestContext.withPath {} row.id) app)
          docs table.rows := by
  intro docs snapshot service
  have hunique : ((snapshot.collection ⟨.standard, .application⟩).map Json.identity).Nodup := by
    decide +kernel
  have hback : ∀ doc ∈ docs, LeadsBack (snapshot.collection ⟨.standard, .application⟩) doc := by
    decide +kernel
  have hmatching : snapshot.documents.filter
      (RequestContext.Admits {} ⟨.standard, .application⟩ ·) = docs := by
    decide +kernel
  have hok : (service.table {} {} .applications).isOk = true := by
    decide +kernel
  cases htable : service.table {} {} .applications with
  | error e =>
    rw [htable] at hok
    cases hok
  | ok table =>
    have hrows := snapshot.row_path .standard Layout.defaultClustersWidth hunique {} {} table htable
    rw [hmatching] at hrows
    refine ⟨hunique, table, rfl, ((List.forall₂_and_left _ _).mpr ⟨hback, hrows⟩).imp ?_⟩
    rintro doc row ⟨hdoc, app, hdecode, rfl, hiff⟩
    refine ⟨app, hdecode, (hiff {} _ rfl ?_).mpr hdoc⟩
    exact RequestContext.path?_withPath_text {} ⟨some app.ns, app.name⟩

/-- Ids that do not lead back, although no two applications share namespace and name: those of the
applications without namespace and in the namespace `-` are about `shop/web`, which comes first, and
that of the application `c` in the namespace `a/b` is about none. -/
theorem Snapshot.row_path_astray :
    let docs := [bareApplication (some "shop") "web", bareApplication none "web",
      bareApplication (some "-") "web", bareApplication (some "a/b") "c"]
    let snapshot : Snapshot := ⟨"fleet.yaml", docs⟩
    let service : Service := { store := snapshot.store }
    let about (path : String) := service.application {} (RequestContext.withPath {} path)
    ((snapshot.collection ⟨.standard, .application⟩).map Json.identity).Nodup ∧
      (service.table {} {} .applications).map (·.rows.map (·.id)) =
        .ok ["shop/web", "-/web", "-/web", "a/b/c"] ∧
      (about "-/web").map (·.ns) = .ok "shop" ∧
      (about "a/b/c").map (·.ns) =
        .error (.notFound "apis.clusterfleet.io/v1alpha1/applications" "a/b/c") := by
  decide +kernel

end FleetConsole
