import FleetConsole.Proofs.Fleet.Decode
import FleetConsole.Proofs.Store.Matching

/-!
# Tables of a snapshot

The table of a kind has one row for every document that matches the request, in the order of the
snapshot, or it fails as a whole with the error of the first of them that cannot be decoded
(`Snapshot.table_answers`). Documents that do not match have no part in the answer, however they are
formed.
-/

namespace FleetConsole

/-- The view that lists the records of a kind. -/
def Kind.view : Kind → View
  | application => .applications
  | cluster => .clusters
  | manifestWork => .manifestWorks

namespace Layout

/-- The columns of the table of a kind. -/
def headerOf : Kind → List Column
  | .application => (applications defaultClustersWidth).header
  | .cluster => clusters.header
  | .manifestWork => manifestWorks.header

/-- The row of a document in the table of a kind, or the error that it cannot be decoded. -/
def rowOf (clustersWidth : Nat) (kind : Kind) (doc : Json) : Except FleetError Row :=
  match kind with
  | .application => (FleetRecord.decode doc).map (applications clustersWidth).row
  | .cluster => (FleetRecord.decode doc).map clusters.row
  | .manifestWork => (FleetRecord.decode doc).map manifestWorks.row

/-- The first cell of a row shows the namespace of the document, if the kind has namespaces. -/
theorem head?_of_rowOf {width : Nat} {kind : Kind} {doc : Json} {row : Row}
    (hns : kind.isNamespaced) (h : rowOf width kind doc = .ok row) :
    row.cells.head? = some (.text doc.metadataNamespace) := by
  cases kind with
  | application =>
    obtain ⟨app, hdecode, rfl⟩ := map_eq_ok_iff.mp h
    rw [← FleetRecord.ns_of_decode Application.hasMetadata hdecode]
    rfl
  | cluster => cases hns
  | manifestWork =>
    obtain ⟨work, hdecode, rfl⟩ := map_eq_ok_iff.mp h
    rw [← FleetRecord.ns_of_decode ManifestWork.hasMetadata hdecode]
    rfl

/-- A document that states its kind has no row only for a reason that lies in what it holds. -/
theorem rowOf_error {width : Nat} {kind : Kind} {doc : Json} {e : FleetError}
    (hkind : doc.get? "kind" = some (.str kind.text)) (h : rowOf width kind doc = .error e) :
    ∃ reason : Undecodable, e = .undecodable kind.text reason.message ∧
      reason.IsOfContent doc := by
  cases kind with
  | application => exact FleetRecord.decode_error hkind (map_eq_error_iff.mp h)
  | cluster => exact FleetRecord.decode_error hkind (map_eq_error_iff.mp h)
  | manifestWork => exact FleetRecord.decode_error hkind (map_eq_error_iff.mp h)

end Layout

/-- The answers to a request for the table of a kind, by the documents that match it: a row for each
document, in order, or the error of the first document that has no row. -/
inductive Tabulated (clustersWidth : Nat) (kind : Kind) :
    List Json → Except FleetError Table → Prop where
  | rows {docs : List Json} {rows : List Row}
      (each : List.Forall₂
        (fun doc row => Layout.rowOf clustersWidth kind doc = .ok row) docs rows) :
      Tabulated clustersWidth kind docs (.ok ⟨Layout.headerOf kind, rows⟩)
  | failure {before after : List Json} {doc : Json} {e : FleetError}
      (fine : ∀ b ∈ before, ∃ row, Layout.rowOf clustersWidth kind b = .ok row)
      (first : Layout.rowOf clustersWidth kind doc = .error e) :
      Tabulated clustersWidth kind (before ++ doc :: after) (.error e)

namespace Tabulated

variable {width : Nat} {kind : Kind}

/-- The documents are taken in one by one, up to the first that has no row. -/
theorem iff_mapM {docs : List Json} {answer : Except FleetError Table} :
    Tabulated width kind docs answer ↔
      (docs.mapM (Layout.rowOf width kind)).map (⟨Layout.headerOf kind, ·⟩) = answer := by
  constructor
  · rintro (each | ⟨fine, first⟩)
    · rw [mapM_eq_ok_iff.mpr each]
      rfl
    · rw [mapM_eq_error_iff.mpr ⟨_, _, _, rfl, fine, first⟩]
      rfl
  · rintro rfl
    cases h : docs.mapM (Layout.rowOf width kind) with
    | ok rows => exact .rows (mapM_eq_ok_iff.mp h)
    | error e =>
      obtain ⟨before, doc, after, rfl, fine, first⟩ := mapM_eq_error_iff.mp h
      exact .failure fine first

/-- There is one answer only. -/
theorem unique {docs : List Json} {a b : Except FleetError Table} (ha : Tabulated width kind docs a)
    (hb : Tabulated width kind docs b) : a = b :=
  (iff_mapM.mp ha).symm.trans (iff_mapM.mp hb)

/-- Every row of a table comes from a document. -/
theorem exists_of_row {docs : List Json} {table : Table} (h : Tabulated width kind docs (.ok table))
    {row : Row} (hrow : row ∈ table.rows) :
    ∃ doc ∈ docs, Layout.rowOf width kind doc = .ok row := by
  cases h with
  | rows each => exact exists_of_forall₂ each hrow

/-- Every error comes from a document. -/
theorem exists_of_error {docs : List Json} {e : FleetError}
    (h : Tabulated width kind docs (.error e)) :
    ∃ doc ∈ docs, Layout.rowOf width kind doc = .error e := by
  cases h with
  | failure _ first => exact ⟨_, List.mem_append_right _ List.mem_cons_self, first⟩

end Tabulated

/-- A service whose store lists some documents tabulates them. -/
theorem Service.tabulated_table {s : Service} {board : Signals} {ctx : RequestContext}
    (hlive : ctx.isCancelled board = false) {kind : Kind} {docs : List Json}
    (hlist : s.store.list (s.listing kind ctx) = .ok docs) :
    Tabulated s.clustersWidth kind docs (s.table board ctx kind.view) := by
  rw [Tabulated.iff_mapM]
  have hrecords {σ : Type} [FleetRecord σ] (layout : Layout σ) (hσ : FleetRecord.kind σ = kind) :
      (s.list board ctx).map layout.table =
        (docs.mapM fun doc => (FleetRecord.decode doc).map layout.row).map
          (⟨layout.header, ·⟩) := by
    subst hσ
    rw [← map_mapM]
    simp only [list, RequestContext.run, hlive, Bool.false_eq_true, if_false, hlist]
    show (FleetRecord.decodeAll docs).map layout.table = _
    unfold FleetRecord.decodeAll
    cases (docs.mapM FleetRecord.decode : Except FleetError (List σ)) <;> rfl
  cases kind with
  | application => exact (hrecords (Layout.applications s.clustersWidth) rfl).symm
  | cluster => exact (hrecords Layout.clusters rfl).symm
  | manifestWork => exact (hrecords Layout.manifestWorks rfl).symm

/-- A request for the table of a kind, over the snapshot of any documents, is answered by the
documents that match it alone: by a row for each of them in order, or by the error of the first of
them that cannot be decoded. So the other documents do not matter. In a table of one namespace every
row shows that namespace, and an error says that a matching document has no name or that one of its
fields does not fit, never that it is of another kind or no object. -/
theorem Snapshot.table_answers (origin : String) (docs : List Json) (api : ApiVersion)
    (clustersWidth : Nat) (kind : Kind) (ctx : RequestContext) (board : Signals)
    (hlive : ctx.isCancelled board = false) :
    let matching (docs : List Json) := (flattenAll docs).filter (ctx.Admits ⟨api, kind⟩ ·)
    let answer (origin : String) (docs : List Json) :=
      Service.table ⟨store ⟨origin, flattenAll docs⟩, api, clustersWidth⟩ board ctx kind.view
    Tabulated clustersWidth kind (matching docs) (answer origin docs) ∧
      (∀ origin' docs', matching docs' = matching docs →
        answer origin' docs' = answer origin docs) ∧
      (∀ ns table, ctx.scope = .only ns → kind.isNamespaced → answer origin docs = .ok table →
        ∀ row ∈ table.rows, row.cells.head? = some (.text ns)) ∧
      ∀ e, answer origin docs = .error e →
        ∃ doc ∈ matching docs, ∃ reason : Undecodable,
          e = .undecodable kind.text reason.message ∧ reason.IsOfContent doc := by
  intro matching answer
  have htab (origin : String) (docs : List Json) :
      Tabulated clustersWidth kind (matching docs) (answer origin docs) := by
    let service : Service := ⟨store ⟨origin, flattenAll docs⟩, api, clustersWidth⟩
    have hlist : service.store.list (service.listing kind ctx) = .ok (matching docs) :=
      congrArg Except.ok (list_listing ⟨origin, flattenAll docs⟩ service kind ctx)
    exact service.tabulated_table hlive hlist
  have hmatch (doc : Json) (hdoc : doc ∈ matching docs) : ctx.Admits ⟨api, kind⟩ doc :=
    of_decide_eq_true (List.mem_filter.mp hdoc).2
  refine ⟨htab origin docs, fun origin' docs' heq => ?_, fun ns table hscope hns hok row hrow => ?_,
    fun e herror => ?_⟩
  · -- The same matching documents have one answer only.
    have h' := htab origin' docs'
    rw [heq] at h'
    exact h'.unique (htab origin docs)
  · obtain ⟨doc, hdoc, hrowOf⟩ := (hok ▸ htab origin docs).exists_of_row hrow
    rw [Layout.head?_of_rowOf hns hrowOf, (hmatch doc hdoc).scope hns ns hscope]
  · obtain ⟨doc, hdoc, hfail⟩ := (herror ▸ htab origin docs).exists_of_error
    exact ⟨doc, hdoc, Layout.rowOf_error (hmatch doc hdoc).kind hfail⟩

/-- A document without a name in another namespace and one of a foreign group, both in a list, and a
number beside it, do not keep the application of the namespace from being shown. -/
theorem Snapshot.table_answers_beside_malformed :
    let web : Json := .obj
      [("kind", .str "Application"),
       ("metadata", .obj [("name", .str "web"), ("namespace", .str "shop")])]
    let unnamed : Json := .obj
      [("kind", .str "Application"), ("metadata", .obj [("namespace", .str "lab")])]
    let foreign : Json := .obj
      [("apiVersion", .str "apps/v1"), ("kind", .str "Application"),
       ("metadata", .obj [("namespace", .str "shop")])]
    let docs : List Json :=
      [.int 7, .obj [("items", .arr [unnamed, foreign, web]), ("kind", .str "List")]]
    let ctx : RequestContext := { scope := .only "shop" }
    let answer :=
      Service.table ⟨store ⟨"fleet.yaml", flattenAll docs⟩, .standard, 30⟩ {} ctx .applications
    ctx.isCancelled {} = false ∧ Tabulated 30 .application [web] answer ∧
      answer.map (·.rows.map (·.id)) = .ok ["shop/web"] := by
  intro web unnamed foreign docs ctx answer
  have hlive : ctx.isCancelled {} = false := rfl
  have hmatching : (flattenAll docs).filter (ctx.Admits ⟨.standard, .application⟩ ·) = [web] := by
    decide +kernel
  have htab : Tabulated 30 .application
      ((flattenAll docs).filter (ctx.Admits ⟨.standard, .application⟩ ·)) answer :=
    (table_answers "fleet.yaml" docs .standard 30 .application ctx {} hlive).1
  rw [hmatching] at htab
  exact ⟨hlive, htab, by decide +kernel⟩

end FleetConsole
