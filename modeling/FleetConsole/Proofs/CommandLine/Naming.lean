import FleetConsole.CommandLine.Run
import FleetConsole.Proofs.Service.RowPath

/-!
# Applications that a command names

The commands about a single application take its name. Without a slash the name stands for an
application in the namespace that the invocation is limited to. `CommandLine.run_names_application`
says that such a command shows exactly the first application that has this very namespace and this
very name, and that without a single namespace to be limited to it asks the store for nothing.
-/

namespace FleetConsole

/-- The table of a view about a single application. -/
def View.tableOf (view : View) (app : Application) : Table :=
  match view with
  | manifests => Layout.manifestViews.table app.manifestViews
  | _ => Layout.clusterViews.table app.clusterViews

/-- A view about a single application shows the application of the request. -/
theorem Service.table_of_needsPath {view : View} (hview : view.needsPath) (s : Service)
    (board : Signals) (ctx : RequestContext) :
    s.table board ctx view = (s.application board ctx).map view.tableOf := by
  cases view with
  | manifests =>
    show ((s.application board ctx).map _).map _ = _
    cases s.application board ctx <;> rfl
  | applicationStatus =>
    show ((s.application board ctx).map _).map _ = _
    cases s.application board ctx <;> rfl
  | applications => cases hview
  | clusters => cases hview
  | manifestWorks => cases hview

/-- A value names the single namespace that is left when it is trimmed, unless that stands for all
namespaces. -/
theorem Scope.ofText_of_single {value : String}
    (h : Text.trimmed value ∉ ["", "all", noNamespace]) :
    Scope.ofText value = .only (Text.trimmed value) := by
  have hnot : ¬ (Text.trimmed value = "" ∨ Text.trimmed value = "all" ∨
      Text.trimmed value = noNamespace) := by
    simpa using h
  rw [Scope.ofText, if_neg hnot]

/-- What a document has under the keys of a path, if it is not empty, is a text there. -/
theorem Json.path?_of_stringAt {doc : Json} {path : List String} {text : String}
    (h : doc.stringAt path = text) (hne : text ≠ "") : doc.path? path = some (.str text) := by
  unfold stringAt stringAt? at h
  cases hpath : doc.path? path with
  | none =>
    rw [hpath] at h
    exact absurd h.symm hne
  | some j =>
    rw [hpath] at h
    cases j with
    | str s => exact congrArg (fun t => some (Json.str t)) h
    | _ => exact absurd h.symm hne

namespace Invocation

/-- What is asked about an application is a view of a single application. -/
theorem needsPath_of_action? {verb : CommandLine.Verb} {values : List String} {view : View}
    {app : String} (h : action? verb values = some (.showTable view (some app))) :
    view.needsPath := by
  unfold action? at h
  split at h <;> cases h
  · rfl
  · rfl

/-- A command about an application shows a view of a single application. -/
theorem needsPath_of_ofWords {words : List String} {o : Options} {view : View} {app : String}
    (h : ofWords words = .ok ⟨o, .showTable view (some app)⟩) : view.needsPath := by
  unfold ofWords at h
  obtain ⟨r, -, hrest⟩ := bind_eq_ok_iff.mp h
  cases haction : action? r.verb r.values with
  | none =>
    rw [haction] at hrest
    cases hcomplaint : r.complaint? <;> rw [hcomplaint] at hrest <;> cases hrest
  | some action =>
    rw [haction] at hrest
    cases hcomplaint : r.complaint? with
    | some m =>
      rw [hcomplaint] at hrest
      cases hrest
    | none =>
      rw [hcomplaint] at hrest
      cases hrest
      exact needsPath_of_action? haction

/-- The table that is asked for, once the store is open. -/
def tableFrom (o : Options) (settings : Settings) (view : View) (application : Option String)
    (store : Store) : Attempt Table := do
  let ctx ← requestContext (scope o settings) (labels? o settings) application
  let service : Service :=
    { store, api := settings.api, clustersWidth := settings.display.clustersColumnWidth.toNat }
  Attempt.about ("Failed to fetch " ++ view.title)
    ((service.table {} ctx view).mapError fun e => [e.message])

/-- The store is opened before anything is asked of it. -/
theorem table_eq_bind (s : Surroundings) (o : Options) (settings : Settings) (view : View)
    (application : Option String) :
    table s o settings view application = store s o >>= tableFrom o settings view application := rfl

/-- The reason why an application without a namespace is not looked for. -/
def needsNamespace (application : String) : String :=
  "application " ++ Text.quoted application ++
    " needs a namespace: use namespace/name or --namespace"

section Named

variable {o : Options} {settings : Settings} {view : View} {app : String}

/-- Where no single namespace is given, whatever store is open is not asked for anything. -/
theorem tableFrom_of_all (happ : '/' ∉ app.toList) (hall : scope o settings = .all)
    (store : Store) : tableFrom o settings view (some app) store = .error [needsNamespace app] := by
  have hcontains : app.toList.contains '/' = false := by simpa using happ
  simp only [tableFrom, requestContext, qualify, hall, hcontains]
  rfl

/-- The request about an application in a namespace has the name of both as its path, and nothing
cancels it. -/
theorem requestContext_of_only {ns : String} (happ : '/' ∉ app.toList) (labels : Option String) :
    ∃ ctx, requestContext (.only ns) labels (some app) = .ok ctx ∧
      ctx.isCancelled {} = false ∧ ctx.path? = some (QualifiedName.text ⟨some ns, app⟩) := by
  have hcontains : app.toList.contains '/' = false := by simpa using happ
  let base : RequestContext := { scope := .only ns }
  refine ⟨(labels.elim base base.withLabels).withPath (QualifiedName.text ⟨some ns, app⟩), ?_, ?_,
    RequestContext.path?_withPath_text _ _⟩
  · simp only [requestContext, qualify, hcontains]
    rfl
  · cases labels <;> rfl

/-- A service over a snapshot answers the request about an application in a namespace from the first
application with both names. -/
theorem tableFrom_of_only {ns : String} {snapshot : Snapshot} {table : Table}
    (happ : '/' ∉ app.toList) (hns : '/' ∉ ns.toList) (hsingle : ¬ QualifiedName.IsSentinel ns)
    (hview : view.needsPath) (hscope : scope o settings = .only ns) :
    tableFrom o settings view (some app) snapshot.store = .ok table ↔
      ∃ doc record, (snapshot.collection ⟨settings.api, .application⟩).find?
          (fun doc => decide (doc.identity = (ns, app))) = some doc ∧
        FleetRecord.decode doc = .ok record ∧ table = view.tableOf record := by
  obtain ⟨ctx, hctx, hlive, hpath⟩ := requestContext_of_only happ (labels? o settings)
  -- The path of the request is read back as the names that it was made of.
  have hname : QualifiedName.ofText (QualifiedName.text ⟨some ns, app⟩) = ⟨some ns, app⟩ := by
    rw [QualifiedName.ofText_text hns, if_neg hsingle]
  have hfind (record : Application) :
      Service.application ⟨snapshot.store, settings.api,
          settings.display.clustersColumnWidth.toNat⟩ {} ctx = .ok record ↔
        ∃ doc, (snapshot.collection ⟨settings.api, .application⟩).find?
          (fun doc => decide (doc.identity = (ns, app))) = some doc ∧
            FleetRecord.decode doc = .ok record := by
    rw [Service.application_eq_ok_iff hlive hpath, hname]
    simp only [funext (Snapshot.isNamed_some _ _ _)]
  have htable : tableFrom o settings view (some app) snapshot.store = .ok table ↔
      Service.table ⟨snapshot.store, settings.api, settings.display.clustersColumnWidth.toNat⟩ {}
        ctx view = .ok table := by
    simp only [tableFrom, hscope, hctx]
    show Except.mapError _ (Except.mapError _ _) = _ ↔ _
    rw [mapError_eq_ok_iff, mapError_eq_ok_iff]
  rw [htable, Service.table_of_needsPath hview, map_eq_ok_iff]
  constructor
  · rintro ⟨record, happlication, rfl⟩
    obtain ⟨doc, hdoc, hdecode⟩ := (hfind record).mp happlication
    exact ⟨doc, record, hdoc, hdecode, rfl⟩
  · rintro ⟨doc, record, hdoc, hdecode, rfl⟩
    exact ⟨record, (hfind record).mpr ⟨doc, hdoc, hdecode⟩, rfl⟩

/-- A table is printed exactly if there is one. -/
theorem showTable_eq_iff {s : Surroundings} {application : Option String} {out : String} :
    (showTable s o view application).code = 0 ∧ (showTable s o view application).stdout = out ↔
      ∃ t, table s o (Invocation.settings s).1 view application = .ok t ∧ out = t.text s.now := by
  simp only [showTable]
  cases htable : table s o (Invocation.settings s).1 view application with
  | error causes =>
    constructor
    · rintro ⟨hcode, -⟩
      cases hcode
    · rintro ⟨t, ht, -⟩
      cases ht
  | ok t =>
    constructor
    · rintro ⟨-, rfl⟩
      exact ⟨t, rfl, rfl⟩
    · rintro ⟨t', ht, rfl⟩
      obtain rfl := Except.ok.inj ht
      exact ⟨rfl, rfl⟩

/-- With a snapshot given, the store is the one of the snapshot, if it can be read. -/
theorem store_eq_ok_iff {s : Surroundings} {path : String} {st : Store}
    (hfile : o.file = some path) :
    store s o = .ok st ↔
      ∃ snapshot, Invocation.snapshot s path = .ok snapshot ∧ snapshot.store = st := by
  rw [store, hfile]
  show Except.mapError _ (Except.mapError _ _) = _ ↔ _
  rw [mapError_eq_ok_iff, mapError_eq_ok_iff, map_eq_ok_iff]

/-- Whether a store can be opened does not depend on what the hub responds. -/
theorem store_respond {α : Type} (s : Surroundings) (o : Options)
    (respond : String → Option Hub.Response) (attempt : Attempt α) :
    (store { s with respond } o >>= fun _ => attempt) = store s o >>= fun _ => attempt := by
  unfold store
  cases o.file with
  | some path => rfl
  | none =>
    have hkubeconfig : Surroundings.kubeconfig? { s with respond } = s.kubeconfig? := rfl
    simp only [hkubeconfig]
    cases s.kubeconfig?.bind (·.client? o.context) <;> rfl

/-- Where no single namespace is given, nothing is printed for an application, and no response of
the hub changes that. -/
theorem showTable_of_all {s : Surroundings} (happ : '/' ∉ app.toList)
    (hall : scope o (Invocation.settings s).1 = .all) :
    (showTable s o view (some app)).code = 1 ∧ (showTable s o view (some app)).stdout = "" ∧
      ∀ respond,
        showTable { s with respond } o view (some app) = showTable s o view (some app) := by
  have htable (respond : String → Option Hub.Response) :
      table { s with respond } o (Invocation.settings s).1 view (some app) =
        store s o >>= fun _ => .error [needsNamespace app] := by
    rw [table_eq_bind, ← store_respond s o respond]
    exact congrArg _ (funext (tableFrom_of_all happ hall))
  obtain ⟨causes, hcauses⟩ :
      ∃ causes, table s o (Invocation.settings s).1 view (some app) = .error causes := by
    rw [htable s.respond]
    cases store s o with
    | error causes => exact ⟨causes, rfl⟩
    | ok st => exact ⟨_, rfl⟩
  refine ⟨?_, ?_, fun respond => ?_⟩
  · simp only [showTable, hcauses]
    rfl
  · simp only [showTable, hcauses]
    rfl
  · show Outcome.after _ (SettingsAction.conclude (table _ o (Invocation.settings s).1 _ _) _) =
      Outcome.after _ (SettingsAction.conclude (table s o (Invocation.settings s).1 _ _) _)
    rw [htable respond, htable s.respond]
    rfl

/-- Where a namespace is given, what is printed for an application is the table of the first one in
the snapshot that is called so, and its document says both names. -/
theorem showTable_of_only {s : Surroundings} {ns path out : String} (happ : '/' ∉ app.toList)
    (hns : '/' ∉ ns.toList) (hsingle : ¬ QualifiedName.IsSentinel ns) (hview : view.needsPath)
    (hscope : scope o (Invocation.settings s).1 = .only ns) (hfile : o.file = some path) :
    (showTable s o view (some app)).code = 0 ∧ (showTable s o view (some app)).stdout = out ↔
      ∃ file doc record, Invocation.snapshot s path = .ok file ∧
        (file.collection ⟨(Invocation.settings s).1.api, .application⟩).find?
          (fun doc => decide (doc.identity = (ns, app))) = some doc ∧
        doc.path? ["metadata", "namespace"] = some (.str ns) ∧
        doc.path? ["metadata", "name"] = some (.str app) ∧
        FleetRecord.decode doc = .ok record ∧ out = (view.tableOf record).text s.now := by
  rw [showTable_eq_iff]
  simp only [table_eq_bind, bind_eq_ok_iff, store_eq_ok_iff hfile]
  constructor
  · rintro ⟨t, ⟨_, ⟨file, hopened, rfl⟩, htable⟩, rfl⟩
    obtain ⟨doc, record, hfind, hdecode, rfl⟩ :=
      (tableFrom_of_only happ hns hsingle hview hscope).mp htable
    -- What the document found is called is written in it, since neither text is empty.
    have hidentity : doc.identity = (ns, app) := by simpa using List.find?_some hfind
    obtain ⟨hnamespace, hname⟩ := Prod.mk.inj hidentity
    have hnamed : doc.metadataName ≠ "" := (FleetRecord.decode_eq_ok_iff.mp hdecode).2.1
    exact ⟨file, doc, record, hopened, hfind,
      Json.path?_of_stringAt hnamespace fun h => hsingle (.inl h),
      Json.path?_of_stringAt hname fun h => hnamed (hname.trans h), hdecode, rfl⟩
  · rintro ⟨file, doc, record, hopened, hfind, -, -, hdecode, rfl⟩
    have htable := (tableFrom_of_only happ hns hsingle hview hscope).mpr
      ⟨doc, record, hfind, hdecode, rfl⟩
    exact ⟨_, ⟨_, ⟨file, hopened, rfl⟩, htable⟩, rfl⟩

end Named

end Invocation

namespace CommandLine

open Invocation (scope snapshot needsNamespace tableFrom)

/-- What a command prints about an application that is named without a slash. Where a namespace is
given and has no slash, the command is answered from the first application in the snapshot whose own
namespace and name are these two texts, and prints nothing unless there is one that can be decoded;
applications of the same name in other namespaces or without one have no part in it. Where all
namespaces are meant, the command fails, and neither the store nor the hub is asked for anything. -/
theorem run_names_application (s : Surroundings) (words : List String) (o : Options) (view : View)
    (app : String) (hwords : Invocation.ofWords words = .ok ⟨o, .showTable view (some app)⟩)
    (happ : '/' ∉ app.toList) :
    let settings := (Invocation.settings s).1
    let ns := Text.trimmed (o.ns.getD settings.defaultNamespace)
    let everywhere := o.allNamespaces = true ∨ ns ∈ ["", "all", noNamespace]
    (¬ everywhere → '/' ∉ ns.toList → ∀ path, o.file = some path → ∀ out,
      (run s words).code = 0 ∧ (run s words).stdout = out ↔
        ∃ file doc record, snapshot s path = .ok file ∧
          (file.collection ⟨settings.api, .application⟩).find?
            (fun doc => decide (doc.identity = (ns, app))) = some doc ∧
          doc.path? ["metadata", "namespace"] = some (.str ns) ∧
          doc.path? ["metadata", "name"] = some (.str app) ∧
          FleetRecord.decode doc = .ok record ∧ out = (view.tableOf record).text s.now) ∧
    (everywhere →
      (run s words).code = 1 ∧ (run s words).stdout = "" ∧
      (∀ respond, run { s with respond } words = run s words) ∧
      ∀ store, tableFrom o settings view (some app) store = .error [needsNamespace app]) := by
  intro settings ns everywhere
  have hrun (s : Surroundings) : run s words = Invocation.showTable s o view (some app) := by
    rw [run, hwords]
    rfl
  simp only [hrun]
  refine ⟨fun hsingle hslash path hfile out => ?_, fun heverywhere => ?_⟩
  · obtain ⟨hnot, hmem⟩ := not_or.mp hsingle
    have hscope : scope o settings = .only ns := by
      rw [scope, if_neg hnot]
      exact Scope.ofText_of_single hmem
    have hsentinel : ¬ QualifiedName.IsSentinel ns := by
      rintro (h | h) <;> exact hmem (by simp [h])
    exact Invocation.showTable_of_only happ hslash hsentinel
      (Invocation.needsPath_of_ofWords hwords) hscope hfile
  · have hall : scope o settings = .all := by
      unfold scope
      by_cases hflag : o.allNamespaces = true
      · exact if_pos hflag
      · have hmem := heverywhere.resolve_left hflag
        rw [if_neg hflag, Scope.ofText, if_pos (by simpa using hmem)]
    obtain ⟨hcode, hstdout, hsame⟩ := Invocation.showTable_of_all happ hall
    exact ⟨hcode, hstdout, hsame, Invocation.tableFrom_of_all happ hall⟩

/-- The status of `web` in `shop` is shown although an application of that name without a namespace
comes first. -/
theorem run_names_application_shop :
    let text :=
      "kind: Application\nmetadata:\n  name: web\n---\n" ++
      "kind: Application\nmetadata:\n  name: web\n  namespace: shop\n" ++
      "status:\n  clusters:\n  - cluster: shop-1\n"
    let file? (path : String) : Option String := if path = "fleet.yaml" then some text else none
    let s : Surroundings := { environment := [], file?, now := ⟨0, 0, 0⟩ }
    let words := ["-f", "fleet.yaml", "-n", " shop ", "status", "web"]
    let o : Options := { file := some "fleet.yaml", ns := some " shop " }
    Invocation.ofWords words = .ok ⟨o, .showTable .applicationStatus (some "web")⟩ ∧
      '/' ∉ "web".toList ∧ (run s words).code = 0 ∧
      (run s words).stdout = "CLUSTER   READY     REPLICAS\nshop-1    Unknown   -\n" := by
  intro text file? s words o
  have hwords : Invocation.ofWords words = .ok ⟨o, .showTable .applicationStatus (some "web")⟩ := by
    decide +kernel
  have happ : '/' ∉ "web".toList := by decide
  let first : Json := .obj
    [("kind", .str "Application"), ("metadata", .obj [("name", .str "web")])]
  let doc : Json := .obj
    [("kind", .str "Application"),
     ("metadata", .obj [("name", .str "web"), ("namespace", .str "shop")]),
     ("status", .obj [("clusters", .arr [.obj [("cluster", .str "shop-1")]])])]
  have hopened : snapshot s "fleet.yaml" = .ok ⟨"fleet.yaml", [first, doc]⟩ := by decide +kernel
  have hout : (FleetRecord.decode doc).map
      (fun record => (View.applicationStatus.tableOf record).text s.now) =
        .ok "CLUSTER   READY     REPLICAS\nshop-1    Unknown   -\n" := by
    decide +kernel
  obtain ⟨record, hdecode, hout⟩ := map_eq_ok_iff.mp hout
  have hsettings : (Invocation.settings s).1 = {} := by decide +kernel
  have hnames := (run_names_application s words o .applicationStatus "web" hwords happ).1
  rw [hsettings] at hnames
  refine ⟨hwords, happ, (hnames ?_ ?_ "fleet.yaml" rfl _).mpr
    ⟨_, doc, record, hopened, ?_, ?_, ?_, hdecode, hout.symm⟩⟩
  all_goals decide +kernel

end CommandLine

end FleetConsole
