import FleetConsole.Proofs.Fleet.RoundTrip
import FleetConsole.Service

/-!
# The calls of a service

Whatever a service is asked for, it does the same: it makes a query out of the request, has the
store answer it, decodes the documents, and makes the answer of the records (`Service.answer_eq`).
What is proved of these four steps holds of every call.
-/

namespace FleetConsole

/-- The kind of the records that a view is made of. -/
def View.kind : View → Kind
  | applications | applicationStatus | manifests => .application
  | clusters => .cluster
  | manifestWorks => .manifestWork

/-- What a service can be asked for, by the type of the answer. -/
inductive Call : Type → Type where
  | records (kind : Kind) : Call (List kind.Resource)
  | application : Call Application
  | manifests : Call (List ManifestView)
  | applicationStatus : Call (List ClusterView)
  | table (view : View) : Call Table

/-- The documents with which a store answers a query: those of a listing, or the one looked up. -/
def Store.answer (s : Store) : Query → Except FleetError (List Json)
  | .get l => (s.get l).map ([·])
  | .list l => s.list l

namespace RequestContext

variable {α : Type} {ctx : RequestContext} {board : Signals} {call : Except FleetError α}

/-- A call for a cancelled request is refused. -/
theorem run_of_isCancelled (h : ctx.isCancelled board) : ctx.run board call = .error .cancelled :=
  if_pos h

/-- A call for any other request is made. -/
theorem run_of_live (h : ctx.isCancelled board = false) : ctx.run board call = call := by
  rw [run, h]
  rfl

/-- A call has a value if it is made and comes to one. -/
theorem run_eq_ok_iff {a : α} :
    ctx.run board call = .ok a ↔ ctx.isCancelled board = false ∧ call = .ok a := by
  cases hcancelled : ctx.isCancelled board with
  | false => simp [run_of_live hcancelled]
  | true => simp [run_of_isCancelled hcancelled]

end RequestContext

variable {α : Type}

namespace Call

/-- Is the call about a single application, named by the path of the request? -/
def needsPath : Call α → Bool
  | records _ => false
  | application | manifests | applicationStatus => true
  | table view => view.needsPath

/-- The kind of the records that the answer is made of. -/
def kind : Call α → Kind
  | records kind => kind
  | application | manifests | applicationStatus => .application
  | table view => view.kind

/-- The answer that is made of records. A call about a single application has one record. -/
def ofRecords (clustersWidth : Nat) : (call : Call α) → List call.kind.Resource → α
  | records _, rs => rs
  | application, rs => (rs : List Application).headD {}
  | manifests, rs => ((rs : List Application).headD {}).manifestViews
  | applicationStatus, rs => ((rs : List Application).headD {}).clusterViews
  | table .applications, rs => (Layout.applications clustersWidth).table rs
  | table .applicationStatus, rs =>
    Layout.clusterViews.table ((rs : List Application).headD {}).clusterViews
  | table .manifests, rs =>
    Layout.manifestViews.table ((rs : List Application).headD {}).manifestViews
  | table .clusters, rs => Layout.clusters.table rs
  | table .manifestWorks, rs => Layout.manifestWorks.table rs

end Call

namespace Service

variable (s : Service) (board : Signals) (ctx : RequestContext)

/-- The answer to a call. -/
def answer : Call α → Except FleetError α
  | .records kind => s.list (σ := kind.Resource) board ctx
  | .application => s.application board ctx
  | .manifests => s.manifests board ctx
  | .applicationStatus => s.applicationStatus board ctx
  | .table view => s.table board ctx view

/-- The query that a call makes, unless it needs a path that is missing. -/
def query (call : Call α) : Except FleetError Query :=
  if call.needsPath then (s.lookup ctx).map .get else .ok (.list (s.listing call.kind ctx))

/-- The records that a call decodes. -/
def recordsOf (call : Call α) : Except FleetError (List call.kind.Resource) := do
  let q ← s.query ctx call
  FleetRecord.decodeAll (← ctx.run board (s.store.answer q))

variable {s board ctx}

/-- The view of a call is answered by the query that the view makes. -/
theorem query_table (view : View) : s.query ctx (.table view) = s.viewQuery ctx view := by
  cases view <;> rfl

/-- What is made of an application is made of the one document that a lookup comes to. -/
theorem map_application (f : Application → α) :
    (s.application board ctx).map f =
      (do
        let q ← (s.lookup ctx).map Query.get
        FleetRecord.decodeAll (← ctx.run board (s.store.answer q))
          : Except FleetError (List Application)).map fun apps => f (apps.headD {}) := by
  cases hlookup : s.lookup ctx with
  | error e => simp [application, hlookup, Except.map, bind, Except.bind]
  | ok l =>
    have hrun : ctx.run board (s.store.answer (.get l)) =
        (ctx.run board (s.store.get l)).map ([·]) := by
      unfold RequestContext.run
      split
      · rfl
      · rfl
    simp only [application, hlookup, Except.map, bind, Except.bind, hrun]
    cases ctx.run board (s.store.get l) with
    | error e => rfl
    | ok doc =>
      simp only [FleetRecord.decodeAll, List.mapM_cons, List.mapM_nil]
      cases (FleetRecord.decode doc : Except FleetError Application) <;> rfl

/-- What is made of a part of an application is made of the application. -/
theorem map_map_application {β : Type} (f : Application → β) (g : β → α) :
    ((s.application board ctx).map f).map g =
      (s.application board ctx).map fun app => g (f app) := by
  cases s.application board ctx <;> rfl

/-- A call is answered out of the records that it decodes. -/
theorem answer_eq (call : Call α) :
    s.answer board ctx call =
      (s.recordsOf board ctx call).map (call.ofRecords s.clustersWidth) := by
  cases call with
  | records kind => cases kind <;> exact (congrFun Except.map_id _).symm
  | application =>
    calc s.application board ctx = (s.application board ctx).map id :=
          (congrFun Except.map_id _).symm
      _ = _ := map_application id
  | manifests => exact map_application _
  | applicationStatus => exact map_application _
  | table view =>
    cases view with
    | applications => rfl
    | applicationStatus => exact (map_map_application _ _).trans (map_application _)
    | manifests => exact (map_map_application _ _).trans (map_application _)
    | clusters => rfl
    | manifestWorks => rfl

end Service

end FleetConsole
