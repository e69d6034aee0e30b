import FleetConsole.Fleet.Decode
import FleetConsole.Fleet.View
import FleetConsole.Request.Context
import FleetConsole.Store.Basic
import FleetConsole.Table.Layout

/-!
# The fleet service

The service answers requests for records, for views of an application and for tables. Each request
is a query on a store whose documents are decoded, joined and laid out; nothing is kept between
requests.
-/

namespace FleetConsole

/-- A service over a store. -/
structure Service where
  store : Store
  api : ApiVersion := .standard
  clustersWidth : Nat := Layout.defaultClustersWidth

namespace Service

variable {σ : Type} [FleetRecord σ]

/-- The query for the records of a kind. Clusters are listed in every scope. -/
def listing (s : Service) (kind : Kind) (ctx : RequestContext) : Listing where
  coordinate := ⟨s.api, kind⟩
  scope := if kind.isNamespaced then ctx.scope else .all
  selector := ctx.selector

/-- The query for the application that a request is about. -/
def lookup (s : Service) (ctx : RequestContext) : Except FleetError Lookup :=
  let coordinate : Coordinate := ⟨s.api, .application⟩
  (ctx.requirePath coordinate).map fun path => ⟨coordinate, path, true, ctx.selector⟩

/-- The records of a kind. -/
def list (s : Service) (board : Signals) (ctx : RequestContext) : Except FleetError (List σ) := do
  FleetRecord.decodeAll (← ctx.run board (s.store.list (s.listing (FleetRecord.kind σ) ctx)))

/-- The application that a request is about. -/
def application (s : Service) (board : Signals) (ctx : RequestContext) :
    Except FleetError Application := do
  let lookup ← s.lookup ctx
  FleetRecord.decode (← ctx.run board (s.store.get lookup))

/-- The manifests of the application that a request is about. -/
def manifests (s : Service) (board : Signals) (ctx : RequestContext) :
    Except FleetError (List ManifestView) :=
  (s.application board ctx).map (·.manifestViews)

/-- The clusters of the application that a request is about. -/
def applicationStatus (s : Service) (board : Signals) (ctx : RequestContext) :
    Except FleetError (List ClusterView) :=
  (s.application board ctx).map (·.clusterViews)

/-- The table of a view. -/
def table (s : Service) (board : Signals) (ctx : RequestContext) : View → Except FleetError Table
  | .applications => (s.list board ctx).map (Layout.applications s.clustersWidth).table
  | .applicationStatus => (s.applicationStatus board ctx).map Layout.clusterViews.table
  | .manifests => (s.manifests board ctx).map Layout.manifestViews.table
  | .clusters => (s.list board ctx).map Layout.clusters.table
  | .manifestWorks => (s.list board ctx).map Layout.manifestWorks.table

/-- The query that a view makes, if its path is not missing. -/
def viewQuery (s : Service) (ctx : RequestContext) : View → Except FleetError Query
  | .applications => .ok (.list (s.listing .application ctx))
  | .clusters => .ok (.list (s.listing .cluster ctx))
  | .manifestWorks => .ok (.list (s.listing .manifestWork ctx))
  | .applicationStatus | .manifests => (s.lookup ctx).map .get

/-- The query that reaches the store for a view. A cancelled request makes none. -/
def query? (s : Service) (board : Signals) (ctx : RequestContext) (view : View) : Option Query :=
  match s.viewQuery ctx view with
  | .ok q => if ctx.isCancelled board then none else some q
  | .error _ => none

end Service

end FleetConsole
