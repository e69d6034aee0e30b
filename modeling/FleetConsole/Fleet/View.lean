/-!
# Views

What the console can show: three collections, and two views of a single application.
-/

namespace FleetConsole

/-- A view. -/
inductive View where
  | applications
  | applicationStatus
  | manifests
  | clusters
  | manifestWorks
deriving DecidableEq, Repr

namespace View

/-- The views with their names. -/
def named : List (String × View) :=
  [("Applications", applications), ("ApplicationStatus", applicationStatus),
   ("Manifests", manifests), ("Clusters", clusters), ("ManifestWorks", manifestWorks)]

/-- The title of a view. -/
def title : View → String
  | applications => "Applications"
  | applicationStatus => "Application Status"
  | manifests => "Manifests"
  | clusters => "Clusters"
  | manifestWorks => "ManifestWorks"

/-- Is the view about a single application, named by a path? -/
def needsPath : View → Bool
  | applicationStatus | manifests => true
  | _ => false

end View

end FleetConsole
