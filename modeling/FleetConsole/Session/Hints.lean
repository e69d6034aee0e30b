import FleetConsole.Fleet.View

/-!
# Key hints

The footer names the keys that do something in the current view, each with what it does.
-/

namespace FleetConsole

/-- The hints of a view, in the order in which they are shown. -/
def View.hints (view : View) (helpShown : Bool) : List (String × String) :=
  views ++ back ++ everywhere ++ help
where
  /-- The views of an application that can be opened from here. -/
  views : List (String × String) :=
    match view with
    | applications => [("enter", "manifests"), ("s", "status")]
    | manifests => [("s", "status")]
    | applicationStatus => [("m", "manifests")]
    | clusters | manifestWorks => []
  /-- The way back from a view of an application. -/
  back : List (String × String) := if view.needsPath then [("esc", "back")] else []
  /-- What can be done in every view. -/
  everywhere : List (String × String) :=
    [("a", "apps"), ("c", "clusters"), ("w", "works"), ("r", "refresh"), ("q", "quit")]
  /-- How to move, or how to find out. -/
  help : List (String × String) :=
    if helpShown then
      [("j/k", "down/up"), ("g/G", "top/bottom"), ("pgup/pgdn", "page"), ("?", "hide help")]
    else [("?", "help")]

end FleetConsole
