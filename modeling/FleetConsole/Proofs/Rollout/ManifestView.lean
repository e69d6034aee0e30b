import FleetConsole.Proofs.Rollout.ReportIndex
import FleetConsole.Proofs.Text.Separated
import FleetConsole.Rollout.ManifestView
import Mathlib.Data.List.Forall2

/-!
# Manifests find their own reports

Manifests and reports are joined by a text, in which the namespace, the name and the kind of an
object are separated by dots. Names may have dots themselves. As long as namespaces and kinds have
none, the first dot ends the namespace and the last one begins the kind, so no two objects have one
key (`manifestKey_inj`), and each manifest finds the last report about its own object
(`manifestViews_joined`).
-/

namespace FleetConsole

/-- A text without a dot. -/
def Undotted (s : String) : Prop := '.' ∉ s.toList

instance (s : String) : Decidable (Undotted s) := inferInstanceAs (Decidable (_ ∉ _))

/-- Namespaces and kinds without dots keep the keys of different objects apart. -/
theorem manifestKey_inj {ns name kind ns' name' kind' : String} (hns : Undotted ns)
    (hns' : Undotted ns') (hkind : Undotted kind) (hkind' : Undotted kind') :
    manifestKey ns name kind = manifestKey ns' name' kind' ↔
      ns = ns' ∧ name = name' ∧ kind = kind' := by
  constructor
  · intro e
    have hlist : ns.toList ++ '.' :: (name.toList ++ '.' :: kind.toList) =
        ns'.toList ++ '.' :: (name'.toList ++ '.' :: kind'.toList) := by
      simpa [manifestKey] using congrArg String.toList e
    obtain ⟨h₁, hrest⟩ := append_cons_inj_left hns hns' hlist
    obtain ⟨h₂, h₃⟩ := append_cons_inj_right hkind hkind' hrest
    exact ⟨String.toList_injective h₁, String.toList_injective h₂, String.toList_injective h₃⟩
  · rintro ⟨rfl, rfl, rfl⟩
    rfl

/-- A report is about the object that a manifest declares. -/
def StatusReport.IsAbout (r : StatusReport) (i : ManifestIdentity) : Prop :=
  r.ns = i.ns ∧ r.name = i.name ∧ r.kind = i.kind

/-- No namespace and no kind has a dot, neither in the workload nor in the reports. -/
structure Application.KeysUndotted (app : Application) : Prop where
  workload : ∀ item ∈ app.spec.workload,
    Undotted (ManifestIdentity.ofManifest item.manifest).ns ∧
      Undotted (ManifestIdentity.ofManifest item.manifest).kind
  reports : ∀ r ∈ app.status.reports, Undotted r.ns ∧ Undotted r.kind

/-- Where no key is dotted, a report has the key of a manifest if it is about its object. -/
theorem Application.KeysUndotted.key_eq_iff {app : Application} (h : app.KeysUndotted)
    {item : WorkloadItem} (hitem : item ∈ app.spec.workload) {r : StatusReport}
    (hr : r ∈ app.status.reports) :
    let i := ManifestIdentity.ofManifest item.manifest
    r.key = manifestKey i.ns i.name i.kind ↔ r.IsAbout i :=
  manifestKey_inj (h.reports r hr).1 (h.workload item hitem).1 (h.reports r hr).2
    (h.workload item hitem).2

/-- Two properties that agree on a list have the same last item in it. -/
theorem isLast_congr {α : Type} {p q : α → Prop} {xs : List α} (h : ∀ x ∈ xs, p x ↔ q x) (x : α) :
    IsLast p x xs ↔ IsLast q x xs := by
  constructor
  · rintro ⟨hx, before, after, rfl, hafter⟩
    exact ⟨(h x (by simp)).mp hx, before, after, rfl,
      fun y hy hq => hafter y hy ((h y (by simp [hy])).mpr hq)⟩
  · rintro ⟨hx, before, after, rfl, hafter⟩
    exact ⟨(h x (by simp)).mpr hx, before, after, rfl,
      fun y hy hp => hafter y hy ((h y (by simp [hy])).mp hp)⟩

/-- What a view has to do with an item of the workload: it shows the manifest of the item under the
identity that the manifest declares, with the last report about that object, and without replicas if
there is none. -/
structure ManifestView.Joins (reports : List StatusReport) (item : WorkloadItem)
    (v : ManifestView) : Prop where
  manifest : v.manifest = item.manifest
  identity : v.identity = ManifestIdentity.ofManifest item.manifest
  report : ∀ r, v.report = some r ↔ IsLast (·.IsAbout v.identity) r reports
  unreported : (∀ r ∈ reports, ¬r.IsAbout v.identity) → v.report = none ∧ v.replicas = "-"

/-- A view without a report shows no replicas. -/
theorem ManifestView.replicas_of_unreported {v : ManifestView} (h : v.report = none) :
    v.replicas = "-" := by
  simp only [replicas, h]
  rfl

/-- A manifest that is joined with the index of the reports shows the last report about it. -/
theorem ManifestView.joins_join {app : Application} (h : app.KeysUndotted) {item : WorkloadItem}
    (hitem : item ∈ app.spec.workload) :
    Joins app.status.reports item (join (.ofReports app.status.reports) item.manifest) := by
  have hreport (r : StatusReport) :
      (join (.ofReports app.status.reports) item.manifest).report = some r ↔
        IsLast (·.IsAbout (ManifestIdentity.ofManifest item.manifest)) r app.status.reports := by
    simp only [join, ReportIndex.get?_ofReports, find?_reverse_eq_some_iff]
    exact isLast_congr (fun r hr => h.key_eq_iff hitem hr) r
  refine ⟨rfl, rfl, hreport, fun hnone => ?_⟩
  have hno : (join (.ofReports app.status.reports) item.manifest).report = none :=
    eq_none_of_isLast hreport hnone
  exact ⟨hno, replicas_of_unreported hno⟩

/-- There is one view for every item of the workload, in the order of the workload, and each shows
the last report about its own object. A view has the key of a report only if both are about one
object. -/
theorem Application.manifestViews_joined (app : Application) (h : app.KeysUndotted) :
    List.Forall₂ (ManifestView.Joins app.status.reports) app.spec.workload app.manifestViews ∧
      ∀ v ∈ app.manifestViews, ∀ r ∈ app.status.reports,
        r.key = v.key ↔ r.IsAbout v.identity := by
  unfold manifestViews
  constructor
  · rw [List.forall₂_map_right_iff, List.forall₂_same]
    exact fun item hitem => ManifestView.joins_join h hitem
  · intro v hv r hr
    obtain ⟨item, hitem, rfl⟩ := List.mem_map.mp hv
    exact h.key_eq_iff hitem hr

/-- Dots in names do no harm: of the reports about `web.v1` the last one is found, and none about
`web`. -/
theorem Application.manifestViews_joined_dotted_name :
    let web : Json := .obj
      [("kind", .str "Deployment"),
       ("metadata", .obj [("name", .str "web.v1"), ("namespace", .str "shop")])]
    let reports : List StatusReport :=
      [⟨"web.v1", "shop", "Deployment", .int 1⟩, ⟨"web.v1", "shop", "Deployment", .int 2⟩,
       ⟨"web", "shop", "Deployment", .int 3⟩]
    let app : Application := { spec := { workload := [⟨web⟩, ⟨.int 42⟩] }, status := { reports } }
    app.KeysUndotted ∧
      List.Forall₂ (ManifestView.Joins reports) [⟨web⟩, ⟨.int 42⟩] app.manifestViews ∧
      app.manifestViews.map (·.report) = [some ⟨"web.v1", "shop", "Deployment", .int 2⟩, none] := by
  intro web reports app
  have h : app.KeysUndotted := ⟨by decide, by decide⟩
  exact ⟨h, (app.manifestViews_joined h).1, by decide⟩

end FleetConsole
