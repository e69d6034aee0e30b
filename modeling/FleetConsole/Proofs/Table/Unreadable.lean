import FleetConsole.Proofs.Json.Lookup
import FleetConsole.Proofs.Table.Rollout

/-!
# Manifests that cannot be read

A manifest that holds no object has a blank identity, and it is joined with reports as every other
manifest is. No report about an object has the key of this identity
(`StatusReport.key_eq_blank_iff`), but a report may leave out the namespace, the name and the kind.
`Application.manifestViews_unreadable` says what comes of it: such a manifest waits for its report,
unless there are reports about nothing, of which it is given the last one.
-/

namespace FleetConsole

/-- Payloads that hold no object: values other than objects and texts, and texts that are no YAML
mapping. -/
inductive Embedded.Unreadable : Json → Prop
  | null : Unreadable .null
  | bool (b : Bool) : Unreadable (.bool b)
  | int (n : Int) : Unreadable (.int n)
  | float (x : Double) : Unreadable (.float x)
  | arr (items : List Json) : Unreadable (.arr items)
  | text {s : String} (h : ∀ entries, Yaml.tree? s ≠ some (.obj entries)) : Unreadable (.str s)

/-- These are the payloads that are not read. -/
theorem Embedded.exists_error_iff {payload : Json} :
    (∃ e, object payload = .error e) ↔ Unreadable payload := by
  constructor
  · rintro ⟨e, he⟩
    cases payload with
    | obj entries => cases he
    | str s =>
      refine .text fun entries htree => ?_
      simp [object, htree, Json.isObject] at he
    | null => exact .null
    | bool b => exact .bool b
    | int n => exact .int n
    | float x => exact .float x
    | arr items => exact .arr items
  · intro h
    cases h with
    | null | bool | int | float | arr => exact ⟨_, rfl⟩
    | @text s htext =>
      cases htree : Yaml.tree? s with
      | none => exact ⟨.malformed, by simp only [object, htree]⟩
      | some tree =>
        have hobject : ¬ tree.isObject := fun htrue => by
          obtain ⟨entries, rfl⟩ := Json.exists_entries htrue
          exact htext entries htree
        exact ⟨.notAnObject, by simp only [object, htree, if_neg hobject]⟩

/-- A manifest that cannot be read has a blank identity. -/
theorem ManifestIdentity.ofManifest_of_unreadable {manifest : Json}
    (h : Embedded.Unreadable manifest) : ofManifest manifest = {} := by
  obtain ⟨e, he⟩ := Embedded.exists_error_iff.mpr h
  rw [ofManifest, he]

/-- A report that names no object. -/
def StatusReport.IsAnonymous (r : StatusReport) : Prop := r.ns = "" ∧ r.name = "" ∧ r.kind = ""

instance : DecidablePred StatusReport.IsAnonymous :=
  fun _ => inferInstanceAs (Decidable (_ ∧ _ ∧ _))

/-- The key of the blank identity is that of reports which name no object. -/
theorem StatusReport.key_eq_blank_iff {r : StatusReport} :
    r.key = manifestKey "" "" "" ↔ r.IsAnonymous := by
  constructor
  · intro h
    have hlength := congrArg String.length h
    simp only [key, manifestKey, String.length_append] at hlength
    have hdot : ".".length = 1 := rfl
    have hempty : "".length = 0 := rfl
    refine ⟨?_, ?_, ?_⟩ <;> rw [← String.length_eq_zero_iff] <;> omega
  · rintro ⟨hns, hname, hkind⟩
    rw [key, hns, hname, hkind]

/-- What is shown of a manifest that cannot be read, with the reports that there are. -/
structure ManifestView.Blank (reports : List StatusReport) (v : ManifestView) (row : Row) :
    Prop where
  identity : v.identity = {}
  name : v.displayName = "_"
  replicas : v.replicas = "-"
  cells : row.cells = [.text "_", .text "", .text "-"]
  /-- It is given the last report that names no object. -/
  report : ∀ r, v.report = some r ↔ IsLast StatusReport.IsAnonymous r reports
  /-- If there is none, it waits for its report. -/
  unreported : (∀ r ∈ reports, ¬ r.IsAnonymous) → v.report = none ∧ row.health = .pending
  /-- If there is one, it is as well as everything that is reported and has no replicas. -/
  reported : (∃ r ∈ reports, r.IsAnonymous) → row.health = .nominal

/-- An item whose manifest cannot be read is shown as such. -/
theorem WorkloadItem.blank_join {item : WorkloadItem} (h : Embedded.Unreadable item.manifest)
    (reports : List StatusReport) :
    (ManifestView.join (.ofReports reports) item.manifest).Blank reports
      (Layout.manifestViews.row (ManifestView.join (.ofReports reports) item.manifest)) := by
  have hblank := ManifestIdentity.ofManifest_of_unreadable h
  have hreport (r : StatusReport) :
      (ManifestView.join (.ofReports reports) item.manifest).report = some r ↔
        IsLast StatusReport.IsAnonymous r reports := by
    rw [report_join, WorkloadItem.key, hblank]
    exact isLast_congr (fun _ _ => StatusReport.key_eq_blank_iff) r
  have hidentity : (ManifestView.join (.ofReports reports) item.manifest).identity = {} := hblank
  -- The row depends on the identity and on the report alone.
  generalize ManifestView.join (.ofReports reports) item.manifest = v at hreport hidentity
  have hname : v.displayName = "_" := by
    rw [ManifestView.displayName, hidentity]
    rfl
  have hreplicas : v.replicas = "-" := by
    unfold ManifestView.replicas
    rw [hidentity]
    cases v.report <;> rfl
  refine ⟨hidentity, hname, hreplicas, ?_, hreport, fun hnone => ?_, ?_⟩
  · simp only [Layout.manifestViews, hname, hreplicas, hidentity]
  · have hno := eq_none_of_isLast hreport hnone
    exact ⟨hno, health_of_report_none hno⟩
  · rintro ⟨r, hr, hanonymous⟩
    obtain ⟨last, hlast⟩ := exists_isLast hr hanonymous
    refine health_of_kind_ne ((hreport last).mpr hlast) ?_
    rw [hidentity]
    decide

/-- An item of the workload whose manifest cannot be read has a view and a row in its place, with
neither name nor replicas. If no report leaves out the namespace, the name and the kind, then the
view has no report and the row is pending; otherwise the view has the last one of these reports, and
the row is nominal. -/
theorem Application.manifestViews_unreadable (app : Application) {i : Nat} {item : WorkloadItem}
    (hitem : app.spec.workload[i]? = some item) (h : Embedded.Unreadable item.manifest) :
    ∃ v row, app.manifestViews[i]? = some v ∧
      (Layout.manifestViews.table app.manifestViews).rows[i]? = some row ∧
      v.Blank app.status.reports row := by
  have hview : app.manifestViews[i]? =
      some (ManifestView.join (.ofReports app.status.reports) item.manifest) := by
    rw [manifestViews, List.getElem?_map, hitem]
    rfl
  refine ⟨_, _, hview, ?_, item.blank_join h app.status.reports⟩
  rw [Layout.table, List.getElem?_map, hview]
  rfl

/-- A text that holds a list is no manifest, and a report that has a kind is not about it. -/
theorem Application.manifestViews_unreadable_list :
    let app : Application :=
      { spec := { workload := [⟨.obj [("kind", .str "Service")]⟩, ⟨.str "[web]"⟩] }
        status := { reports := [{ kind := "Service" }] } }
    Embedded.Unreadable (.str "[web]") ∧
      ∃ v row, app.manifestViews[1]? = some v ∧
        (Layout.manifestViews.table app.manifestViews).rows[1]? = some row ∧
        v.report = none ∧ row.health = .pending := by
  intro app
  have htree : Yaml.tree? "[web]" = some (.arr [.str "web"]) := by decide +kernel
  have h : Embedded.Unreadable (.str "[web]") := .text fun entries heq => by
    rw [htree] at heq
    cases heq
  obtain ⟨v, row, hv, hrow, hblank⟩ := app.manifestViews_unreadable (i := 1) rfl h
  have hnone : ∀ r ∈ app.status.reports, ¬ r.IsAnonymous := by decide
  exact ⟨h, v, row, hv, hrow, hblank.unreported hnone⟩

/-- A number is no manifest, and yet it is given the report that names no object, so that its row is
nominal. -/
theorem Application.manifestViews_anonymous :
    let app : Application :=
      { spec := { workload := [⟨.int 42⟩] }
        status := { reports := [{}] } }
    Embedded.Unreadable (.int 42) ∧ app.manifestViews.map (·.report) = [some {}] ∧
      (Layout.manifestViews.table app.manifestViews).rows.map (·.health) = [.nominal] := by
  intro app
  exact ⟨.int 42, by decide, by decide⟩

end FleetConsole
