import FleetConsole.Proofs.Rollout.ManifestView
import FleetConsole.Proofs.Table.Health
import FleetConsole.Table.Layout

/-!
# The health of a rollout

The rows about one application show how well it does on each cluster and how well each of its
manifests does. A cluster needs attention exactly if the application is reported not to be ready
there, and it is nominal exactly if the application is ready and the last deployment has its
replicas (`Application.clusterViews_graded`). Replicas are compared as the numbers nearest to the
integers reported (`Replicas.RoundsTo`). A manifest never needs attention: it waits for its report,
and a deployment for its replicas (`Application.manifestViews_graded`).
-/

namespace FleetConsole

/-! ## Clusters -/

namespace ClusterRollout

/-- The last word on whether the application is ready on the cluster. -/
def Ready (source : ClusterRollout) (status : String) : Prop :=
  ∃ c, IsLast (·.type = "Ready") c source.conditions ∧ c.status = status

/-- The deployment that was reported last, if there is one, has as many replicas available as there
are. -/
def Served (source : ClusterRollout) : Prop :=
  ∀ report, IsLast (·.kind = "Deployment") report source.reports →
    Replicas.value "replicas" report.status ≤ Replicas.value "availableReplicas" report.status

/-- The row of a cluster is graded by what is reported about it. The counts that are compared are
those reported, rounded if they are integers. -/
structure Graded (source : ClusterRollout) (row : Row) : Prop where
  attention : row.health = .attention ↔ source.Ready "False"
  nominal : row.health = .nominal ↔ source.Ready "True" ∧ source.Served
  pending : row.health = .pending ↔ ¬ source.Ready "False" ∧ ¬ (source.Ready "True" ∧ source.Served)
  rounded : ∀ report ∈ source.reports, ∀ object, Embedded.object report.status = .ok object →
    ∀ key n, object.get? key = some (.int n) → n.natAbs < 2 ^ 64 →
      Replicas.RoundsTo n (Replicas.value key report.status)

/-- The last word is the status of the condition that the view finds. -/
theorem ready_iff {source : ClusterRollout} {status : String} :
    source.Ready status ↔ (ClusterView.mk source).ready?.map (·.status) = some status := by
  rw [Option.map_eq_some_iff]
  simp only [ClusterView.ready?, Condition.last?, find?_reverse_eq_some_iff]
  rfl

/-- Readiness is graded by the last word on it. -/
theorem grade_readyStatus (source : ClusterRollout) :
    (HealthScheme.ready.grade (ClusterView.mk source).readyStatus = .attention ↔
        source.Ready "False") ∧
      (HealthScheme.ready.grade (ClusterView.mk source).readyStatus = .nominal ↔
        source.Ready "True") := by
  rw [ready_iff, ready_iff, ClusterView.readyStatus]
  cases (ClusterView.mk source).ready?.map (·.status) with
  | none => decide
  | some status =>
    by_cases hempty : status = ""
    · subst hempty
      decide
    · have hfilter : (some status).filter (· ≠ "") = some status := by simp [hempty]
      rw [hfilter]
      simp only [HealthScheme.grade, HealthScheme.gradeLabel, Option.some.injEq]
      by_cases htrue : status = "True"
      · subst htrue
        decide
      by_cases hfalse : status = "False"
      · subst hfalse
        decide
      · simp [htrue, hfalse]

/-- Replicas are graded by the last deployment. -/
theorem grade_replicas (source : ClusterRollout) :
    HealthScheme.workload.grade (some (ClusterView.mk source).replicas) ≠ .attention ∧
      (HealthScheme.workload.grade (some (ClusterView.mk source).replicas) = .nominal ↔
        source.Served) := by
  have hlast (report : StatusReport) :
      source.reports.reverse.find? (·.kind = Replicas.deploymentKind) = some report ↔
        IsLast (·.kind = "Deployment") report source.reports := find?_reverse_eq_some_iff
  unfold ClusterView.replicas
  cases hfind : source.reports.reverse.find? (·.kind = Replicas.deploymentKind) with
  | none =>
    refine ⟨by decide, fun _ report hreport => ?_, fun _ => by decide⟩
    rw [← hlast, hfind] at hreport
    cases hreport
  | some report =>
    have hserved : source.Served ↔ Replicas.value "replicas" report.status ≤
        Replicas.value "availableReplicas" report.status := by
      constructor
      · intro h
        exact h report ((hlast report).mp hfind)
      · intro hle other hother
        rw [← hlast, hfind] at hother
        obtain rfl := Option.some.inj hother
        exact hle
    simp only [HealthScheme.grade, HealthScheme.gradeLabel_fraction, hserved]
    split_ifs with h
    · exact ⟨by decide, iff_of_true rfl h⟩
    · exact ⟨by decide, iff_of_false (by decide) h⟩

/-- The row of a cluster is graded by what is reported about it. -/
theorem graded_row (source : ClusterRollout) :
    Graded source (Layout.clusterViews.row ⟨source⟩) := by
  -- The row shows the worse of two grades, and only readiness is ever graded as attention.
  obtain ⟨hattention, hready⟩ := source.grade_readyStatus
  obtain ⟨hnever, hserved⟩ := source.grade_replicas
  have hworst : (Layout.clusterViews.row ⟨source⟩).health = .attention ↔ source.Ready "False" := by
    rw [← hattention]
    exact Health.worse_eq_attention_iff.trans (or_iff_left hnever)
  have hbest : (Layout.clusterViews.row ⟨source⟩).health = .nominal ↔
      source.Ready "True" ∧ source.Served := by
    rw [← hready, ← hserved]
    exact Health.worse_eq_nominal_iff
  refine ⟨hworst, hbest, ?_, fun _ _ _ hobject _ _ => Replicas.roundsTo_value hobject⟩
  rw [← hworst, ← hbest]
  cases (Layout.clusterViews.row ⟨source⟩).health <;> decide

end ClusterRollout

/-- Every cluster of an application has a row, in the order in which they are reported, which is
graded by what is reported about it. -/
theorem Application.clusterViews_graded (app : Application) :
    List.Forall₂ ClusterRollout.Graded app.status.clusters
      (Layout.clusterViews.table app.clusterViews).rows := by
  simp only [Layout.table, clusterViews, List.map_map]
  rw [List.forall₂_map_right_iff, List.forall₂_same]
  exact fun source _ => source.graded_row

/-- Counts of more than 53 binary digits are compared as they are rounded: here one replica is
missing, and the row is nominal. -/
theorem Application.clusterViews_rounded :
    let counts : Json :=
      .obj [("availableReplicas", .int 9007199254740992), ("replicas", .int 9007199254740993)]
    let report : StatusReport := ⟨"web", "shop", "Deployment", counts⟩
    let source : ClusterRollout :=
      { cluster := "east", conditions := [{ type := "Ready", status := "True" }]
        reports := [report] }
    let app : Application := { status := { clusters := [source] } }
    source.Ready "True" ∧ IsLast (·.kind = "Deployment") report source.reports ∧
      Embedded.object report.status = .ok counts ∧
      (∃ available all : ℤ, counts.get? "availableReplicas" = some (.int available) ∧
        counts.get? "replicas" = some (.int all) ∧ ¬ all ≤ available) ∧
      (Layout.clusterViews.table app.clusterViews).rows.map (·.health) = [.nominal] := by
  intro counts report source app
  refine ⟨⟨_, ⟨rfl, [], [], rfl, nofun⟩, rfl⟩, ⟨rfl, [], [], rfl, nofun⟩, rfl,
    ⟨_, _, rfl, rfl, by decide⟩, ?_⟩
  decide +kernel

/-! ## Manifests -/

/-- An integer that an object gives for a count: the value of a number of at most 53 binary digits,
and zero if there is no number under the key. The zero with a sign is none of them. -/
inductive Replicas.States (object : Json) (key : String) : ℤ → Prop
  | absent (h : object.get? key = none) : States object key 0
  | notANumber {j : Json} (h : object.get? key = some j) (hj : j.double? = none) :
      States object key 0
  | integer {n : ℤ} (h : object.get? key = some (.int n)) (hn : n.natAbs ≤ 2 ^ 53) :
      States object key n
  | float {x : Double} {n : ℤ} (h : object.get? key = some (.float x)) (hx : x ≠ .zero true)
      (hvalue : x.value = n) (hn : n.natAbs ≤ 2 ^ 53) : States object key n

/-- Such a count is shown as the integer, and it is worth the integer. -/
theorem Replicas.States.count_spec {object : Json} {key : String} {n : ℤ}
    (h : States object key n) :
    (count key object).text = toString n ∧ (count key object).value = n := by
  have hcount : count key object = ((object.get? key).bind Json.double?).getD (.zero false) := by
    unfold count Json.doubleAt?
    simp only [Json.path?, Option.bind_fun_some]
  rw [hcount]
  cases h with
  | absent h =>
    rw [h]
    exact ⟨Double.text_zero, by exact_mod_cast Double.value_zero⟩
  | notANumber h hj =>
    rw [h, Option.bind_some, hj]
    exact ⟨Double.text_zero, by exact_mod_cast Double.value_zero⟩
  | integer h hn =>
    rw [h]
    exact ⟨Binary64.text_doubleOfInt hn, Binary64.value_doubleOfInt hn⟩
  | float h hx hvalue hn =>
    rw [h]
    exact ⟨Double.text_of_value hx hvalue hn, hvalue⟩

namespace WorkloadItem

/-- The key of the object that an item declares. -/
def key (item : WorkloadItem) : String :=
  let i := ManifestIdentity.ofManifest item.manifest
  manifestKey i.ns i.name i.kind

/-- The row of an item of the workload is graded by the last report with its key. -/
structure Graded (reports : List StatusReport) (item : WorkloadItem) (row : Row) : Prop where
  never : row.health ≠ .attention
  unreported : (∀ r ∈ reports, r.key ≠ item.key) → row.health = .pending
  reported : ∀ r ∈ reports, r.key = item.key →
    (ManifestIdentity.ofManifest item.manifest).kind ≠ "Deployment" → row.health = .nominal
  deployment : ∀ r, IsLast (·.key = item.key) r reports →
    (ManifestIdentity.ofManifest item.manifest).kind = "Deployment" →
    ∀ object, Embedded.object r.status = .ok object →
    ∀ available all, Replicas.States object "availableReplicas" available →
      Replicas.States object "replicas" all →
      (Layout.manifestViews.header.zip row.cells).lookup ⟨"REPLICAS", false⟩ =
          some (.text (toString available ++ "/" ++ toString all)) ∧
        row.health = if all ≤ available then .nominal else .pending

/-- The view of an item finds the last report with the key of the item. -/
theorem report_join (reports : List StatusReport) (item : WorkloadItem) (r : StatusReport) :
    (ManifestView.join (.ofReports reports) item.manifest).report = some r ↔
      IsLast (·.key = item.key) r reports := by
  rw [← find?_reverse_eq_some_iff, ← ReportIndex.get?_ofReports]
  rfl

/-- A view without a report waits for it. -/
theorem health_of_report_none {v : ManifestView} (h : v.report = none) :
    (Layout.manifestViews.row v).health = .pending := by
  simp only [Layout.manifestViews, h]
  rfl

/-- A reported deployment is graded by its replicas. -/
theorem health_of_deployment {v : ManifestView} {r : StatusReport} (h : v.report = some r)
    (hkind : v.identity.kind = "Deployment") :
    v.replicas = Replicas.fraction r.status ∧
      (Layout.manifestViews.row v).health =
        if Replicas.value "replicas" r.status ≤ Replicas.value "availableReplicas" r.status
        then .nominal else .pending := by
  have hreplicas : v.replicas = Replicas.fraction r.status := by
    simp only [ManifestView.replicas, h]
    exact if_pos hkind
  refine ⟨hreplicas, ?_⟩
  simp only [Layout.manifestViews, h, hreplicas, Option.map_some]
  exact HealthScheme.gradeLabel_fraction r.status

/-- Everything else that is reported is nominal. -/
theorem health_of_kind_ne {v : ManifestView} {r : StatusReport} (h : v.report = some r)
    (hkind : v.identity.kind ≠ "Deployment") : (Layout.manifestViews.row v).health = .nominal := by
  have hreplicas : v.replicas = Replicas.unknown := by
    simp only [ManifestView.replicas, h]
    exact if_neg hkind
  simp only [Layout.manifestViews, h, hreplicas, Option.map_some]
  decide

/-- The row of an item is graded by the last report with its key. -/
theorem graded_row (reports : List StatusReport) (item : WorkloadItem) :
    Graded reports item
      (Layout.manifestViews.row (ManifestView.join (.ofReports reports) item.manifest)) := by
  have hidentity : (ManifestView.join (.ofReports reports) item.manifest).identity =
      ManifestIdentity.ofManifest item.manifest := rfl
  have hlast := report_join reports item
  -- The row depends on the identity and on the report alone.
  generalize ManifestView.join (.ofReports reports) item.manifest = v at hidentity hlast
  cases hreport : v.report with
  | none =>
    have hhealth := health_of_report_none hreport
    have hnone {r : StatusReport} : ¬ IsLast (·.key = item.key) r reports := by
      rw [← hlast, hreport]
      nofun
    refine ⟨by rw [hhealth]; decide, fun _ => hhealth, fun r hr hkey => ?_,
      fun r hr => absurd hr hnone⟩
    obtain ⟨r', hr'⟩ := exists_isLast (p := (·.key = item.key)) hr hkey
    exact absurd hr' hnone
  | some r =>
    have hr := (hlast r).mp hreport
    refine ⟨?_, fun hno => absurd hr.1 (hno r hr.mem), fun _ _ _ hkind => ?_,
      fun r' hr' hkind object hobject available all havailable hall => ?_⟩
    · by_cases hkind : v.identity.kind = "Deployment"
      · rw [(health_of_deployment hreport hkind).2]
        split <;> decide
      · rw [health_of_kind_ne hreport hkind]
        decide
    · exact health_of_kind_ne hreport (hidentity ▸ hkind)
    · rw [← hlast, hreport] at hr'
      obtain rfl := Option.some.inj hr'
      obtain ⟨hreplicas, hhealth⟩ := health_of_deployment hreport (hidentity ▸ hkind)
      constructor
      · have hfraction : v.replicas = toString available ++ "/" ++ toString all := by
          rw [hreplicas, Replicas.fraction, hobject]
          simp only [havailable.count_spec.1, hall.count_spec.1]
        rw [← hfraction]
        rfl
      · rw [hhealth, ← Replicas.value_count hobject, ← Replicas.value_count hobject,
          havailable.count_spec.2, hall.count_spec.2]
        simp only [Int.cast_le]

end WorkloadItem

/-- Every item of a workload has a row, in the order of the workload, which is graded by the last
report with the key of the item. -/
theorem Application.manifestViews_graded (app : Application) :
    List.Forall₂ (WorkloadItem.Graded app.status.reports) app.spec.workload
      (Layout.manifestViews.table app.manifestViews).rows := by
  simp only [Layout.table, manifestViews, List.map_map]
  rw [List.forall₂_map_right_iff, List.forall₂_same]
  exact fun item _ => item.graded_row app.status.reports

/-- Counts may be negative, and what is not reported or has no replicas shows a dash. -/
example :
    let item (name kind : String) : WorkloadItem :=
      ⟨.obj [("kind", .str kind), ("metadata", .obj [("name", .str name)])]⟩
    let counts (available all : Int) : Json :=
      .obj [("availableReplicas", .int available), ("replicas", .int all)]
    let app : Application :=
      { spec :=
          { workload := [item "web" "Deployment", item "db" "Deployment", item "web" "Service",
              item "db" "Service"] }
        status :=
          { reports := [⟨"web", "", "Deployment", counts 2 3⟩,
              ⟨"db", "", "Deployment", counts 1 (-1)⟩, ⟨"web", "", "Service", .null⟩] } }
    let rows := (Layout.manifestViews.table app.manifestViews).rows
    rows.map (fun r => (r.cells.getLast?, r.health)) =
      [(some (.text "2/3"), .pending), (some (.text "1/-1"), .nominal),
       (some (.text "-"), .nominal), (some (.text "-"), .pending)] := by
  decide +kernel

end FleetConsole
