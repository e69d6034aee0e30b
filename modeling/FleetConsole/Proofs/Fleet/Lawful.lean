import FleetConsole.Fleet.Decode
import FleetConsole.Proofs.Record.Slots

/-!
# Records of resources that are read again

Every record type of the fleet keeps what was read (`Application.lawful`, `Cluster.lawful`,
`ManifestWork.lawful`), except that object metadata holds times, which are written with whole
seconds. The slots of a record type are listed field by field, in the order of its fields: the law
of the codec and, for a field that is always written, a tree that the blank value is read from.
-/

namespace FleetConsole

open Codec Record

/-! ## Object metadata -/

/-- The entry with its time in whole seconds. -/
def ManagedFields.wholeSeconds (m : ManagedFields) : ManagedFields :=
  { m with time := m.time.map Instant.wholeSecond }

/-- The metadata with all its times in whole seconds. -/
def Metadata.wholeSeconds (m : Metadata) : Metadata :=
  { m with
    creation := m.creation.map Instant.wholeSecond
    deletion := m.deletion.map Instant.wholeSecond
    managedFields := m.managedFields.map (List.map ManagedFields.wholeSeconds) }

/-- A text for which null stands too is kept. -/
theorem OwnerReference.lawful_text : (Codec.orNull .string "").Lawful id :=
  lawful_string.orNull (reads_string _) fun _ => nofun

/-- The empty text is read where null stands for it too. -/
theorem OwnerReference.reads_text : (Codec.orNull .string "").Reads "" := ⟨.str "", rfl, rfl⟩

/-- Owner references are kept. -/
theorem OwnerReference.lawful : record.codec.Lawful id :=
  Slots.lawful <| .of_forall₂ (by decide)
    (.cons (.plain lawful_text reads_text rfl rfl) <|
     .cons (.optional_id lawful_bool rfl rfl rfl) <|
     .cons (.optional_id lawful_bool rfl rfl rfl) <|
     .cons (.plain lawful_text reads_text rfl rfl) <|
     .cons (.plain lawful_text reads_text rfl rfl) <|
     .cons (.plain lawful_text reads_text rfl rfl) .nil)
    (by simp [Apart]) fun _ _ => rfl

/-- Entries about managers are kept up to fractions of seconds. -/
theorem ManagedFields.lawful : record.codec.Lawful wholeSeconds :=
  Slots.lawful <| .of_forall₂ (by decide)
    (.cons (.optional_id lawful_string rfl rfl rfl) <|
     .cons (.optional_id lawful_string rfl rfl rfl) <|
     .cons (.optional_id lawful_tree rfl rfl rfl) <|
     .cons (.optional_id lawful_string rfl rfl rfl) <|
     .cons (.optional_id lawful_string rfl rfl rfl) <|
     .cons (.optional_id lawful_string rfl rfl rfl) <|
     .cons (.optional lawful_instant rfl rfl rfl) .nil)
    (by simp [Apart]) fun _ _ => rfl

/-- Object metadata is kept up to fractions of seconds. -/
theorem Metadata.lawful : record.codec.Lawful wholeSeconds :=
  Slots.lawful <| .of_forall₂ (by decide)
    (.cons (.optional_id lawful_string.map_id rfl rfl rfl) <|
     .cons (.optional lawful_instant rfl rfl rfl) <|
     .cons (.optional_id lawful_int64 rfl rfl rfl) <|
     .cons (.optional lawful_instant rfl rfl rfl) <|
     .cons (.optional_id lawful_string.list_id rfl rfl rfl) <|
     .cons (.optional_id lawful_string rfl rfl rfl) <|
     .cons (.optional_id lawful_int64 rfl rfl rfl) <|
     .cons (.optional_id lawful_string.map_id rfl rfl rfl) <|
     .cons (.optional ManagedFields.lawful.list rfl rfl rfl) <|
     .cons (.optional_id lawful_string rfl rfl rfl) <|
     .cons (.optional_id lawful_string rfl rfl rfl) <|
     .cons (.optional_id OwnerReference.lawful.list_id rfl rfl rfl) <|
     .cons (.optional_id lawful_string rfl rfl rfl) <|
     .cons (.optional_id lawful_string rfl rfl rfl) <|
     .cons (.optional_id lawful_string rfl rfl rfl) .nil)
    (by simp [Apart]) fun _ _ => rfl

/-! ## Conditions and applications -/

/-- Conditions are kept. -/
theorem Condition.lawful : record.codec.Lawful id :=
  Slots.lawful <| .of_forall₂ (by decide)
    (.cons (.plain lawful_string (reads_string _) rfl rfl) <|
     .cons (.plain lawful_string (reads_string _) rfl rfl) <|
     .cons (.optional_id lawful_int64 rfl rfl rfl) <|
     .cons (.optional_id lawful_string rfl rfl rfl) <|
     .cons (.plain lawful_string (reads_string _) rfl rfl) <|
     .cons (.plain lawful_string (reads_string _) rfl rfl) .nil)
    (by simp [Apart]) fun _ _ => rfl

/-- Status reports are kept. -/
theorem StatusReport.lawful : record.codec.Lawful id :=
  Slots.lawful <| .of_forall₂ (by decide)
    (.cons (.plain lawful_string (reads_string _) rfl rfl) <|
     .cons (.plain lawful_string (reads_string _) rfl rfl) <|
     .cons (.plain lawful_string (reads_string _) rfl rfl) <|
     .cons (.plain lawful_tree reads_null rfl rfl) .nil)
    (by simp [Apart]) fun _ _ => rfl

/-- Rollout statuses on clusters are kept. -/
theorem ClusterRollout.lawful : record.codec.Lawful id :=
  Slots.lawful <| .of_forall₂ (by decide)
    (.cons (.plain lawful_string (reads_string _) rfl rfl) <|
     .cons (.plain Condition.lawful.list_id (reads_nil _) rfl rfl) <|
     .cons (.optional_id lawful_string rfl rfl rfl) <|
     .cons (.plain lawful_int64 reads_int64 rfl rfl) <|
     .cons (.plain StatusReport.lawful.list_id (reads_nil _) rfl rfl) .nil)
    (by simp [Apart]) fun _ _ => rfl

/-- Workload items are kept. -/
theorem WorkloadItem.lawful : record.codec.Lawful id :=
  Slots.lawful <| .of_forall₂ (by decide)
    (.cons (.plain lawful_tree reads_null rfl rfl) .nil)
    (by simp [Apart]) fun _ _ => rfl

/-- Rollout strategies are kept. -/
theorem RolloutStrategy.lawful : record.codec.Lawful id :=
  Slots.lawful <| .of_forall₂ (by decide)
    (.cons (.plain lawful_string (reads_string _) rfl rfl) .nil)
    (by simp [Apart]) fun _ _ => rfl

/-- Rollback strategies are kept. -/
theorem RollbackStrategy.lawful : record.codec.Lawful id :=
  Slots.lawful <| .of_forall₂ (by decide)
    (.cons (.plain lawful_int32 reads_int32 rfl rfl) <|
     .cons (.plain lawful_int32 reads_int32 rfl rfl) <|
     .cons (.plain lawful_int32 reads_int32 rfl rfl) <|
     .cons (.plain lawful_int32 reads_int32 rfl rfl) .nil)
    (by simp [Apart]) fun _ _ => rfl

/-- Cluster selectors are kept. -/
theorem ClusterSelectors.lawful : record.codec.Lawful id :=
  Slots.lawful <| .of_forall₂ (by decide)
    (.cons (.plain lawful_string.list_id (reads_nil _) rfl rfl) .nil)
    (by simp [Apart]) fun _ _ => rfl

/-- What applications declare is kept. -/
theorem ApplicationSpec.lawful : record.codec.Lawful id :=
  Slots.lawful <| .of_forall₂ (by decide)
    (.cons (.plain lawful_bool (reads_bool _) rfl rfl) <|
     .cons (.plain WorkloadItem.lawful.list_id (reads_nil _) rfl rfl) <|
     .cons (.plain lawful_string (reads_string _) rfl rfl) <|
     .cons (.plain RolloutStrategy.lawful (reads_blank _) rfl rfl) <|
     .cons (.plain RollbackStrategy.lawful (reads_blank _) rfl rfl) <|
     .cons (.plain ClusterSelectors.lawful (reads_blank _) rfl rfl) .nil)
    (by simp [Apart]) fun _ _ => rfl

/-- What is reported about applications is kept. -/
theorem ApplicationStatus.lawful : record.codec.Lawful id :=
  Slots.lawful <| .of_forall₂ (by decide)
    (.cons (.plain ClusterRollout.lawful.list_id (reads_nil _) rfl rfl) <|
     .cons (.plain Condition.lawful.list_id (reads_nil _) rfl rfl) <|
     .cons (.plain lawful_int64 reads_int64 rfl rfl) <|
     .cons (.plain lawful_string (reads_string _) rfl rfl) <|
     .cons (.optional_id (lawful_state fun _ => rfl) rfl rfl rfl) <|
     .cons (.optional_id (lawful_state fun _ => rfl) rfl rfl rfl) <|
     .cons (.optional_id (lawful_state fun _ => rfl) rfl rfl rfl) <|
     .cons (.plain StatusReport.lawful.list_id (reads_nil _) rfl rfl) .nil)
    (by simp [Apart]) fun _ _ => rfl

/-- The application with all its times in whole seconds. -/
def Application.wholeSeconds (a : Application) : Application :=
  { a with metadata := a.metadata.wholeSeconds }

/-- Applications are kept up to fractions of seconds. -/
theorem Application.lawful : record.codec.Lawful wholeSeconds :=
  Slots.lawful <| .of_forall₂ (by decide)
    (.cons (.optional_id lawful_string rfl rfl rfl) <|
     .cons (.optional_id lawful_string rfl rfl rfl) <|
     .cons (.plain Metadata.lawful (reads_blank _) rfl rfl) <|
     .cons (.plain ApplicationSpec.lawful (reads_blank _) rfl rfl) <|
     .cons (.plain ApplicationStatus.lawful (reads_blank _) rfl rfl) .nil)
    (by simp [Apart]) fun _ _ => rfl

/-! ## Clusters -/

/-- What clusters declare is kept. -/
theorem ClusterSpec.lawful : record.codec.Lawful id :=
  Slots.lawful <| .of_forall₂ (by decide)
    (.cons (.plain lawful_string (reads_string _) rfl rfl) <|
     .cons (.plain lawful_string (reads_string _) rfl rfl) <|
     .cons (.plain lawful_string.map_id (reads_empty _) rfl rfl) .nil)
    (by simp [Apart]) fun _ _ => rfl

/-- Steps of provisioning are kept. -/
theorem ProvisioningStep.lawful : record.codec.Lawful id :=
  Slots.lawful <| .of_forall₂ (by decide)
    (.cons (.plain lawful_string (reads_string _) rfl rfl) <|
     .cons (.plain lawful_string (reads_string _) rfl rfl) <|
     .cons (.plain lawful_string (reads_string _) rfl rfl) <|
     .cons (.plain lawful_string (reads_string _) rfl rfl) <|
     .cons (.plain lawful_string.map_id (reads_empty _) rfl rfl) .nil)
    (by simp [Apart]) fun _ _ => rfl

/-- Versions on clusters are kept. -/
theorem ClusterVersion.lawful : record.codec.Lawful id :=
  Slots.lawful <| .of_forall₂ (by decide)
    (.cons (.plain lawful_string (reads_string _) rfl rfl) <|
     .cons (.plain lawful_int64.map_id (reads_empty _) rfl rfl) .nil)
    (by simp [Apart]) fun _ _ => rfl

/-- Node counts are kept. -/
theorem NodeStatus.lawful : record.codec.Lawful id :=
  Slots.lawful <| .of_forall₂ (by decide)
    (.cons (.plain lawful_int64 reads_int64 rfl rfl) <|
     .cons (.plain lawful_int64 reads_int64 rfl rfl) .nil)
    (by simp [Apart]) fun _ _ => rfl

/-- Operating systems are kept. -/
theorem OsDistribution.lawful : record.codec.Lawful id :=
  Slots.lawful <| .of_forall₂ (by decide)
    (.cons (.plain lawful_string (reads_string _) rfl rfl) <|
     .cons (.plain lawful_string (reads_string _) rfl rfl) <|
     .cons (.plain lawful_string (reads_string _) rfl rfl) <|
     .cons (.plain lawful_int64 reads_int64 rfl rfl) .nil)
    (by simp [Apart]) fun _ _ => rfl

/-- What is reported about running clusters is kept. -/
theorem RuntimeStatus.lawful : record.codec.Lawful id :=
  Slots.lawful <| .of_forall₂ (by decide)
    (.cons (.plain ClusterVersion.lawful (reads_blank _) rfl rfl) <|
     .cons (.plain NodeStatus.lawful (reads_blank _) rfl rfl) <|
     .cons (.plain OsDistribution.lawful (reads_blank _) rfl rfl) <|
     .cons (.plain lawful_bool (reads_bool _) rfl rfl) <|
     .cons (.optional_id (lawful_state fun _ => rfl) rfl rfl rfl) <|
     .cons (.optional_id (lawful_state fun _ => rfl) rfl rfl rfl) <|
     .cons (.plain lawful_string (reads_string _) rfl rfl) <|
     .cons (.plain lawful_string.map_id (reads_empty _) rfl rfl) <|
     .cons (.plain lawful_string (reads_string _) rfl rfl) .nil)
    (by simp [Apart]) fun _ _ => rfl

/-- What is reported about clusters is kept. -/
theorem ClusterStatus.lawful : record.codec.Lawful id :=
  Slots.lawful <| .of_forall₂ (by decide)
    (.cons (.plain lawful_string.map_id (reads_empty _) rfl rfl) <|
     .cons (.plain lawful_string (reads_string _) rfl rfl) <|
     .cons (.plain lawful_string (reads_string _) rfl rfl) <|
     .cons (.optional_id (lawful_state fun _ => rfl) rfl rfl rfl) <|
     .cons (.optional_id (lawful_state fun _ => rfl) rfl rfl rfl) <|
     .cons (.plain ProvisioningStep.lawful.list_id (reads_nil _) rfl rfl) <|
     .cons (.plain RuntimeStatus.lawful (reads_blank _) rfl rfl) .nil)
    (by simp [Apart]) fun _ _ => rfl

/-- The cluster with all its times in whole seconds. -/
def Cluster.wholeSeconds (c : Cluster) : Cluster :=
  { c with metadata := c.metadata.wholeSeconds }

/-- Clusters are kept up to fractions of seconds. -/
theorem Cluster.lawful : record.codec.Lawful wholeSeconds :=
  Slots.lawful <| .of_forall₂ (by decide)
    (.cons (.optional_id lawful_string rfl rfl rfl) <|
     .cons (.optional_id lawful_string rfl rfl rfl) <|
     .cons (.plain Metadata.lawful (reads_blank _) rfl rfl) <|
     .cons (.plain ClusterSpec.lawful (reads_blank _) rfl rfl) <|
     .cons (.plain ClusterStatus.lawful (reads_blank _) rfl rfl) .nil)
    (by simp [Apart]) fun _ _ => rfl

/-! ## Manifest works -/

/-- Manifests to deliver are kept. -/
theorem ManifestsTemplate.lawful : record.codec.Lawful id :=
  Slots.lawful <| .of_forall₂ (by decide)
    (.cons (.plain lawful_tree.list_id (reads_nil _) rfl rfl) .nil)
    (by simp [Apart]) fun _ _ => rfl

/-- What manifest works declare is kept. -/
theorem ManifestWorkSpec.lawful : record.codec.Lawful id :=
  Slots.lawful <| .of_forall₂ (by decide)
    (.cons (.plain ManifestsTemplate.lawful (reads_blank _) rfl rfl) .nil)
    (by simp [Apart]) fun _ _ => rfl

/-- What is reported about manifest works is kept. -/
theorem ManifestWorkStatus.lawful : record.codec.Lawful id :=
  Slots.lawful <| .of_forall₂ (by decide)
    (.cons (.plain lawful_int64 reads_int64 rfl rfl) <|
     .cons (.plain Condition.lawful.list_id (reads_nil _) rfl rfl) <|
     .cons (.optional_id (lawful_state fun _ => rfl) rfl rfl rfl) <|
     .cons (.optional_id lawful_string rfl rfl rfl) <|
     .cons (.plain StatusReport.lawful.list_id (reads_nil _) rfl rfl) <|
     .cons (.plain lawful_int64 reads_int64 rfl rfl) <|
     .cons (.plain lawful_int64 reads_int64 rfl rfl) <|
     .cons (.plain lawful_int64 reads_int64 rfl rfl) <|
     .cons (.optional_id (lawful_state fun _ => rfl) rfl rfl rfl) .nil)
    (by simp [Apart]) fun _ _ => rfl

/-- The manifest work with all its times in whole seconds. -/
def ManifestWork.wholeSeconds (w : ManifestWork) : ManifestWork :=
  { w with metadata := w.metadata.wholeSeconds }

/-- Manifest works are kept up to fractions of seconds. -/
theorem ManifestWork.lawful : record.codec.Lawful wholeSeconds :=
  Slots.lawful <| .of_forall₂ (by decide)
    (.cons (.optional_id lawful_string rfl rfl rfl) <|
     .cons (.optional_id lawful_string rfl rfl rfl) <|
     .cons (.plain Metadata.lawful (reads_blank _) rfl rfl) <|
     .cons (.plain ManifestWorkSpec.lawful (reads_blank _) rfl rfl) <|
     .cons (.plain ManifestWorkStatus.lawful (reads_blank _) rfl rfl) .nil)
    (by simp [Apart]) fun _ _ => rfl

end FleetConsole
