import HmcReconcilers.ManagedClusterController.ClusterStatus
import HmcReconcilers.ManagedClusterController.Services

/-!
# One `Update` pass of the managed-cluster controller

`ManagedClusterReconciler.Update` is a short-circuiting pipeline over
independent conditions.  It first makes sure the managed cluster carries
its finalizer (a pass that adds it does nothing else), then, under a
deferred `updateStatus`, checks the `ClusterTemplate` (`TemplateReady`),
fetches, downloads and dry-run installs its chart (`HelmChartReady`),
reconciles the cluster's `HelmRelease` (`HelmReleaseReady`), copies the CAPI
`Cluster` conditions in, and once everything is ready reconciles the add-on
profile.  The deferred `updateStatus` computes the aggregate `Ready`
condition from all the others and writes the status, also when the body
panics.

A pass is a function of the managed cluster it fetched and of what its
collaborators answer (`Collaborators`).  Its effect is the list of API writes
it makes (`Call`), the status it hands to `Status().Update`, and how it ends.
The statements over a pass hold for every answer of every collaborator.
-/

namespace HmcReconcilers.ManagedClusterController

open HmcReconcilers TemplateController

/-- The configuration of `ManagedClusterReconciler`. -/
structure ManagedClusterReconciler where
  systemNamespace : String
  /--
  The conditions `ManagedCluster.InitConditions` sets, through
  `SetStatusCondition`, on a cluster without conditions.  The method is
  declared in the API package, which is not part of the sources.
  -/
  initialConditions : ManagedClusterSpec → List Condition

/-- How the `Get` of the cluster's `HelmRelease` in `Delete` ended. -/
inductive ReleaseLookup where
  | found
  | notFound
  | failed
deriving DecidableEq, Repr

/-- The API writes a pass makes, and the release lookup of `Delete`, in order. -/
inductive Call where
  /-- `r.Client.Update` of the managed cluster with these finalizers. -/
  | updateFinalizers (finalizers : List String) (succeeded : Bool)
  /-- The `Get` of the cluster's `HelmRelease`. -/
  | getHelmRelease (lookup : ReleaseLookup)
  /-- `helm.ReconcileHelmRelease` of the release with this key. -/
  | reconcileHelmRelease (key : NamespacedName) (succeeded : Bool)
  /-- `sveltos.ReconcileClusterProfile` of the cluster's profile. -/
  | reconcileClusterProfile (key : NamespacedName) (succeeded : Bool)
  /-- `sveltos.DeleteClusterProfile`. -/
  | deleteClusterProfile (key : NamespacedName) (succeeded : Bool)
  /-- `helm.DeleteHelmRelease`. -/
  | deleteHelmRelease (key : NamespacedName) (succeeded : Bool)
  /-- The infrastructure release gate `releaseCluster`. -/
  | releaseCluster
  /-- `Status().Update` of the managed cluster. -/
  | updateStatus (succeeded : Bool)
deriving DecidableEq, Repr

/-- An infrastructure cluster object (`PartialObjectMetadata`): its name and finalizers. -/
structure InfraCluster where
  name : String
  ns : String
  finalizers : List String
deriving DecidableEq, Repr

/-- What the collaborators of one reconcile pass answer. -/
structure Collaborators where
  /-- The error of the `Get` of the `Management` on a cluster's first pass, if any. -/
  getManagement : Option ApiError
  /-- `r.Get` of a `ClusterTemplate`; only its status is read. -/
  getClusterTemplate : NamespacedName → Except ApiError TemplateStatus
  /-- Service templates, charts, repositories and the profile reconcile. -/
  services : ServiceCollaborators
  /-- `helm.DownloadChartFromArtifact`. -/
  downloadChart : Option Artifact → Except String Chart
  /-- The error of `actionConfig.Init`, if any. -/
  actionInit : Option String
  /-- `managedCluster.HelmValues()`. -/
  helmValues : Except String JsonValue
  /-- The client-only dry-run `install.RunWithContext` of a chart with values. -/
  installDryRun : Chart → JsonValue → Option String
  /-- `helm.ReconcileHelmRelease` of the release with this key: the release, or the error. -/
  reconcileHelmRelease : NamespacedName → Except String HelmRelease
  /-- The dynamic-client `List` of the CAPI clusters labelled with the cluster's name. -/
  listClusters : Except ApiError (List ClusterObject)
  /-- The `Get` of the cluster's `HelmRelease` in `Delete`. -/
  getHelmRelease : Except ApiError HelmRelease
  /-- The error of `sveltos.DeleteClusterProfile`, if any. -/
  deleteClusterProfile : Option String
  /-- The error of `helm.DeleteHelmRelease`, if any. -/
  deleteHelmRelease : Option String
  /-- The infrastructure objects of a kind labelled with the release name. -/
  listInfraClusters : String → NamespacedName → Except ApiError (List InfraCluster)
  /-- The objects of a machine kind labelled with a cluster name (`Limit: 1`). -/
  listMachines : String → NamespacedName → Except ApiError (List String)
  /-- The error of the metadata patch of an infrastructure object, if any. -/
  patchInfraCluster : InfraCluster → Option String
  /-- The error of `r.Client.Update` of the managed cluster, if any. -/
  objectUpdate : Option String
  /-- The error of `Status().Update` of the managed cluster, if any. -/
  statusUpdate : Option String

/-- What one pass does: its writes in order, the status it writes, and how it ends. -/
structure PassEffects where
  calls : List Call
  statusWrite : Option ManagedClusterStatus
  exit : Exit (Result × Option String)

/-! ## The aggregate `Ready` condition -/

/-- The messages, each followed by `". "`, of the non-`Ready` conditions with a status. -/
def conditionMessages (status : String) : List Condition → String
  | [] => ""
  | condition :: rest =>
      (if condition.type ≠ readyCondition ∧ condition.status = status then
        condition.message ++ ". " else "") ++ conditionMessages status rest

/-- The `Ready` condition `updateStatus` computes from the other conditions. -/
def readyConditionOf (conditions : List Condition) : Condition :=
  let warnings := conditionMessages conditionUnknown conditions
  let errs := conditionMessages conditionFalse conditions
  let condition : Condition :=
    ⟨readyCondition, conditionTrue, succeededReason, "ManagedCluster is ready"⟩
  let condition :=
    if warnings ≠ "" then
      { condition with status := conditionUnknown, reason := progressingReason, message := warnings }
    else condition
  if errs ≠ "" then
    { condition with status := conditionFalse, reason := failedReason, message := errs }
  else condition

/-- `ManagedClusterReconciler.updateStatus`: the status handed to `Status().Update`. -/
def updateStatus (managedCluster : ManagedCluster) (conditions : List Condition) :
    ManagedClusterStatus where
  observedGeneration := managedCluster.generation
  conditions := setStatusCondition conditions (readyConditionOf conditions)

/-! ## The pipeline -/

/-- How the body of `Update`, under the deferred `updateStatus`, ends. -/
structure BodyEnd where
  conditions : List Condition
  calls : List Call
  exit : Exit (Result × Option String)

/-- A body exit that sets one condition to `False` and returns the error. -/
def failCondition (conditions : List Condition) (conditionType message err : String) : BodyEnd :=
  ⟨setStatusCondition conditions ⟨conditionType, conditionFalse, failedReason, message⟩, [],
    .returns (.done, some err)⟩

/-- `ManagedClusterReconciler.getSource`: the `HelmChart` a template's status points at. -/
def getSource (store : SourceStore) : Option SourceRef → Except String HelmChart
  | none => .error "helm chart source is not provided"
  | some ref => (store.getHelmChart ⟨ref.ns, ref.name⟩).mapError ApiError.error

/-- `ManagedClusterReconciler.validateReleaseWithValues`: the dry-run error, if any. -/
def validateReleaseWithValues (collaborators : Collaborators) (hcChart : Chart) : Option String :=
  match collaborators.helmValues with
  | .error err => some err
  | .ok vals => collaborators.installDryRun hcChart vals

/-- The key of the cluster's own release and profile. -/
def clusterKey (managedCluster : ManagedCluster) : NamespacedName :=
  ⟨managedCluster.ns, managedCluster.name⟩

/-- The profile write `updateServices` made, as a call. -/
def profileCalls (managedCluster : ManagedCluster) (services : ServicesPass) : List Call :=
  match services.profileWrite with
  | some _ => [.reconcileClusterProfile (clusterKey managedCluster) (services.error = none)]
  | none => []

/-- `HelmReleaseReady` mirrors the release's own `Ready` condition, when it has one. -/
def mirrorReleaseReady (conditions : List Condition) (release : HelmRelease) : List Condition :=
  match findStatusCondition release.conditions readyConditionType with
  | some ready =>
      setStatusCondition conditions
        ⟨helmReleaseReadyCondition, ready.status, ready.reason, ready.message⟩
  | none => conditions

/-- `Update` after the release reconcile: CAPI conditions, readiness, the add-on profile. -/
def clusterStage (collaborators : Collaborators) (managedCluster : ManagedCluster)
    (conditions : List Condition) (release : HelmRelease) : BodyEnd :=
  let calls := [Call.reconcileHelmRelease (clusterKey managedCluster) true]
  match setStatusFromClusterStatus managedCluster (mirrorReleaseReady conditions release)
      collaborators.listClusters with
  | .panics reason => ⟨mirrorReleaseReady conditions release, calls, .panics reason⟩
  | .returns result =>
      match result.error with
      | some err =>
          ⟨result.conditions, calls,
            .returns (if result.requeue then ⟨defaultRequeueInterval⟩ else .done, some err)⟩
      | none =>
          if result.requeue then ⟨result.conditions, calls, .returns (⟨defaultRequeueInterval⟩, none)⟩
          else if release.isReady = false then
            ⟨result.conditions, calls, .returns (⟨defaultRequeueInterval⟩, none)⟩
          else
            let services := updateServices collaborators.services managedCluster
            ⟨result.conditions, calls ++ profileCalls managedCluster services,
              .returns (services.result, services.error)⟩

/-- `Update` from the `HelmRelease` reconcile on. -/
def releaseStage (collaborators : Collaborators) (managedCluster : ManagedCluster)
    (conditions : List Condition) : BodyEnd :=
  match collaborators.reconcileHelmRelease (clusterKey managedCluster) with
  | .error err =>
      let ended := failCondition conditions helmReleaseReadyCondition err err
      { ended with calls := [.reconcileHelmRelease (clusterKey managedCluster) false] }
  | .ok release => clusterStage collaborators managedCluster conditions release

/-- `Update` from the chart source on, with `TemplateReady` already `True`. -/
def chartStage (collaborators : Collaborators) (managedCluster : ManagedCluster)
    (conditions : List Condition) (template : TemplateStatus) : BodyEnd :=
  match getSource collaborators.services.store template.chartRef with
  | .error err =>
      failCondition conditions helmChartReadyCondition ("failed to get helm chart source: " ++ err) err
  | .ok source =>
      match collaborators.downloadChart source.artifact with
      | .error err =>
          failCondition conditions helmChartReadyCondition ("failed to download helm chart: " ++ err) err
      | .ok hcChart =>
          match collaborators.actionInit with
          | some err => ⟨conditions, [], .returns (.done, some err)⟩
          | none =>
              match validateReleaseWithValues collaborators hcChart with
              | some err =>
                  failCondition conditions helmChartReadyCondition
                    ("failed to validate template with provided configuration: " ++ err) err
              | none =>
                  let conditions := setStatusCondition conditions
                    ⟨helmChartReadyCondition, conditionTrue, succeededReason, "Helm chart is valid"⟩
                  if managedCluster.spec.dryRun then ⟨conditions, [], .returns (.done, none)⟩
                  else releaseStage collaborators managedCluster conditions

/-- The body of `Update` after the finalizer step, from the template lookup on. -/
def updateBody (r : ManagedClusterReconciler) (collaborators : Collaborators)
    (managedCluster : ManagedCluster) (conditions : List Condition) : BodyEnd :=
  match collaborators.getClusterTemplate ⟨r.systemNamespace, managedCluster.spec.template⟩ with
  | .error err =>
      failCondition conditions templateReadyCondition
        (if err.isNotFound then "provided template is not found"
          else "failed to get provided template: " ++ err.error) err.error
  | .ok template =>
      if template.valid = false then
        failCondition conditions templateReadyCondition "provided template is not marked as valid"
          "provided template is not marked as valid"
      else
        chartStage collaborators managedCluster
          (setStatusCondition conditions
            ⟨templateReadyCondition, conditionTrue, succeededReason, "Template is valid"⟩)
          template

/-- `ManagedCluster.InitConditions`, as the conditions it sets on an empty list. -/
def initConditions (r : ManagedClusterReconciler) (spec : ManagedClusterSpec) : List Condition :=
  (r.initialConditions spec).foldl setStatusCondition []

/-- The conditions the body starts from. -/
def startConditions (r : ManagedClusterReconciler) (managedCluster : ManagedCluster) :
    List Condition :=
  if managedCluster.status.conditions = [] then initConditions r managedCluster.spec
  else managedCluster.status.conditions

/-- The wrapped error of the final `Status().Update`, if it fails. -/
def statusUpdateError (collaborators : Collaborators) (managedCluster : ManagedCluster) :
    Option String :=
  collaborators.statusUpdate.map fun err =>
    "failed to update status for managedCluster " ++ managedCluster.ns ++ "/" ++
      managedCluster.name ++ ": " ++ err

/-- The deferred `err = errors.Join(err, r.updateStatus(...))`; a panic goes on unwinding. -/
def joinDeferred (exit : Exit (Result × Option String)) (deferred : Option String) :
    Exit (Result × Option String) :=
  match exit with
  | .returns (result, err) => .returns (result, joinErrors err deferred)
  | .panics reason => .panics reason

/-- The wrapped error of `r.Client.Update` of the managed cluster, if it fails. -/
def objectUpdateError (collaborators : Collaborators) (managedCluster : ManagedCluster) :
    Option String :=
  collaborators.objectUpdate.map fun err =>
    "failed to update managedCluster " ++ managedCluster.ns ++ "/" ++ managedCluster.name ++
      ": " ++ err

/-- `ManagedClusterReconciler.Update`. -/
def update (r : ManagedClusterReconciler) (collaborators : Collaborators)
    (managedCluster : ManagedCluster) : PassEffects :=
  if managedClusterFinalizer ∈ managedCluster.finalizers then
    let body := updateBody r collaborators managedCluster (startConditions r managedCluster)
    ⟨body.calls ++ [.updateStatus (collaborators.statusUpdate = none)],
      some (updateStatus managedCluster body.conditions),
      joinDeferred body.exit (statusUpdateError collaborators managedCluster)⟩
  else
    ⟨[.updateFinalizers (addFinalizer managedCluster.finalizers managedClusterFinalizer)
        (collaborators.objectUpdate = none)],
      none, .returns (.done, objectUpdateError collaborators managedCluster)⟩

/-- The condition `Update` sets once the template is found valid. -/
def templateValidCondition : Condition :=
  ⟨templateReadyCondition, conditionTrue, succeededReason, "Template is valid"⟩

/-- The condition `Update` sets once the chart passed the dry run. -/
def chartValidCondition : Condition :=
  ⟨helmChartReadyCondition, conditionTrue, succeededReason, "Helm chart is valid"⟩

/-! ## A ready cluster -/

/-- A ready cluster `default/dev` on the `aws` template, asking for the `ingress` service. -/
def readyCluster : ManagedCluster where
  name := "dev"
  ns := "default"
  uid := 3
  generation := 2
  resourceVersion := 5
  finalizers := [managedClusterFinalizer]
  deleting := false
  spec := ⟨"aws", none, false, [⟨"ingress", "ingress", "", none, true, false, ⟨false, false⟩⟩]⟩
  status := ⟨2,
    [templateValidCondition, chartValidCondition,
      ⟨helmReleaseReadyCondition, conditionTrue, "InstallSucceeded", "Helm install succeeded"⟩,
      ⟨readyCondition, conditionTrue, succeededReason, "ManagedCluster is ready"⟩]⟩

/-- The reconciler of the system namespace, with no initial conditions. -/
def systemReconciler : ManagedClusterReconciler := ⟨"hmc-system", fun _ => []⟩

/-- The stored chart of the `aws` template. -/
def awsChart : HelmChart :=
  ⟨"aws", "hmc-system", 1, "aws-standalone-cp", "0.0.1", defaultRepoName, some ⟨"aws.tgz"⟩, []⟩

/--
Collaborators for which every step of `readyCluster` succeeds up to the
add-on profile, and the `ingress` service template does not exist.
-/
def missingServiceCollaborators : Collaborators where
  getManagement := none
  getClusterTemplate := fun _ => .ok
    { chartRef := some (chartRefOf awsChart), config := none, description := "",
      providers := Providers.empty, observedGeneration := 1, valid := true, validationError := "" }
  services :=
    { store := ⟨fun _ => .ok awsChart, fun _ => .ok templatesRepository⟩
      getServiceTemplate := fun _ => .error (.notFound "servicetemplates.hmc.mirantis.com not found")
      reconcileClusterProfile := fun _ => none }
  downloadChart := fun _ => .ok ⟨some ⟨"", []⟩, .null⟩
  actionInit := none
  helmValues := .ok .null
  installDryRun := fun _ _ => none
  reconcileHelmRelease := fun _ =>
    .ok ⟨"dev", "default", some 3, [⟨readyConditionType, conditionTrue, "InstallSucceeded", "ok"⟩]⟩
  listClusters := .ok [⟨.entries [.condition ⟨readyCondition, conditionTrue, "", "cluster ready"⟩]⟩]
  getHelmRelease := .error (.notFound "helmreleases.helm.toolkit.fluxcd.io not found")
  deleteClusterProfile := none
  deleteHelmRelease := none
  listInfraClusters := fun _ _ => .ok []
  listMachines := fun _ _ => .ok []
  patchInfraCluster := fun _ => none
  objectUpdate := none
  statusUpdate := none

/-! ## The aggregate `Ready` condition, from any pass -/

/-- Some condition other than `Ready` has this status. -/
def HasStatus (status : String) (conditions : List Condition) : Prop :=
  ∃ condition ∈ conditions, condition.type ≠ readyCondition ∧ condition.status = status

theorem conditionMessages_ne_empty_iff (status : String) (conditions : List Condition) :
    conditionMessages status conditions ≠ "" ↔ HasStatus status conditions := by
  induction conditions with
  | nil => simp [conditionMessages, HasStatus]
  | cons condition rest ih =>
      have separated : condition.message ++ ". " ≠ "" := fun empty =>
        absurd (append_eq_empty_iff.1 empty).2 (by decide)
      by_cases counted : condition.type ≠ readyCondition ∧ condition.status = status <;>
        simp_all [conditionMessages, HasStatus, append_eq_empty_iff]

theorem conditionMessages_filter (status : String) (conditions : List Condition) :
    conditionMessages status (conditions.filter (·.type ≠ readyCondition)) =
      conditionMessages status conditions := by
  induction conditions with
  | nil => rfl
  | cons condition rest ih =>
      by_cases ready : condition.type = readyCondition <;>
        simp_all [conditionMessages, List.filter_cons]

theorem hasStatus_filter (status : String) (conditions : List Condition) :
    HasStatus status (conditions.filter (·.type ≠ readyCondition)) ↔ HasStatus status conditions := by
  simp only [← conditionMessages_ne_empty_iff, conditionMessages_filter]

@[simp]
theorem readyConditionOf_type (conditions : List Condition) :
    (readyConditionOf conditions).type = readyCondition := by
  simp only [readyConditionOf]
  split_ifs <;> rfl

/-- The aggregate is `False` on a failure, else `Unknown` on a pending condition, else `True`. -/
theorem readyConditionOf_status (conditions : List Condition) :
    ((readyConditionOf conditions).status = conditionFalse ↔ HasStatus conditionFalse conditions) ∧
      ((readyConditionOf conditions).status = conditionUnknown ↔
        ¬HasStatus conditionFalse conditions ∧ HasStatus conditionUnknown conditions) ∧
      ((readyConditionOf conditions).status = conditionTrue ↔
        ¬HasStatus conditionFalse conditions ∧ ¬HasStatus conditionUnknown conditions) := by
  simp only [readyConditionOf, ← conditionMessages_ne_empty_iff]
  split_ifs <;> simp_all [conditionFalse, conditionUnknown, conditionTrue]

theorem readyConditionOf_filter (conditions : List Condition) :
    readyConditionOf (conditions.filter (·.type ≠ readyCondition)) = readyConditionOf conditions := by
  simp only [readyConditionOf, conditionMessages_filter]

/-! ## Every pass changes conditions only by setting them -/

theorem failCondition_setsOnly (conditions : List Condition) (conditionType message err : String) :
    SetsOnly conditions (failCondition conditions conditionType message err).conditions :=
  (SetsOnly.refl _).set _

theorem mirrorReleaseReady_setsOnly (conditions : List Condition) (release : HelmRelease) :
    SetsOnly conditions (mirrorReleaseReady conditions release) := by
  unfold mirrorReleaseReady
  split
  · exact (SetsOnly.refl _).set _
  · exact .refl _

theorem clusterStage_setsOnly (collaborators : Collaborators) (managedCluster : ManagedCluster)
    (conditions : List Condition) (release : HelmRelease) :
    SetsOnly conditions (clusterStage collaborators managedCluster conditions release).conditions := by
  unfold clusterStage
  split
  · exact mirrorReleaseReady_setsOnly _ _
  · rename_i result listed
    have sets := (mirrorReleaseReady_setsOnly conditions release).trans
      (setStatusFromClusterStatus_setsOnly listed)
    split
    · exact sets
    · split
      · exact sets
      · split <;> exact sets

theorem releaseStage_setsOnly (collaborators : Collaborators) (managedCluster : ManagedCluster)
    (conditions : List Condition) :
    SetsOnly conditions (releaseStage collaborators managedCluster conditions).conditions := by
  unfold releaseStage
  split
  · rename_i err _
    exact failCondition_setsOnly conditions helmReleaseReadyCondition err err
  · exact clusterStage_setsOnly _ _ _ _

theorem chartStage_setsOnly (collaborators : Collaborators) (managedCluster : ManagedCluster)
    (conditions : List Condition) (template : TemplateStatus) :
    SetsOnly conditions (chartStage collaborators managedCluster conditions template).conditions := by
  unfold chartStage
  repeat' split
  all_goals first
    | exact failCondition_setsOnly _ _ _ _
    | exact .refl _
    | exact (SetsOnly.refl _).set _
    | exact ((SetsOnly.refl _).set _).trans (releaseStage_setsOnly _ _ _)

theorem updateBody_setsOnly (r : ManagedClusterReconciler) (collaborators : Collaborators)
    (managedCluster : ManagedCluster) (conditions : List Condition) :
    SetsOnly conditions (updateBody r collaborators managedCluster conditions).conditions := by
  unfold updateBody
  split
  · exact failCondition_setsOnly _ _ _ _
  · split
    · exact failCondition_setsOnly _ _ _ _
    · exact ((SetsOnly.refl _).set _).trans (chartStage_setsOnly _ _ _ _)

/-- The body starts from pairwise-distinct condition types. -/
theorem startConditions_nodup (r : ManagedClusterReconciler) {managedCluster : ManagedCluster}
    (distinct : (conditionTypes managedCluster.status.conditions).Nodup) :
    (conditionTypes (startConditions r managedCluster)).Nodup := by
  unfold startConditions initConditions
  split
  · exact SetsOnly.nodup ⟨_, rfl⟩ List.nodup_nil
  · exact distinct

/--
The aggregate `Ready` invariant.  From a condition list with distinct types,
every status `Update` writes has distinct types and exactly one `Ready`
condition, computed from the other written conditions alone: `False` when
one of them is `False`, else `Unknown` when one is `Unknown`, else `True`.
-/
theorem update_ready_aggregate (r : ManagedClusterReconciler) (collaborators : Collaborators)
    (managedCluster : ManagedCluster)
    (distinct : (conditionTypes managedCluster.status.conditions).Nodup)
    (status : ManagedClusterStatus)
    (written : (update r collaborators managedCluster).statusWrite = some status) :
    (conditionTypes status.conditions).Nodup ∧
      ∃ ready, status.conditions.filter (·.type = readyCondition) = [ready] ∧
        ready = readyConditionOf (status.conditions.filter (·.type ≠ readyCondition)) ∧
        (ready.status = conditionFalse ↔ HasStatus conditionFalse status.conditions) ∧
        (ready.status = conditionUnknown ↔
          ¬HasStatus conditionFalse status.conditions ∧
            HasStatus conditionUnknown status.conditions) ∧
        (ready.status = conditionTrue ↔
          ¬HasStatus conditionFalse status.conditions ∧
            ¬HasStatus conditionUnknown status.conditions) := by
  unfold update at written
  split at written
  · simp only [Option.some.injEq] at written
    subst written
    set body := updateBody r collaborators managedCluster (startConditions r managedCluster)
    have bodyDistinct : (conditionTypes body.conditions).Nodup :=
      (updateBody_setsOnly _ _ _ _).nodup (startConditions_nodup r distinct)
    have others := filter_setStatusCondition_of_ne body.conditions (readyConditionOf body.conditions)
    simp only [readyConditionOf_type] at others
    have sameStatus : ∀ status,
        HasStatus status (updateStatus managedCluster body.conditions).conditions ↔
          HasStatus status body.conditions := fun status => by
      rw [← hasStatus_filter, updateStatus, others, hasStatus_filter]
    refine ⟨nodup_conditionTypes_setStatusCondition bodyDistinct _, readyConditionOf body.conditions,
      by simpa using filter_setStatusCondition_self bodyDistinct (readyConditionOf body.conditions),
      by rw [updateStatus, others, readyConditionOf_filter], ?_⟩
    simpa only [sameStatus] using readyConditionOf_status body.conditions
  · cases written

/-- The aggregate on the pass over `readyCluster`. -/
theorem update_ready_aggregate_readyCluster :
    (conditionTypes readyCluster.status.conditions).Nodup ∧
      ∃ status,
        (update systemReconciler missingServiceCollaborators readyCluster).statusWrite = some status ∧
        (conditionTypes status.conditions).Nodup ∧
        ∃ ready, status.conditions.filter (·.type = readyCondition) = [ready] ∧
          ready = readyConditionOf (status.conditions.filter (·.type ≠ readyCondition)) ∧
          (ready.status = conditionFalse ↔ HasStatus conditionFalse status.conditions) ∧
          (ready.status = conditionUnknown ↔
            ¬HasStatus conditionFalse status.conditions ∧
              HasStatus conditionUnknown status.conditions) ∧
          (ready.status = conditionTrue ↔
            ¬HasStatus conditionFalse status.conditions ∧
              ¬HasStatus conditionUnknown status.conditions) :=
  ⟨by decide, _, rfl,
    update_ready_aggregate systemReconciler missingServiceCollaborators readyCluster (by decide) _ rfl⟩

/--
A service that cannot be resolved makes `Update` return an error, while the
status it writes still says `Ready = True`: `updateServices` sets no
condition.
-/
theorem update_unresolved_service_persists_ready :
    (update systemReconciler missingServiceCollaborators readyCluster).exit =
        .returns (.done, some "failed to get Template (default/ingress)") ∧
      (update systemReconciler missingServiceCollaborators readyCluster).statusWrite.bind
          (fun status => findStatusCondition status.conditions readyCondition) =
        some ⟨readyCondition, conditionTrue, succeededReason, "ManagedCluster is ready"⟩ := by
  decide

/--
A `List` of the CAPI clusters that fails with an error other than not-found,
here a forbidden one, makes `setStatusFromClusterStatus` dereference the nil
list that comes with the error.  The `Update` pass that reaches it panics
after its deferred status write.  For every managed cluster, condition list
and answer of the `List`, the function returns exactly when the `List`
succeeded or failed with not-found.
-/
theorem update_panics_on_cluster_list_failure :
    setStatusFromClusterStatus readyCluster readyCluster.status.conditions
        (.error (.failure "clusters.cluster.x-k8s.io is forbidden")) =
      .panics nilPointerDereference ∧
    (update systemReconciler
        { missingServiceCollaborators with
          listClusters := .error (.failure "clusters.cluster.x-k8s.io is forbidden") }
        readyCluster).exit = .panics nilPointerDereference ∧
    (update systemReconciler
        { missingServiceCollaborators with
          listClusters := .error (.failure "clusters.cluster.x-k8s.io is forbidden") }
        readyCluster).statusWrite.isSome = true ∧
    ∀ managedCluster conditions listed,
      (∃ result, setStatusFromClusterStatus managedCluster conditions listed = .returns result) ↔
        ∀ err, listed = .error err → err.isNotFound = true :=
  ⟨by decide, by decide, by decide, setStatusFromClusterStatus_returns_iff⟩

/-! ## Gating of the release and of the add-on profile -/

/--
Everything before the release reconcile went through: the template was
found and valid, its chart fetched and downloaded, the Helm client set up,
the client-only dry run with the cluster's values passed, and the cluster is
not in dry-run mode.
-/
def ReleaseGate (r : ManagedClusterReconciler) (collaborators : Collaborators)
    (managedCluster : ManagedCluster) : Prop :=
  ∃ template hcChart chart,
    collaborators.getClusterTemplate ⟨r.systemNamespace, managedCluster.spec.template⟩ =
        .ok template ∧ template.valid = true ∧
      getSource collaborators.services.store template.chartRef = .ok hcChart ∧
      collaborators.downloadChart hcChart.artifact = .ok chart ∧
      collaborators.actionInit = none ∧ validateReleaseWithValues collaborators chart = none ∧
      managedCluster.spec.dryRun = false

/-- Either the body makes no call, or it passed the gate and runs the release stage. -/
theorem updateBody_cases (r : ManagedClusterReconciler) (collaborators : Collaborators)
    (managedCluster : ManagedCluster) (conditions : List Condition) :
    (updateBody r collaborators managedCluster conditions).calls = [] ∨
      ReleaseGate r collaborators managedCluster ∧
        updateBody r collaborators managedCluster conditions =
          releaseStage collaborators managedCluster
            (setStatusCondition (setStatusCondition conditions templateValidCondition)
              chartValidCondition) := by
  unfold updateBody
  split
  · exact .inl rfl
  rename_i template lookup
  split
  · exact .inl rfl
  rename_i valid
  unfold chartStage
  split
  · exact .inl rfl
  rename_i hcChart source
  split
  · exact .inl rfl
  rename_i chart download
  split
  · exact .inl rfl
  rename_i init
  split
  · exact .inl rfl
  rename_i dryRun
  split
  · exact .inl rfl
  rename_i mode
  exact .inr ⟨⟨template, hcChart, chart, lookup, by simpa using valid, source, download, init,
    dryRun, by simpa using mode⟩, rfl⟩

/-- A body that makes a call went through the gate, into the release stage. -/
theorem updateBody_of_mem_calls {r : ManagedClusterReconciler} {collaborators : Collaborators}
    {managedCluster : ManagedCluster} {conditions : List Condition} {call : Call}
    (called : call ∈ (updateBody r collaborators managedCluster conditions).calls) :
    ReleaseGate r collaborators managedCluster ∧
      updateBody r collaborators managedCluster conditions =
        releaseStage collaborators managedCluster
          (setStatusCondition (setStatusCondition conditions templateValidCondition)
            chartValidCondition) :=
  (updateBody_cases r collaborators managedCluster conditions).resolve_left fun empty => by
    simp [empty] at called

/-- Either the release reconcile failed, or the pass goes on with the stored release. -/
theorem releaseStage_cases (collaborators : Collaborators) (managedCluster : ManagedCluster)
    (conditions : List Condition) :
    (∃ err, collaborators.reconcileHelmRelease (clusterKey managedCluster) = .error err ∧
      releaseStage collaborators managedCluster conditions =
        { failCondition conditions helmReleaseReadyCondition err err with
          calls := [.reconcileHelmRelease (clusterKey managedCluster) false] }) ∨
      ∃ release, collaborators.reconcileHelmRelease (clusterKey managedCluster) = .ok release ∧
        releaseStage collaborators managedCluster conditions =
          clusterStage collaborators managedCluster conditions release := by
  unfold releaseStage
  split
  · exact .inl ⟨_, ‹_›, rfl⟩
  · exact .inr ⟨_, ‹_›, rfl⟩

/-- Past the gate, the body is the release stage on the two conditions set `True`. -/
theorem updateBody_of_releaseGate {r : ManagedClusterReconciler} {collaborators : Collaborators}
    {managedCluster : ManagedCluster} (gate : ReleaseGate r collaborators managedCluster)
    (conditions : List Condition) :
    updateBody r collaborators managedCluster conditions =
      releaseStage collaborators managedCluster
        (setStatusCondition (setStatusCondition conditions templateValidCondition)
          chartValidCondition) := by
  obtain ⟨template, hcChart, chart, lookup, valid, source, download, init, dryRun, mode⟩ := gate
  simp [updateBody, chartStage, lookup, valid, source, download, init, dryRun, mode,
    templateValidCondition, chartValidCondition]

/-- The profile is written only for a settled cluster and a ready release. -/
theorem clusterStage_profile {collaborators : Collaborators} {managedCluster : ManagedCluster}
    {conditions : List Condition} {release : HelmRelease} {key : NamespacedName} {succeeded : Bool}
    (called : Call.reconcileClusterProfile key succeeded ∈
      (clusterStage collaborators managedCluster conditions release).calls) :
    ClusterSettled collaborators.listClusters ∧ release.isReady = true := by
  unfold clusterStage at called
  split at called
  · simp at called
  · rename_i result listed
    split at called
    · simp at called
    · rename_i clean
      split at called
      · simp at called
      · rename_i settled
        split at called
        · simp at called
        · rename_i ready
          exact ⟨(setStatusFromClusterStatus_settled_iff _ _ _).1
            ⟨result, listed, clean, by simpa using settled⟩, by simpa using ready⟩

/-- A cluster not yet ready, or a release not yet `Ready`, is a requeue without an error. -/
theorem clusterStage_exit_of_notReady {collaborators : Collaborators}
    {managedCluster : ManagedCluster} {conditions : List Condition} {release : HelmRelease}
    (notReady : ClusterPending collaborators.listClusters ∨
      ClusterSettled collaborators.listClusters ∧ release.isReady = false) :
    (clusterStage collaborators managedCluster conditions release).exit =
      .returns (⟨defaultRequeueInterval⟩, none) := by
  rcases notReady with pending | ⟨settled, notReadyRelease⟩
  · obtain ⟨result, listed, clean, requeue⟩ :=
      setStatusFromClusterStatus_of_pending managedCluster
        (mirrorReleaseReady conditions release) pending
    simp [clusterStage, listed, clean, requeue]
  · obtain ⟨result, listed, clean, requeue⟩ :=
      (setStatusFromClusterStatus_settled_iff managedCluster
        (mirrorReleaseReady conditions release) _).2 settled
    simp [clusterStage, listed, clean, requeue, notReadyRelease]

/-- The release stage keeps every condition the cluster does not copy in. -/
theorem findStatusCondition_releaseStage (collaborators : Collaborators)
    (managedCluster : ManagedCluster) (conditions : List Condition) {conditionType : String}
    (notRelease : conditionType ≠ helmReleaseReadyCondition)
    (notCopied : conditionType ∉ copiedConditionTypes collaborators.listClusters) :
    findStatusCondition (releaseStage collaborators managedCluster conditions).conditions
        conditionType =
      findStatusCondition conditions conditionType := by
  have mirrored : ∀ release, findStatusCondition (mirrorReleaseReady conditions release)
      conditionType = findStatusCondition conditions conditionType := fun release => by
    unfold mirrorReleaseReady
    split
    · exact findStatusCondition_setStatusCondition_of_ne _ notRelease
    · rfl
  rcases releaseStage_cases collaborators managedCluster conditions with
    ⟨err, -, staged⟩ | ⟨release, -, staged⟩ <;> rw [staged]
  · exact findStatusCondition_setStatusCondition_of_ne _ notRelease
  · unfold clusterStage
    split
    · exact mirrored release
    · rename_i result listed
      have kept :=
        (findStatusCondition_setStatusFromClusterStatus listed notCopied).trans (mirrored release)
      split
      · exact kept
      · split
        · exact kept
        · split <;> exact kept

/-- Past the finalizer step, a pass is its body followed by the deferred status write. -/
theorem update_of_finalizer {r : ManagedClusterReconciler} {collaborators : Collaborators}
    {managedCluster : ManagedCluster} (finalized : managedClusterFinalizer ∈ managedCluster.finalizers) :
    update r collaborators managedCluster =
      let body := updateBody r collaborators managedCluster (startConditions r managedCluster)
      ⟨body.calls ++ [.updateStatus (collaborators.statusUpdate = none)],
        some (updateStatus managedCluster body.conditions),
        joinDeferred body.exit (statusUpdateError collaborators managedCluster)⟩ := by
  simp [update, finalized]

/-- The written status keeps every condition of the body other than `Ready`. -/
theorem findStatusCondition_updateStatus (managedCluster : ManagedCluster)
    (conditions : List Condition) {conditionType : String} (other : conditionType ≠ readyCondition) :
    findStatusCondition (updateStatus managedCluster conditions).conditions conditionType =
      findStatusCondition conditions conditionType :=
  findStatusCondition_setStatusCondition_of_ne _ (by simpa using other)

/--
Gating of the managed-cluster pipeline, for a cluster carrying its finalizer.
The release is reconciled only past the gate, and the written status then
has `TemplateReady` and `HelmChartReady` set `True` unless the listed CAPI
cluster carries a condition of that type.  The profile is reconciled only
when, in addition, the release reconcile succeeded, the CAPI cluster is
settled and the release is `Ready`.  A pass that stops because the cluster
or the release is not ready yet requeues after the default interval, with
no error but the status write's.
-/
theorem update_pipeline_gating (r : ManagedClusterReconciler) (collaborators : Collaborators)
    (managedCluster : ManagedCluster)
    (finalized : managedClusterFinalizer ∈ managedCluster.finalizers) :
    ((∃ key succeeded,
        Call.reconcileHelmRelease key succeeded ∈ (update r collaborators managedCluster).calls) →
      ReleaseGate r collaborators managedCluster ∧
        ∀ status, (update r collaborators managedCluster).statusWrite = some status →
          (templateReadyCondition ∉ copiedConditionTypes collaborators.listClusters →
            findStatusCondition status.conditions templateReadyCondition =
              some templateValidCondition) ∧
          (helmChartReadyCondition ∉ copiedConditionTypes collaborators.listClusters →
            findStatusCondition status.conditions helmChartReadyCondition =
              some chartValidCondition)) ∧
    ((∃ key succeeded,
        Call.reconcileClusterProfile key succeeded ∈ (update r collaborators managedCluster).calls) →
      ReleaseGate r collaborators managedCluster ∧
        ∃ release, collaborators.reconcileHelmRelease (clusterKey managedCluster) = .ok release ∧
          ClusterSettled collaborators.listClusters ∧ release.isReady = true) ∧
    (ReleaseGate r collaborators managedCluster → ∀ release,
      collaborators.reconcileHelmRelease (clusterKey managedCluster) = .ok release →
      ClusterPending collaborators.listClusters ∨
          ClusterSettled collaborators.listClusters ∧ release.isReady = false →
        (update r collaborators managedCluster).exit =
          .returns (⟨defaultRequeueInterval⟩, statusUpdateError collaborators managedCluster)) := by
  rw [update_of_finalizer finalized]
  refine ⟨?_, ?_, ?_⟩
  · rintro ⟨key, succeeded, called⟩
    simp only [List.mem_append, List.mem_singleton, reduceCtorEq, or_false] at called
    obtain ⟨gate, staged⟩ := updateBody_of_mem_calls called
    refine ⟨gate, fun status written => ?_⟩
    simp only [Option.some.injEq] at written
    subst written
    rw [staged]
    constructor <;> intro notCopied <;>
      rw [findStatusCondition_updateStatus _ _ (by decide),
        findStatusCondition_releaseStage _ _ _ (by decide) notCopied]
    · rw [findStatusCondition_setStatusCondition_of_ne _ (by decide)]
      exact findStatusCondition_setStatusCondition_self _ templateValidCondition
    · exact findStatusCondition_setStatusCondition_self _ chartValidCondition
  · rintro ⟨key, succeeded, called⟩
    simp only [List.mem_append, List.mem_singleton, reduceCtorEq, or_false] at called
    obtain ⟨gate, staged⟩ := updateBody_of_mem_calls called
    rw [staged] at called
    rcases releaseStage_cases collaborators managedCluster
        (setStatusCondition (setStatusCondition (startConditions r managedCluster)
          templateValidCondition) chartValidCondition) with
      ⟨err, -, failed⟩ | ⟨release, reconciled, staged⟩
    · simp [failed] at called
    · rw [staged] at called
      exact ⟨gate, release, reconciled, clusterStage_profile called⟩
  · intro gate release reconciled notReady
    simp only [updateBody_of_releaseGate gate, releaseStage, reconciled,
      clusterStage_exit_of_notReady notReady, joinDeferred, joinErrors_none_left]

/-- The gating on the pass over `readyCluster`. -/
theorem update_pipeline_gating_readyCluster :
    managedClusterFinalizer ∈ readyCluster.finalizers ∧
    ((∃ key succeeded, Call.reconcileHelmRelease key succeeded ∈
        (update systemReconciler missingServiceCollaborators readyCluster).calls) →
      ReleaseGate systemReconciler missingServiceCollaborators readyCluster ∧
        ∀ status,
          (update systemReconciler missingServiceCollaborators readyCluster).statusWrite = some status →
          (templateReadyCondition ∉ copiedConditionTypes missingServiceCollaborators.listClusters →
            findStatusCondition status.conditions templateReadyCondition =
              some templateValidCondition) ∧
          (helmChartReadyCondition ∉ copiedConditionTypes missingServiceCollaborators.listClusters →
            findStatusCondition status.conditions helmChartReadyCondition =
              some chartValidCondition)) ∧
    ((∃ key succeeded, Call.reconcileClusterProfile key succeeded ∈
        (update systemReconciler missingServiceCollaborators readyCluster).calls) →
      ReleaseGate systemReconciler missingServiceCollaborators readyCluster ∧
        ∃ release,
          missingServiceCollaborators.reconcileHelmRelease (clusterKey readyCluster) = .ok release ∧
          ClusterSettled missingServiceCollaborators.listClusters ∧ release.isReady = true) ∧
    (ReleaseGate systemReconciler missingServiceCollaborators readyCluster → ∀ release,
      missingServiceCollaborators.reconcileHelmRelease (clusterKey readyCluster) = .ok release →
      ClusterPending missingServiceCollaborators.listClusters ∨
          ClusterSettled missingServiceCollaborators.listClusters ∧ release.isReady = false →
        (update systemReconciler missingServiceCollaborators readyCluster).exit =
          .returns (⟨defaultRequeueInterval⟩,
            statusUpdateError missingServiceCollaborators readyCluster)) :=
  ⟨by decide,
    update_pipeline_gating systemReconciler missingServiceCollaborators readyCluster (by decide)⟩

/--
The CAPI cluster's own `HelmChartReady` condition is copied over the one the
pass set, so a pass that reconciled the release writes `HelmChartReady = False`.
-/
theorem update_copied_condition_overrides_chart_ready :
    Call.reconcileHelmRelease (clusterKey readyCluster) true ∈
        (update systemReconciler
          { missingServiceCollaborators with
            listClusters := .ok [⟨.entries
              [.condition ⟨helmChartReadyCondition, conditionFalse, "ChartPullFailed", "pull failed"⟩]⟩] }
          readyCluster).calls ∧
      (update systemReconciler
          { missingServiceCollaborators with
            listClusters := .ok [⟨.entries
              [.condition ⟨helmChartReadyCondition, conditionFalse, "ChartPullFailed", "pull failed"⟩]⟩] }
          readyCluster).statusWrite.bind
          (fun status => findStatusCondition status.conditions helmChartReadyCondition) =
        some ⟨helmChartReadyCondition, conditionFalse, "ChartPullFailed", "pull failed"⟩ := by
  decide

end HmcReconcilers.ManagedClusterController
