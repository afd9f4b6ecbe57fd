import HmcReconcilers.ManagedClusterController.Delete

/-!
# A managed-cluster pass run again on the status it wrote

The reconcilers are level-triggered: a pass that ends is run again, on a
timer or on a watch event, against the object as it is stored.  This module
shows that the managed-cluster controller is stable under this.  A
`Reconcile` pass over the status it wrote itself, with every collaborator
answering as before, makes the same calls, writes the same status and ends
the same way.

The body of `Update` never branches on the conditions it starts from: every
stage only sets conditions, the same ones from any list, and its calls and
its exit do not depend on the list (`updateBody_uniform`).  Nor does it
read the stored status (`updateBody_withStatus`).  What the second pass
writes is then the first pass's conditions with the same sequence of sets
run over them once more, followed by the aggregate `Ready` condition;
`updateStatus_refold` shows that this is the first status again.  The
aggregate needs care because the CAPI `Cluster` may report a `Ready`
condition of its own, which the body copies over the aggregate before
`updateStatus` sets the aggregate back.

Only the four fields of a condition the model keeps are covered: the
transition timestamps `SetStatusCondition` maintains are not modelled.
-/

namespace HmcReconcilers.ManagedClusterController

open HmcReconcilers TemplateController

/-! ## The body does not depend on where it starts -/

/-- `stage` sets the same conditions, makes the same calls and ends the same way from any list. -/
def UniformStage (stage : List Condition → BodyEnd) : Prop :=
  ∃ newConditions : List Condition, ∀ conditions,
    stage conditions = { stage [] with conditions := newConditions.foldl setStatusCondition conditions }

theorem UniformStage.failCondition (conditionType message err : String) :
    UniformStage (failCondition · conditionType message err) :=
  ⟨[_], fun _ => rfl⟩

theorem UniformStage.const (calls : List Call) (exit : Exit (Result × Option String)) :
    UniformStage (⟨·, calls, exit⟩) :=
  ⟨[], fun _ => rfl⟩

theorem UniformStage.set {stage : List Condition → BodyEnd} (uniform : UniformStage stage)
    (newCondition : Condition) : UniformStage (stage <| setStatusCondition · newCondition) := by
  obtain ⟨newConditions, uniform⟩ := uniform
  exact ⟨newCondition :: newConditions, fun conditions => by
    dsimp only
    rw [uniform, uniform (setStatusCondition [] newCondition)]; rfl⟩

theorem mirrorReleaseReady_uniform (release : HelmRelease) :
    ∃ newConditions : List Condition, ∀ conditions,
      mirrorReleaseReady conditions release = newConditions.foldl setStatusCondition conditions := by
  unfold mirrorReleaseReady
  cases findStatusCondition release.conditions readyConditionType
  · exact ⟨[], fun _ => rfl⟩
  · exact ⟨[_], fun _ => rfl⟩

theorem clusterStage_uniform (collaborators : Collaborators) (managedCluster : ManagedCluster)
    (release : HelmRelease) : UniformStage (clusterStage collaborators managedCluster · release) := by
  obtain ⟨mirrored, mirror⟩ := mirrorReleaseReady_uniform release
  obtain ⟨copied, copy⟩ := setStatusFromClusterStatus_uniform managedCluster collaborators.listClusters
  cases listed : setStatusFromClusterStatus managedCluster [] collaborators.listClusters with
  | panics => exact ⟨mirrored, fun conditions => by
      simp only [clusterStage, mirror, copy (mirrored.foldl setStatusCondition _), listed, Exit.map]⟩
  | returns result =>
      refine ⟨mirrored ++ copied, fun conditions => ?_⟩
      simp only [clusterStage, mirror, copy (mirrored.foldl setStatusCondition _), listed, Exit.map,
        List.foldl_append]
      rcases result with ⟨_, requeue, error⟩
      cases error <;> cases requeue <;> cases release.isReady <;> rfl

theorem releaseStage_uniform (collaborators : Collaborators) (managedCluster : ManagedCluster) :
    UniformStage (releaseStage collaborators managedCluster ·) := by
  unfold releaseStage
  cases collaborators.reconcileHelmRelease (clusterKey managedCluster) with
  | error => exact ⟨[_], fun _ => rfl⟩
  | ok release => exact clusterStage_uniform collaborators managedCluster release

theorem chartStage_uniform (collaborators : Collaborators) (managedCluster : ManagedCluster)
    (template : TemplateStatus) : UniformStage (chartStage collaborators managedCluster · template) := by
  unfold chartStage
  cases getSource collaborators.services.store template.chartRef with
  | error => exact .failCondition _ _ _
  | ok source =>
    dsimp only
    cases collaborators.downloadChart source.artifact with
    | error => exact .failCondition _ _ _
    | ok hcChart =>
      dsimp only
      cases collaborators.actionInit with
      | some => exact .const _ _
      | none =>
        dsimp only
        cases validateReleaseWithValues collaborators hcChart with
        | some => exact .failCondition _ _ _
        | none =>
          cases managedCluster.spec.dryRun with
          | true => exact (UniformStage.const _ _).set _
          | false => exact (releaseStage_uniform _ _).set _

/-- The body of `Update` never branches on the conditions it starts from. -/
theorem updateBody_uniform (r : ManagedClusterReconciler) (collaborators : Collaborators)
    (managedCluster : ManagedCluster) : UniformStage (updateBody r collaborators managedCluster ·) := by
  unfold updateBody
  cases collaborators.getClusterTemplate ⟨r.systemNamespace, managedCluster.spec.template⟩ with
  | error => exact .failCondition _ _ _
  | ok template =>
      dsimp only
      cases template.valid with
      | false => exact .failCondition _ _ _
      | true => exact (chartStage_uniform _ _ _).set _

/-- The body of `Update` never reads the stored status. -/
theorem updateBody_withStatus (r : ManagedClusterReconciler) (collaborators : Collaborators)
    (managedCluster : ManagedCluster) (status : ManagedClusterStatus) (conditions : List Condition) :
    updateBody r collaborators { managedCluster with status } conditions =
      updateBody r collaborators managedCluster conditions := by
  simp only [updateBody, chartStage, releaseStage, clusterStage, setStatusFromClusterStatus,
    updateServices, mergeClusterConditions_withStatus, serviceOpts_withStatus]
  rfl

/-! ## The status written a second time -/

/--
`updateStatus` after a body that ran a sequence of sets over a list with
distinct types, and again after the same sets run over what it wrote, gives
the same status.
-/
theorem updateStatus_refold (managedCluster : ManagedCluster) {conditions : List Condition}
    (distinct : (conditionTypes conditions).Nodup) (newConditions : List Condition) :
    updateStatus managedCluster (newConditions.foldl setStatusCondition
        (updateStatus managedCluster (newConditions.foldl setStatusCondition conditions)).conditions) =
      updateStatus managedCluster (newConditions.foldl setStatusCondition conditions) := by
  set body := newConditions.foldl setStatusCondition conditions
  have othersDistinct : (conditionTypes (conditions.filter (·.type ≠ readyCondition))).Nodup :=
    distinct.sublist ((List.filter_sublist conditions).map _)
  have sameReady : readyConditionOf (newConditions.foldl setStatusCondition
      (setStatusCondition body (readyConditionOf body))) = readyConditionOf body := by
    rw [← readyConditionOf_filter, filter_foldl_setStatusCondition,
      ← readyConditionOf_type body, filter_setStatusCondition_of_ne, readyConditionOf_type,
      filter_foldl_setStatusCondition, foldl_setStatusCondition_idem othersDistinct,
      ← filter_foldl_setStatusCondition, readyConditionOf_filter]
  simp only [updateStatus, sameReady]
  simpa [List.foldl_append] using
    foldl_setStatusCondition_idem distinct (newConditions ++ [readyConditionOf body])

/-- A pass of `Update` past the finalizer step, whatever status the object carries. -/
theorem update_withStatus_of_uniform (r : ManagedClusterReconciler) (collaborators : Collaborators)
    (managedCluster : ManagedCluster) (finalized : managedClusterFinalizer ∈ managedCluster.finalizers)
    {newConditions : List Condition}
    (uniform : ∀ conditions, updateBody r collaborators managedCluster conditions =
      { updateBody r collaborators managedCluster [] with
        conditions := newConditions.foldl setStatusCondition conditions })
    (prior : ManagedClusterStatus) :
    update r collaborators { managedCluster with status := prior } =
      ⟨(updateBody r collaborators managedCluster []).calls ++
          [.updateStatus (collaborators.statusUpdate = none)],
        some (updateStatus managedCluster (newConditions.foldl setStatusCondition
          (startConditions r { managedCluster with status := prior }))),
        joinDeferred (updateBody r collaborators managedCluster []).exit
          (statusUpdateError collaborators managedCluster)⟩ := by
  simp only [update, finalized, if_true, updateBody_withStatus, uniform (startConditions r _)]
  rfl

/--
An `Update` pass over the status it wrote, with the same answers, makes the
same calls, writes the same status and ends the same way.
-/
theorem update_rewrites_own_status (r : ManagedClusterReconciler) (collaborators : Collaborators)
    {managedCluster : ManagedCluster}
    (distinct : (conditionTypes managedCluster.status.conditions).Nodup)
    {status : ManagedClusterStatus}
    (written : (update r collaborators managedCluster).statusWrite = some status) :
    update r collaborators { managedCluster with status } = update r collaborators managedCluster := by
  by_cases finalized : managedClusterFinalizer ∈ managedCluster.finalizers
  · obtain ⟨newConditions, uniform⟩ := updateBody_uniform r collaborators managedCluster
    have first : update r collaborators managedCluster = _ :=
      update_withStatus_of_uniform r collaborators managedCluster finalized uniform
        managedCluster.status
    rw [first] at written ⊢
    cases written
    set body := newConditions.foldl setStatusCondition (startConditions r managedCluster)
    have restart : startConditions r { managedCluster with status := updateStatus managedCluster body } =
        (updateStatus managedCluster body).conditions :=
      if_neg (setStatusCondition_ne_nil _ _)
    rw [update_withStatus_of_uniform r collaborators managedCluster finalized uniform, restart,
      updateStatus_refold managedCluster (startConditions_nodup r distinct)]
  · simp [update, finalized] at written

/-- `Delete` never writes the status. -/
theorem delete_statusWrite (r : ManagedClusterReconciler) (collaborators : Collaborators)
    (managedCluster : ManagedCluster) : (delete r collaborators managedCluster).statusWrite = none := by
  unfold delete
  repeat' split
  all_goals rfl

/-- The status `Update` writes records the generation it saw. -/
theorem update_observedGeneration {r : ManagedClusterReconciler} {collaborators : Collaborators}
    {managedCluster : ManagedCluster} {status : ManagedClusterStatus}
    (written : (update r collaborators managedCluster).statusWrite = some status) :
    status.observedGeneration = managedCluster.generation := by
  unfold update at written
  split at written
  · cases written; rfl
  · cases written

/-- A pass that writes the status is an `Update` pass over a live cluster. -/
theorem reconcile_of_statusWrite {r : ManagedClusterReconciler} {collaborators : Collaborators}
    {managedCluster : ManagedCluster} {status : ManagedClusterStatus}
    (written : (reconcile r collaborators managedCluster).statusWrite = some status) :
    managedCluster.deleting = false ∧
      reconcile r collaborators managedCluster = update r collaborators managedCluster := by
  unfold reconcile at written ⊢
  split at written
  · simp [delete_statusWrite] at written
  · rename_i live
    refine ⟨by simpa using live, ?_⟩
    simp only [live, if_false]
    split at written
    · split at written
      · cases written
      · rename_i noError
        simp [noError]
    · simp [*]

/--
A `Reconcile` pass over the status it wrote itself, with every collaborator
answering as before, makes the same calls, writes the same status and ends
the same way: once a pass has written its status, the controller is at a
fixed point until something it reads changes.  The calls are those `Call`
records; the `Get` of the `Management` and the telemetry call of a first
pass at `observedGeneration` 0 are not among them.  The API server numbers
generations from one.
-/
theorem reconcile_rewrites_own_status (r : ManagedClusterReconciler) (collaborators : Collaborators)
    {managedCluster : ManagedCluster} (created : 0 < managedCluster.generation)
    (distinct : (conditionTypes managedCluster.status.conditions).Nodup)
    {status : ManagedClusterStatus}
    (written : (reconcile r collaborators managedCluster).statusWrite = some status) :
    reconcile r collaborators { managedCluster with status } =
      reconcile r collaborators managedCluster := by
  obtain ⟨live, first⟩ := reconcile_of_statusWrite written
  rw [first] at written ⊢
  rw [← update_rewrites_own_status r collaborators distinct written]
  simp [reconcile, live, update_observedGeneration written, created.ne']

/--
The pass over `readyCluster` copies the CAPI cluster's own `Ready` condition
over the aggregate and sets the aggregate back; run again on what it wrote,
it repeats itself.
-/
theorem reconcile_rewrites_own_status_readyCluster :
    0 < readyCluster.generation ∧ (conditionTypes readyCluster.status.conditions).Nodup ∧
      ∃ status, (reconcile systemReconciler missingServiceCollaborators readyCluster).statusWrite =
          some status ∧
        reconcile systemReconciler missingServiceCollaborators { readyCluster with status } =
          reconcile systemReconciler missingServiceCollaborators readyCluster :=
  ⟨by decide, by decide, _, rfl,
    reconcile_rewrites_own_status _ _ (by decide) (by decide) rfl⟩

end HmcReconcilers.ManagedClusterController
