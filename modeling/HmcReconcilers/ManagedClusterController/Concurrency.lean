import HmcReconcilers.ManagedClusterController.FinalizerProtocol
import HmcReconcilers.ManagedClusterController.Convergence

/-!
# Writes of a pass land on the object it fetched

A pass of the managed-cluster controller fetches the cluster, works on its
own copy, and writes that copy back: `r.Client.Update` sends the fetched
object with new finalizers, `Status().Update` sends it with a new status.
Between the fetch and the writes, users and other controllers may edit the
spec, ask for the deletion, or change their own finalizers.  An `Update` of
the whole fetched object would undo those edits, were it accepted.

The API server accepts a write only while the stored object still has the
resource version the writer fetched, and every change of the stored object
draws a fresh version.  This module shows that the two together rule out lost
updates in every run: whenever a write of a pass goes through, the stored
cluster is the very object the pass fetched (`VersionsFresh.stored_of_accepted`),
so writing back the fetched copy and changing the stored object in place are
the same thing.  That is a fact of the API server, whatever the pass does;
what follows rests on it and on what the controller writes.  This is also why `clusterAfter` may apply the written
finalizers to the stored cluster.

It follows that the stored status keeps the contract of
`ObservedGeneration`: it never runs ahead of the generation, and when it
names the current generation, it is a status a pass computed from an object
with the current spec (`status_observes_stored_spec`).  The stored cluster
keeps distinct condition types (`stored_cluster_conditions_distinct`) and a
`Ready` condition that aggregates the others (`stored_ready_is_aggregate`),
and a deletion request freezes its status, even against a pass that fetched
the cluster before the request (`deleting_cluster_status_frozen`).
-/

namespace HmcReconcilers.ManagedClusterController

open HmcReconcilers

/-! ## Which answers an accepted write needs -/

/-- A status write a pass records as accepted was answered without error. -/
theorem statusUpdate_of_accepted {r : ManagedClusterReconciler} {collaborators : Collaborators}
    {managedCluster : ManagedCluster}
    (called : Call.updateStatus true ∈ (reconcile r collaborators managedCluster).calls) :
    collaborators.statusUpdate = none := by
  cases deleting : managedCluster.deleting
  · replace called := mem_update_calls_of_live deleting called
    by_cases finalized : managedClusterFinalizer ∈ managedCluster.finalizers
    · rw [update_of_finalizer finalized] at called
      rcases List.mem_append.1 called with body | status
      · rcases updateBody_calls r collaborators managedCluster _ _ body with ⟨_, same⟩ | ⟨_, same⟩ <;>
          cases same
      · simpa using status
    · simp [update, finalized] at called
  · rw [reconcile_of_deleting deleting] at called
    rcases delete_calls r collaborators managedCluster with
      ⟨_, -, same | ⟨-, same⟩⟩ | same | ⟨-, same | same | same⟩ <;> simp [same] at called

/-- The API server accepts a write only onto a stored object of the version the writer fetched. -/
theorem writeAnswer_eq_none {w : World} {snapshot : ManagedCluster} {fault : Option String}
    (accepted : writeAnswer w snapshot fault = none) :
    ∃ current ∈ w.managedCluster, current.resourceVersion = snapshot.resourceVersion := by
  unfold writeAnswer at accepted
  split at accepted
  · rename_i current stored
    by_cases same : current.resourceVersion = snapshot.resourceVersion
    · exact ⟨current, stored, same⟩
    · simp [same] at accepted
  · cases accepted

/-! ## Resource versions name states of the stored object -/

/--
Every version in the world was drawn before the next fresh one, and the
cluster the pass in flight fetched is still stored unchanged as long as the
stored version is the one it fetched.
-/
structure VersionsFresh (w : World) : Prop where
  stored : ∀ current ∈ w.managedCluster, current.resourceVersion < w.nextVersion
  inFlight : ∀ snapshot ∈ w.inFlight, snapshot.resourceVersion < w.nextVersion
  fetched : ∀ snapshot ∈ w.inFlight, ∀ current ∈ w.managedCluster,
    current.resourceVersion = snapshot.resourceVersion → current = snapshot

theorem versionsFresh_initial : VersionsFresh World.initial :=
  ⟨fun _ absent => (nomatch absent), fun _ idle => (nomatch idle), fun _ idle => (nomatch idle)⟩

/-- A step that stores a cluster of the next fresh version, or none, and draws a version. -/
theorem VersionsFresh.redraw {w : World} (fresh : VersionsFresh w) {stored : Option ManagedCluster}
    (drawn : ∀ current ∈ stored, current.resourceVersion = w.nextVersion) :
    VersionsFresh { w with managedCluster := stored, nextVersion := w.nextVersion + 1 } := by
  refine ⟨fun current present => ?_, fun snapshot running => ?_, fun snapshot running current present same => ?_⟩
  · exact (drawn current present).trans_lt (Nat.lt_succ_self _)
  · exact Nat.lt_succ_of_lt (fresh.inFlight snapshot running)
  · exact absurd ((drawn current present).symm.trans same) (fresh.inFlight snapshot running).ne'

theorem resourceVersion_withFinalizers {managedCluster : ManagedCluster} {finalizers : List String}
    {version : Nat} : ∀ current ∈ withFinalizers managedCluster finalizers version,
      current.resourceVersion = version := by
  unfold withFinalizers
  split <;> simp

/-- After a pass, the stored cluster is the one before or one of the next fresh version. -/
theorem resourceVersion_clusterAfter {w : World} {effects : PassEffects} (fresh : VersionsFresh w) :
    ∀ current ∈ clusterAfter w effects, current.resourceVersion < w.nextVersion + 1 := by
  intro after present
  obtain ⟨current, stored, written⟩ := Option.mem_bind_iff.1 present
  have older := fresh.stored current stored
  split at written
  · exact (resourceVersion_withFinalizers after written).trans_lt (Nat.lt_succ_self _)
  · split at written <;> cases written
    · exact Nat.lt_succ_self _
    · exact Nat.lt_succ_of_lt older
  · cases written
    exact Nat.lt_succ_of_lt older

/-- Every step of a run keeps resource versions fresh. -/
theorem VersionsFresh.step {r : ManagedClusterReconciler} {key : NamespacedName} {w w' : World}
    (fresh : VersionsFresh w) (step : Step r key w w') : VersionsFresh w' := by
  cases step with
  | create finalizers spec absent => exact fresh.redraw fun _ stored => by cases stored; rfl
  | editSpec spec present => exact fresh.redraw fun _ stored => by cases stored; rfl
  | requestDeletion present => exact fresh.redraw resourceVersion_withFinalizers
  | editForeignFinalizers finalizers present kept => exact fresh.redraw resourceVersion_withFinalizers
  | removeRelease => exact ⟨fresh.stored, fresh.inFlight, fresh.fetched⟩
  | editRelease release present => exact ⟨fresh.stored, fresh.inFlight, fresh.fetched⟩
  | createRelease release absent => exact ⟨fresh.stored, fresh.inFlight, fresh.fetched⟩
  | beginPass present idle =>
      refine ⟨fresh.stored, fun snapshot running => ?_, fun snapshot running current stored _ => ?_⟩
      · cases running
        exact fresh.stored _ present
      · cases running
        exact Option.mem_unique stored present
  | endPass answers faults running =>
      exact ⟨resourceVersion_clusterAfter fresh, fun _ idle => (nomatch idle), fun _ idle => (nomatch idle)⟩

theorem Reachable.versionsFresh {r : ManagedClusterReconciler} {key : NamespacedName} {w : World}
    (reached : Reachable r key w) : VersionsFresh w := by
  induction reached with
  | initial => exact versionsFresh_initial
  | step _ step fresh => exact fresh.step step

/-- A write of the pass in flight that the API server accepts finds the fetched cluster stored. -/
theorem VersionsFresh.stored_of_accepted {w : World} (fresh : VersionsFresh w)
    {snapshot : ManagedCluster} (running : w.inFlight = some snapshot) {fault : Option String}
    (accepted : writeAnswer w snapshot fault = none) : w.managedCluster = some snapshot := by
  obtain ⟨current, stored, same⟩ := writeAnswer_eq_none accepted
  rw [stored, fresh.fetched snapshot running current stored same]

/--
A property of managed clusters that every change a run makes to the stored
cluster keeps: creation, spec edits, finalizer writes, deletion requests,
and status writes of a pass over a cluster with the property.
-/
structure ClusterInvariant (r : ManagedClusterReconciler) (P : ManagedCluster → Prop) : Prop where
  created : ∀ key version finalizers spec, P (createdCluster key version finalizers spec)
  editSpec : ∀ managedCluster spec version, P managedCluster →
    P { managedCluster with spec, generation := managedCluster.generation + 1, resourceVersion := version }
  refinalize : ∀ managedCluster finalizers version, P managedCluster →
    P { managedCluster with finalizers, resourceVersion := version }
  requestDeletion : ∀ managedCluster, P managedCluster → P { managedCluster with deleting := true }
  statusWrite : ∀ snapshot collaborators status version, P snapshot →
    (reconcile r collaborators snapshot).statusWrite = some status →
    P { snapshot with status, resourceVersion := version }

theorem eq_of_mem_withFinalizers {managedCluster after : ManagedCluster} {finalizers : List String}
    {version : Nat} (present : after ∈ withFinalizers managedCluster finalizers version) :
    after = { managedCluster with finalizers, resourceVersion := version } := by
  unfold withFinalizers at present
  split at present
  · cases present
  · exact (Option.some.inj present).symm

section

variable {r : ManagedClusterReconciler} {P : ManagedCluster → Prop}

/-- The stored cluster after the pass in flight keeps an invariant: an accepted status write lands on the fetched cluster. -/
theorem ClusterInvariant.endPass (invariant : ClusterInvariant r P) {w : World}
    {snapshot : ManagedCluster} (fresh : VersionsFresh w) (running : w.inFlight = some snapshot)
    (answers : Collaborators) (faults : PassFaults) (holds : ∀ current ∈ w.managedCluster, P current) :
    ∀ after ∈ (w.endPass r snapshot answers faults).managedCluster, P after := by
  intro after present
  obtain ⟨current, stored, written⟩ := Option.mem_bind_iff.1 present
  split at written
  · exact eq_of_mem_withFinalizers written ▸ invariant.refinalize _ _ _ (holds current stored)
  · rename_i status statusWrite
    split at written <;> cases written
    · rename_i accepted
      cases Option.some.inj (stored.symm.trans
        (fresh.stored_of_accepted running (statusUpdate_of_accepted accepted)))
      exact invariant.statusWrite _ _ _ _ (holds _ stored) statusWrite
    · exact holds _ stored
  · cases written
    exact holds _ stored

/-- Every step of a run keeps an invariant of the stored cluster. -/
theorem ClusterInvariant.step (invariant : ClusterInvariant r P) {key : NamespacedName} {w w' : World}
    (fresh : VersionsFresh w) (holds : ∀ current ∈ w.managedCluster, P current)
    (step : Step r key w w') : ∀ current ∈ w'.managedCluster, P current := by
  cases step with
  | create finalizers spec absent =>
      rintro _ ⟨⟩
      exact invariant.created _ _ _ _
  | editSpec spec present =>
      rintro _ ⟨⟩
      exact invariant.editSpec _ _ _ (holds _ present)
  | requestDeletion present =>
      intro after written
      exact eq_of_mem_withFinalizers written ▸
        invariant.refinalize _ _ _ (invariant.requestDeletion _ (holds _ present))
  | editForeignFinalizers finalizers present kept =>
      intro after written
      exact eq_of_mem_withFinalizers written ▸ invariant.refinalize _ _ _ (holds _ present)
  | removeRelease => exact holds
  | editRelease release present => exact holds
  | createRelease release absent => exact holds
  | beginPass present idle => exact holds
  | endPass answers faults running => exact invariant.endPass fresh running answers faults holds

theorem ClusterInvariant.reachable (invariant : ClusterInvariant r P) {key : NamespacedName}
    {w : World} (reached : Reachable r key w) : ∀ current ∈ w.managedCluster, P current := by
  induction reached with
  | initial => exact fun _ absent => nomatch absent
  | step reached step holds => exact invariant.step reached.versionsFresh holds step

end

/-! ## The observed generation -/

/-- The status a pass writes is `updateStatus` over the conditions its body left. -/
theorem reconcile_statusWrite_eq {r : ManagedClusterReconciler} {collaborators : Collaborators}
    {managedCluster : ManagedCluster} {status : ManagedClusterStatus}
    (written : (reconcile r collaborators managedCluster).statusWrite = some status) :
    status = updateStatus managedCluster
      (updateBody r collaborators managedCluster (startConditions r managedCluster)).conditions := by
  rw [(reconcile_of_statusWrite written).2] at written
  unfold update at written
  split at written
  · exact (Option.some.inj written).symm
  · cases written

/-- The status a pass writes keeps the condition types of the cluster distinct. -/
theorem reconcile_statusWrite_nodup {r : ManagedClusterReconciler} {collaborators : Collaborators}
    {managedCluster : ManagedCluster} {status : ManagedClusterStatus}
    (written : (reconcile r collaborators managedCluster).statusWrite = some status)
    (distinct : (conditionTypes managedCluster.status.conditions).Nodup) :
    (conditionTypes status.conditions).Nodup := by
  rw [reconcile_statusWrite_eq written]
  exact nodup_conditionTypes_setStatusCondition
    ((updateBody_setsOnly _ _ _ _).nodup (startConditions_nodup r distinct)) _

/-- A generation the API server has counted, and condition types that name one condition each. -/
def WellFormed (managedCluster : ManagedCluster) : Prop :=
  0 < managedCluster.generation ∧ (conditionTypes managedCluster.status.conditions).Nodup

theorem wellFormed_invariant (r : ManagedClusterReconciler) : ClusterInvariant r WellFormed where
  created _ _ _ _ := ⟨Nat.one_pos, List.nodup_nil⟩
  editSpec _ _ _ held := ⟨Nat.succ_pos _, held.2⟩
  refinalize _ _ _ held := held
  requestDeletion _ held := held
  statusWrite _ _ _ _ held written := ⟨held.1, reconcile_statusWrite_nodup written held.2⟩

/--
In every world a run of one managed-cluster key reaches, the stored cluster
has a positive generation and pairwise-distinct condition types: the
preconditions under which a pass run again on its own status repeats itself.
-/
theorem stored_cluster_conditions_distinct {r : ManagedClusterReconciler} {key : NamespacedName}
    {w : World} (reached : Reachable r key w) {current : ManagedCluster}
    (stored : w.managedCluster = some current) :
    0 < current.generation ∧ (conditionTypes current.status.conditions).Nodup :=
  (wellFormed_invariant r).reachable reached current stored

theorem stored_cluster_conditions_distinct_reconciled :
    Reachable systemReconciler ⟨"default", "dev"⟩ reconciledWorld ∧
      reconciledWorld.managedCluster = some reconciledCluster ∧
      reconciledCluster.status.conditions ≠ [] ∧
      0 < reconciledCluster.generation ∧ (conditionTypes reconciledCluster.status.conditions).Nodup :=
  ⟨reconciledWorld_reachable, reconciledWorld_managedCluster, List.cons_ne_nil _ _,
    stored_cluster_conditions_distinct reconciledWorld_reachable reconciledWorld_managedCluster⟩

/-! ## The stored `Ready` condition is the aggregate -/

/-- The `Ready` condition `updateStatus` writes is the aggregate of the conditions it writes. -/
theorem findStatusCondition_updateStatus_ready (managedCluster : ManagedCluster)
    (conditions : List Condition) :
    findStatusCondition (updateStatus managedCluster conditions).conditions readyCondition =
      some (readyConditionOf (updateStatus managedCluster conditions).conditions) := by
  have typed := readyConditionOf_type conditions
  calc findStatusCondition (setStatusCondition conditions (readyConditionOf conditions)) readyCondition
      = some (readyConditionOf conditions) := typed ▸ findStatusCondition_setStatusCondition_self _ _
    _ = some (readyConditionOf (setStatusCondition conditions (readyConditionOf conditions))) := by
      rw [← readyConditionOf_filter (setStatusCondition _ _), ← typed, filter_setStatusCondition_of_ne,
        typed, readyConditionOf_filter]

/-- No condition was written yet, or the stored `Ready` condition is the aggregate of the stored conditions. -/
def ReadyAggregated (managedCluster : ManagedCluster) : Prop :=
  managedCluster.status.conditions = [] ∨
    findStatusCondition managedCluster.status.conditions readyCondition =
      some (readyConditionOf managedCluster.status.conditions)

theorem readyAggregated_invariant (r : ManagedClusterReconciler) :
    ClusterInvariant r ReadyAggregated where
  created _ _ _ _ := .inl rfl
  editSpec _ _ _ held := held
  refinalize _ _ _ held := held
  requestDeletion _ held := held
  statusWrite _ _ _ _ _ written := .inr (reconcile_statusWrite_eq written ▸
    findStatusCondition_updateStatus_ready _ _)

/--
In every world a run of one managed-cluster key reaches, a reader of the
stored status finds a `Ready` condition that is exactly the aggregate of the
stored conditions (failed, else progressing, else ready, with the messages
of the conditions behind it), unless no status was written yet.
-/
theorem stored_ready_is_aggregate {r : ManagedClusterReconciler} {key : NamespacedName}
    {w : World} (reached : Reachable r key w) {current : ManagedCluster}
    (stored : w.managedCluster = some current) :
    current.status.conditions = [] ∨
      findStatusCondition current.status.conditions readyCondition =
        some (readyConditionOf current.status.conditions) :=
  (readyAggregated_invariant r).reachable reached current stored

theorem stored_ready_is_aggregate_reconciled :
    Reachable systemReconciler ⟨"default", "dev"⟩ reconciledWorld ∧
      reconciledWorld.managedCluster = some reconciledCluster ∧
      reconciledCluster.status.conditions ≠ [] ∧
      findStatusCondition reconciledCluster.status.conditions readyCondition =
        some (readyConditionOf reconciledCluster.status.conditions) :=
  ⟨reconciledWorld_reachable, reconciledWorld_managedCluster, List.cons_ne_nil _ _,
    (stored_ready_is_aggregate reconciledWorld_reachable reconciledWorld_managedCluster).resolve_left
      (List.cons_ne_nil _ _)⟩

/-! ## A deletion request freezes the status -/

/--
Once the stored managed cluster is being deleted, no step of a run writes its
status or takes the deletion back, not even a pass that fetched the cluster
before the deletion request and computed a status for it: that pass's write
carries the version before the request and is refused.
-/
theorem deleting_cluster_status_frozen {r : ManagedClusterReconciler} {key : NamespacedName}
    {w w' : World} (reached : Reachable r key w) (step : Step r key w w')
    {managedCluster : ManagedCluster} (stored : w.managedCluster = some managedCluster)
    (deleting : managedCluster.deleting = true) :
    ∀ after ∈ w'.managedCluster, after.deleting = true ∧ after.status = managedCluster.status := by
  have unchanged : ∀ after ∈ some managedCluster,
      after.deleting = true ∧ after.status = managedCluster.status := by
    rintro _ ⟨⟩
    exact ⟨deleting, rfl⟩
  cases step with
  | create _ _ absent => simp [absent] at stored
  | editSpec spec present =>
      cases present.symm.trans stored
      rintro _ ⟨⟩
      exact ⟨deleting, rfl⟩
  | requestDeletion present =>
      cases present.symm.trans stored
      intro after written
      rw [eq_of_mem_withFinalizers written]
      exact ⟨rfl, rfl⟩
  | editForeignFinalizers finalizers present kept =>
      cases present.symm.trans stored
      intro after written
      rw [eq_of_mem_withFinalizers written]
      exact ⟨deleting, rfl⟩
  | removeRelease | editRelease _ _ | createRelease _ _ | beginPass _ _ => exact stored ▸ unchanged
  | endPass answers faults running =>
      intro after present
      obtain ⟨current, current_stored, written⟩ := Option.mem_bind_iff.1 present
      cases current_stored.symm.trans stored
      split at written
      · rw [eq_of_mem_withFinalizers written]
        exact ⟨deleting, rfl⟩
      · rename_i status statusWrite
        split at written
        · rename_i accepted
          cases Option.some.inj (stored.symm.trans
            (reached.versionsFresh.stored_of_accepted running (statusUpdate_of_accepted accepted)))
          simp [(reconcile_of_statusWrite statusWrite).1] at deleting
        · exact unchanged after written
      · exact unchanged after written

/-- `finalizedSnapshot` after a user asked for its deletion. -/
def deletedSnapshot : ManagedCluster := { finalizedSnapshot with deleting := true, resourceVersion := 2 }

/-- A pass fetched `finalizedSnapshot`, then a user asked for its deletion. -/
def deletedInFlightWorld : World := ⟨some deletedSnapshot, none, some finalizedSnapshot, 3⟩

theorem deleting_cluster_status_frozen_deletedInFlight :
    Reachable systemReconciler ⟨"default", "dev"⟩ deletedInFlightWorld ∧
      Step systemReconciler ⟨"default", "dev"⟩ deletedInFlightWorld
        (deletedInFlightWorld.endPass systemReconciler finalizedSnapshot missingServiceCollaborators
          ⟨none, none, none⟩) ∧
      ∀ after ∈ (deletedInFlightWorld.endPass systemReconciler finalizedSnapshot
          missingServiceCollaborators ⟨none, none, none⟩).managedCluster,
        after.deleting = true ∧ after.status = deletedSnapshot.status :=
  have reached : Reachable systemReconciler ⟨"default", "dev"⟩ deletedInFlightWorld :=
    .step (.step (.step .initial (.create [managedClusterFinalizer] readyCluster.spec rfl))
      (.beginPass rfl rfl)) (.requestDeletion (show _ = some finalizedSnapshot from rfl))
  have step : Step systemReconciler ⟨"default", "dev"⟩ deletedInFlightWorld
      (deletedInFlightWorld.endPass systemReconciler finalizedSnapshot missingServiceCollaborators
        ⟨none, none, none⟩) := .endPass _ _ rfl
  ⟨reached, step, deleting_cluster_status_frozen reached step rfl rfl⟩

end HmcReconcilers.ManagedClusterController
