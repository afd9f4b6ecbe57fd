import HmcReconcilers.ManagedClusterController.Delete

/-!
# The finalizer protocol over whole runs

A run interleaves the reconcile passes of one managed-cluster key with
everything else that can happen to the objects of that key: users create
the managed cluster, edit its spec, ask for its deletion and edit the
finalizers other controllers own; anyone deletes, edits or creates its
`HelmRelease`.  A pass whose delete of the release goes through marks the
stored release for deletion; the object goes when it is removed, which Flux
does once it has uninstalled it.  The add-on profile and the infrastructure
objects are not stored: each pass may get any answer from their helpers,
which covers every change made to them between passes.  Manual edits of the
controller's own finalizer are excluded.

The controller reconciles one key at a time, so passes never overlap.  A
pass fetches the managed cluster when it starts (`Step.beginPass`) and runs
when it ends (`Step.endPass`).  Its `Get` of the release reads the stored
release (not an informer cache lagging behind it), and its writes of the
managed cluster go through only while the stored object still has the
resource version the pass fetched, as on the API server.

The invariant `Guarded` holds in every reachable world: a release that a
pass wrote exists only while its managed cluster exists and carries the
finalizer.  It rests on the per-pass facts of the teardown module alone.
-/

namespace HmcReconcilers.ManagedClusterController

open HmcReconcilers

/-! ## The stored objects -/

/--
The cluster's `HelmRelease` as stored, with the uid of the managed cluster whose pass wrote it,
and whether its deletion was asked for: Flux uninstalls a release before the object goes.
-/
structure StoredRelease where
  release : HelmRelease
  writer : Option Nat
  deleting : Bool

/-- The objects of one managed-cluster key, and the managed cluster the pass in flight fetched. -/
structure World where
  managedCluster : Option ManagedCluster
  helmRelease : Option StoredRelease
  inFlight : Option ManagedCluster
  /-- The next fresh uid and resource version. -/
  nextVersion : Nat

/-- No object is stored and no pass runs. -/
def World.initial : World := ⟨none, none, none, 1⟩

/-- The error of a write of a managed cluster that changed or went away since it was fetched. -/
def staleWriteError : String := "the object has been modified"

/-- What the API server adds to one pass: a release `Get` failure other than not-found, and write failures. -/
structure PassFaults where
  releaseGet : Option String
  objectUpdate : Option String
  statusUpdate : Option String

/-- The API server adds nothing to a pass. -/
def noFaults : PassFaults := ⟨none, none, none⟩

/-- The answer to a write of the fetched managed cluster. -/
def writeAnswer (w : World) (snapshot : ManagedCluster) (fault : Option String) : Option String :=
  match w.managedCluster with
  | some current =>
      if current.resourceVersion = snapshot.resourceVersion then fault else some staleWriteError
  | none => some staleWriteError

/-- The answer to the pass's `Get` of the release. -/
def releaseLookup (w : World) (fault : Option String) : Except ApiError HelmRelease :=
  match fault, w.helmRelease with
  | some err, _ => .error (.failure err)
  | none, some stored => .ok stored.release
  | none, none => .error (.notFound "helmreleases.helm.toolkit.fluxcd.io not found")

/-- The collaborators of the pass in flight: any answers, except where the stored objects decide. -/
def passCollaborators (w : World) (snapshot : ManagedCluster) (answers : Collaborators)
    (faults : PassFaults) : Collaborators :=
  { answers with
    getHelmRelease := releaseLookup w faults.releaseGet
    objectUpdate := writeAnswer w snapshot faults.objectUpdate
    statusUpdate := writeAnswer w snapshot faults.statusUpdate }

/-- The stored managed cluster with new finalizers: gone once a deleted object has none left. -/
def withFinalizers (managedCluster : ManagedCluster) (finalizers : List String) (version : Nat) :
    Option ManagedCluster :=
  if managedCluster.deleting ∧ finalizers = [] then none
  else some { managedCluster with finalizers, resourceVersion := version }

/-- The finalizers of the first `Update` of the managed cluster that went through. -/
def writtenFinalizers (calls : List Call) : Option (List String) :=
  calls.findSome? fun
    | .updateFinalizers finalizers true => some finalizers
    | _ => none

/-- The stored managed cluster after a pass with these effects. -/
def clusterAfter (w : World) (effects : PassEffects) : Option ManagedCluster :=
  w.managedCluster.bind fun current =>
    match writtenFinalizers effects.calls, effects.statusWrite with
    | some finalizers, _ => withFinalizers current finalizers w.nextVersion
    | none, some status =>
        if Call.updateStatus true ∈ effects.calls then
          some { current with status, resourceVersion := w.nextVersion }
        else some current
    | none, none => some current

/--
The stored release after a pass: marked for deletion if the pass's delete of it went through,
and the one its release reconcile stored if that went through.
-/
def releaseAfter (w : World) (snapshot : ManagedCluster) (collaborators : Collaborators)
    (effects : PassEffects) : Option StoredRelease :=
  if Call.deleteHelmRelease (clusterKey snapshot) true ∈ effects.calls then
    w.helmRelease.map fun stored => { stored with deleting := true }
  else
    match collaborators.reconcileHelmRelease (clusterKey snapshot) with
    | .ok release =>
        if Call.reconcileHelmRelease (clusterKey snapshot) true ∈ effects.calls then
          some ⟨release, some snapshot.uid, w.helmRelease.any StoredRelease.deleting⟩
        else w.helmRelease
    | .error _ => w.helmRelease

/-- The world after the pass in flight, which fetched `snapshot`, ran against it. -/
def World.endPass (r : ManagedClusterReconciler) (w : World) (snapshot : ManagedCluster)
    (answers : Collaborators) (faults : PassFaults) : World :=
  let collaborators := passCollaborators w snapshot answers faults
  let effects := reconcile r collaborators snapshot
  ⟨clusterAfter w effects, releaseAfter w snapshot collaborators effects, none, w.nextVersion + 1⟩

/-- A managed cluster of a key as a user creates it. -/
def createdCluster (key : NamespacedName) (version : Nat) (finalizers : List String)
    (spec : ManagedClusterSpec) : ManagedCluster :=
  ⟨key.name, key.ns, version, 1, version, finalizers, false, spec, ⟨0, []⟩⟩

/-! ## Runs -/

/-- One step of a run over the objects of the managed-cluster key `key`. -/
inductive Step (r : ManagedClusterReconciler) (key : NamespacedName) : World → World → Prop
  /-- A user creates the managed cluster, with any spec and finalizers. -/
  | create {w : World} (finalizers : List String) (spec : ManagedClusterSpec)
      (absent : w.managedCluster = none) :
      Step r key w { w with
        managedCluster := some (createdCluster key w.nextVersion finalizers spec)
        nextVersion := w.nextVersion + 1 }
  /-- A user edits the spec. -/
  | editSpec {w : World} {managedCluster : ManagedCluster} (spec : ManagedClusterSpec)
      (present : w.managedCluster = some managedCluster) :
      Step r key w { w with
        managedCluster := some { managedCluster with
          spec, generation := managedCluster.generation + 1, resourceVersion := w.nextVersion }
        nextVersion := w.nextVersion + 1 }
  /-- A user asks for the deletion; an object without finalizers goes at once. -/
  | requestDeletion {w : World} {managedCluster : ManagedCluster}
      (present : w.managedCluster = some managedCluster) :
      Step r key w { w with
        managedCluster :=
          withFinalizers { managedCluster with deleting := true } managedCluster.finalizers
            w.nextVersion
        nextVersion := w.nextVersion + 1 }
  /-- Another controller edits the finalizers it owns; the controller's own stays as it is. -/
  | editForeignFinalizers {w : World} {managedCluster : ManagedCluster} (finalizers : List String)
      (present : w.managedCluster = some managedCluster)
      (kept : managedClusterFinalizer ∈ finalizers ↔
        managedClusterFinalizer ∈ managedCluster.finalizers) :
      Step r key w { w with
        managedCluster := withFinalizers managedCluster finalizers w.nextVersion
        nextVersion := w.nextVersion + 1 }
  /-- The release is deleted, by anyone or by the garbage collector. -/
  | removeRelease {w : World} : Step r key w { w with helmRelease := none }
  /-- Someone edits the stored release. -/
  | editRelease {w : World} {stored : StoredRelease} (release : HelmRelease)
      (present : w.helmRelease = some stored) :
      Step r key w { w with helmRelease := some { stored with release } }
  /-- Someone other than the controller creates the release. -/
  | createRelease {w : World} (release : HelmRelease) (absent : w.helmRelease = none) :
      Step r key w { w with helmRelease := some ⟨release, none, false⟩ }
  /-- A pass starts and fetches the managed cluster. -/
  | beginPass {w : World} {managedCluster : ManagedCluster}
      (present : w.managedCluster = some managedCluster) (idle : w.inFlight = none) :
      Step r key w { w with inFlight := some managedCluster }
  /-- The pass in flight runs, with any answers of its helpers and any faults of the API server. -/
  | endPass {w : World} {snapshot : ManagedCluster} (answers : Collaborators) (faults : PassFaults)
      (running : w.inFlight = some snapshot) :
      Step r key w (w.endPass r snapshot answers faults)

/-- The worlds a run can reach from `World.initial`. -/
inductive Reachable (r : ManagedClusterReconciler) (key : NamespacedName) : World → Prop
  | initial : Reachable r key World.initial
  | step {w w' : World} (reached : Reachable r key w) (step : Step r key w w') :
      Reachable r key w'

/-! ## The invariant -/

/-- The stored managed cluster has this uid and carries the finalizer. -/
def Finalized (managedCluster : Option ManagedCluster) (uid : Nat) : Prop :=
  ∃ stored ∈ managedCluster, stored.uid = uid ∧ managedClusterFinalizer ∈ stored.finalizers

/-- The stored release was last written by a pass over the managed cluster with this uid. -/
def WrittenBy (helmRelease : Option StoredRelease) (uid : Nat) : Prop :=
  ∃ stored ∈ helmRelease, stored.writer = some uid

@[simp]
theorem finalized_none (uid : Nat) : ¬Finalized none uid := fun ⟨_, absent, _⟩ => nomatch absent

@[simp]
theorem finalized_some {managedCluster : ManagedCluster} {uid : Nat} :
    Finalized (some managedCluster) uid ↔
      managedCluster.uid = uid ∧ managedClusterFinalizer ∈ managedCluster.finalizers := by
  simp [Finalized]

@[simp]
theorem writtenBy_none (uid : Nat) : ¬WrittenBy none uid := fun ⟨_, absent, _⟩ => nomatch absent

@[simp]
theorem writtenBy_some {stored : StoredRelease} {uid : Nat} :
    WrittenBy (some stored) uid ↔ stored.writer = some uid := by
  simp [WrittenBy]

/-- The invariant of the finalizer protocol. -/
structure Guarded (w : World) : Prop where
  /-- A release a pass wrote belongs to a stored managed cluster carrying the finalizer. -/
  release : ∀ uid, WrittenBy w.helmRelease uid → Finalized w.managedCluster uid
  /-- The pass in flight, if it fetched a finalized cluster, finds it still stored and finalized. -/
  inFlight : ∀ snapshot ∈ w.inFlight, managedClusterFinalizer ∈ snapshot.finalizers →
    Finalized w.managedCluster snapshot.uid

theorem guarded_initial : Guarded World.initial :=
  ⟨fun uid written => absurd written (writtenBy_none uid), fun _ idle => nomatch idle⟩

/-- A world that keeps every finalized cluster, every release writer and the pass in flight stays guarded. -/
theorem Guarded.mono {w w' : World} (guarded : Guarded w)
    (finalized : ∀ uid, Finalized w.managedCluster uid → Finalized w'.managedCluster uid)
    (writers : ∀ uid, WrittenBy w'.helmRelease uid → WrittenBy w.helmRelease uid)
    (inFlight : w'.inFlight = w.inFlight) : Guarded w' :=
  ⟨fun uid written => finalized uid (guarded.release uid (writers uid written)),
    fun snapshot running present => finalized _ (guarded.inFlight snapshot (inFlight ▸ running) present)⟩

theorem finalized_withFinalizers {managedCluster : ManagedCluster} {finalizers : List String}
    {uid version : Nat} (finalized : Finalized (some managedCluster) uid)
    (kept : managedClusterFinalizer ∈ finalizers) :
    Finalized (withFinalizers managedCluster finalizers version) uid := by
  have nonempty : finalizers ≠ [] := List.ne_nil_of_mem kept
  simp_all [withFinalizers]

theorem mem_of_writtenFinalizers {calls : List Call} {finalizers : List String}
    (written : writtenFinalizers calls = some finalizers) :
    Call.updateFinalizers finalizers true ∈ calls := by
  obtain ⟨call, called, picked⟩ := List.exists_of_findSome?_eq_some written
  cases call with
  | updateFinalizers finalizers' succeeded =>
      cases succeeded <;> simp only [Option.some.injEq, reduceCtorEq] at picked
      exact picked ▸ called
  | _ => cases picked

/-- A pass keeps a finalized cluster finalized unless it writes finalizers without the finalizer. -/
theorem finalized_clusterAfter {w : World} {effects : PassEffects} {uid : Nat}
    (finalized : Finalized w.managedCluster uid)
    (kept : ∀ finalizers, writtenFinalizers effects.calls = some finalizers →
      managedClusterFinalizer ∈ finalizers) :
    Finalized (clusterAfter w effects) uid := by
  obtain ⟨current, stored, rfl, present⟩ := finalized
  simp only [Option.mem_def] at stored
  simp only [clusterAfter, stored, Option.some_bind]
  split
  · exact finalized_withFinalizers ⟨current, rfl, rfl, present⟩ (kept _ ‹_›)
  · split <;> exact ⟨_, rfl, rfl, present⟩
  · exact ⟨_, rfl, rfl, present⟩

/-- After a pass the release was written by an earlier writer, or by this pass's reconcile. -/
theorem writtenBy_releaseAfter {w : World} {snapshot : ManagedCluster}
    {collaborators : Collaborators} {effects : PassEffects} {uid : Nat}
    (written : WrittenBy (releaseAfter w snapshot collaborators effects) uid) :
    WrittenBy w.helmRelease uid ∨
      uid = snapshot.uid ∧ Call.reconcileHelmRelease (clusterKey snapshot) true ∈ effects.calls := by
  unfold releaseAfter at written
  split at written
  · obtain ⟨_, marked, writer⟩ := written
    obtain ⟨stored, present, rfl⟩ := Option.mem_map.1 marked
    exact .inl ⟨stored, present, writer⟩
  split at written
  · split at written
    · obtain ⟨_, stored, writer⟩ := written
      cases stored
      exact .inr ⟨(Option.some.inj writer).symm, ‹_›⟩
    · exact .inl written
  · exact .inl written

theorem releaseLookup_notFound {w : World} {fault : Option String} {message : String}
    (lookup : releaseLookup w fault = .error (.notFound message)) : w.helmRelease = none := by
  unfold releaseLookup at lookup
  split at lookup <;> first | assumption | cases lookup

/-- The pass in flight keeps the invariant. -/
theorem Guarded.endPass (r : ManagedClusterReconciler) {w : World} {snapshot : ManagedCluster}
    (guarded : Guarded w) (running : w.inFlight = some snapshot) (answers : Collaborators)
    (faults : PassFaults) : Guarded (w.endPass r snapshot answers faults) := by
  set collaborators := passCollaborators w snapshot answers faults
  set effects := reconcile r collaborators snapshot
  -- a cluster whose release is stored keeps the finalizer: dropping it needs a not-found lookup
  have finalizedAfter : ∀ uid, WrittenBy w.helmRelease uid →
      Finalized (clusterAfter w effects) uid := fun uid written => by
    refine finalized_clusterAfter (guarded.release uid written) fun finalizers wrote => ?_
    by_contra removed
    have sublist := reconcile_removes_finalizer_after_notFound r collaborators snapshot _ _
      (mem_of_writtenFinalizers wrote) removed
    obtain ⟨message, lookup⟩ := reconcile_lookup_notFound (sublist.subset (by simp))
    obtain ⟨_, stored, -⟩ := written
    simp [releaseLookup_notFound lookup] at stored
  refine ⟨fun uid written => ?_, fun _ idle => nomatch idle⟩
  rcases writtenBy_releaseAfter written with earlier | ⟨rfl, reconciled⟩
  · exact finalizedAfter uid earlier
  · obtain ⟨finalized, live⟩ :=
      reconcile_writes_only_finalized r collaborators snapshot _ _ (.inl reconciled)
    refine finalized_clusterAfter (guarded.inFlight snapshot running finalized)
      fun finalizers wrote => ?_
    exact absurd (mem_of_writtenFinalizers wrote)
      (reconcile_no_finalizer_write finalized live _ _)

/-- Every step of a run keeps the invariant. -/
theorem Guarded.step {r : ManagedClusterReconciler} {key : NamespacedName} {w w' : World}
    (guarded : Guarded w) (step : Step r key w w') : Guarded w' := by
  cases step with
  | create finalizers spec absent =>
      exact guarded.mono (fun uid finalized => by simp [absent] at finalized) (fun _ => id) rfl
  | editSpec spec present =>
      exact guarded.mono (fun uid finalized => by simpa [present] using finalized) (fun _ => id) rfl
  | requestDeletion present =>
      refine guarded.mono (fun uid finalized => ?_) (fun _ => id) rfl
      rw [present, finalized_some] at finalized
      exact finalized_withFinalizers (finalized_some.2 finalized) finalized.2
  | editForeignFinalizers finalizers present same =>
      refine guarded.mono (fun uid finalized => ?_) (fun _ => id) rfl
      rw [present, finalized_some] at finalized
      exact finalized_withFinalizers (finalized_some.2 finalized) (same.2 finalized.2)
  | removeRelease => exact guarded.mono (fun _ => id) (fun uid written => by simp at written) rfl
  | editRelease release present =>
      exact guarded.mono (fun _ => id) (fun uid written => by simpa [present] using written) rfl
  | createRelease release absent =>
      exact guarded.mono (fun _ => id) (fun uid written => by simp at written) rfl
  | beginPass present idle =>
      refine ⟨guarded.release, fun snapshot running finalized => ?_⟩
      cases running
      exact ⟨_, present, rfl, finalized⟩
  | endPass answers faults running => exact guarded.endPass r running answers faults

theorem Reachable.guarded {r : ManagedClusterReconciler} {key : NamespacedName} {w : World}
    (reached : Reachable r key w) : Guarded w := by
  induction reached with
  | initial => exact guarded_initial
  | step _ step guarded => exact guarded.step step

/-- `readyCluster`'s spec, created with the finalizer as the first object of its key. -/
def finalizedSnapshot : ManagedCluster :=
  createdCluster ⟨"default", "dev"⟩ 1 [managedClusterFinalizer] readyCluster.spec

/-- The world after `finalizedSnapshot` was created and one pass over it ran to its end. -/
def reconciledWorld : World :=
  World.endPass systemReconciler ⟨some finalizedSnapshot, none, some finalizedSnapshot, 2⟩
    finalizedSnapshot missingServiceCollaborators noFaults

theorem reconciledWorld_reachable : Reachable systemReconciler ⟨"default", "dev"⟩ reconciledWorld :=
  .step (.step (.step .initial (.create [managedClusterFinalizer] readyCluster.spec rfl))
    (.beginPass rfl rfl)) (.endPass _ _ rfl)

/-- `finalizedSnapshot` with the status the pass wrote: its stages' conditions and the aggregate `Ready`. -/
def reconciledCluster : ManagedCluster :=
  { finalizedSnapshot with
    status := ⟨1, [templateValidCondition, chartValidCondition,
      ⟨helmReleaseReadyCondition, conditionTrue, "InstallSucceeded", "ok"⟩,
      ⟨readyCondition, conditionTrue, succeededReason, "ManagedCluster is ready"⟩]⟩
    resourceVersion := 2 }

theorem reconciledWorld_managedCluster : reconciledWorld.managedCluster = some reconciledCluster :=
  rfl

end HmcReconcilers.ManagedClusterController
