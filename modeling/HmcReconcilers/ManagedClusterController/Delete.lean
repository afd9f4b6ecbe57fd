import HmcReconcilers.ManagedClusterController.Update

/-!
# Teardown and the reconcile entry point of the managed-cluster controller

`ManagedClusterReconciler.Delete` runs on a managed cluster with a deletion
timestamp.  While the cluster's `HelmRelease` is still found it deletes the
add-on profile, then the release, then runs the infrastructure release gate
`releaseCluster`, and asks to be called again; once the `Get` of the release
answers not-found it removes the cluster's finalizer.  `releaseCluster` walks
the infrastructure providers of the cluster's template and drops the
blocking finalizer of the provider's cluster object once no `Machine` is
left under it; it returns right after the first finalizer it removes, so one
call releases at most one object, and on a template naming two recognised
providers the second is never reached.  `Reconcile` sends a cluster to
`Delete` or to `Update`.

The per-pass half of the finalizer protocol is proved here: a pass writes
the release or the profile only for a cluster that carried the finalizer and
no deletion timestamp when it was fetched; it drops the finalizer only after
the release lookup answered not-found; and on a found release it deletes the
profile before the release and runs the gate only after both deletes.
-/

namespace HmcReconcilers.ManagedClusterController

open HmcReconcilers

/-! ## The infrastructure release gate -/

/-- `providerSchema`: the kinds of a provider's machine and cluster objects. -/
structure ProviderSchema where
  machine : String
  cluster : String
deriving DecidableEq, Repr

/-- The kind of `gvkAWSCluster`. -/
def awsClusterKind : String := "awscluster"

/-- The kind of `gvkAzureCluster`. -/
def azureClusterKind : String := "azurecluster"

/-- The kind of `gvkMachine`. -/
def machineKind : String := "machine"

/-- The static `providerGVKs` table of `releaseCluster`. -/
def providerGVKs (provider : String) : Option ProviderSchema :=
  if provider = "aws" then some ⟨machineKind, awsClusterKind⟩
  else if provider = "azure" then some ⟨machineKind, azureClusterKind⟩
  else none

/-- What `releaseCluster` did: the infrastructure objects it patched, and its error. -/
structure ReleaseEnd where
  patched : List InfraCluster
  error : Option String
deriving DecidableEq, Repr

/-- `getProviders`: the infrastructure providers of the cluster's template. -/
def getProviders (r : ManagedClusterReconciler) (collaborators : Collaborators)
    (templateName : String) : Except String (List String) :=
  match collaborators.getClusterTemplate ⟨r.systemNamespace, templateName⟩ with
  | .error err => .error err.error
  | .ok template => .ok template.providers.infrastructureProviders

/-- `getCluster`: the first object of a kind labelled with the release name. -/
def getCluster (collaborators : Collaborators) (ns name kind : String) :
    Except String InfraCluster :=
  match collaborators.listInfraClusters kind ⟨ns, name⟩ with
  | .error err => .error err.error
  | .ok [] => .error (kind ++ " with name " ++ name ++ " was not found")
  | .ok (cluster :: _) => .ok cluster

/-- `machinesAvailable`: whether an object of a machine kind labelled with the cluster name exists. -/
def machinesAvailable (collaborators : Collaborators) (ns clusterName kind : String) :
    Except String Bool :=
  match collaborators.listMachines kind ⟨ns, clusterName⟩ with
  | .error err => .error err.error
  | .ok items => .ok (items ≠ [])

/-- `removeClusterFinalizer`: patch the blocking finalizer away, when the object has it. -/
def removeClusterFinalizer (collaborators : Collaborators) (cluster : InfraCluster) : ReleaseEnd :=
  if blockingFinalizer ∈ cluster.finalizers then
    let patched := { cluster with finalizers := removeFinalizer cluster.finalizers blockingFinalizer }
    match collaborators.patchInfraCluster patched with
    | some err =>
        ⟨[], some ("failed to patch cluster " ++ cluster.ns ++ "/" ++ cluster.name ++ ": " ++ err)⟩
    | none => ⟨[patched], none⟩
  else ⟨[], none⟩

/-- The loop of `releaseCluster`; it returns right after the first finalizer removal. -/
def releaseProviders (collaborators : Collaborators) (ns name : String) :
    List String → ReleaseEnd
  | [] => ⟨[], none⟩
  | provider :: rest =>
      match providerGVKs provider with
      | none => releaseProviders collaborators ns name rest
      | some gvk =>
          match getCluster collaborators ns name gvk.cluster with
          | .error err => ⟨[], some err⟩
          | .ok cluster =>
              match machinesAvailable collaborators ns cluster.name gvk.machine with
              | .error err => ⟨[], some err⟩
              | .ok true => releaseProviders collaborators ns name rest
              | .ok false => removeClusterFinalizer collaborators cluster

/-- `ManagedClusterReconciler.releaseCluster`. -/
def releaseCluster (r : ManagedClusterReconciler) (collaborators : Collaborators)
    (ns name templateName : String) : ReleaseEnd :=
  match getProviders r collaborators templateName with
  | .error err => ⟨[], some err⟩
  | .ok providers => releaseProviders collaborators ns name providers

/-! ## What one call of the gate releases -/

/-- A recognised provider whose cluster object is listed with no machine left under it. -/
def Releasable (collaborators : Collaborators) (ns name provider : String)
    (cluster : InfraCluster) : Prop :=
  ∃ gvk, providerGVKs provider = some gvk ∧ getCluster collaborators ns name gvk.cluster = .ok cluster ∧
    machinesAvailable collaborators ns cluster.name gvk.machine = .ok false

/-- Unrecognised provider names are skipped: dropping them changes nothing. -/
theorem releaseProviders_filter_recognised (collaborators : Collaborators) (ns name : String)
    (providers : List String) :
    releaseProviders collaborators ns name
        (providers.filter fun provider => (providerGVKs provider).isSome) =
      releaseProviders collaborators ns name providers := by
  induction providers with
  | nil => rfl
  | cons provider rest ih =>
      cases recognised : providerGVKs provider <;> simp [releaseProviders, recognised, ih]

theorem removeClusterFinalizer_patched (collaborators : Collaborators) (cluster : InfraCluster) :
    (removeClusterFinalizer collaborators cluster).patched = [] ∨
      blockingFinalizer ∈ cluster.finalizers ∧
        (removeClusterFinalizer collaborators cluster).patched =
          [{ cluster with finalizers := removeFinalizer cluster.finalizers blockingFinalizer }] := by
  unfold removeClusterFinalizer
  split
  · dsimp only
    split
    · exact .inl rfl
    · exact .inr ⟨‹_›, rfl⟩
  · exact .inl rfl

/--
One call patches at most one object: the cluster object of the first
releasable provider, with the blocking finalizer dropped.  An object whose
cluster still has a machine is never patched.
-/
theorem releaseProviders_patched (collaborators : Collaborators) (ns name : String)
    (providers : List String) :
    (releaseProviders collaborators ns name providers).patched = [] ∨
      ∃ provider ∈ providers, ∃ cluster, Releasable collaborators ns name provider cluster ∧
        blockingFinalizer ∈ cluster.finalizers ∧
        (releaseProviders collaborators ns name providers).patched =
          [{ cluster with finalizers := removeFinalizer cluster.finalizers blockingFinalizer }] := by
  induction providers with
  | nil => exact .inl rfl
  | cons provider rest ih =>
      unfold releaseProviders
      cases recognised : providerGVKs provider with
      | none => exact ih.imp_right fun ⟨other, member, found⟩ => ⟨other, .tail _ member, found⟩
      | some gvk =>
          dsimp only
          cases listed : getCluster collaborators ns name gvk.cluster with
          | error => exact .inl rfl
          | ok cluster =>
              dsimp only
              cases machines : machinesAvailable collaborators ns cluster.name gvk.machine with
              | error => exact .inl rfl
              | ok found =>
                  cases found
                  · exact (removeClusterFinalizer_patched collaborators cluster).imp_right
                      fun ⟨present, patched⟩ =>
                        ⟨provider, .head _, cluster, ⟨gvk, recognised, listed, machines⟩, present,
                          patched⟩
                  · exact ih.imp_right fun ⟨other, member, found⟩ => ⟨other, .tail _ member, found⟩

/-- The AWS cluster object of `default/dev`, still holding the blocking finalizer. -/
def awsInfraCluster : InfraCluster := ⟨"dev-aws", "default", [blockingFinalizer]⟩

/-- The Azure cluster object of `default/dev`, still holding the blocking finalizer. -/
def azureInfraCluster : InfraCluster := ⟨"dev-azure", "default", [blockingFinalizer]⟩

/-- A template naming both providers, the given AWS objects, the Azure object, and no machine. -/
def twoProviderCollaborators (awsClusters : List InfraCluster) : Collaborators :=
  { missingServiceCollaborators with
    getClusterTemplate := fun _ =>
      .ok { TemplateStatus.zero with providers := ⟨["aws", "azure"], [], []⟩, valid := true }
    listInfraClusters := fun kind _ =>
      if kind = awsClusterKind then .ok awsClusters
      else if kind = azureClusterKind then .ok [azureInfraCluster]
      else .ok []
    listMachines := fun _ _ => .ok [] }

/--
On a template naming `aws` and `azure`, with no machine left under either
cluster object, the gate returns right after releasing the AWS object.  Its
next calls stop at the AWS provider again, whether the AWS object is still
listed without the finalizer or already gone, so the Azure object, which
is releasable all along, keeps the blocking finalizer.  For every provider
list and every state of the objects, one call patches at most one object,
that of a releasable provider of the list, and unrecognised provider names
are skipped.
-/
theorem releaseCluster_releases_only_first_provider :
    releaseCluster systemReconciler (twoProviderCollaborators [awsInfraCluster]) "default" "dev"
        "aws-azure" = ⟨[{ awsInfraCluster with finalizers := [] }], none⟩ ∧
      releaseCluster systemReconciler
        (twoProviderCollaborators [{ awsInfraCluster with finalizers := [] }]) "default" "dev"
        "aws-azure" = ⟨[], none⟩ ∧
      releaseCluster systemReconciler (twoProviderCollaborators []) "default" "dev" "aws-azure" =
        ⟨[], some "awscluster with name dev was not found"⟩ ∧
      (∀ awsClusters, Releasable (twoProviderCollaborators awsClusters) "default" "dev" "azure"
        azureInfraCluster ∧ blockingFinalizer ∈ azureInfraCluster.finalizers) ∧
      (∀ r collaborators ns name templateName providers,
        getProviders r collaborators templateName = .ok providers →
        (releaseCluster r collaborators ns name templateName).patched = [] ∨
          ∃ provider ∈ providers, ∃ cluster, Releasable collaborators ns name provider cluster ∧
            blockingFinalizer ∈ cluster.finalizers ∧
            (releaseCluster r collaborators ns name templateName).patched =
              [{ cluster with finalizers := removeFinalizer cluster.finalizers blockingFinalizer }]) ∧
      ∀ collaborators ns name providers,
        releaseProviders collaborators ns name
            (providers.filter fun provider => (providerGVKs provider).isSome) =
          releaseProviders collaborators ns name providers :=
  ⟨by decide, by decide, by decide, fun _ => ⟨⟨_, rfl, rfl, rfl⟩, .head _⟩,
    fun _ collaborators ns name _ providers found => by
      simpa only [releaseCluster, found] using releaseProviders_patched collaborators ns name providers,
    releaseProviders_filter_recognised⟩

/-! ## `Delete` and `Reconcile` -/

/-- `Delete` once the profile and the release deletes were issued. -/
def deleteTail (r : ManagedClusterReconciler) (collaborators : Collaborators)
    (managedCluster : ManagedCluster) : Exit (Result × Option String) :=
  match (releaseCluster r collaborators managedCluster.ns managedCluster.name
      managedCluster.spec.template).error with
  | some err => .returns (.done, some err)
  | none => .returns (⟨defaultRequeueInterval⟩, none)

/-- `ManagedClusterReconciler.Delete`. -/
def delete (r : ManagedClusterReconciler) (collaborators : Collaborators)
    (managedCluster : ManagedCluster) : PassEffects :=
  let key := clusterKey managedCluster
  match collaborators.getHelmRelease with
  | .error err =>
      if err.isNotFound then
        if managedClusterFinalizer ∈ managedCluster.finalizers then
          ⟨[.getHelmRelease .notFound,
              .updateFinalizers (removeFinalizer managedCluster.finalizers managedClusterFinalizer)
                (collaborators.objectUpdate = none)],
            none, .returns (.done, objectUpdateError collaborators managedCluster)⟩
        else ⟨[.getHelmRelease .notFound], none, .returns (.done, none)⟩
      else ⟨[.getHelmRelease .failed], none, .returns (.done, some err.error)⟩
  | .ok _ =>
      match collaborators.deleteClusterProfile with
      | some err =>
          ⟨[.getHelmRelease .found, .deleteClusterProfile key false], none, .returns (.done, some err)⟩
      | none =>
          match collaborators.deleteHelmRelease with
          | some err =>
              ⟨[.getHelmRelease .found, .deleteClusterProfile key true, .deleteHelmRelease key false],
                none, .returns (.done, some err)⟩
          | none =>
              ⟨[.getHelmRelease .found, .deleteClusterProfile key true, .deleteHelmRelease key true,
                  .releaseCluster],
                none, deleteTail r collaborators managedCluster⟩

/-- `ManagedClusterReconciler.Reconcile` on the managed cluster it fetched. -/
def reconcile (r : ManagedClusterReconciler) (collaborators : Collaborators)
    (managedCluster : ManagedCluster) : PassEffects :=
  if managedCluster.deleting then delete r collaborators managedCluster
  else if managedCluster.status.observedGeneration = 0 then
    match collaborators.getManagement with
    | some err => ⟨[], none, .returns (.done, some err.error)⟩
    | none => update r collaborators managedCluster
  else update r collaborators managedCluster

/-! ## The per-pass finalizer protocol -/

/-- The calls of `Delete`, one list per way it can go. -/
theorem delete_calls (r : ManagedClusterReconciler) (collaborators : Collaborators)
    (managedCluster : ManagedCluster) :
    (∃ message, collaborators.getHelmRelease = .error (.notFound message) ∧
      ((delete r collaborators managedCluster).calls = [.getHelmRelease .notFound] ∨
        managedClusterFinalizer ∈ managedCluster.finalizers ∧
          (delete r collaborators managedCluster).calls = [.getHelmRelease .notFound,
            .updateFinalizers (removeFinalizer managedCluster.finalizers managedClusterFinalizer)
              (collaborators.objectUpdate = none)])) ∨
    (delete r collaborators managedCluster).calls = [.getHelmRelease .failed] ∨
    (∃ release, collaborators.getHelmRelease = .ok release) ∧
      ((delete r collaborators managedCluster).calls =
          [.getHelmRelease .found, .deleteClusterProfile (clusterKey managedCluster) false] ∨
        (delete r collaborators managedCluster).calls =
          [.getHelmRelease .found, .deleteClusterProfile (clusterKey managedCluster) true,
            .deleteHelmRelease (clusterKey managedCluster) false] ∨
        (delete r collaborators managedCluster).calls =
          [.getHelmRelease .found, .deleteClusterProfile (clusterKey managedCluster) true,
            .deleteHelmRelease (clusterKey managedCluster) true, .releaseCluster]) := by
  unfold delete
  cases lookup : collaborators.getHelmRelease with
  | error err =>
      cases err with
      | notFound message =>
          refine .inl ⟨message, rfl, ?_⟩
          by_cases finalized : managedClusterFinalizer ∈ managedCluster.finalizers
          · exact .inr ⟨finalized, by simp [finalized, ApiError.isNotFound]⟩
          · exact .inl (by simp [finalized, ApiError.isNotFound])
      | failure message => exact .inr (.inl rfl)
  | ok release =>
      refine .inr (.inr ⟨⟨release, rfl⟩, ?_⟩)
      cases collaborators.deleteClusterProfile <;> cases collaborators.deleteHelmRelease <;> simp

theorem mem_profileCalls {managedCluster : ManagedCluster} {services : ServicesPass} {call : Call}
    (called : call ∈ profileCalls managedCluster services) :
    ∃ succeeded, call = .reconcileClusterProfile (clusterKey managedCluster) succeeded := by
  unfold profileCalls at called
  split at called <;> simp at called
  exact ⟨_, called⟩

/-- After the release reconcile, a pass writes only the cluster's own profile. -/
theorem clusterStage_calls (collaborators : Collaborators) (managedCluster : ManagedCluster)
    (conditions : List Condition) (release : HelmRelease) :
    ∀ call ∈ (clusterStage collaborators managedCluster conditions release).calls,
      call = .reconcileHelmRelease (clusterKey managedCluster) true ∨
        ∃ succeeded, call = .reconcileClusterProfile (clusterKey managedCluster) succeeded := by
  intro call called
  unfold clusterStage at called
  repeat' split at called
  all_goals simp only [List.mem_append, List.mem_singleton] at called
  all_goals first
    | exact .inl called
    | exact called.imp id mem_profileCalls

/-- The body of `Update` writes only the cluster's own release and profile. -/
theorem updateBody_calls (r : ManagedClusterReconciler) (collaborators : Collaborators)
    (managedCluster : ManagedCluster) (conditions : List Condition) :
    ∀ call ∈ (updateBody r collaborators managedCluster conditions).calls,
      (∃ succeeded, call = .reconcileHelmRelease (clusterKey managedCluster) succeeded) ∨
        ∃ succeeded, call = .reconcileClusterProfile (clusterKey managedCluster) succeeded := by
  intro call called
  rw [(updateBody_of_mem_calls called).2] at called
  rcases releaseStage_cases collaborators managedCluster
      (setStatusCondition (setStatusCondition conditions templateValidCondition)
        chartValidCondition) with
    ⟨err, -, failed⟩ | ⟨release, -, staged⟩
  · simp only [failed, List.mem_singleton] at called
    exact .inl ⟨false, called⟩
  · rw [staged] at called
    exact (clusterStage_calls _ _ _ _ call called).imp (⟨true, ·⟩) id

/--
Every call of `Update`: the finalizer add on a cluster without it, and otherwise
only the cluster's own release and profile writes and the status write.
-/
theorem mem_update_calls {r : ManagedClusterReconciler} {collaborators : Collaborators}
    {managedCluster : ManagedCluster} {call : Call}
    (called : call ∈ (update r collaborators managedCluster).calls) :
    managedClusterFinalizer ∉ managedCluster.finalizers ∧
        call = .updateFinalizers (addFinalizer managedCluster.finalizers managedClusterFinalizer)
          (collaborators.objectUpdate = none) ∨
      managedClusterFinalizer ∈ managedCluster.finalizers ∧
        ((∃ succeeded, call = .reconcileHelmRelease (clusterKey managedCluster) succeeded) ∨
          (∃ succeeded, call = .reconcileClusterProfile (clusterKey managedCluster) succeeded) ∨
          ∃ succeeded, call = .updateStatus succeeded) := by
  by_cases finalized : managedClusterFinalizer ∈ managedCluster.finalizers
  · rw [update_of_finalizer finalized] at called
    simp only [List.mem_append, List.mem_singleton] at called
    refine .inr ⟨finalized, ?_⟩
    rcases called with body | status
    · exact (updateBody_calls r collaborators managedCluster _ call body).imp id .inl
    · exact .inr (.inr ⟨_, status⟩)
  · simp only [update, finalized, if_false, List.mem_singleton] at called
    exact .inl ⟨finalized, called⟩

/-- A deleting cluster's pass is `Delete`. -/
theorem reconcile_of_deleting {r : ManagedClusterReconciler} {collaborators : Collaborators}
    {managedCluster : ManagedCluster} (deleting : managedCluster.deleting = true) :
    reconcile r collaborators managedCluster = delete r collaborators managedCluster := by
  simp [reconcile, deleting]

/-- A live cluster's pass makes calls of `Update` only; none when the `Management` lookup fails. -/
theorem mem_update_calls_of_live {r : ManagedClusterReconciler} {collaborators : Collaborators}
    {managedCluster : ManagedCluster} {call : Call} (live : managedCluster.deleting = false)
    (called : call ∈ (reconcile r collaborators managedCluster).calls) :
    call ∈ (update r collaborators managedCluster).calls := by
  simp only [reconcile, live, Bool.false_eq_true, if_false] at called
  split at called
  · split at called
    · simp at called
    · exact called
  · exact called

/-- (a) A pass writes the release or the profile only for a finalized, live cluster. -/
theorem reconcile_writes_only_finalized (r : ManagedClusterReconciler)
    (collaborators : Collaborators) (managedCluster : ManagedCluster) (key : NamespacedName)
    (succeeded : Bool)
    (writes : Call.reconcileHelmRelease key succeeded ∈ (reconcile r collaborators managedCluster).calls ∨
      Call.reconcileClusterProfile key succeeded ∈ (reconcile r collaborators managedCluster).calls) :
    managedClusterFinalizer ∈ managedCluster.finalizers ∧ managedCluster.deleting = false := by
  cases deleting : managedCluster.deleting
  · obtain ⟨call, called, write⟩ : ∃ call ∈ (reconcile r collaborators managedCluster).calls,
        call = .reconcileHelmRelease key succeeded ∨ call = .reconcileClusterProfile key succeeded :=
      writes.elim (⟨_, ·, .inl rfl⟩) (⟨_, ·, .inr rfl⟩)
    rcases mem_update_calls (mem_update_calls_of_live deleting called) with
      ⟨-, rfl⟩ | ⟨finalized, -⟩
    · simp at write
    · exact ⟨finalized, rfl⟩
  · rw [reconcile_of_deleting deleting] at writes
    rcases delete_calls r collaborators managedCluster with
      ⟨_, -, same | ⟨-, same⟩⟩ | same | ⟨-, same | same | same⟩ <;> simp [same] at writes

/-- A finalized, live cluster's pass writes no finalizers. -/
theorem reconcile_no_finalizer_write {r : ManagedClusterReconciler} {collaborators : Collaborators}
    {managedCluster : ManagedCluster} (finalized : managedClusterFinalizer ∈ managedCluster.finalizers)
    (live : managedCluster.deleting = false) (finalizers : List String) (succeeded : Bool) :
    Call.updateFinalizers finalizers succeeded ∉ (reconcile r collaborators managedCluster).calls := by
  intro called
  rcases mem_update_calls (mem_update_calls_of_live live called) with
    ⟨unfinalized, -⟩ | ⟨-, ⟨_, same⟩ | ⟨_, same⟩ | ⟨_, same⟩⟩
  · exact unfinalized finalized
  all_goals cases same

/-- (b) A pass removes the finalizer only after the release lookup answered not-found. -/
theorem reconcile_removes_finalizer_after_notFound (r : ManagedClusterReconciler)
    (collaborators : Collaborators) (managedCluster : ManagedCluster) (finalizers : List String)
    (succeeded : Bool)
    (written : Call.updateFinalizers finalizers succeeded ∈ (reconcile r collaborators managedCluster).calls)
    (removed : managedClusterFinalizer ∉ finalizers) :
    [Call.getHelmRelease .notFound, .updateFinalizers finalizers succeeded].Sublist
      (reconcile r collaborators managedCluster).calls := by
  cases deleting : managedCluster.deleting
  · rcases mem_update_calls (mem_update_calls_of_live deleting written) with
      ⟨-, same⟩ | ⟨-, ⟨_, same⟩ | ⟨_, same⟩ | ⟨_, same⟩⟩
    · simp only [Call.updateFinalizers.injEq] at same
      exact absurd (same.1 ▸ mem_addFinalizer.2 (.inr rfl)) removed
    all_goals cases same
  · rw [reconcile_of_deleting deleting] at written ⊢
    rcases delete_calls r collaborators managedCluster with
      ⟨_, -, same | ⟨-, same⟩⟩ | same | ⟨-, same | same | same⟩ <;> rw [same] at written ⊢ <;>
      simp at written
    obtain ⟨rfl, rfl⟩ := written
    exact List.Sublist.refl _

/-- A pass records a not-found release lookup only when the `Get` answered not-found. -/
theorem reconcile_lookup_notFound {r : ManagedClusterReconciler} {collaborators : Collaborators}
    {managedCluster : ManagedCluster}
    (looked : Call.getHelmRelease .notFound ∈ (reconcile r collaborators managedCluster).calls) :
    ∃ message, collaborators.getHelmRelease = .error (.notFound message) := by
  cases deleting : managedCluster.deleting
  · rcases mem_update_calls (mem_update_calls_of_live deleting looked) with
      ⟨-, same⟩ | ⟨-, ⟨_, same⟩ | ⟨_, same⟩ | ⟨_, same⟩⟩ <;> cases same
  · rw [reconcile_of_deleting deleting] at looked
    rcases delete_calls r collaborators managedCluster with
      ⟨message, lookup, -⟩ | same | ⟨-, same | same | same⟩
    · exact ⟨message, lookup⟩
    all_goals simp [same] at looked

/-- A pass writes or deletes only the release of the cluster's own key. -/
theorem reconcile_release_key {r : ManagedClusterReconciler} {collaborators : Collaborators}
    {managedCluster : ManagedCluster} {key : NamespacedName} {succeeded : Bool}
    (touched : Call.reconcileHelmRelease key succeeded ∈
        (reconcile r collaborators managedCluster).calls ∨
      Call.deleteHelmRelease key succeeded ∈ (reconcile r collaborators managedCluster).calls) :
    key = clusterKey managedCluster := by
  cases deleting : managedCluster.deleting
  · obtain ⟨call, called, touch⟩ : ∃ call ∈ (reconcile r collaborators managedCluster).calls,
        call = .reconcileHelmRelease key succeeded ∨ call = .deleteHelmRelease key succeeded :=
      touched.elim (⟨_, ·, .inl rfl⟩) (⟨_, ·, .inr rfl⟩)
    rcases mem_update_calls (mem_update_calls_of_live deleting called) with
      ⟨-, rfl⟩ | ⟨-, ⟨_, rfl⟩ | ⟨_, rfl⟩ | ⟨_, rfl⟩⟩ <;> simp_all
  · rw [reconcile_of_deleting deleting] at touched
    rcases delete_calls r collaborators managedCluster with
      ⟨_, -, same | ⟨-, same⟩⟩ | same | ⟨-, same | same | same⟩ <;> simp_all

end HmcReconcilers.ManagedClusterController
