import HmcReconcilers.ManagedClusterController.Delete
import HmcReconcilers.ManagementController.Delete

/-!
# The release keys of the two release-driving controllers

The management controller reconciles one `HelmRelease` per component, keyed
by the system namespace and the component's template name.  The
managed-cluster controller writes and deletes one release per cluster, keyed
by the cluster's own namespace and name, with no check against the system
namespace.  The two key sets meet exactly when a managed cluster lives in
the system namespace and is named after a component template: a cluster
`hmc` in `hmc-system` drives the same release as the HMC core component.
-/

namespace HmcReconcilers

open ManagedClusterController ManagementController

/--
The keys of the two controllers' releases.  A managed-cluster pass writes
or deletes only the release keyed by the cluster's namespace and name, so
clusters with distinct keys never share a release; a management pass
reconciles only releases keyed by the system namespace and a component
template.  A cluster's key is among the component keys exactly when the
cluster lives in the system namespace and is named after a component
template.
-/
theorem release_keys_isolated (systemNamespace : String) (r : ManagedClusterReconciler)
    (collaborators : Collaborators) (managedCluster : ManagedCluster)
    (managementCollaborators : ManagementCollaborators) (management : Management) :
    (∀ key succeeded,
      Call.reconcileHelmRelease key succeeded ∈
          (ManagedClusterController.reconcile r collaborators managedCluster).calls ∨
        Call.deleteHelmRelease key succeeded ∈
          (ManagedClusterController.reconcile r collaborators managedCluster).calls →
      key = clusterKey managedCluster) ∧
    (∀ other : ManagedCluster, clusterKey other = clusterKey managedCluster →
      other.ns = managedCluster.ns ∧ other.name = managedCluster.name) ∧
    (∀ request ∈ (ManagementController.reconcile ⟨systemNamespace⟩ managementCollaborators
        management).calls.filterMap ManagementCall.reconciledRelease,
      (⟨request.ns, request.name⟩ : NamespacedName) ∈
        (wrappedComponents management.spec).map (componentKey ⟨systemNamespace⟩)) ∧
    (clusterKey managedCluster ∈
        (wrappedComponents management.spec).map (componentKey ⟨systemNamespace⟩) ↔
      managedCluster.ns = systemNamespace ∧
        managedCluster.name ∈ (wrappedComponents management.spec).map (·.component.template)) := by
  refine ⟨fun _ _ touched => reconcile_release_key touched,
    fun other same => by simpa [clusterKey, and_comm] using same, fun request member => ?_, ?_⟩
  · unfold ManagementController.reconcile at member
    split at member
    · simp [delete_releases] at member
    · obtain ⟨inNamespace, named⟩ := mem_update_releases member
      obtain ⟨component, listed, same⟩ := List.mem_map.1 named
      exact List.mem_map.2 ⟨component, listed, by simp [componentKey, inNamespace, same]⟩
  · simp only [List.mem_map, componentKey, clusterKey, NamespacedName.mk.injEq]
    constructor
    · rintro ⟨component, listed, rfl, named⟩
      exact ⟨rfl, component, listed, named⟩
    · rintro ⟨rfl, component, listed, named⟩
      exact ⟨component, listed, rfl, named⟩

/--
A managed cluster named `hmc` in the system namespace reconciles the release
`hmc-system/hmc`, which the management controller reconciles for the HMC
core component.
-/
theorem managedCluster_release_key_collides_with_hmc :
    Call.reconcileHelmRelease ⟨"hmc-system", "hmc"⟩ true ∈
        (ManagedClusterController.reconcile systemReconciler missingServiceCollaborators
          { readyCluster with name := "hmc", ns := "hmc-system" }).calls ∧
      ((ManagementController.reconcile ⟨"hmc-system"⟩ validTemplates defaultManagement).calls.filterMap
          ManagementCall.reconciledRelease).map (fun request => (request.ns, request.name)) =
        [("hmc-system", "hmc"), ("hmc-system", "cluster-api")] := by
  decide

end HmcReconcilers
