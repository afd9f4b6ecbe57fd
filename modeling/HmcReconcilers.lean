import HmcReconcilers.Runtime
import HmcReconcilers.Conditions
import HmcReconcilers.ApiTypes
import HmcReconcilers.TemplateController
import HmcReconcilers.ManagedClusterController.ClusterStatus
import HmcReconcilers.ManagedClusterController.Services
import HmcReconcilers.ManagedClusterController.Update
import HmcReconcilers.ManagedClusterController.Delete
import HmcReconcilers.ManagedClusterController.FinalizerProtocol
import HmcReconcilers.ManagedClusterController.Convergence
import HmcReconcilers.ManagedClusterController.Concurrency
import HmcReconcilers.ManagedClusterController.Progress
import HmcReconcilers.ManagementController.Update
import HmcReconcilers.ManagementController.Values
import HmcReconcilers.ManagementController.Delete
import HmcReconcilers.ManagementController.Runs
import HmcReconcilers.ReleaseKeys
