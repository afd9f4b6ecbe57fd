import HmcReconcilers.Conditions

/-!
# The v1alpha1 objects and the Flux and Helm objects they point at

The fields of `Management`, the three template kinds, `ManagedCluster`, and of
the Flux `HelmChart`, `HelmRepository` and `HelmRelease` objects, as far as a
modelled function reads or writes them.  Object metadata is flattened into
each record: name, namespace, UID, generation, resource version, finalizers,
and whether a deletion timestamp is set.

`management_types.go` is part of the sources and is translated field by
field, with `SetDefaults` and `HelmReleaseName`.  The declarations of the
template and managed-cluster types, and the condition, finalizer, label and
annotation constants the controllers use, live in files of the API package
that are not part of the sources: their fields are the ones the controllers
read, and the constants are modelled from the spec.
-/

namespace HmcReconcilers

/-! ## JSON documents -/

/-- A JSON document, as the API server stores an `apiextensionsv1.JSON` field. -/
inductive JsonValue where
  | null
  | bool (value : Bool)
  | number (literal : String)
  | string (value : String)
  | array (items : List JsonValue)
  | object (fields : List (String × JsonValue))
deriving Repr

/-! ## Management (`management_types.go`) -/

/-- `DefaultCoreHMCTemplate`. -/
def defaultCoreHMCTemplate : String := "hmc"

/-- `DefaultCoreCAPITemplate`. -/
def defaultCoreCAPITemplate : String := "cluster-api"

/-- `ManagementName`, the name of the singleton `Management`. -/
def managementName : String := "hmc"

/-- `ManagementFinalizer`. -/
def managementFinalizer : String := "hmc.mirantis.com/management"

/-- `Component`: a template name and optional release values. -/
structure Component where
  template : String
  config : Option JsonValue
deriving Repr

/-- `Core`: the two mandatory components. -/
structure Core where
  hmc : Component
  capi : Component
deriving Repr

/-- `DefaultCoreConfiguration`. -/
def defaultCoreConfiguration : Core where
  hmc := { template := defaultCoreHMCTemplate, config := none }
  capi := { template := defaultCoreCAPITemplate, config := none }

/-- `ManagementSpec`; a nil `Core` pointer is `none`. -/
structure ManagementSpec where
  core : Option Core
  providers : List Component
deriving Repr

/-- `Component.HelmReleaseName`: a component's release is named after its template. -/
def Component.helmReleaseName (component : Component) : String :=
  component.template

/--
`ManagementSpec.SetDefaults`: report whether the spec changed, and the spec
with a nil core replaced by the default one.
-/
def ManagementSpec.setDefaults (spec : ManagementSpec) : Bool × ManagementSpec :=
  match spec.core with
  | some _ => (false, spec)
  | none => (true, { spec with core := some defaultCoreConfiguration })

/-- `Providers`: the three provider lists a template declares or a management collects. -/
structure Providers where
  infrastructureProviders : List String
  bootstrapProviders : List String
  controlPlaneProviders : List String
deriving DecidableEq, Repr

/-- The zero value `hmc.Providers{}`. -/
def Providers.empty : Providers := ⟨[], [], []⟩

/-- The three provider lists of two collections, each concatenated. -/
def Providers.append (providers more : Providers) : Providers :=
  ⟨providers.infrastructureProviders ++ more.infrastructureProviders,
    providers.bootstrapProviders ++ more.bootstrapProviders,
    providers.controlPlaneProviders ++ more.controlPlaneProviders⟩

@[simp]
theorem Providers.empty_append (providers : Providers) : Providers.empty.append providers = providers := by
  simp [Providers.append, Providers.empty]

@[simp]
theorem Providers.append_empty (providers : Providers) : providers.append Providers.empty = providers := by
  simp [Providers.append, Providers.empty]

theorem Providers.append_assoc (first second third : Providers) :
    (first.append second).append third = first.append (second.append third) := by
  simp [Providers.append]

/-- `ComponentStatus`. -/
structure ComponentStatus where
  success : Bool
  error : String
deriving DecidableEq, Repr

/-- `ManagementStatus`. -/
structure ManagementStatus where
  observedGeneration : Nat
  availableProviders : Providers
  components : GoMap String ComponentStatus

/-- `Management`, with its metadata flattened. -/
structure Management where
  name : String
  generation : Nat
  finalizers : List String
  deleting : Bool
  spec : ManagementSpec
  status : ManagementStatus

/-- Modelled from the spec: `ProviderSveltosName`, the one provider whose release gets a fixed target namespace. -/
def providerSveltosName : String := "projectsveltos"

/-- Modelled from the spec: `ProviderSveltosTargetNamespace`. -/
def providerSveltosTargetNamespace : String := "projectsveltos"

/-- Modelled from the spec: `ProviderSveltosCreateNamespace`. -/
def providerSveltosCreateNamespace : Bool := true

/-! ## Templates -/

/-- The three template kinds, which share one spec and one status shape. -/
inductive TemplateKind where
  | clusterTemplate
  | serviceTemplate
  | providerTemplate
deriving DecidableEq, Repr

/-- `CrossNamespaceSourceReference`: the kind, name and namespace of a Flux source. -/
structure SourceRef where
  kind : String
  name : String
  ns : String
deriving DecidableEq, Repr

/-- `sourcev1.HelmChartKind`. -/
def helmChartKind : String := "HelmChart"

/-- `HelmSpec`: a chart by name and version from the default repository, or a direct reference. -/
structure HelmSpec where
  chartName : String
  chartVersion : String
  chartRef : Option SourceRef
deriving DecidableEq, Repr

/-- `TemplateSpecCommon`. -/
structure TemplateSpec where
  helm : HelmSpec
  providers : Providers
deriving DecidableEq, Repr

/-- `TemplateStatusCommon`; `config` holds the raw bytes of the chart's default values. -/
structure TemplateStatus where
  chartRef : Option SourceRef
  config : Option String
  description : String
  providers : Providers
  observedGeneration : Nat
  valid : Bool
  validationError : String
deriving DecidableEq, Repr

/-- The zero `TemplateStatus`, which a failed `Get` leaves in place. -/
def TemplateStatus.zero : TemplateStatus := ⟨none, none, "", Providers.empty, 0, false, ""⟩

/-- A template of any of the three kinds (the `Template` interface of the controller). -/
structure Template where
  kind : TemplateKind
  name : String
  ns : String
  uid : Nat
  generation : Nat
  labels : GoMap String String
  spec : TemplateSpec
  status : TemplateStatus

/-- Modelled from the spec: `HMCManagedLabelKey`, the label marking objects this system manages. -/
def hmcManagedLabelKey : String := "hmc.mirantis.com/managed"

/-- Modelled from the spec: `HMCManagedLabelValue`. -/
def hmcManagedLabelValue : String := "true"

/-- Modelled from the spec: `ChartAnnotationInfraProviders`. -/
def chartAnnotationInfraProviders : String := "hmc.mirantis.com/infrastructure-providers"

/-- Modelled from the spec: `ChartAnnotationBootstrapProviders`. -/
def chartAnnotationBootstrapProviders : String := "hmc.mirantis.com/bootstrap-providers"

/-- Modelled from the spec: `ChartAnnotationControlPlaneProviders`. -/
def chartAnnotationControlPlaneProviders : String :=
  "hmc.mirantis.com/control-plane-providers"

/-! ## Flux and Helm objects -/

/-- A Flux source artifact; only handed on to the chart download. -/
structure Artifact where
  url : String
deriving DecidableEq, Repr

/-- A Flux `HelmChart`: its spec and the status its readiness check reads. -/
structure HelmChart where
  name : String
  ns : String
  generation : Nat
  chart : String
  version : String
  sourceRefName : String
  artifact : Option Artifact
  conditions : List Condition
deriving DecidableEq, Repr

/-- A Flux `HelmRepository`. -/
structure HelmRepository where
  name : String
  ns : String
  url : String
deriving DecidableEq, Repr

/-- The metadata of a downloaded Helm chart. -/
structure ChartMetadata where
  description : String
  annotations : GoMap String String

/-- A downloaded Helm chart (`chart.Chart`): its metadata, possibly nil, and its default values. -/
structure Chart where
  metadata : Option ChartMetadata
  values : JsonValue

/-- A Flux `HelmRelease`, with the owner reference the controllers set. -/
structure HelmRelease where
  name : String
  ns : String
  ownerUid : Option Nat
  conditions : List Condition
deriving DecidableEq, Repr

/-- `fluxmeta.ReadyCondition`. -/
def readyConditionType : String := "Ready"

/-- `fluxconditions.IsReady`: the release's `Ready` condition exists with status `True`. -/
def HelmRelease.isReady (release : HelmRelease) : Bool :=
  match findStatusCondition release.conditions readyConditionType with
  | some condition => condition.status = conditionTrue
  | none => false

/-! ## ManagedCluster -/

/-- Modelled from the spec: `ManagedClusterFinalizer`; no statement depends on its text. -/
def managedClusterFinalizer : String := "hmc.mirantis.com/managed-cluster"

/-- Modelled from the spec: `BlockingFinalizer`, held by infrastructure objects until released. -/
def blockingFinalizer : String := "hmc.mirantis.com/cleanup"

/-- Modelled from the spec: `TemplateReadyCondition`. -/
def templateReadyCondition : String := "TemplateReady"

/-- Modelled from the spec: `HelmChartReadyCondition`. -/
def helmChartReadyCondition : String := "HelmChartReady"

/-- Modelled from the spec: `HelmReleaseReadyCondition`. -/
def helmReleaseReadyCondition : String := "HelmReleaseReady"

/-- Modelled from the spec: `ReadyCondition`, the aggregate. -/
def readyCondition : String := "Ready"

/-- Modelled from the spec: `SucceededReason`. -/
def succeededReason : String := "Succeeded"

/-- Modelled from the spec: `FailedReason`. -/
def failedReason : String := "Failed"

/-- Modelled from the spec: `ProgressingReason`. -/
def progressingReason : String := "Progressing"

/-- The registry flags of a service. -/
structure RegistryConfig where
  plainHTTP : Bool
  insecure : Bool
deriving DecidableEq, Repr

/-- A service requested by a managed cluster, with the fields `updateServices` reads. -/
structure ServiceSpec where
  template : String
  releaseName : String
  releaseNamespace : String
  values : Option String
  install : Bool
  createNamespace : Bool
  registryConfig : RegistryConfig
deriving DecidableEq, Repr

/-- `ManagedClusterSpec`. -/
structure ManagedClusterSpec where
  template : String
  config : Option String
  dryRun : Bool
  services : List ServiceSpec
deriving DecidableEq, Repr

/-- `ManagedClusterStatus`. -/
structure ManagedClusterStatus where
  observedGeneration : Nat
  conditions : List Condition
deriving DecidableEq, Repr

/-- `ManagedCluster`, with its metadata flattened. -/
structure ManagedCluster where
  name : String
  ns : String
  uid : Nat
  generation : Nat
  resourceVersion : Nat
  finalizers : List String
  deleting : Bool
  spec : ManagedClusterSpec
  status : ManagedClusterStatus
deriving DecidableEq, Repr

end HmcReconcilers
