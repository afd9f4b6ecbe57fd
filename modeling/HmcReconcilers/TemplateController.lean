import HmcReconcilers.ApiTypes

/-!
# The template validator

`TemplateReconciler.ReconcileTemplate` (`template_controller.go`), shared by
the three template kinds.  A pass resolves the template's `HelmChart` (a
direct `chartRef`, or a chart created for the template in the default
repository), waits for its artifact, downloads and parses the chart, and
records the outcome in the template's status through `updateStatus`, which
encodes "no error" as the empty validation error.

The collaborators (the API server's charts and repositories, the Flux
readiness check, the download, Helm's chart validation and the JSON
encoder) are fields of `TemplateCollaborators`; every statement below holds
for all of them.  The main results say which statuses a pass can write: a
valid one only at the end of a fully successful pass, with `chartRef` naming
the chart that was downloaded, an invalid one with the failure's text
otherwise, and none at all when the template's chart reference itself is
malformed.  A valid status takes each provider list from the spec, else
from the chart's annotation, else keeps the list of the earlier status, so
lists announced by an earlier chart outlive it.  A pass is idempotent: with
the same answers, a pass over the status the previous one left writes that
status again.
-/

namespace HmcReconcilers.TemplateController

open HmcReconcilers

/-- The configuration of `TemplateReconciler` read by the pass. -/
structure TemplateReconciler where
  systemNamespace : String

/-- The `HelmChart` and `HelmRepository` objects as the API server returns them. -/
structure SourceStore where
  getHelmChart : NamespacedName → Except ApiError HelmChart
  getHelmRepository : NamespacedName → Except ApiError HelmRepository

/-- What the collaborators of one `ReconcileTemplate` pass answer. -/
structure TemplateCollaborators where
  /-- `r.Get` of charts and repositories. -/
  store : SourceStore
  /-- `helm.ReconcileHelmRepository` of the default repository in a namespace. -/
  reconcileHelmRepository : String → Option String
  /-- `ctrl.CreateOrUpdate` of the template's chart: the stored chart, or the error. -/
  createOrUpdateHelmChart : NamespacedName → Except String HelmChart
  /-- `helm.ArtifactReady`: whether to report the failure in the status, and the failure. -/
  artifactReady : HelmChart → Bool × Option String
  /-- `downloadHelmChartFunc` on the chart's artifact pointer. -/
  downloadHelmChart : Option Artifact → Except String Chart
  /-- `chart.Validate`. -/
  validate : Chart → Option String
  /-- `json.Marshal` of the chart's default values. -/
  marshal : JsonValue → Except String String
  /-- The error of the pass's `Status().Update`, if it fails; the failure branches discard it. -/
  statusUpdate : Option String

/-- `defaultRepoName`, the repository a created chart is sourced from. -/
def defaultRepoName : String := "hmc-templates"

/-- `templateManagedByHMC`. -/
def templateManagedByHMC (template : Template) : Bool :=
  (template.labels.lookup hmcManagedLabelKey).getD "" = hmcManagedLabelValue

/-- `getHelmChartFromChartRef`: only a `HelmChart` reference is accepted. -/
def getHelmChartFromChartRef (store : SourceStore) (chartRef : SourceRef) :
    Except String HelmChart :=
  if chartRef.kind = helmChartKind then
    (store.getHelmChart ⟨chartRef.ns, chartRef.name⟩).mapError ApiError.error
  else
    .error ("invalid chartRef.Kind: " ++ chartRef.kind ++ ". Only HelmChart kind is supported")

/-- The namespace a template's own chart lives in. -/
def chartNamespace (r : TemplateReconciler) (template : Template) : String :=
  if template.ns = "" then r.systemNamespace else template.ns

/--
`reconcileHelmChart`: create or update the chart named after the template,
sourced from the default repository; the stored object carries the fields
the mutate function sets.
-/
def reconcileHelmChart (r : TemplateReconciler) (collaborators : TemplateCollaborators)
    (template : Template) : Except String HelmChart :=
  match collaborators.createOrUpdateHelmChart ⟨chartNamespace r template, template.name⟩ with
  | .error err => .error err
  | .ok stored =>
      .ok { stored with
        name := template.name
        ns := chartNamespace r template
        chart := template.spec.helm.chartName
        version := template.spec.helm.chartVersion
        sourceRefName := defaultRepoName }

/--
The first step of `ReconcileTemplate`: the template's `HelmChart`, from its
`chartRef`, or created for its `chartName` after the default repository.
-/
def resolveHelmChart (r : TemplateReconciler) (collaborators : TemplateCollaborators)
    (template : Template) : Except String HelmChart :=
  match template.spec.helm.chartRef with
  | some chartRef => getHelmChartFromChartRef collaborators.store chartRef
  | none =>
      if template.spec.helm.chartName = "" then .error "neither chartName nor chartRef is set"
      else
        let repositoryError :=
          if template.ns = r.systemNamespace ∨ templateManagedByHMC template = false then
            collaborators.reconcileHelmRepository (chartNamespace r template)
          else none
        match repositoryError with
        | some err => .error err
        | none => reconcileHelmChart r collaborators template

/-- One provider list of `parseChartMetadata`: the spec's list wins, then the annotation. -/
def parseProviderList (specProviders : List String) (annotated : String)
    (current : List String) : List String :=
  if specProviders ≠ [] then specProviders
  else if annotated ≠ "" then annotated.splitOn ","
  else current

/-- `parseChartMetadata`: fill the status provider lists from the spec or the chart. -/
def parseChartMetadata (template : Template) (status : TemplateStatus) (inChart : Chart) :
    Except String TemplateStatus :=
  match inChart.metadata with
  | none => .error "chart metadata is empty"
  | some metadata =>
      let annotated := fun key => (metadata.annotations.lookup key).getD ""
      let spec := template.spec.providers
      .ok { status with
        providers :=
          { infrastructureProviders :=
              parseProviderList spec.infrastructureProviders
                (annotated chartAnnotationInfraProviders)
                status.providers.infrastructureProviders
            bootstrapProviders :=
              parseProviderList spec.bootstrapProviders
                (annotated chartAnnotationBootstrapProviders)
                status.providers.bootstrapProviders
            controlPlaneProviders :=
              parseProviderList spec.controlPlaneProviders
                (annotated chartAnnotationControlPlaneProviders)
                status.providers.controlPlaneProviders } }

/-- `updateStatus`: the status written, valid exactly when the validation error is empty. -/
def updateStatus (template : Template) (status : TemplateStatus) (validationError : String) :
    TemplateStatus :=
  { status with
    observedGeneration := template.generation
    validationError := validationError
    valid := validationError = "" }

/-- The `chartRef` a pass records for the chart it resolved. -/
def chartRefOf (hcChart : HelmChart) : SourceRef :=
  ⟨helmChartKind, hcChart.name, hcChart.ns⟩

/-- What one pass does: the status it hands to `Status().Update`, if any, and its error. -/
structure TemplatePass where
  statusWrite : Option TemplateStatus
  error : Option String

/-- A failure branch: write the status with the failure as validation error, return it. -/
def failWith (template : Template) (status : TemplateStatus) (err : String) : TemplatePass :=
  ⟨some (updateStatus template status err), some err⟩

/-- The tail of `ReconcileTemplate` once the chart's artifact is ready. -/
def validateChart (collaborators : TemplateCollaborators) (template : Template)
    (status : TemplateStatus) (hcChart : HelmChart) : TemplatePass :=
  match collaborators.downloadHelmChart hcChart.artifact with
  | .error err => failWith template status ("failed to download chart: " ++ err)
  | .ok helmChart =>
      match parseChartMetadata template status helmChart with
      | .error err => failWith template status err
      | .ok status =>
          match collaborators.validate helmChart with
          | some err => failWith template status err
          | none =>
              let status := { status with
                description := (helmChart.metadata.map ChartMetadata.description).getD "" }
              match collaborators.marshal helmChart.values with
              | .error err => failWith template status ("failed to parse Helm chart values: " ++ err)
              | .ok rawValues =>
                  ⟨some (updateStatus template { status with config := some rawValues } ""),
                    collaborators.statusUpdate.map fun err =>
                      "failed to update status for template " ++ template.ns ++ "/" ++
                        template.name ++ ": " ++ err⟩

/-- `TemplateReconciler.ReconcileTemplate`. -/
def reconcileTemplate (r : TemplateReconciler) (collaborators : TemplateCollaborators)
    (template : Template) : TemplatePass :=
  match resolveHelmChart r collaborators template with
  | .error err => ⟨none, some err⟩
  | .ok hcChart =>
      let status := { template.status with chartRef := some (chartRefOf hcChart) }
      match collaborators.artifactReady hcChart with
      | (reportStatus, some err) =>
          ⟨if reportStatus then some (updateStatus template status err) else none, some err⟩
      | (_, none) => validateChart collaborators template status hcChart

/-- The template's status in the API server after a pass whose write was accepted. -/
def TemplatePass.statusAfter (pass : TemplatePass) (prior : TemplateStatus) : TemplateStatus :=
  pass.statusWrite.getD prior

/-! ## Which statuses a pass writes -/

@[simp]
theorem updateStatus_valid (template : Template) (status : TemplateStatus) (err : String) :
    (updateStatus template status err).valid = decide (err = "") := rfl

@[simp]
theorem updateStatus_validationError (template : Template) (status : TemplateStatus)
    (err : String) : (updateStatus template status err).validationError = err := rfl

@[simp]
theorem updateStatus_chartRef (template : Template) (status : TemplateStatus) (err : String) :
    (updateStatus template status err).chartRef = status.chartRef := rfl

@[simp]
theorem updateStatus_config (template : Template) (status : TemplateStatus) (err : String) :
    (updateStatus template status err).config = status.config := rfl

/-- Parsing the chart metadata only touches the provider lists. -/
theorem parseChartMetadata_chartRef {template : Template} {status parsed : TemplateStatus}
    {inChart : Chart} (parsedOk : parseChartMetadata template status inChart = .ok parsed) :
    parsed.chartRef = status.chartRef := by
  unfold parseChartMetadata at parsedOk
  split at parsedOk
  · cases parsedOk
  · cases parsedOk
    rfl

/--
The template's chart reference is malformed: it names neither a chart nor a
reference, or it references something other than a `HelmChart`.
-/
def ChartReferenceInvalid (template : Template) : Prop :=
  match template.spec.helm.chartRef with
  | none => template.spec.helm.chartName = ""
  | some chartRef => chartRef.kind ≠ helmChartKind

/-- A malformed chart reference fails the first step. -/
theorem resolveHelmChart_of_invalid (r : TemplateReconciler)
    (collaborators : TemplateCollaborators) {template : Template}
    (invalid : ChartReferenceInvalid template) :
    ∃ err, resolveHelmChart r collaborators template = .error err := by
  unfold ChartReferenceInvalid at invalid
  cases chartRef_eq : template.spec.helm.chartRef <;> simp only [chartRef_eq] at invalid <;>
    simp [resolveHelmChart, chartRef_eq, getHelmChartFromChartRef, invalid]

/-- The collaborators whose failures reach the status verbatim report a non-empty text. -/
def ReportsNonEmptyErrors (collaborators : TemplateCollaborators) : Prop :=
  (∀ hcChart reportStatus err,
      collaborators.artifactReady hcChart = (reportStatus, some err) → err ≠ "") ∧
    ∀ helmChart err, collaborators.validate helmChart = some err → err ≠ ""

/--
A written status came from the last step of a pass: the chart was resolved,
its artifact ready, downloaded, parsed, validated and its values encoded,
and the status names that chart and holds those values.
-/
def ReachedFinalStep (r : TemplateReconciler) (collaborators : TemplateCollaborators)
    (template : Template) (written : TemplateStatus) : Prop :=
  ∃ hcChart helmChart parsed rawValues,
    resolveHelmChart r collaborators template = .ok hcChart ∧
    (collaborators.artifactReady hcChart).2 = none ∧
    collaborators.downloadHelmChart hcChart.artifact = .ok helmChart ∧
    parseChartMetadata template { template.status with chartRef := some (chartRefOf hcChart) }
      helmChart = .ok parsed ∧
    collaborators.validate helmChart = none ∧
    collaborators.marshal helmChart.values = .ok rawValues ∧
    written.chartRef = some (chartRefOf hcChart) ∧ written.config = some rawValues

/-- A failure branch writes an invalid status whose error is the one returned. -/
def FailureWritten (pass : TemplatePass) (written : TemplateStatus) : Prop :=
  written.valid = false ∧ written.validationError ≠ "" ∧ pass.error = some written.validationError

theorem failWith_written {template : Template} {status written : TemplateStatus} {err : String}
    (nonempty : err ≠ "") (write : (failWith template status err).statusWrite = some written) :
    FailureWritten (failWith template status err) written := by
  cases write
  simp [FailureWritten, failWith, nonempty]

/-- The download-to-encode tail either succeeds completely or writes a failure. -/
theorem validateChart_written {collaborators : TemplateCollaborators} {template : Template}
    {status written : TemplateStatus} {hcChart : HelmChart}
    (validateNonEmpty : ∀ helmChart err, collaborators.validate helmChart = some err → err ≠ "")
    (write : (validateChart collaborators template status hcChart).statusWrite = some written) :
    (written.valid = true ∧ ∃ helmChart parsed rawValues,
        collaborators.downloadHelmChart hcChart.artifact = .ok helmChart ∧
        parseChartMetadata template status helmChart = .ok parsed ∧
        collaborators.validate helmChart = none ∧
        collaborators.marshal helmChart.values = .ok rawValues ∧
        written.chartRef = status.chartRef ∧ written.config = some rawValues ∧
        written.providers = parsed.providers) ∨
      FailureWritten (validateChart collaborators template status hcChart) written := by
  unfold validateChart at write ⊢
  cases download : collaborators.downloadHelmChart hcChart.artifact with
  | error err =>
      simp only [download] at write ⊢
      exact .inr (failWith_written (append_ne_empty_of_left _ (by decide)) write)
  | ok helmChart =>
      simp only [download] at write ⊢
      cases parsed : parseChartMetadata template status helmChart with
      | error err =>
          simp only [parsed] at write ⊢
          have nonempty : err ≠ "" := by
            unfold parseChartMetadata at parsed
            split at parsed <;> cases parsed
            decide
          exact .inr (failWith_written nonempty write)
      | ok parsedStatus =>
          simp only [parsed] at write ⊢
          cases validated : collaborators.validate helmChart with
          | some err =>
              simp only [validated] at write ⊢
              exact .inr (failWith_written (validateNonEmpty _ _ validated) write)
          | none =>
              simp only [validated] at write ⊢
              cases encoded : collaborators.marshal helmChart.values with
              | error err =>
                  simp only [encoded] at write ⊢
                  exact .inr (failWith_written (append_ne_empty_of_left _ (by decide)) write)
              | ok rawValues =>
                  simp only [encoded, Option.some.injEq] at write
                  subst write
                  exact .inl ⟨by simp, helmChart, parsedStatus, rawValues, rfl, parsed, validated,
                    encoded, by simpa using parseChartMetadata_chartRef parsed, rfl, rfl⟩

/--
The status contract of `ReconcileTemplate`, for collaborators that report
their failures with a text.  Every status a pass writes is either valid and
written at the end of a fully successful pass, naming the chart whose
artifact was downloaded, or invalid with the returned failure as validation
error.  A malformed chart reference writes no status at all: the pass only
returns its error, and the earlier status stays in place.
-/
theorem reconcileTemplate_status_contract (r : TemplateReconciler)
    (collaborators : TemplateCollaborators) (template : Template)
    (nonEmpty : ReportsNonEmptyErrors collaborators) :
    (∀ written, (reconcileTemplate r collaborators template).statusWrite = some written →
      (written.valid = true ∧ ReachedFinalStep r collaborators template written) ∨
        FailureWritten (reconcileTemplate r collaborators template) written) ∧
    (ChartReferenceInvalid template →
      (reconcileTemplate r collaborators template).statusWrite = none ∧
        (reconcileTemplate r collaborators template).error ≠ none) := by
  constructor
  · intro written write
    unfold reconcileTemplate at write ⊢
    cases resolved : resolveHelmChart r collaborators template with
    | error err => simp [resolved] at write
    | ok hcChart =>
        simp only [resolved] at write ⊢
        rcases ready : collaborators.artifactReady hcChart with ⟨reportStatus, readyError⟩
        cases readyError with
        | some err =>
            simp only [ready, Option.ite_none_right_eq_some, Option.some.injEq] at write ⊢
            obtain ⟨-, rfl⟩ := write
            simp [FailureWritten, nonEmpty.1 _ _ _ ready]
        | none =>
            simp only [ready] at write ⊢
            rcases validateChart_written nonEmpty.2 write with
              ⟨valid, helmChart, parsed, rawValues, download, parse, validated, encoded, ref,
                config, -⟩ | failure
            · exact .inl ⟨valid, hcChart, helmChart, parsed, rawValues, resolved, by simp [ready],
                download, parse, validated, encoded, ref, config⟩
            · exact .inr failure
  · intro invalid
    obtain ⟨err, failed⟩ := resolveHelmChart_of_invalid r collaborators invalid
    simp [reconcileTemplate, failed]

/-- Collaborators that answer every call with a failure. -/
def failingCollaborators : TemplateCollaborators where
  store := ⟨fun _ => .error (.failure "unavailable"), fun _ => .error (.failure "unavailable")⟩
  reconcileHelmRepository := fun _ => some "unavailable"
  createOrUpdateHelmChart := fun _ => .error "unavailable"
  artifactReady := fun _ => (true, some "unavailable")
  downloadHelmChart := fun _ => .error "unavailable"
  validate := fun _ => some "unavailable"
  marshal := fun _ => .error "unavailable"
  statusUpdate := some "unavailable"

/-- A cluster template with neither a chart name nor a chart reference, still marked valid. -/
def unreferencedTemplate : Template where
  kind := .clusterTemplate
  name := "aws-standalone"
  ns := "hmc-system"
  uid := 7
  generation := 2
  labels := []
  spec := ⟨⟨"", "", none⟩, Providers.empty⟩
  status :=
    { chartRef := some ⟨helmChartKind, "aws-standalone", "hmc-system"⟩
      config := none
      description := ""
      providers := Providers.empty
      observedGeneration := 1
      valid := true
      validationError := "" }

/-- The default repository and the template's chart are in place, but the chart has no artifact yet. -/
def pendingArtifactCollaborators : TemplateCollaborators :=
  { failingCollaborators with
    reconcileHelmRepository := fun _ => none
    createOrUpdateHelmChart := fun key => .ok ⟨key.name, key.ns, 1, "", "", "", none, []⟩
    artifactReady := fun _ => (true, some "no artifact yet") }

/-- `unreferencedTemplate` with its chart named. -/
def namedChartTemplate : Template :=
  { unreferencedTemplate with spec := ⟨⟨"aws-standalone", "0.0.1", none⟩, Providers.empty⟩ }

/--
The contract on a pass that writes a failure (the chart's artifact is not
ready yet) and on one that writes nothing (the chart reference is malformed).
-/
theorem reconcileTemplate_status_contract_pending_unreferenced :
    (ReportsNonEmptyErrors pendingArtifactCollaborators ∧
      (reconcileTemplate ⟨"hmc-system"⟩ pendingArtifactCollaborators namedChartTemplate).statusWrite ≠
        none ∧
      ((∀ written,
          (reconcileTemplate ⟨"hmc-system"⟩ pendingArtifactCollaborators namedChartTemplate).statusWrite =
            some written →
          (written.valid = true ∧
              ReachedFinalStep ⟨"hmc-system"⟩ pendingArtifactCollaborators namedChartTemplate written) ∨
            FailureWritten
              (reconcileTemplate ⟨"hmc-system"⟩ pendingArtifactCollaborators namedChartTemplate)
              written) ∧
        (ChartReferenceInvalid namedChartTemplate →
          (reconcileTemplate ⟨"hmc-system"⟩ pendingArtifactCollaborators namedChartTemplate).statusWrite =
              none ∧
            (reconcileTemplate ⟨"hmc-system"⟩ pendingArtifactCollaborators namedChartTemplate).error ≠
              none))) ∧
    (ReportsNonEmptyErrors failingCollaborators ∧
      ((∀ written,
          (reconcileTemplate ⟨"hmc-system"⟩ failingCollaborators unreferencedTemplate).statusWrite =
            some written →
          (written.valid = true ∧
              ReachedFinalStep ⟨"hmc-system"⟩ failingCollaborators unreferencedTemplate written) ∨
            FailureWritten
              (reconcileTemplate ⟨"hmc-system"⟩ failingCollaborators unreferencedTemplate) written) ∧
        (ChartReferenceInvalid unreferencedTemplate →
          (reconcileTemplate ⟨"hmc-system"⟩ failingCollaborators unreferencedTemplate).statusWrite =
              none ∧
            (reconcileTemplate ⟨"hmc-system"⟩ failingCollaborators unreferencedTemplate).error ≠
              none))) :=
  have pending : ReportsNonEmptyErrors pendingArtifactCollaborators :=
    ⟨fun _ _ _ ready => by cases ready; decide, fun _ _ validated => by cases validated; decide⟩
  have failing : ReportsNonEmptyErrors failingCollaborators :=
    ⟨fun _ _ _ ready => by cases ready; decide, fun _ _ validated => by cases validated; decide⟩
  ⟨⟨pending, Option.some_ne_none _, reconcileTemplate_status_contract _ _ _ pending⟩,
    ⟨failing, reconcileTemplate_status_contract _ _ _ failing⟩⟩

/--
A malformed chart reference is not persisted as invalid: the pass writes
nothing, and the template keeps its earlier `valid = true`.
-/
theorem reconcileTemplate_keeps_valid_of_unreferenced :
    ChartReferenceInvalid unreferencedTemplate ∧
      ((reconcileTemplate ⟨"hmc-system"⟩ failingCollaborators unreferencedTemplate).statusAfter
        unreferencedTemplate.status).valid = true :=
  ⟨rfl, rfl⟩

/-! ## The provider lists of a valid status -/

/-- Each provider list comes from the spec, else from the chart's annotation, else stays as it was. -/
theorem parseChartMetadata_providers {template : Template} {status parsed : TemplateStatus}
    {inChart : Chart} (parsedOk : parseChartMetadata template status inChart = .ok parsed) :
    ∃ metadata, inChart.metadata = some metadata ∧
      parsed.providers =
        { infrastructureProviders :=
            parseProviderList template.spec.providers.infrastructureProviders
              ((metadata.annotations.lookup chartAnnotationInfraProviders).getD "")
              status.providers.infrastructureProviders
          bootstrapProviders :=
            parseProviderList template.spec.providers.bootstrapProviders
              ((metadata.annotations.lookup chartAnnotationBootstrapProviders).getD "")
              status.providers.bootstrapProviders
          controlPlaneProviders :=
            parseProviderList template.spec.providers.controlPlaneProviders
              ((metadata.annotations.lookup chartAnnotationControlPlaneProviders).getD "")
              status.providers.controlPlaneProviders } := by
  unfold parseChartMetadata at parsedOk
  split at parsedOk
  · cases parsedOk
  · rename_i metadata present
    cases parsedOk
    exact ⟨metadata, present, rfl⟩

/--
For collaborators that report their failures with a text, a pass that
writes a valid status took each provider list from the spec when it is
non-empty, else from the downloaded chart's annotation when that is
non-empty, and otherwise kept the list of the template's earlier status.
-/
theorem reconcileTemplate_providers_of_valid (r : TemplateReconciler)
    (collaborators : TemplateCollaborators) (template : Template)
    (nonEmpty : ReportsNonEmptyErrors collaborators) {written : TemplateStatus}
    (write : (reconcileTemplate r collaborators template).statusWrite = some written)
    (valid : written.valid = true) :
    ∃ hcChart helmChart metadata, resolveHelmChart r collaborators template = .ok hcChart ∧
      collaborators.downloadHelmChart hcChart.artifact = .ok helmChart ∧
      helmChart.metadata = some metadata ∧
      written.providers =
        { infrastructureProviders :=
            parseProviderList template.spec.providers.infrastructureProviders
              ((metadata.annotations.lookup chartAnnotationInfraProviders).getD "")
              template.status.providers.infrastructureProviders
          bootstrapProviders :=
            parseProviderList template.spec.providers.bootstrapProviders
              ((metadata.annotations.lookup chartAnnotationBootstrapProviders).getD "")
              template.status.providers.bootstrapProviders
          controlPlaneProviders :=
            parseProviderList template.spec.providers.controlPlaneProviders
              ((metadata.annotations.lookup chartAnnotationControlPlaneProviders).getD "")
              template.status.providers.controlPlaneProviders } := by
  unfold reconcileTemplate at write
  cases resolved : resolveHelmChart r collaborators template with
  | error err => simp [resolved] at write
  | ok hcChart =>
      simp only [resolved] at write
      rcases ready : collaborators.artifactReady hcChart with ⟨reportStatus, readyError⟩
      cases readyError with
      | some err =>
          simp only [ready, Option.ite_none_right_eq_some, Option.some.injEq] at write
          obtain ⟨-, rfl⟩ := write
          simp only [updateStatus_valid, decide_eq_true_eq] at valid
          exact absurd valid (nonEmpty.1 _ _ _ ready)
      | none =>
          simp only [ready] at write
          rcases validateChart_written nonEmpty.2 write with
            ⟨-, helmChart, parsed, -, download, parse, -, -, -, -, same⟩ | ⟨invalid, -⟩
          · obtain ⟨metadata, present, providers⟩ := parseChartMetadata_providers parse
            exact ⟨hcChart, helmChart, metadata, rfl, download, present, same.trans providers⟩
          · simp [invalid] at valid

/-- A downloaded chart without provider annotations. -/
def unannotatedChart : Chart := ⟨some ⟨"AWS standalone cluster", []⟩, .object []⟩

/-- Collaborators for which every step of a pass succeeds, downloading `unannotatedChart`. -/
def unannotatedCollaborators : TemplateCollaborators where
  store := failingCollaborators.store
  reconcileHelmRepository := fun _ => none
  createOrUpdateHelmChart := fun key =>
    .ok ⟨key.name, key.ns, 1, "", "", "", some ⟨"aws-standalone-cp-0.0.2.tgz"⟩, []⟩
  artifactReady := fun _ => (false, none)
  downloadHelmChart := fun _ => .ok unannotatedChart
  validate := fun _ => none
  marshal := fun _ => .ok "\x7b\x7d"
  statusUpdate := none

/--
A cluster template moved to a chart version that no longer announces its
providers; its status still lists those of the earlier version.
-/
def upgradedTemplate : Template where
  kind := .clusterTemplate
  name := "aws-standalone-cp"
  ns := "hmc-system"
  uid := 8
  generation := 3
  labels := []
  spec := ⟨⟨"aws-standalone-cp", "0.0.2", none⟩, Providers.empty⟩
  status :=
    { chartRef := some ⟨helmChartKind, "aws-standalone-cp", "hmc-system"⟩
      config := none
      description := ""
      providers := ⟨["aws"], ["k0s"], ["k0s"]⟩
      observedGeneration := 2
      valid := true
      validationError := "" }

/--
A fully successful pass over a template with no provider lists in its spec
and a chart without provider annotations persists `valid = true` with the
provider lists of the earlier status, not with empty lists.  In general, for
collaborators that report their failures with a text, a pass that writes a
valid status takes each list from the spec, else from the downloaded chart's
annotation, else from the earlier status.
-/
theorem reconcileTemplate_keeps_stale_providers :
    upgradedTemplate.spec.providers = Providers.empty ∧
      unannotatedChart.metadata.map (·.annotations) = some [] ∧
      (∃ written,
        (reconcileTemplate ⟨"hmc-system"⟩ unannotatedCollaborators upgradedTemplate).statusWrite =
            some written ∧
          written.valid = true ∧ written.providers = ⟨["aws"], ["k0s"], ["k0s"]⟩) ∧
      ∀ r collaborators template written, ReportsNonEmptyErrors collaborators →
        (reconcileTemplate r collaborators template).statusWrite = some written →
        written.valid = true →
        ∃ hcChart helmChart metadata, resolveHelmChart r collaborators template = .ok hcChart ∧
          collaborators.downloadHelmChart hcChart.artifact = .ok helmChart ∧
          helmChart.metadata = some metadata ∧
          written.providers =
            { infrastructureProviders :=
                parseProviderList template.spec.providers.infrastructureProviders
                  ((metadata.annotations.lookup chartAnnotationInfraProviders).getD "")
                  template.status.providers.infrastructureProviders
              bootstrapProviders :=
                parseProviderList template.spec.providers.bootstrapProviders
                  ((metadata.annotations.lookup chartAnnotationBootstrapProviders).getD "")
                  template.status.providers.bootstrapProviders
              controlPlaneProviders :=
                parseProviderList template.spec.providers.controlPlaneProviders
                  ((metadata.annotations.lookup chartAnnotationControlPlaneProviders).getD "")
                  template.status.providers.controlPlaneProviders } :=
  ⟨rfl, rfl, ⟨_, rfl, rfl, rfl⟩, fun r collaborators template _ nonEmpty write valid =>
    reconcileTemplate_providers_of_valid r collaborators template nonEmpty write valid⟩

/-! ## Passes over their own output -/

/-- Parsing a provider list again gives what parsing it once gave. -/
theorem parseProviderList_idem (specProviders : List String) (annotated : String)
    (current : List String) :
    parseProviderList specProviders annotated (parseProviderList specProviders annotated current) =
      parseProviderList specProviders annotated current := by
  unfold parseProviderList
  split_ifs <;> simp_all

/-- The tail writes a status that keeps the chart reference and that the tail writes again. -/
theorem validateChart_fixpoint {collaborators : TemplateCollaborators} {template : Template}
    {status written : TemplateStatus} {hcChart : HelmChart}
    (write : (validateChart collaborators template status hcChart).statusWrite = some written) :
    written.chartRef = status.chartRef ∧
      (validateChart collaborators template written hcChart).statusWrite = some written := by
  unfold validateChart parseChartMetadata at write ⊢
  cases download : collaborators.downloadHelmChart hcChart.artifact with
  | error err =>
      simp only [download, failWith, Option.some.injEq] at write ⊢
      exact write ▸ ⟨rfl, rfl⟩
  | ok helmChart =>
      cases metadata : helmChart.metadata with
      | none =>
          simp only [download, metadata, failWith, Option.some.injEq] at write ⊢
          exact write ▸ ⟨rfl, rfl⟩
      | some metadata =>
          cases validated : collaborators.validate helmChart <;>
            cases encoded : collaborators.marshal helmChart.values <;>
            simp only [download, metadata, validated, encoded, failWith, Option.some.injEq] at write ⊢ <;>
            subst write <;> simp [updateStatus, parseProviderList_idem]

/-- The chart resolution does not read the template's status. -/
@[simp]
theorem resolveHelmChart_withStatus (r : TemplateReconciler) (collaborators : TemplateCollaborators)
    (template : Template) (status : TemplateStatus) :
    resolveHelmChart r collaborators { template with status := status } =
      resolveHelmChart r collaborators template := rfl

@[simp]
theorem validateChart_withStatus (collaborators : TemplateCollaborators) (template : Template)
    (status start : TemplateStatus) (hcChart : HelmChart) :
    validateChart collaborators { template with status := status } start hcChart =
      validateChart collaborators template start hcChart := rfl

/-- A status a pass writes is written again by a pass that starts from it. -/
theorem reconcileTemplate_fixpoint {r : TemplateReconciler} {collaborators : TemplateCollaborators}
    {template : Template} {written : TemplateStatus}
    (write : (reconcileTemplate r collaborators template).statusWrite = some written) :
    (reconcileTemplate r collaborators { template with status := written }).statusWrite =
      some written := by
  unfold reconcileTemplate at write ⊢
  simp only [resolveHelmChart_withStatus, validateChart_withStatus]
  cases resolved : resolveHelmChart r collaborators template with
  | error => simp [resolved] at write
  | ok hcChart =>
      simp only [resolved] at write ⊢
      rcases ready : collaborators.artifactReady hcChart with ⟨reportStatus, _ | err⟩
      · simp only [ready] at write ⊢
        obtain ⟨sameRef, again⟩ := validateChart_fixpoint write
        rwa [show some (chartRefOf hcChart) = written.chartRef from sameRef.symm]
      · cases reportStatus <;> simp only [ready, if_false, if_true, Option.some.injEq] at write ⊢
        · cases write
        · subst write
          rfl

/-- The template after one pass: its status changes only when the API server accepts the write. -/
def templateAfterPass (r : TemplateReconciler) (collaborators : TemplateCollaborators)
    (template : Template) : Template :=
  match collaborators.statusUpdate with
  | some _ => template
  | none =>
      { template with status := (reconcileTemplate r collaborators template).statusAfter template.status }

/--
`ReconcileTemplate` is idempotent: with the same answers from its
collaborators, a pass over the status the previous pass left changes
nothing.
-/
theorem templateAfterPass_idem (r : TemplateReconciler) (collaborators : TemplateCollaborators)
    (template : Template) :
    templateAfterPass r collaborators (templateAfterPass r collaborators template) =
      templateAfterPass r collaborators template := by
  unfold templateAfterPass TemplatePass.statusAfter
  cases collaborators.statusUpdate with
  | some => rfl
  | none =>
      cases write : (reconcileTemplate r collaborators template).statusWrite with
      | none => simp [write]
      | some written => simp [reconcileTemplate_fixpoint write]

/-- Any number of passes with the same answers leave the template as one pass does. -/
theorem templateAfterPass_iterate (r : TemplateReconciler) (collaborators : TemplateCollaborators)
    (template : Template) (passes : Nat) :
    (templateAfterPass r collaborators)^[passes + 1] template =
      templateAfterPass r collaborators template := by
  induction passes with
  | zero => rfl
  | succ passes ih =>
      rw [Function.iterate_succ_apply', ih, templateAfterPass_idem]

/-- `templateSource`: the repository of the chart named by the template's status. -/
def templateSource (store : SourceStore) (tmpl : Template) : Except String HelmRepository :=
  let ref := NamespacedName.toString ⟨tmpl.ns, tmpl.name⟩
  match tmpl.status.chartRef with
  | none => .error ("status for Template (" ++ ref ++ ") has not been updated yet")
  | some chartRef =>
      match store.getHelmChart ⟨chartRef.ns, chartRef.name⟩ with
      | .error err => .error ("failed to get HelmChart (" ++ ref ++ "): " ++ err.error)
      | .ok hc =>
          match store.getHelmRepository ⟨hc.ns, hc.sourceRefName⟩ with
          | .error err => .error ("failed to get HelmRepository (" ++ ref ++ "): " ++ err.error)
          | .ok repo => .ok repo

end HmcReconcilers.TemplateController
